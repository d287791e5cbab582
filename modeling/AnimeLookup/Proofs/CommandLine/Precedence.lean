import AnimeLookup.CommandLine.Run
import AnimeLookup.Proofs.Config.Contents
import Mathlib.Data.List.Forall2
import Mathlib.Tactic.MkIffOfInductiveProp

/-!
# Where the settings come from

A setting can be chosen in several places, which are in an order of precedence: flags on the command
line, for the language a variable, and configuration files.  `Decided` says what comes of that for
one setting, whatever the places say about the others, and `Resolves` says it for each setting of a
lookup and of the connection.  `Uses` adds where the files are, and that one that is named has to be
usable.  What the places say is taken from where it is written: from the flags, from the value of
the variable, and from the contents of the files, as `AnimeLookup.Config.Sets` reads them.

The program does not work setting by setting: it puts one place over another as a whole, and the
defaults under the last.  `runs_use` says that this comes to the same, for every setting, every
state of the files, and both commands that ask the catalog.  It holds with every loader of variables
that searches upward for its file, and `Toolkit.standard_searchesUpward` says that the one that the
program brings along does.
-/

set_option autoImplicit false

namespace AnimeLookup.CommandLine

open Catalog Config

/-! ## One setting -/

/-- **How a setting is decided**, from what each place says.  It is what the first of the places
says that says anything, or else what is usual. -/
inductive Decided {α : Type} (usual : α) : List (α → Prop) → α → Prop
  /-- The places before one that chooses a value say nothing. -/
  | chosen (before : List (α → Prop)) {place : α → Prop} {after : List (α → Prop)} {v : α}
      (hbefore : ∀ p ∈ before, ∀ a, ¬ p a) (h : place v) :
      Decided usual (before ++ place :: after) v
  /-- No place says anything. -/
  | unchosen {places : List (α → Prop)} (h : ∀ p ∈ places, ∀ a, ¬ p a) : Decided usual places usual

/-- What a place says is the value that is given, if one is. -/
def Says {α : Type} (place : α → Prop) (o : Option α) : Prop := ∀ a, place a ↔ o = some a

/-- The first value that is given. -/
def firstGiven {α : Type} (options : List (Option α)) : Option α := options.foldr Option.or none

section Decided

variable {α : Type} {usual v : α} {place : α → Prop} {places : List (α → Prop)} {o : Option α}
  {options : List (Option α)}

theorem Says.silent_iff (h : Says place o) : (∀ a, ¬ place a) ↔ o = none := by
  simp only [h _, ← Option.eq_none_iff_forall_ne_some]

theorem decided_nil_iff : Decided usual [] v ↔ v = usual := by
  constructor
  · intro h
    generalize hplaces : ([] : List (α → Prop)) = places at h
    cases h with
    | chosen => simp at hplaces
    | unchosen => rfl
  · rintro rfl
    exact .unchosen nofun

theorem decided_cons_iff : Decided usual (place :: places) v ↔
    place v ∨ (∀ a, ¬ place a) ∧ Decided usual places v := by
  constructor
  · intro h
    generalize hall : place :: places = all at h
    cases h with
    | chosen before hbefore h =>
      -- The place that chooses is the first one exactly if none stands before it.
      cases before with
      | nil =>
        obtain ⟨rfl, -⟩ := List.cons_eq_cons.mp hall
        exact .inl h
      | cons p rest =>
        obtain ⟨rfl, rfl⟩ := List.cons_eq_cons.mp hall
        obtain ⟨hp, hrest⟩ := List.forall_mem_cons.mp hbefore
        exact .inr ⟨hp, .chosen rest hrest h⟩
    | unchosen h =>
      obtain ⟨hp, hrest⟩ := List.forall_mem_cons.mp (hall ▸ h)
      exact .inr ⟨hp, .unchosen hrest⟩
  · rintro (h | ⟨hp, h⟩)
    · exact .chosen [] nofun h
    · cases h with
      | chosen before hbefore h =>
        exact .chosen (place :: before) (List.forall_mem_cons.mpr ⟨hp, hbefore⟩) h
      | unchosen h => exact .unchosen (List.forall_mem_cons.mpr ⟨hp, h⟩)

/-- **Every setting is decided, and in one way only**, if each place says one thing at most. -/
theorem decided_iff (h : List.Forall₂ Says places options) :
    Decided usual places v ↔ v = (firstGiven options).getD usual := by
  induction h with
  | nil => exact decided_nil_iff
  | @cons place o places options hplace _ ih =>
    rw [decided_cons_iff, hplace v, hplace.silent_iff, ih]
    show _ ↔ v = (o.or (firstGiven options)).getD usual
    cases o with
    | none => simp
    | some a => simp [eq_comm]

end Decided

/-! ## All settings -/

/-- **The settings that the places come to**: the options of a command, what the environment says
about the language, and configuration files with some contents, the first of which comes first.
Each setting is decided for itself. -/
@[mk_iff]
structure Resolves (o : LookupOptions) (language : String → Prop)
    (contents : List (Option (List UInt8))) (s : Settings) (n : NetworkSettings) : Prop where
  /-- Which title is shown: in options and files. -/
  titlePreference : Decided .localized
    ((o.titlePreference = some ·) :: contents.map (Sets .titlePreference)) s.titlePreference
  /-- Which title is shown beside it: in files. -/
  secondTitlePreference : Decided .primaryScriptRomanized
    (contents.map (Sets .secondTitlePreference)) s.secondTitlePreference
  /-- How many genres are listed: in files. -/
  maxGenres : Decided 5 (contents.map (Sets .maxGenres)) s.maxGenres
  /-- The genre that stands in for the generic ones: in files. -/
  defaultGenre : Decided .anime (contents.map (Sets .defaultGenre)) s.defaultGenre
  /-- Whether tags that give the plot away are listed: in files. -/
  showSpoilerTags : Decided true (contents.map (Sets .showSpoilerTags)) s.showSpoilerTags
  /-- Whether the cast is limited: in files. -/
  filterPeopleByTitlePreference : Decided false
    (contents.map (Sets .filterPeopleByTitlePreference)) s.filterPeopleByTitlePreference
  /-- The tokenizer: in options, which can only switch it on, and in files. -/
  useTitleTokenizer : Decided false
    ((fun v ↦ v = true ∧ o.tokenizer = true) :: contents.map (Sets .useTitleTokenizer))
    s.useTitleTokenizer
  /-- The language: in options, in the environment, and in files. -/
  locale : Decided "en" ((o.locale = some ·) :: language :: contents.map (Sets .locale)) s.locale
  /-- The address that requests go to: in files. -/
  endpoint : Decided "https://graphql.anilist.co" (contents.map (Sets .endpoint)) n.endpoint
  /-- The least time between two requests: in files. -/
  requestIntervalMs : Decided 700 (contents.map (Sets .requestIntervalMs)) n.requestIntervalMs
  /-- How long an answer is waited for: in files. -/
  timeoutSecs : Decided 10 (contents.map (Sets .timeoutSecs)) n.timeoutSecs

/-- What a file with some content chooses. -/
def choicesIn (content : Option (List UInt8)) : Choices :=
  ((Config.read content).toOption.map Config.choices).getD .none

/-- What files choose together. -/
def choicesOf (contents : List (Option (List UInt8))) : Choices :=
  contents.foldr (fun content lower ↦ (choicesIn content).above lower) .none

/-- A part of choices that is put together as choices are, and that files set as they set a
setting. -/
structure IsChoiceOf {α : Type} (s : Setting α) (choice : Choices → Option α) : Prop where
  /-- If nothing is chosen, it is missing. -/
  choice_none : choice .none = none
  /-- It is taken from the upper place that has it. -/
  choice_above : ∀ upper lower : Choices,
    choice (upper.above lower) = (choice upper).or (choice lower)
  /-- A file that is read has it if it sets the setting. -/
  readAs : ReadAs s fun c ↦ choice c.choices

section Resolves

variable {α : Type} {usual v : α} {s : Setting α} {choice : Choices → Option α}
  {contents : List (Option (List UInt8))}

/-- What a file says about a setting is what it chooses for it. -/
theorem IsChoiceOf.says (h : IsChoiceOf s choice) (content : Option (List UInt8)) :
    Says (Sets s content) (choice (choicesIn content)) := by
  intro a
  rw [h.readAs content a, choicesIn]
  cases Config.read content with
  | ok c => simp [Except.toOption]
  | error e => simp [Except.toOption, h.choice_none]

/-- The first file that says anything about a setting is the one that its choice is from. -/
theorem IsChoiceOf.firstGiven_eq (h : IsChoiceOf s choice)
    (contents : List (Option (List UInt8))) :
    firstGiven (contents.map fun content ↦ choice (choicesIn content)) =
      choice (choicesOf contents) := by
  induction contents with
  | nil => exact h.choice_none.symm
  | cons content rest ih =>
    calc firstGiven ((content :: rest).map fun content ↦ choice (choicesIn content))
      _ = (choice (choicesIn content)).or (choice (choicesOf rest)) := by rw [← ih]; rfl
      _ = choice (choicesOf (content :: rest)) := (h.choice_above _ _).symm

/-- A setting is decided file by file, below what is in front of the files. -/
theorem IsChoiceOf.decided_iff (h : IsChoiceOf s choice) {front : List (α → Prop)}
    {given : List (Option α)} (hfront : List.Forall₂ Says front given) :
    Decided usual (front ++ contents.map (Sets s)) v ↔
      v = (given.foldr Option.or (choice (choicesOf contents))).getD usual := by
  have hcontents : List.Forall₂ Says (contents.map (Sets s))
      (contents.map fun content ↦ choice (choicesIn content)) := by
    rw [List.forall₂_map_left_iff, List.forall₂_map_right_iff, List.forall₂_same]
    exact fun content _ ↦ h.says content
  rw [CommandLine.decided_iff (List.rel_append hfront hcontents), firstGiven, List.foldr_append,
    ← firstGiven, h.firstGiven_eq]

section

variable {o : LookupOptions} {language : String → Prop} {chosen : Option String}
  {used : Settings} {connection : NetworkSettings}

theorem says_some (o : Option α) : Says (o = some ·) o := fun _ ↦ Iff.rfl

theorem says_tokenizer (o : LookupOptions) :
    Says (fun v ↦ v = true ∧ o.tokenizer = true) o.choices.useTitleTokenizer := by
  intro v
  rw [LookupOptions.choices]
  cases o.tokenizer <;> simp [eq_comm]

/-- **Deciding setting by setting is the same as putting one place over another** and filling in the
defaults at the end. -/
theorem resolves_iff_eq (hlanguage : Says language chosen) :
    Resolves o language contents used connection ↔
      used = (o.choices.above ({ Choices.none with locale := chosen }.above
        (choicesOf contents))).settings ∧
      connection = (o.choices.above ({ Choices.none with locale := chosen }.above
        (choicesOf contents))).network := by
  obtain ⟨_, _, _, _, _, _, _, _⟩ := used
  obtain ⟨_, _, _⟩ := connection
  rw [resolves_iff, Choices.settings, Choices.network, Settings.mk.injEq,
    NetworkSettings.mk.injEq]
  simp only [and_assoc]
  exact and_congr (IsChoiceOf.decided_iff ⟨rfl, fun _ _ ↦ rfl, readAs_titles.1⟩
      (.cons (says_some o.titlePreference) .nil)) <|
    and_congr (IsChoiceOf.decided_iff ⟨rfl, fun _ _ ↦ rfl, readAs_titles.2.1⟩ .nil) <|
    and_congr (IsChoiceOf.decided_iff ⟨rfl, fun _ _ ↦ rfl, readAs_genres.1⟩ .nil) <|
    and_congr (IsChoiceOf.decided_iff ⟨rfl, fun _ _ ↦ rfl, readAs_genres.2.1⟩ .nil) <|
    and_congr (IsChoiceOf.decided_iff ⟨rfl, fun _ _ ↦ rfl, readAs_genres.2.2⟩ .nil) <|
    and_congr (IsChoiceOf.decided_iff
      ⟨rfl, fun _ _ ↦ rfl, readAs_people⟩ .nil) <|
    and_congr (IsChoiceOf.decided_iff ⟨rfl, fun _ _ ↦ rfl, readAs_search⟩
      (.cons (says_tokenizer o) .nil)) <|
    and_congr (IsChoiceOf.decided_iff ⟨rfl, fun _ _ ↦ rfl, readAs_titles.2.2⟩
      (.cons (says_some o.locale) (.cons hlanguage .nil))) <|
    and_congr (IsChoiceOf.decided_iff ⟨rfl, fun _ _ ↦ rfl, readAs_network.1⟩ .nil) <|
    and_congr (IsChoiceOf.decided_iff ⟨rfl, fun _ _ ↦ rfl, readAs_network.2.1⟩ .nil)
      (IsChoiceOf.decided_iff ⟨rfl, fun _ _ ↦ rfl, readAs_network.2.2⟩ .nil)

end

end Resolves

/-! ## What is consulted -/

section Uses

variable (tools : Toolkit) (env : Environment) (files : Files)

/-- **What the environment says about the language**: the value of `ANIMATCH_LOCALE`. -/
inductive HasLanguage (language : String) : Prop
  /-- The variable is set when the program is started. -/
  | set (h : env.assigned.lookup "ANIMATCH_LOCALE" = some language)
  /-- The variable is not set then, but once variables have been loaded.  There is a file called
  `.env` to load them from, in the directory in which the program runs or in one above it. -/
  | loaded (h : env.assigned.lookup "ANIMATCH_LOCALE" = none) (n : Nat) {bytes : List UInt8}
      (hfile : files.content (Path.child ⟨env.directories.working.parts.take n, true⟩ ".env") =
        some bytes)
      (hloaded : (tools.loadVariables env.directories.working files env.assigned).lookup
        "ANIMATCH_LOCALE" = some language)

/-- **What a command that asks the catalog uses**: settings, or an error about a file. -/
inductive Uses (o : LookupOptions) : Except ConfigError (Settings × NetworkSettings) → Prop
  /-- If no file is named, `.animatch.toml` in the directory in which the program runs precedes
  `animatch/config.toml` in the directory for configurations. -/
  | unnamed {s : Settings} {n : NetworkSettings} (hname : o.config = none)
      (h : Resolves o (HasLanguage tools env files)
        [files.content (env.directories.working.child ".animatch.toml"),
          env.directories.config.bind fun directory ↦
            files.content ((directory.child "animatch").child "config.toml")] s n) :
      Uses o (.ok (s, n))
  /-- A file that is named is the only one that is consulted. -/
  | named {name : String} {s : Settings} {n : NetworkSettings} (hname : o.config = some name)
      (husable : IsUsable (files.content (Path.ofText env.directories.working name)))
      (h : Resolves o (HasLanguage tools env files)
        [files.content (Path.ofText env.directories.working name)] s n) : Uses o (.ok (s, n))
  /-- A file that is named has to be there, as a text. -/
  | inaccessible {name : String} (hname : o.config = some name)
      (h : ¬ IsReadable (files.content (Path.ofText env.directories.working name))) :
      Uses o (.error .inaccessible)
  /-- It has to be a configuration, too. -/
  | malformed {name : String} (hname : o.config = some name)
      (hreadable : IsReadable (files.content (Path.ofText env.directories.working name)))
      (h : ¬ IsUsable (files.content (Path.ofText env.directories.working name))) :
      Uses o (.error .malformed)

variable {tools env files}

/-- **The variable for the language is found** where it is set. -/
theorem says_hasLanguage (hload : tools.SearchesUpward) :
    Says (HasLanguage tools env files) (env.chosenLocale tools files) := by
  intro language
  show _ ↔ (tools.loadVariables env.directories.working files env.assigned).lookup
    "ANIMATCH_LOCALE" = some language
  constructor
  · intro h
    cases h with
    | set h => exact hload.keeps _ _ _ _ _ h
    | loaded _ _ _ h => exact h
  · intro hloaded
    cases hset : env.assigned.lookup "ANIMATCH_LOCALE" with
    | some other =>
      obtain rfl := Option.some.inj ((hload.keeps _ files _ _ _ hset).symm.trans hloaded)
      exact .set hset
    | none =>
      -- Without a file nothing would have been loaded.
      by_cases hfile : ∀ n, files.content
          (Path.child ⟨env.directories.working.parts.take n, true⟩ ".env") = none
      · rw [hload.absent _ _ _ hfile, hset] at hloaded
        cases hloaded
      · obtain ⟨n, hn⟩ := not_forall.mp hfile
        obtain ⟨bytes, hbytes⟩ := Option.ne_none_iff_exists'.mp hn
        exact .loaded hset n hbytes hloaded

theorem choicesOf_unnamed (files : Files) (d : Directories) :
    choicesOf [files.content (d.working.child ".animatch.toml"),
      d.config.bind fun directory ↦
        files.content ((directory.child "animatch").child "config.toml")] =
      (files.load d).choices := by
  rw [Files.choices_load, Directories.platformFile]
  show (choicesIn _).above ((choicesIn _).above .none) = _
  rw [Choices.above_none]
  cases d.config <;> rfl

/-- What a file with some content chooses is what the configuration in it chooses. -/
theorem choicesOf_named {content : Option (List UInt8)} {c : Config}
    (h : Config.read content = .ok c) : choicesOf [content] = c.choices := by
  show (choicesIn content).above .none = _
  rw [Choices.above_none, choicesIn, h]
  rfl

/-- What is used of the choices that all places come to. -/
def settingsOf (c : Choices) : Settings × NetworkSettings := (c.settings, c.network)

variable {o : LookupOptions} {used : Except ConfigError (Settings × NetworkSettings)}

theorem Uses.eq_allChoices (hload : tools.SearchesUpward) (h : Uses tools env files o used) :
    used = (o.allChoices tools env files).map settingsOf := by
  rw [LookupOptions.allChoices, LookupOptions.configuration]
  cases h with
  | unnamed hname h =>
    obtain ⟨rfl, rfl⟩ := (resolves_iff_eq (says_hasLanguage hload)).mp h
    rw [choicesOf_unnamed, hname]
    rfl
  | named hname husable h =>
    obtain ⟨c, hread⟩ := exists_read_iff.mpr husable
    obtain ⟨rfl, rfl⟩ := (resolves_iff_eq (says_hasLanguage hload)).mp h
    rw [choicesOf_named hread, hname]
    simp only [Files.readConfig, hread]
    rfl
  | inaccessible hname h =>
    rw [hname]
    simp only [Files.readConfig, read_eq_error_iff.mpr (.inl ⟨rfl, h⟩)]
    rfl
  | malformed hname hreadable h =>
    rw [hname]
    simp only [Files.readConfig, read_eq_error_iff.mpr (.inr ⟨rfl, hreadable, h⟩)]
    rfl

theorem uses_allChoices (hload : tools.SearchesUpward) (o : LookupOptions) :
    Uses tools env files o ((o.allChoices tools env files).map settingsOf) := by
  rw [LookupOptions.allChoices, LookupOptions.configuration]
  cases hname : o.config with
  | none =>
    refine .unnamed hname ((resolves_iff_eq (says_hasLanguage hload)).mpr ?_)
    rw [choicesOf_unnamed]
    exact ⟨rfl, rfl⟩
  | some name =>
    simp only [Files.readConfig]
    cases hread : Config.read (files.content (Path.ofText env.directories.working name)) with
    | ok c =>
      refine .named hname (exists_read_iff.mp ⟨c, hread⟩)
        ((resolves_iff_eq (says_hasLanguage hload)).mpr ?_)
      rw [choicesOf_named hread]
      exact ⟨rfl, rfl⟩
    | error e =>
      obtain ⟨rfl, h⟩ | ⟨rfl, hreadable, h⟩ := read_eq_error_iff.mp hread
      · exact .inaccessible hname h
      · exact .malformed hname hreadable h

/-- **Exactly what all places together choose is used.** -/
theorem uses_iff (hload : tools.SearchesUpward) : Uses tools env files o used ↔
    used = (o.allChoices tools env files).map settingsOf := by
  constructor
  · exact Uses.eq_allChoices hload
  · rintro rfl
    exact uses_allChoices hload o

end Uses

/-! ## Runs -/

/-- **What comes of asking the catalog as planned**, with the settings that are used or with an
error about a file. -/
inductive Asked {τ α : Type} (connect : NetworkSettings → AniList.Transport τ)
    (plan : Settings → Lookup.Plan α)
    (present : Settings → Except Lookup.LookupError α → List Char) (title : String) (files : Files)
    (remote : τ) : Except ConfigError (Settings × NetworkSettings) → Outcome τ → Prop
  /-- The plan for the settings is carried out over the connection, and its result is shown. -/
  | answered {s : Settings} {n : NetworkSettings} {run : Lookup.Run α τ}
      (hrun : (plan s).run (.of (AniList.backend (connect n))) title remote = run) :
      Asked connect plan present title files remote (.ok (s, n))
        ⟨.success, present s run.result, files, run.state⟩
  /-- Nothing is asked, and the command fails. -/
  | aborted {e : ConfigError} :
      Asked connect plan present title files remote (.error e) ⟨.failure e, [], files, remote⟩

section Runs

variable {τ : Type} {tools : Toolkit} {env : Environment}
  (connect : NetworkSettings → AniList.Transport τ)

/-- A command asks with what all places together choose. -/
theorem asked_ask {α : Type} (plan : Settings → Lookup.Plan α)
    (present : Settings → Except Lookup.LookupError α → List Char) (title : String)
    (o : LookupOptions) (files : Files) (remote : τ) :
    Asked connect plan present title files remote ((o.allChoices tools env files).map settingsOf)
      (ask tools env connect plan present title o files remote) := by
  rw [ask]
  cases o.allChoices tools env files with
  | ok choices => exact .answered rfl
  | error e => exact .aborted

/-- **The two commands that ask the catalog use what the places come to.**  There is exactly one
thing that they can use, and it is the same for both. -/
theorem runs_use (hload : tools.SearchesUpward) (o : LookupOptions) (files : Files) :
    ∃ used, (∀ other, Uses tools env files o other ↔ other = used) ∧
      (∀ title id json remote, Asked connect
        (fun s ↦ Lookup.lookup s (Lookup.tokenizerOf tools.nameReader) title id)
        (showLookup title json !o.noColour) title files remote used
        ((Command.lookup title id json o).run tools env connect files remote)) ∧
      ∀ title id remote, Asked connect (fun s ↦ Lookup.searchResults s title id)
        (fun _ ↦ showSearch title !o.noColour) title files remote used
        ((Command.search title id o).run tools env connect files remote) :=
  ⟨_, fun _ ↦ uses_iff hload, fun _ _ _ _ ↦ asked_ask _ _ _ _ _ _ _,
    fun _ _ _ ↦ asked_ask _ _ _ _ _ _ _⟩

end Runs

/-! ## The loader of the program -/

/-- Looking upward from a directory goes through the beginnings of its path. -/
theorem mem_beginnings_iff {parts beginning : List Path.Part} :
    beginning ∈ Path.beginnings parts ↔ ∃ n, parts.take n = beginning := by
  induction parts generalizing beginning with
  | nil => simp [Path.beginnings, eq_comm]
  | cons part rest ih =>
    rw [Path.beginnings, List.mem_append, List.mem_map, List.mem_singleton]
    constructor
    · rintro (⟨shorter, h, rfl⟩ | rfl)
      · obtain ⟨n, rfl⟩ := ih.mp h
        exact ⟨n + 1, rfl⟩
      · exact ⟨0, rfl⟩
    · rintro ⟨n, rfl⟩
      cases n with
      | zero => exact .inr rfl
      | succ n => exact .inl ⟨_, ih.mpr ⟨n, rfl⟩, rfl⟩

/-- **The loader of the program searches upward.** -/
theorem Toolkit.standard_searchesUpward : Toolkit.standard.SearchesUpward where
  keeps directory files assigned name value h := by
    show (assigned ++ _).lookup name = _
    rw [List.lookup_append, h]
    rfl
  absent directory files assigned h name := by
    have hnone : Variables.nearest directory files = none := by
      rw [Variables.nearest, List.findSome?_eq_none_iff]
      intro path hpath
      obtain ⟨above, habove, rfl⟩ := List.mem_map.mp hpath
      obtain ⟨beginning, hbeginning, rfl⟩ := List.mem_map.mp habove
      obtain ⟨n, rfl⟩ := mem_beginnings_iff.mp hbeginning
      exact h n
    show (assigned ++ (Variables.nearest directory files).elim [] _).lookup name = _
    rw [hnone, Option.elim_none, List.append_nil]

/-- Both files choose a language and one thing more.  The language is that of the variable, which
is loaded from the directory above, and the search goes to the address in one file, with the
patience of the other. -/
theorem search_with_two_files :
    let env : Environment := ⟨⟨Path.root.child "home", some (Path.root.child "etc")⟩, []⟩
    let text (s : String) := Entry.file (Text.Utf8.encode s.toList)
    let files := Files.empty |>.put ["home"] .directory |>.put ["etc"] .directory
      |>.put ["etc", "animatch"] .directory |>.put [".env"] (text "ANIMATCH_LOCALE=ja\n")
      |>.put ["home", ".animatch.toml"]
        (text "[titles]\nlocale = 'fr'\n[network]\ntimeout_secs = 30\n")
      |>.put ["etc", "animatch", "config.toml"]
        (text "[titles]\nlocale = 'de'\n[network]\nendpoint = 'http://localhost'\n")
    let o : LookupOptions := ⟨none, none, none, true, true⟩
    let s := { Settings.default with locale := "ja", useTitleTokenizer := true }
    let n := { NetworkSettings.default with endpoint := "http://localhost", timeoutSecs := 30 }
    let connect : NetworkSettings → AniList.Transport (List NetworkSettings) :=
      fun n _ connections ↦ (none, connections ++ [n])
    Toolkit.standard.SearchesUpward ∧ Uses .standard env files o (.ok (s, n)) ∧
      ((Command.search "Show" none o).run .standard env connect files []).remote = [n] := by
  intro env text files o s n connect
  obtain ⟨used, hused, -, hsearch⟩ := runs_use connect Toolkit.standard_searchesUpward o files
  have huses : Uses .standard env files o (.ok (s, n)) :=
    (uses_iff Toolkit.standard_searchesUpward).mpr (by decide +kernel)
  obtain rfl := (hused _).mp huses
  refine ⟨Toolkit.standard_searchesUpward, huses, ?_⟩
  have hasked := hsearch "Show" none []
  generalize (Command.search "Show" none o).run .standard env connect files [] = outcome at hasked ⊢
  cases hasked with
  | answered hrun =>
    rw [← hrun]
    decide +kernel

end AnimeLookup.CommandLine
