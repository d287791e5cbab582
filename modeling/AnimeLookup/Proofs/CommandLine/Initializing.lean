import AnimeLookup.CommandLine.Execution
import AnimeLookup.Proofs.Config.Saving

/-!
# Saving the configuration that applies

What two files say together is saved in the lower one of the two.  So the next time, the upper one
is put over a file in which its own choices are already, perhaps under changes that were made for
the first time and are made again.  Nothing comes of that (`Choices.above_above_above`), and hence
the command can be repeated: it saves the same choices again, and it does not fail where it has
succeeded (`Initialized.again`, `initialized_repeated`).
-/

set_option autoImplicit false

namespace AnimeLookup

/-! ## Choices over themselves -/

namespace Choices

/-- **Two places over what they have come to** change nothing. -/
theorem above_above_above (a b c : Choices) :
    a.above (b.above (a.above (b.above c))) = a.above (b.above c) := by
  have hor {α : Type} (x y z : Option α) : x.or (y.or (x.or (y.or z))) = x.or (y.or z) := by
    cases x <;> cases y <;> rfl
  simp only [above, hor]

theorem above_above_self (a b : Choices) : a.above (a.above b) = a.above b :=
  above_above_above none a b

end Choices

/-! ## The files without names -/

namespace Files

variable {files after : Files} {d : Directories} {path : Path} {c : Config}

theorem savePlatformConfig_eq_ok_iff : files.savePlatformConfig d c = (.ok path, after) ↔
    d.platformFile = some path ∧ files.saveConfig path c = (.ok (), after) := by
  rw [savePlatformConfig]
  cases d.platformFile with
  | none => exact ⟨nofun, fun h ↦ absurd h.1 nofun⟩
  | some place =>
    rw [Option.some_inj]
    constructor
    · intro h
      rcases hsaved : files.saveConfig place c with ⟨_ | _, made⟩
      · simp only [hsaved] at h
        exact absurd (congrArg Prod.fst h) nofun
      · simp only [hsaved] at h
        cases h
        exact ⟨rfl, hsaved⟩
    · rintro ⟨rfl, hsaved⟩
      simp only [hsaved]
      rfl

/-- What the file in the directory in which the program runs chooses. -/
def localChoices (files : Files) (d : Directories) : Choices :=
  ((files.usableConfig d.localFile).map Config.choices).getD .none

/-- The configuration that applies after one has been saved. -/
theorem choices_load_of_saved (hpath : d.platformFile = some path)
    (hlocal : after.content d.localFile = files.content d.localFile)
    (hread : after.readConfig path = .ok c) :
    (after.load d).choices = (files.localChoices d).above c.choices := by
  have husable : after.usableConfig d.localFile = files.usableConfig d.localFile := by
    rw [usableConfig, usableConfig, readConfig, readConfig, hlocal]
  have hsaved : after.usableConfig path = some c := by
    rw [usableConfig, hread]
    rfl
  rw [choices_load, husable, hpath, Option.bind_some, hsaved]
  rfl

end Files

namespace CommandLine

open Catalog

/-! ## Running the command -/

section

variable {env : Environment} {g : Option DefaultGenre} {m : Option UInt64}
  {files after : Files} {path : Path}

/-- **What a run has done that has succeeded.** -/
structure Initialized (env : Environment) (g : Option DefaultGenre) (m : Option UInt64)
    (files : Files) (path : Path) (after : Files) : Prop where
  /-- The directory in which the program runs was there. -/
  working : (files.walk [] env.directories.working.parts).isSome
  /-- There is a place for the configuration. -/
  platformFile : env.directories.platformFile = some path
  /-- The configuration that applied is there, with the changes. -/
  saved : files.saveConfig path ((files.load env.directories).withGenres g m) = (.ok (), after)

namespace Initialized

theorem readConfig (h : Initialized env g m files path after) :
    after.readConfig path = .ok ((files.load env.directories).withGenres g m) :=
  Files.readConfig_of_saveConfig h.saved

theorem content_localFile (h : Initialized env g m files path after) :
    after.content env.directories.localFile = files.content env.directories.localFile := by
  obtain ⟨l, hwalk⟩ := Option.isSome_iff_exists.1 h.working
  obtain ⟨dir, -, hpath⟩ := Option.map_eq_some_iff.1 h.platformFile
  have hsaved := h.saved
  rw [← hpath] at hsaved
  exact Files.content_child_of_saveConfig hsaved hwalk (by decide)

/-- The configuration that applies afterwards is what has been saved, under the other file. -/
theorem choices_load (h : Initialized env g m files path after) :
    (after.load env.directories).choices = (files.localChoices env.directories).above
      ({ Choices.none with defaultGenre := g, maxGenres := m }.above
        (files.load env.directories).choices) := by
  rw [Files.choices_load_of_saved h.platformFile h.content_localFile h.readConfig,
    Config.choices_withGenres]

/-- **What is saved the next time** makes the same choices. -/
theorem choices_again (h : Initialized env g m files path after) :
    ((after.load env.directories).withGenres g m).choices =
      ((files.load env.directories).withGenres g m).choices := by
  rw [Config.choices_withGenres, Config.choices_withGenres, h.choices_load, Files.choices_load]
  exact Choices.above_above_above _ _ _

/-- **The command can be repeated.** -/
theorem again (h : Initialized env g m files path after) :
    ∃ last, Initialized env g m after path last := by
  obtain ⟨made, bytes, -, hbytes, hwrite⟩ := Files.saveConfig_eq_ok_iff.1 h.saved
  have hwritable : ∃ bytes', ((after.load env.directories).withGenres g m).write = .ok bytes' := by
    rcases ((after.load env.directories).withGenres g m).write_cases with hok | ⟨-, hlarge⟩
    · exact hok.1
    · rw [h.choices_again] at hlarge
      rcases ((files.load env.directories).withGenres g m).write_cases with hok | ⟨herror, -⟩
      · exact absurd hok.2 hlarge
      · exact absurd (hbytes.symm.trans herror) nofun
  obtain ⟨bytes', hbytes'⟩ := hwritable
  obtain ⟨last, hlast⟩ :=
    Files.exists_saveConfig_of_content (Files.content_of_write hwrite) hbytes'
  obtain ⟨l, hwalk⟩ := Option.isSome_iff_exists.1 h.working
  refine ⟨last, ?_, h.platformFile, hlast⟩
  rw [Files.walk_of_saveConfig h.saved hwalk]
  rfl

end Initialized

variable {τ : Type} (tools : Toolkit) (connect : NetworkSettings → AniList.Transport τ)

theorem initConfig_eq_ok_iff (hworking : (files.walk [] env.directories.working.parts).isSome) :
    initConfig env g m files = (.ok path, after) ↔ Initialized env g m files path after :=
  Files.savePlatformConfig_eq_ok_iff.trans ⟨fun h ↦ ⟨hworking, h.1, h.2⟩, fun h ↦ ⟨h.2, h.3⟩⟩

/-- **A run that succeeds has saved the configuration.** -/
theorem exists_initialized (hworking : (files.walk [] env.directories.working.parts).isSome)
    {remote : τ}
    (h : ((Command.initConfig g m).run tools env connect files remote).ending = .success) :
    ∃ path, Initialized env g m files path
      ((Command.initConfig g m).run tools env connect files remote).files := by
  rw [Command.run, runInitConfig] at h ⊢
  rcases hinit : initConfig env g m files with ⟨e | path, after⟩
  · simp only [hinit] at h
    exact absurd h nofun
  · exact ⟨path, (initConfig_eq_ok_iff hworking).1 hinit⟩

theorem run_of_initialized (h : Initialized env g m files path after) (remote : τ) :
    ((Command.initConfig g m).run tools env connect files remote).ending = .success ∧
      ((Command.initConfig g m).run tools env connect files remote).files = after := by
  rw [Command.run, runInitConfig, (initConfig_eq_ok_iff h.working).2 h]
  exact ⟨rfl, rfl⟩

/-! ## Running it again and again -/

/-- What comes of a command in the end that is repeated a number of times after it has been carried
out once. -/
def Command.repeated (env : Environment) (c : Command) (files : Files) (remote : τ) :
    Nat → Outcome τ
  | 0 => c.run tools env connect files remote
  | n + 1 =>
    let before := repeated env c files remote n
    c.run tools env connect before.files before.remote

/-- **Every repetition succeeds and makes the same choices.** -/
theorem initialized_repeated (h : Initialized env g m files path after) (remote : τ) (n : Nat) :
    ∃ before, (before.load env.directories |>.withGenres g m).choices =
        ((files.load env.directories).withGenres g m).choices ∧
      Initialized env g m before path
        ((Command.initConfig g m).repeated tools connect env files remote n).files ∧
      ((Command.initConfig g m).repeated tools connect env files remote n).ending = .success := by
  induction n with
  | zero =>
    obtain ⟨hending, hfiles⟩ := run_of_initialized tools connect h remote
    exact ⟨files, rfl, hfiles ▸ h, hending⟩
  | succ n ih =>
    obtain ⟨before, hchoices, hbefore, -⟩ := ih
    obtain ⟨last, hlast⟩ := hbefore.again
    obtain ⟨hending, hfiles⟩ := run_of_initialized tools connect hlast
      ((Command.initConfig g m).repeated tools connect env files remote n).remote
    exact ⟨_, hbefore.choices_again.trans hchoices, hfiles ▸ hlast, hending⟩

/-- **What saving the configuration comes to**, if it succeeds.  Each field is what is given for it,
or what applied before; the file in the directory in which the program runs is as it was; doing the
same again, however often, leaves every field as it is; and without changes the same settings apply
as before.  The directory in which the program runs is there, as it is for every program that
runs. -/
theorem initConfig_saves_what_applies
    (hworking : (files.walk [] env.directories.working.parts).isSome) (remote : τ)
    (hsuccess : ((Command.initConfig g m).run tools env connect files remote).ending = .success) :
    let d := env.directories
    let first := (Command.initConfig g m).run tools env connect files remote
    let before := (files.load d).choices
    ∃ path c, d.platformFile = some path ∧ first.files.readConfig path = .ok c ∧
      c.choices = { before with
        defaultGenre := g.or before.defaultGenre, maxGenres := m.or before.maxGenres } ∧
      first.files.content d.localFile = files.content d.localFile ∧
      (∀ n, let later := (Command.initConfig g m).repeated tools connect env files remote n
        later.ending = .success ∧
          ∃ c', later.files.readConfig path = .ok c' ∧ c'.choices = c.choices) ∧
      (g = none → m = none →
        (first.files.load d).choices.settings = before.settings ∧
          (first.files.load d).choices.network = before.network) := by
  intro d first before
  obtain ⟨path, h⟩ := exists_initialized tools connect hworking hsuccess
  refine ⟨path, _, h.platformFile, h.readConfig, Config.choices_withGenres g m _,
    h.content_localFile, ?_, ?_⟩
  · intro n later
    obtain ⟨_, hchoices, hlast, hending⟩ := initialized_repeated tools connect h remote n
    exact ⟨hending, _, hlast.readConfig, hchoices⟩
  · rintro rfl rfl
    have hsame : (first.files.load d).choices = before := by
      calc (first.files.load d).choices
        _ = (files.localChoices d).above (files.load d).choices := h.choices_load
        _ = (files.load d).choices := by
          rw [Files.choices_load]
          exact Choices.above_above_self _ _
    exact ⟨congrArg Choices.settings hsame, congrArg Choices.network hsame⟩

/-- The directory for configurations is made, the limit of the file in the working directory is
overridden, and doing so again changes nothing. -/
theorem initConfig_with_limit :
    let env : Environment := ⟨⟨.root, some (Path.root.child "etc")⟩, []⟩
    let files := Files.empty.put [".animatch.toml"]
      (.file (Text.Utf8.encode "[genres]\nmax_genres = 3\n".toList))
    let tools : Toolkit := ⟨fun _ _ assigned ↦ assigned, fun _ ↦ none⟩
    let connect : NetworkSettings → AniList.Transport Unit := fun _ _ _ ↦ (none, ())
    let first := (Command.initConfig none (some 8)).run tools env connect files ()
    (files.walk [] env.directories.working.parts).isSome ∧ first.ending = .success ∧
      ∃ path c, env.directories.platformFile = some path ∧
        first.files.readConfig path = .ok c ∧ c.choices.maxGenres = some 8 := by
  intro env files tools connect first
  have hsuccess : first.ending = .success := by decide +kernel
  obtain ⟨path, c, hpath, hread, hchoices, -⟩ :=
    initConfig_saves_what_applies tools connect rfl () hsuccess
  exact ⟨rfl, hsuccess, path, c, hpath, hread, congrArg Choices.maxGenres hchoices⟩

end

end CommandLine

end AnimeLookup
