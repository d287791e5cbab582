import AnimeLookup.CommandLine.Execution
import AnimeLookup.CommandLine.Variables
import AnimeLookup.Title.Release

/-!
# Running a command

The program has to bring along what others do for `runWords`: a reader of the names of files, and a
loader of variables.  The ones that it uses are gathered here, and `run` is the program with them.
-/

set_option autoImplicit false

namespace AnimeLookup

/-- The tokenizer for the names of releases. -/
def Lookup.filenameTokenizer : Lookup.Tokenizer := Lookup.tokenizerOf Title.releaseTitle

namespace CommandLine

/-- The loader of variables and the reader of names that the program uses. -/
def Toolkit.standard : Toolkit := ⟨Variables.load, Title.releaseTitle⟩

/-- **What comes of the words of a command** in the program. -/
def run {τ : Type} (env : Environment)
    (connect : NetworkSettings → Catalog.AniList.Transport τ) (words : List String) (files : Files)
    (remote : τ) : Outcome τ :=
  runWords .standard env connect words files remote

end CommandLine

end AnimeLookup
