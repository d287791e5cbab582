import AnimeLookup.Config.Format
import AnimeLookup.Files.Store

/-!
# Where configurations are kept

There are two configuration files that nobody has to name: one in the directory that the platform
keeps for configurations, and one in the directory in which the program runs, which takes
precedence.  `Files.load` reads both.  A file that is missing, or cannot be used, counts as one
that chooses nothing, since nobody asked for it.

`Files.saveConfig` first makes the directories that are missing, and then makes the whole content
before anything is written.  So a configuration that cannot be written may leave a new directory
behind, but every file is as it was.
-/

set_option autoImplicit false

namespace AnimeLookup

/-- The directories in which the files without names are. -/
structure Directories where
  /-- The directory in which the program runs. -/
  working : Path
  /-- The directory that the platform keeps for configurations, if it has one. -/
  config : Option Path

namespace Directories

/-- The configuration file in the directory in which the program runs. -/
def localFile (d : Directories) : Path := d.working.child ".animatch.toml"

/-- The configuration file in the directory for configurations. -/
def platformFile (d : Directories) : Option Path :=
  d.config.map fun path ↦ (path.child "animatch").child "config.toml"

end Directories

namespace Files

/-- **The configuration in the file at a path.** -/
def readConfig (files : Files) (path : Path) : Except ConfigError Config :=
  Config.read (files.content path)

/-- The configuration in the file at a path, if it can be used. -/
def usableConfig (files : Files) (path : Path) : Option Config := (files.readConfig path).toOption

/-- **The configuration in the files without names.** -/
def load (files : Files) (d : Directories) : Config :=
  Config.optionalAbove (files.usableConfig d.localFile) (d.platformFile.bind files.usableConfig)

/-- **Saving a configuration at a path.**  Tells whether it is saved, or why it is not, and gives
the store after it. -/
def saveConfig (files : Files) (path : Path) (c : Config) : Except ConfigError Unit × Files :=
  match files.makeDirectories path.parent with
  | (false, made) => (.error .inaccessible, made)
  | (true, made) =>
    match c.write with
    | .error e => (.error e, made)
    | .ok bytes =>
      match made.write path bytes with
      | some after => (.ok (), after)
      | none => (.error .inaccessible, made)

/-- Saving a configuration in the directory for configurations.  Tells where it is saved, or why
it is not, and gives the store after it. -/
def savePlatformConfig (files : Files) (d : Directories) (c : Config) :
    Except ConfigError Path × Files :=
  match d.platformFile with
  | some path =>
    let (result, after) := files.saveConfig path c
    (result.map fun () ↦ path, after)
  | none => (.error .noDirectory, files)

/-- The choices of the files without names are those of the one in the directory in which the
program runs over those of the other. -/
theorem choices_load (files : Files) (d : Directories) :
    (files.load d).choices =
      (((files.usableConfig d.localFile).map Config.choices).getD .none).above
        (((d.platformFile.bind files.usableConfig).map Config.choices).getD .none) :=
  Config.choices_optionalAbove _ _

end Files

end AnimeLookup
