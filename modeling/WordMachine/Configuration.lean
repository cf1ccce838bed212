import WordMachine.Disk
import WordMachine.Settings
import WordMachine.Text.Quoted

/-!
# Configuration files

A configuration file is found on a disk by its path. The paths in it are seen from its
own directory.
-/

namespace WordMachine

/-- Why there is no configuration. -/
inductive ConfigurationError where
  | unreadable (path : String) (error : FileError)
  | rejected (path : String) (fault : Settings.FileFault)
deriving DecidableEq, Repr

def ConfigurationError.message : ConfigurationError → String
  | unreadable path error => "cannot read " ++ path ++ ": " ++ error.message
  | rejected path .malformed => "parse error in " ++ path
  | rejected path (.unknownKey key) => path ++ ": unknown key " ++ Quoted.text (Toml.Key.text key)

/-- The settings of the configuration file at a path. -/
def Disk.configuration (disk : Disk) (path : String) : Except ConfigurationError Settings :=
  match disk.read path with
  | .error error => .error (.unreadable path error)
  | .ok bytes =>
    match Settings.ofBytes (Path.absolute disk.homePath (Path.parent path)) bytes with
    | .error fault => .error (.rejected path fault)
    | .ok settings => .ok settings

end WordMachine
