import LexFront.Config.Document
import LexFront.FileStore
import LexFront.Log

/-! Configurations in files. -/
namespace LexFront.ScanConfig

/-- The options in the file at a path, with the event that tells of loading them. -/
def load (fs : FileStore) (path : String) : Except ConfigError (ScanConfig × Event) := do
  if !fs.pathExists path then throw (.notFound path)
  match fs.readText path with
  | .error e => throw (.io e.message)
  | .ok text =>
    let c ← ofToml text
    return (c, .loadedConfig path c)

/-- Writes the options to a file, and makes the directories on the way to it. Those stay when the
file cannot be written. -/
def save (c : ScanConfig) (fs : FileStore) (path : String) : FileStore × Except ConfigError Unit :=
  match fs.makeParents path with
  | .error e => (fs, .error (.io e.message))
  | .ok fs =>
    match fs.writeText path c.toToml with
    | .error e => (fs, .error (.io e.message))
    | .ok fs => (fs, .ok ())

end LexFront.ScanConfig
