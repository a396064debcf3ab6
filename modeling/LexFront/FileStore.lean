/-! A store of files in directories, named by relative paths. The store is a value: writing gives
another store. -/
namespace LexFront

/-- The names that lead from the top of the store to a file or directory. -/
abbrev Place := List String

/-- Why an operation on the store fails. -/
inductive FileError where
  /-- There is nothing at the path, or nothing that could hold it. -/
  | missing
  /-- A file is wanted and there is a directory. -/
  | isDirectory
  /-- A directory is wanted and there is a file. -/
  | notDirectory
  /-- The bytes of the file are not UTF-8. -/
  | notText
  deriving DecidableEq, Repr

/-- The error in words. -/
def FileError.message : FileError → String
  | .missing => "no such file or directory"
  | .isDirectory => "is a directory"
  | .notDirectory => "not a directory"
  | .notText => "not valid UTF-8"

/-- Files with their bytes, and the directories below the top. -/
structure FileStore where
  files : List (Place × ByteArray)
  directories : List Place

namespace FileStore

/-- A store with nothing in it. -/
def empty : FileStore := ⟨[], []⟩

/-- Whether there is a directory at a place; the top always is one. -/
def isDirectory (fs : FileStore) (p : Place) : Bool := p.isEmpty || fs.directories.contains p

/-- The bytes of the file at a place. -/
def file? (fs : FileStore) (p : Place) : Option ByteArray := fs.files.lookup p

/-- A text cut at each slash. -/
def splitSlash : List Char → List (List Char)
  | [] => [[]]
  | c :: cs =>
    if c = '/' then [] :: splitSlash cs
    else
      match splitSlash cs with
      | [] => [[c]]
      | part :: parts => (c :: part) :: parts

/-- The parts of a path as it is written. -/
def parts (path : String) : List String := (splitSlash path.toList).map String.ofList

/-- Whether a part stays where it is. -/
def isIdle (part : String) : Bool := part == "" || part == "."

/-- Follows parts from a place. Each part is looked up in a directory. -/
def walk (fs : FileStore) : List String → Place → Except FileError Place
  | [], p => .ok p
  | part :: rest, p =>
    if fs.isDirectory p then
      if isIdle part then fs.walk rest p
      else if part = ".." then fs.walk rest p.dropLast
      else fs.walk rest (p ++ [part])
    else if (fs.file? p).isSome then .error .notDirectory
    else .error .missing

/-- The place that a path leads to, where there may or may not be something. The empty path leads
nowhere. -/
def locate (fs : FileStore) (path : String) : Except FileError Place :=
  if path.isEmpty then .error .missing else fs.walk (parts path) []

/-- Whether there is a file or a directory at a path. -/
def pathExists (fs : FileStore) (path : String) : Bool :=
  match fs.locate path with
  | .ok p => fs.isDirectory p || (fs.file? p).isSome
  | .error _ => false

/-- The bytes of the file at a path. -/
def readBytes (fs : FileStore) (path : String) : Except FileError ByteArray := do
  let p ← fs.locate path
  if fs.isDirectory p then throw .isDirectory
  match fs.file? p with
  | some bytes => return bytes
  | none => throw .missing

/-- The text of the file at a path. -/
def readText (fs : FileStore) (path : String) : Except FileError String := do
  let bytes ← fs.readBytes path
  match String.fromUTF8? bytes with
  | some text => return text
  | none => throw .notText

/-- The store with a file at a path, in place of any file there. -/
def writeBytes (fs : FileStore) (path : String) (bytes : ByteArray) :
    Except FileError FileStore := do
  let p ← fs.locate path
  if fs.isDirectory p then throw .isDirectory
  return { fs with files := (p, bytes) :: fs.files.filter (·.1 != p) }

/-- The store with a text file at a path. -/
def writeText (fs : FileStore) (path text : String) : Except FileError FileStore :=
  fs.writeBytes path text.toUTF8

/-- Makes the directories on the way from a place along some parts, as far as they are missing. -/
def makeAlong (fs : FileStore) : List String → Place → Except FileError FileStore
  | [], _ => .ok fs
  | part :: rest, p =>
    if isIdle part then fs.makeAlong rest p
    else if part = ".." then fs.makeAlong rest p.dropLast
    else if (fs.file? (p ++ [part])).isSome then .error .notDirectory
    else if fs.isDirectory (p ++ [part]) then fs.makeAlong rest (p ++ [part])
    else makeAlong { fs with directories := (p ++ [part]) :: fs.directories } rest (p ++ [part])

/-- The store with a directory at a path and directories on the way. -/
def makeDirectories (fs : FileStore) (path : String) : Except FileError FileStore :=
  fs.makeAlong (parts path) []

/-- The store with the directories on the way to a path. -/
def makeParents (fs : FileStore) (path : String) : Except FileError FileStore :=
  fs.makeAlong ((parts path).filter (!isIdle ·)).dropLast []

end FileStore

end LexFront
