import DriverExtension.Storage.Path
import DriverExtension.Text.Utf8

namespace DriverExtension.Storage

open Text

/-!
# Files

A `FileTree` holds the files that a program can see and the place it works in, where relative paths
start.  The operations fail as the calls of the operating system do, with the same texts.
-/

/-- Why an operation on files fails. -/
inductive FileError where
  | notFound
  | alreadyExists
  | notDirectory
  | isDirectory
  | nameTooLong
  | noSpace
  | invalidText
  | zeroByte
deriving DecidableEq, Repr

/-- The wording of a file error. -/
def FileError.message : FileError → String
  | .notFound => "No such file or directory (os error 2)"
  | .alreadyExists => "File exists (os error 17)"
  | .notDirectory => "Not a directory (os error 20)"
  | .isDirectory => "Is a directory (os error 21)"
  | .nameTooLong => "File name too long (os error 36)"
  | .noSpace => "No space left on device (os error 28)"
  | .invalidText => "stream did not contain valid UTF-8"
  | .zeroByte => "file name contained an unexpected NUL byte"

/-- What can have a name. -/
inductive FileNode where
  /-- A file with its bytes. -/
  | file (bytes : List UInt8)
  /-- A directory with its entries. -/
  | directory (entries : List (String × FileNode))
  /-- A device that reads as empty.  It swallows what is written, or has no room for it. -/
  | device (hasRoom : Bool)

namespace FileNode

/-- An empty directory. -/
def empty : FileNode := .directory []

/-- What lies at a place. -/
def get? : List String → FileNode → Option FileNode
  | [], x => some x
  | _ :: _, .file _ | _ :: _, .device _ => none
  | name :: rest, .directory entries =>
    match entries.lookup name with
    | some x => x.get? rest
    | none => none

/-- Entries with the one of a name replaced or added. -/
def putEntry (name : String) (x : FileNode) : List (String × FileNode) → List (String × FileNode)
  | [] => [(name, x)]
  | (n, y) :: rest => if n = name then (n, x) :: rest else (n, y) :: putEntry name x rest

/-- Puts something at a place; the directories on the way must be there. -/
def put (here : FileNode) (place : List String) (x : FileNode) : FileNode :=
  match place, here with
  | [], _ => x
  | _ :: _, .file bytes => .file bytes
  | _ :: _, .device hasRoom => .device hasRoom
  | [name], .directory entries => .directory (putEntry name x entries)
  | name :: rest, .directory entries =>
    match entries.lookup name with
    | some inner => .directory (putEntry name (inner.put rest x) entries)
    | none => .directory entries

mutual

/-- The files under a place, each with its path. -/
def listing (path : String) : FileNode → List (String × List UInt8)
  | .file bytes => [(path, bytes)]
  | .device _ => []
  | .directory entries => entryListing path entries

/-- The files under entries. -/
def entryListing (path : String) : List (String × FileNode) → List (String × List UInt8)
  | [] => []
  | (name, x) :: rest => listing (join path name) x ++ entryListing path rest

end

end FileNode

/-- The names that lead from the root to something. -/
abbrev Place := List String

/-- The files that a program can see. -/
structure FileTree where
  root : FileNode
  /-- Where relative paths start. -/
  working : Place

namespace FileTree

/-- The directories that every system has. -/
def systemDirectories : List String :=
  ["bin", "boot", "etc", "home", "lib", "media", "mnt", "opt", "proc", "root", "run", "sbin", "srv",
   "sys", "usr", "var"]

/-- The devices of every system that can be used like files. -/
def devices : FileNode :=
  .directory [("full", .device false), ("null", .device true), ("stdin", .device true)]

/-- A system with an empty working directory. -/
def empty : FileTree where
  root := .directory (("dev", devices) :: ("tmp", .directory [("work", .empty)]) ::
    systemDirectories.map fun name => (name, .empty))
  working := ["tmp", "work"]

/-- What lies at a place. -/
def get? (t : FileTree) (p : Place) : Option FileNode := t.root.get? p

/-- Puts something at a place. -/
def put (t : FileTree) (p : Place) (x : FileNode) : FileTree := { t with root := t.root.put p x }

/-- What lies in the working directory. -/
def here (t : FileTree) : FileNode := (t.get? t.working).getD .empty

/-- Follows names from a place; whatever has a name after it must be a directory. -/
def follow (t : FileTree) (p : Place) : List String → Except FileError Place
  | [] => .ok p
  | name :: rest =>
    match t.get? p with
    | none => .error .notFound
    | some (.file _) | some (.device _) => .error .notDirectory
    | some (.directory _) =>
      if 255 < name.utf8ByteSize then .error .nameTooLong
      else if name = ".." then follow t p.dropLast rest
      else follow t (p ++ [name]) rest

/-- The place that a path leads to; nothing need lie there. -/
def locate (t : FileTree) (path : String) : Except FileError Place :=
  if path.toList.contains '\x00' then .error .zeroByte
  else if path.isEmpty then .error .notFound
  else if 4096 ≤ path.utf8ByteSize then .error .nameTooLong
  else t.follow (if isAbsolute path then [] else t.working) (names path)

/-- What a path leads to. -/
def find (t : FileTree) (path : String) : Except FileError FileNode := do
  match t.get? (← t.locate path) with
  | none => throw .notFound
  | some (.directory entries) => return .directory entries
  | some x => if isDirectoryLike path then throw .notDirectory else return x

/-- Whether a path leads to something. -/
def contains (t : FileTree) (path : String) : Bool := (t.find path).isOk

/-- Whether a path leads to a directory. -/
def isDirectory (t : FileTree) (path : String) : Bool :=
  match t.find path with
  | .ok (.directory _) => true
  | _ => false

/-- The bytes of a file. -/
def readBytes (t : FileTree) (path : String) : Except FileError (List UInt8) := do
  match ← t.find path with
  | .file bytes => return bytes
  | .device _ => return []
  | .directory _ => throw .isDirectory

/-- The text of a file. -/
def readText (t : FileTree) (path : String) : Except FileError String := do
  match decodeUtf8? (← t.readBytes path) with
  | some text => return text
  | none => throw .invalidText

/-- Writes a file whose new content depends on the old one, which is empty if there was none.  A path
that ends in dots must lead to something before it turns out to be no file; a slash at the end is
enough to tell. -/
def alter (t : FileTree) (path : String) (f : List UInt8 → List UInt8) :
    Except FileError FileTree := do
  let p ← t.locate path
  if endsInDots path then discard (t.find path)
  if isDirectoryLike path then throw .isDirectory
  match t.get? p with
  | some (.directory _) => throw .isDirectory
  | some (.file bytes) => return t.put p (.file (f bytes))
  | some (.device hasRoom) => if hasRoom || (f []).isEmpty then return t else throw .noSpace
  | none => return t.put p (.file (f []))

/-- Writes a text as the whole content of a file. -/
def writeText (t : FileTree) (path text : String) : Except FileError FileTree :=
  t.alter path fun _ => encodeUtf8 text

/-- Appends a text to a file. -/
def appendText (t : FileTree) (path text : String) : Except FileError FileTree :=
  t.alter path fun bytes => bytes ++ encodeUtf8 text

/-- Makes a directory. -/
def makeDirectory (t : FileTree) (path : String) : Except FileError FileTree := do
  let p ← t.locate path
  match t.get? p with
  | some _ => throw .alreadyExists
  | none => return t.put p .empty

/-- Makes a directory, for which those above it may have to be made first; one that is there already
is enough.  `fuel` bounds the way up. -/
def makeDirectoriesFrom (fuel : Nat) (t : FileTree) (path : String) : Except FileError FileTree :=
  if path.isEmpty || (parent path).isNone then .ok t
  else
    match fuel, t.makeDirectory path with
    | _, .ok t => .ok t
    | fuel + 1, .error .notFound => do
      let t ← makeDirectoriesFrom fuel t ((parent path).getD "")
      match t.makeDirectory path with
      | .ok t => return t
      | .error e => if t.isDirectory path then return t else throw e
    | _, .error e => if t.isDirectory path then .ok t else .error e

/-- Makes a directory and those above it, as far as they are missing. -/
def makeDirectories (t : FileTree) (path : String) : Except FileError FileTree :=
  makeDirectoriesFrom path.length t path

end FileTree
end DriverExtension.Storage
