/-!
# Files

Files by path, as far as it can be told from a path and a tree of directories what comes of
reading it. A path is followed name by name, and the first name that leads nowhere decides.

* `FileFault` — why a file cannot be read, with its wording.
* `FileTree` — directories and files.
* `FileTree.read` — the content of the file at a path.
-/

namespace Switchboard

/-- Why a file cannot be read. -/
inductive FileFault
  | missing
  | directory
  /-- The path leads on from something that is no directory. -/
  | notDirectory
  | nameTooLong
  | nul
  | other (message : String)
  deriving DecidableEq, Repr, Inhabited

def FileFault.text : FileFault → String
  | .missing => "No such file or directory (os error 2)"
  | .directory => "Is a directory (os error 21)"
  | .notDirectory => "Not a directory (os error 20)"
  | .nameTooLong => "File name too long (os error 36)"
  | .nul => "file name contained an unexpected NUL byte"
  | .other message => message

/-- Directories and files, each by the names that lead to it from the root. -/
structure FileTree where
  directories : List (List String) := []
  files : List (List String × ByteArray) := []
  /-- The directory that paths without a slash in front start from. -/
  current : List String := []
  deriving Inhabited

namespace FileTree

/-- The most bytes of a name, and of a path. -/
def maxName : Nat := 255
@[inherit_doc maxName] def maxPath : Nat := 4095

/-- The names of a path; a slash at its end is a step nowhere. -/
def namesOf (path : String) : List String := path.splitOn "/"

def isDirectory (t : FileTree) (place : List String) : Bool :=
  place.isEmpty || t.directories.contains place

/-- Where names lead from a place. -/
def follow (t : FileTree) (place : List String) : List String → Except FileFault (List String)
  | [] => .ok place
  | name :: rest =>
    if !t.isDirectory place then .error .notDirectory
    else if name = "" ∨ name = "." then follow t place rest
    else if name = ".." then follow t place.dropLast rest
    else if maxName < name.utf8ByteSize then .error .nameTooLong
    else
      let next := place ++ [name]
      if t.isDirectory next || (t.files.lookup next).isSome then follow t next rest
      else .error .missing

/-- The content of the file at a path. -/
def read (t : FileTree) (path : String) : Except FileFault ByteArray :=
  if path.toList.contains '\x00' then .error .nul
  else if maxPath < path.utf8ByteSize then .error .nameTooLong
  else if path = "" then .error .missing
  else
    match t.follow (if path.startsWith "/" then [] else t.current) (namesOf path) with
    | .error why => .error why
    | .ok place =>
      match t.files.lookup place with
      | some bytes => .ok bytes
      | none => .error .directory

/-- A system as one finds it: the usual directories, and one file, which is empty. -/
def usual : FileTree where
  directories :=
    ["bin", "boot", "dev", "etc", "home", "lib", "media", "mnt", "opt", "proc", "root", "run",
      "sbin", "srv", "sys", "tmp", "usr", "var"].map fun name => [name]
  files := [(["dev", "null"], .empty)]
  current := ["tmp"]

end FileTree

end Switchboard
