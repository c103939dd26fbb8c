import MarkTex.Files.Path
import MarkTex.Text.Quoted
import MarkTex.Text.Utf8

/-!
# Files and directories

A tree of files is kept by the names from its root to each file and directory. A path is followed
name by name from a directory; every name but the last has to be that of a directory.
-/

namespace MarkTex

/-- What a name stands for. -/
inductive Entry where
  | file (content : Bytes)
  | directory
  deriving DecidableEq, Repr

/-- Files and directories by the names that lead to them from the root. The root is a directory. -/
structure FileTree where
  entries : List (List String × Entry) := []
  deriving Repr

/-- Why a file is not read or written. -/
inductive FileFault where
  | notFound
  | notDirectory
  | isDirectory
  | nameTooLong
  /-- The path holds the character that ends paths. -/
  | nullCharacter
  deriving DecidableEq, Repr

/-- What is wrong with a file, where `quoted` is its path in quotation marks. -/
def FileFault.report (quoted : String) : FileFault → String
  | notFound => "[Errno 2] No such file or directory: " ++ quoted
  | notDirectory => "[Errno 20] Not a directory: " ++ quoted
  | isDirectory => "[Errno 21] Is a directory: " ++ quoted
  | nameTooLong => "[Errno 36] File name too long: " ++ quoted
  | nullCharacter => "embedded null byte"

/-- What is wrong with a file at the path that is shown. -/
def FileFault.message (shown : String) (fault : FileFault) : String :=
  fault.report (quote shown)

namespace FileTree

/-- What the names lead to. -/
def find (tree : FileTree) (names : List String) : Option Entry :=
  if names.isEmpty then some .directory else tree.entries.lookup names

/-- The tree with an entry at the names. -/
def put (tree : FileTree) (names : List String) (entry : Entry) : FileTree :=
  if (tree.entries.lookup names).isSome then
    ⟨tree.entries.map fun (n, old) => if n = names then (n, entry) else (n, old)⟩
  else ⟨tree.entries ++ [(names, entry)]⟩

/-- The tree with a directory at the names and at those on the way to it. `around` are the names
that lead to where they start. -/
def makeDirectory (around : List String) : List String → FileTree → FileTree
  | [], tree => tree
  | name :: names, tree =>
    let here := around ++ [name]
    makeDirectory here names (if (tree.find here).isSome then tree else tree.put here .directory)

/-- The longest name, in bytes. -/
def longestName : Nat := 255

/-- The longest path, in bytes. -/
def longestPath : Nat := 4095

/-- Follows names from a directory: where they lead, and what is there. Only the last name may be
that of nothing. -/
def follow (tree : FileTree) (dir : List String) :
    List String → Except FileFault (List String × Option Entry)
  | [] => .ok (dir, some .directory)
  | name :: rest =>
    if name = ".." then follow tree dir.dropLast rest
    else if name.utf8ByteSize > longestName then .error .nameTooLong
    else
      let here := dir ++ [name]
      match tree.find here with
      | some .directory => follow tree here rest
      | found =>
        if rest.isEmpty then .ok (here, found)
        else if found.isSome then .error .notDirectory
        else .error .notFound

/-- Follows a path seen from directory `here`. -/
def locate (tree : FileTree) (here : List String) (path : Path) :
    Except FileFault (List String × Option Entry) :=
  if path.names.any fun name => name.toList.contains '\x00' then .error .nullCharacter
  else if path.toString.utf8ByteSize > longestPath then .error .nameTooLong
  else tree.follow (if path.root = "" then here else []) path.names

/-- Whether something is at a path. -/
def has (tree : FileTree) (here : List String) (path : Path) : Bool :=
  match tree.locate here path with
  | .ok (_, some _) => true
  | _ => false

/-- The contents of the file at a path. -/
def read (tree : FileTree) (here : List String) (path : Path) : Except FileFault Bytes :=
  match tree.locate here path with
  | .error fault => .error fault
  | .ok (_, some (.file content)) => .ok content
  | .ok (_, some .directory) => .error .isDirectory
  | .ok (_, none) => .error .notFound

/-- The tree after a change of the contents of the file at a path. A file that is missing starts
empty. -/
def modify (tree : FileTree) (here : List String) (path : Path) (change : Bytes → Bytes) :
    Except FileFault FileTree :=
  match tree.locate here path with
  | .error fault => .error fault
  | .ok (_, some .directory) => .error .isDirectory
  | .ok (names, some (.file content)) => .ok (tree.put names (.file (change content)))
  | .ok (names, none) => .ok (tree.put names (.file (change [])))

/-- The tree with new contents of the file at a path. -/
def write (tree : FileTree) (here : List String) (path : Path) (content : Bytes) :
    Except FileFault FileTree :=
  tree.modify here path fun _ => content

/-- The tree with more contents at the end of the file at a path. -/
def append (tree : FileTree) (here : List String) (path : Path) (content : Bytes) :
    Except FileFault FileTree :=
  tree.modify here path (· ++ content)

end FileTree

end MarkTex
