import MarkTex.Config.Load
import MarkTex.Log.Record

/-!
# Finding the configuration

The configuration is the nearest file of a known name: it is searched for from a directory outwards,
in each directory among the names for configurations first and then as a project file with a table
for this program that is not empty, and at last in the home directory, among the former names only.
A path that is too long to be followed ends the search.
-/

namespace MarkTex.Config

/-- The logger of messages about configurations. -/
def logger : String := "md2latex.cli.config"

/-- The names of configuration files, first choice first. -/
def fileNames : List String :=
  [".md2latex.toml", ".md2latex.yaml", ".md2latex.yml", ".md2latex.json"]

/-- The message about a project file that is passed over. -/
def skipNotice (path : Path) : Log.Record where
  logger := logger
  level := Log.debug
  message := s!"Skipping unreadable {path}"

/-- What a search has come upon: messages, and the file or a fault that ends the search. -/
structure Search where
  notices : List Log.Record := []
  found : Except LoadFault (Option Path) := .ok none

/-- A search that goes on where nothing is found yet. -/
def Search.orElse (search next : Search) : Search :=
  match search.found with
  | .ok none => ⟨search.notices ++ next.notices, next.found⟩
  | _ => search

/-- Searches one after the other, up to the first that ends. -/
def Search.first : List Search → Search
  | [] => {}
  | search :: searches => search.orElse (first searches)

/-! ## Single files -/

/-- The search at a path, given what the contents of a file there make of it. A path that is too
long is a fault. -/
def searchAt (tree : FileTree) (path : Path) (judge : Bytes → Search) : Search :=
  match tree.locate [] path with
  | .ok (_, some (.file content)) => judge content
  | .error .nameTooLong => { found := .error (.unreachable path .nameTooLong) }
  | _ => {}

/-- A file of one of the names for configurations is one, whatever it holds. -/
def searchNamed (tree : FileTree) (path : Path) : Search :=
  searchAt tree path fun _ => { found := .ok (some path) }

/-- What the contents of a project file make of it: a configuration if it holds one that is not
empty. One with a fault that is reported counts as none. -/
def judgeProject (path : Path) (content : Bytes) : Search :=
  match readProject path content with
  | .ok entries => { found := .ok (if entries.isEmpty then none else some path) }
  | .error fault => if fault.isReported then ⟨[skipNotice path], .ok none⟩ else ⟨[], .error fault⟩

/-- The search at the path of a project file. -/
def searchProject (tree : FileTree) (path : Path) : Search :=
  searchAt tree path (judgeProject path)

/-! ## Directories -/

/-- The file of the first choice among those of a directory with names for configurations. -/
def searchNames (tree : FileTree) (dir : List String) : Search :=
  .first (fileNames.map fun name => searchNamed tree ((Path.absolute dir).child name))

/-- The configuration file of a directory. -/
def searchDirectory (tree : FileTree) (dir : List String) : Search :=
  (searchNames tree dir).orElse (searchProject tree ((Path.absolute dir).child projectFile))

/-- A directory and those around it, innermost first. -/
def outwards (dir : List String) : List (List String) :=
  (List.range (dir.length + 1)).reverse.map dir.take

/-- The configuration file that is found from a directory outwards. -/
def searchParents (tree : FileTree) (start : List String) : Search :=
  .first ((outwards start).map (searchDirectory tree))

/-- The configuration file that is found from a directory outwards or in the home directory. -/
def discover (tree : FileTree) (home start : List String) : Search :=
  (searchParents tree start).orElse (searchNames tree home)

end MarkTex.Config
