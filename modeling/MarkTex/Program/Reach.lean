import MarkTex.Program.Run

/-!
# Files that a run can touch

A run is given its files beforehand. Those that it can touch are where configurations are searched
for, and what its command line, the environment and its configuration can name. Every part of a
command line that may be the value of an option counts, so that no option has to be read for this.
-/

namespace MarkTex.Program

/-- The names that the parts of a path lead to one after the other, seen from directory `here`. -/
def steps (here : List String) (p : Path) : List (List String) :=
  (List.range (p.names.length + 1)).map fun n =>
    ({ p with names := p.names.take n } : Path).resolve here

/-- The directories on the way to the given ones, and those themselves, outermost first. -/
def directories (dir : List String) : List (List String) :=
  (Config.outwards dir).reverse

/-- Where configurations are searched for. -/
def searched (c : Context) : List (List String) :=
  (directories c.directory ++ directories c.home).flatMap fun dir =>
    dir :: (Config.fileNames ++ [Config.projectFile]).map fun name => dir ++ [name]

/-- The texts that an argument may give to an option: all of it, what follows an equals sign, and
what follows a hyphen and a letter. -/
def valuesOf (argument : Text) : List Text :=
  [argument, (argument.dropWhile (· != '=')).drop 1, argument.drop 2]

/-- What a command line and the environment can name. -/
def named (c : Context) (arguments : List Text) : List (List String) :=
  let texts := arguments.flatMap valuesOf ++ c.environment.map (·.2.toList)
  texts.flatMap fun t => steps c.directory (Path.ofText t)

/-- What the configuration can name, given the files where it can be. -/
def configured (c : Context) (files : FileTree) (arguments : List Text) : List (List String) :=
  match CommandLine.selectionGrammar.readSettings arguments with
  | .error _ => []
  | .ok (selection, _) =>
    match (configPath c files selection).found with
    | .ok (some path) =>
      match Config.load files c.directory path with
      | .ok entries =>
        match Config.flatten entries with
        | .ok flat => flat.flatMap fun (_, v) => steps c.directory (Path.ofText v.plain.toList)
        | .error _ => []
      | .error _ => []
    | _ => []

/-- The files that a run changed, with their new contents. -/
def changed (before after : FileTree) : List (List String × Bytes) :=
  after.entries.filterMap fun (names, entry) =>
    match entry with
    | .directory => none
    | .file content => if before.find names = some entry then none else some (names, content)

end MarkTex.Program
