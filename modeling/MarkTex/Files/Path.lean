import MarkTex.Text.Basic

/-!
# Paths

A path is a sequence of names between slashes. Repeated slashes and lone dots add nothing to it; two
dots, which lead to the directory around, are kept.
-/

namespace MarkTex

/-- A path: the slashes that it starts with, and its names. -/
structure Path where
  root : String
  names : List String
  deriving DecidableEq, Repr

namespace Path

/-- The slashes that a path starts with: two are kept, and more stand for one. -/
def rootOf (t : Text) : String :=
  let slashes := (t.takeWhile (· == '/')).length
  if slashes = 0 then "" else if slashes = 2 then "//" else "/"

/-- The path that a text names. -/
def ofText (t : Text) : Path where
  root := rootOf t
  names := ((Text.splitAt '/' t).filter fun part =>
    !(part.isEmpty || part = ['.'])).map String.ofList

/-- The path that a string names. -/
def ofString (s : String) : Path :=
  ofText s.toList

/-- The path from the root through the given names. -/
def absolute (names : List String) : Path :=
  ⟨"/", names⟩

/-- A path as text; the empty path is a dot. -/
protected def toString (p : Path) : String :=
  if p.root = "" && p.names.isEmpty then "."
  else p.root ++ "/".intercalate p.names

instance : ToString Path := ⟨Path.toString⟩

/-- The path that `q` is, seen from the directory at `p`. -/
def join (p q : Path) : Path :=
  if q.root = "" then { p with names := p.names ++ q.names } else q

/-- The path with one more name. -/
def child (p : Path) (name : String) : Path :=
  { p with names := p.names ++ [name] }

/-- The last name of a path, empty if there is none. -/
def name (p : Path) : String :=
  p.names.getLast?.getD ""

/-- The part of a name from its last point on. A point that starts or ends the name starts no such
part. -/
def suffixOf (name : Text) : Text :=
  let tail := (name.reverse.takeWhile (· != '.')).reverse
  if tail.isEmpty || tail.length + 1 ≥ name.length then [] else '.' :: tail

/-- The ending of the last name, with its point. -/
def suffix (p : Path) : String :=
  String.ofList (suffixOf p.name.toList)

/-- The names from the root that a path seen from directory `here` leads to, if two dots take back
the name before them. -/
def resolve (here : List String) (p : Path) : List String :=
  p.names.foldl (fun reached name => if name = ".." then reached.dropLast else reached ++ [name])
    (if p.root = "" then here else [])

/-- The path from the root that a path seen from directory `here` leads to. -/
def resolved (here : List String) (p : Path) : Path :=
  ⟨if p.root = "" then "/" else p.root, p.resolve here⟩

end Path

end MarkTex
