import MarkTex.Value

/-!
# Tables of a TOML document

While a TOML document is read, its tables know how they came to be: a header declares one, the
header of an inner table implies the outer ones, and a dotted key makes the tables on its way. A
table can be declared once only, and dotted keys of one part of the document are closed to every
later part. A list of tables grows by headers of its own; paths through it lead to its last table.
-/

namespace MarkTex.Config.Toml

/-- How a table came to be. -/
inductive Origin where
  /-- By the header of a table inside it. -/
  | implied
  /-- By a dotted key in the numbered part of the document. -/
  | dotted (part : Nat)
  /-- By its own header. -/
  | declared
  deriving DecidableEq

/-- What a key of a document stands for. -/
inductive Node where
  | value (v : Value)
  | table (origin : Origin) (entries : List (String × Node))
  /-- A list of tables, the last of them apart. -/
  | tables (done : List (List (String × Node))) (last : List (String × Node))

/-- The entries of a table, in the order in which their keys first came. -/
abbrev Entries := List (String × Node)

/-- The entries with a new node for a key that they hold. -/
def replace (key : String) (node : Node) (entries : Entries) : Entries :=
  entries.map fun (k, old) => if k = key then (k, node) else (k, old)

/-- The entries after a change of the table that the path of a header leads to. Tables that are
missing on the way are implied. -/
def within (change : Entries → Option Entries) : List String → Entries → Option Entries
  | [], entries => change entries
  | key :: path, entries =>
    match entries.lookup key with
    | none =>
      (within change path []).map fun inner => entries ++ [(key, .table .implied inner)]
    | some (.table origin inner) =>
      (within change path inner).map fun inner => replace key (.table origin inner) entries
    | some (.tables done last) =>
      (within change path last).map fun last => replace key (.tables done last) entries
    | some (.value _) => none

/-- The entries with the table of a key declared. -/
def declare (key : String) (entries : Entries) : Option Entries :=
  match entries.lookup key with
  | none => some (entries ++ [(key, .table .declared [])])
  | some (.table .implied inner) => some (replace key (.table .declared inner) entries)
  | _ => none

/-- The entries with one more table in the list of a key. -/
def append (key : String) (entries : Entries) : Option Entries :=
  match entries.lookup key with
  | none => some (entries ++ [(key, .tables [] [])])
  | some (.tables done last) => some (replace key (.tables (done ++ [last]) []) entries)
  | _ => none

/-- Whether a dotted key in the numbered part of the document may lead into a table. -/
def Origin.isOpen (origin : Origin) (part : Nat) : Bool :=
  match origin with
  | implied => true
  | dotted p => p = part
  | declared => false

/-- The entries with a value for a dotted key. -/
def assign (part : Nat) (value : Value) : List String → Entries → Option Entries
  | [], _ => none
  | [key], entries =>
    if (entries.lookup key).isSome then none else some (entries ++ [(key, .value value)])
  | key :: path, entries =>
    match entries.lookup key with
    | none =>
      (assign part value path []).map fun inner => entries ++ [(key, .table (.dotted part) inner)]
    | some (.table origin inner) =>
      if origin.isOpen part then
        (assign part value path inner).map fun inner =>
          replace key (.table (.dotted part) inner) entries
      else none
    | _ => none

mutual

/-- The value of a node. -/
def Node.toValue : Node → Value
  | .value v => v
  | .table _ entries => .map (entriesToValue entries)
  | .tables done last => .list (tablesToValue done ++ [.map (entriesToValue last)])

/-- The entries of a table as those of a mapping. -/
def entriesToValue : List (String × Node) → List (Value × Value)
  | [] => []
  | (key, node) :: rest => (.str key, node.toValue) :: entriesToValue rest

/-- The tables of a list as mappings. -/
def tablesToValue : List (List (String × Node)) → List Value
  | [] => []
  | entries :: rest => .map (entriesToValue entries) :: tablesToValue rest

end

end MarkTex.Config.Toml
