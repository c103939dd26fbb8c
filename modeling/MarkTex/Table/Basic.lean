import MarkTex.Text.Basic

/-!
# Tables

What the layout of a table is made of: the alignments of its columns, the environments and rules it
can be set in, the options that choose among them, and the measures that it is laid out by.
-/

namespace MarkTex.Table

/-- How the cells of a column are aligned. -/
inductive Alignment where
  | left
  | center
  | right
  deriving DecidableEq, Repr, Inhabited

/-- The name of an alignment. -/
def Alignment.name : Alignment → String
  | left => "left"
  | center => "center"
  | right => "right"

/-- The alignment of the given name; any other name aligns to the left. -/
def Alignment.ofName (name : String) : Alignment :=
  if name = "center" then center else if name = "right" then right else left

/-- The letter of a column that takes the width of its cells. -/
def Alignment.letter : Alignment → Char
  | left => 'l'
  | center => 'c'
  | right => 'r'

/-- The letter of a column of paragraph boxes: anchored at the top, in the middle or at the
bottom. -/
def Alignment.box : Alignment → Char
  | left => 'p'
  | center => 'm'
  | right => 'b'

/-- The environment that a table is set in. -/
inductive Environment where
  | tabular
  | tabularx
  | longtable
  deriving DecidableEq, Repr

/-- The name of an environment. -/
def Environment.name : Environment → String
  | tabular => "tabular"
  | tabularx => "tabularx"
  | longtable => "longtable"

/-- The rules of a table: three of different weights, or plain lines. -/
inductive Style where
  | booktabs
  | standard
  deriving DecidableEq, Repr

/-- The name of a style. -/
def Style.name : Style → String
  | booktabs => "booktabs"
  | standard => "standard"

/-- The style of the given name. -/
def Style.ofName? (name : String) : Option Style :=
  [booktabs, standard].find? (·.name = name)

/-- How tables are laid out: the rules, and the width from which on a column wraps. -/
structure Options where
  style : Style := .booktabs
  wrapThreshold : Nat := 20
  wrapThreshold_pos : 0 < wrapThreshold := by decide
  deriving DecidableEq, Repr

/-- The measures of a table: its rows and columns, the width of each column's widest cell, the
columns that wrap, and the alignment of each column. -/
structure Analysis where
  rowCount : Nat
  columnCount : Nat
  lengths : List Nat
  hasLongText : Bool
  longColumns : List Nat
  alignments : List Alignment
  totalLength : Nat
  deriving DecidableEq, Repr

/-- A row of cells. -/
abbrev Row := List Text

end MarkTex.Table
