import MarkTex.Log.Record
import MarkTex.Table.Measure
import MarkTex.Table.Width
import MarkTex.Tex.Markup

/-!
# Laying out tables

A table is set from its measures: the environment, one column specification per column, a rule
above, a rule under the header row and a rule below. Cells are set as they are given, without the
white space around them.
-/

namespace MarkTex.Table

/-! ## Column specification -/

/-- Why a table has no column specification: its measures do not fit each other. -/
abbrev SpecFault := WidthFault

/-- What a column specification is made from. Lengths and columns are whole numbers of any sign,
since a table may be described without having been measured. -/
structure Columns where
  count : Nat
  lengths : List Int
  /-- The columns that wrap. -/
  long : List Int
  alignments : List Alignment
  deriving DecidableEq, Repr

/-- The columns of a table that was measured. -/
def Analysis.columns (a : Analysis) : Columns where
  count := a.columnCount
  lengths := a.lengths.map Int.ofNat
  long := a.longColumns.map Int.ofNat
  alignments := a.alignments

namespace Columns

/-- The specification of a column that takes the width left over if it wraps. -/
def shared (c : Columns) (column : Nat) : Except SpecFault Text :=
  if c.long.contains (column : Int) then .ok ['X']
  else
    match c.alignments[column]? with
    | none => .error (.noSuchColumn column)
    | some alignment => .ok [alignment.letter]

/-- The specification of a column that wraps to the width allocated to it, if it has one. -/
def boxed (c : Columns) (widths : List Nat) (column : Nat) : Except SpecFault Text :=
  match c.alignments[column]? with
  | none => .error (.noSuchColumn column)
  | some alignment =>
    if c.long.contains (column : Int) then
      match widths[column]? with
      | none => .error (.noSuchColumn column)
      | some width =>
        if 0 < width then
          .ok (alignment.box :: Tex.braced (writeWidth width ++ "\\textwidth".toList))
        else .ok [alignment.letter]
    else .ok [alignment.letter]

/-- The specifications of all columns. -/
def specs (c : Columns) (environment : Environment) : Except SpecFault (List Text) :=
  match environment with
  | .tabularx => (List.range c.count).mapM c.shared
  | _ => do
    let widths ← widths c.lengths c.long
    (List.range c.count).mapM (c.boxed widths)

/-- The specification of all columns, with spaces between. -/
def spec (c : Columns) (environment : Environment) : Except SpecFault Text :=
  (c.specs environment).map (List.intercalate [' '])

end Columns

/-- The column specification of a table. -/
def columnSpec (a : Analysis) (environment : Environment) : Except SpecFault Text :=
  a.columns.spec environment

/-! ## Assembly -/

/-- A row of a table: its cells, the sign between neighbours and the end of the row. -/
def writeRow (row : Row) : Text :=
  List.intercalate " & ".toList (row.map Text.strip) ++ " \\\\".toList

/-- The rule above a table. -/
def Style.topRule : Style → Text
  | booktabs => "\\toprule".toList
  | standard => "\\hline".toList

/-- The rule under the header row. -/
def Style.headerRule : Style → Text
  | booktabs => "\\midrule".toList
  | standard => "\\hline".toList

/-- The rule below a table. -/
def Style.bottomRule : Style → Text
  | booktabs => "\\bottomrule".toList
  | standard => "\\hline".toList

/-- The line that opens a table. -/
def openingLine (environment : Environment) (spec : Text) : Text :=
  match environment with
  | .tabularx => Tex.opening "tabularx" ++ "\x7b\\textwidth\x7d".toList ++ Tex.braced spec
  | e => Tex.opening e.name ++ Tex.braced spec

/-- The lines between the rules above and below. -/
def bodyLines (style : Style) : List Row → List Text
  | [] => []
  | header :: body => writeRow header :: style.headerRule :: body.map writeRow

/-- The code of a table. -/
def assemble (style : Style) (environment : Environment) (spec : Text) (rows : List Row) : Text :=
  List.intercalate ['\n'] (openingLine environment spec :: style.topRule :: bodyLines style rows ++
    [style.bottomRule, Tex.closing environment.name])

/-- The packages that a table needs, in the order in which they are named. -/
def packages (style : Style) (environment : Environment) : List String :=
  (if style = .booktabs then ["booktabs"] else []) ++
    (if environment = .tabular then [] else [environment.name])

/-- A table that was laid out; one without rows has no code and no measures. -/
structure Layout where
  code : Text
  environment : Environment
  packages : List String
  analysis : Option Analysis
  notices : List Log.Record := []
  deriving DecidableEq, Repr

/-- The message about a table that was laid out. -/
def Analysis.notice (a : Analysis) (environment : Environment) : Log.Record where
  logger := "md2latex.renderers.table"
  level := Log.debug
  message :=
    let long := ", ".intercalate (a.longColumns.map toString)
    s!"Table {a.rowCount}x{a.columnCount} -> {environment.name} (long columns: [{long}])"

/-- Lays out the table of `rows` by the measures of `measured`. -/
def layout (options : Options) (rows measured : List Row) (alignments : List Alignment) :
    Except SpecFault Layout :=
  if rows.isEmpty then .ok ⟨[], .tabular, [], none, []⟩
  else do
    let analysis := analyze options rows measured alignments
    let environment := analysis.environment
    let spec ← columnSpec analysis environment
    return {
      code := assemble options.style environment spec rows
      environment := environment
      packages := packages options.style environment
      analysis := some analysis
      notices := [analysis.notice environment] }

end MarkTex.Table
