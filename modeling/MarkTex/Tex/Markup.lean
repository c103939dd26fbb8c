import MarkTex.Math.Segment

/-!
# Markup

The shapes of emitted markup are a command with one argument, and the lines that open and close an
environment. What stands in them is escaped first. Ten characters mean something to TeX, and each of
them is written as the command that prints it; formulas can be kept as they are. An address stands
in the first argument of a link command, which may itself stand in an argument, so its characters
are escaped in a way of their own.
-/

namespace MarkTex.Tex

/-! ## Commands and environments -/

/-- A text in braces. -/
def braced (t : Text) : Text :=
  '{' :: t ++ ['}']

/-- The command `name` with the argument `arg`. -/
def command (name : String) (arg : Text) : Text :=
  '\\' :: name.toList ++ braced arg

/-- The line that opens the environment `name`. -/
def opening (name : String) : Text :=
  command "begin" name.toList

/-- The line that closes the environment `name`. -/
def closing (name : String) : Text :=
  command "end" name.toList

/-! ## Text -/

/-- A character as TeX prints it. -/
def escapeChar : Char → Text
  | '\\' => "\\textbackslash\x7b\x7d".toList
  | '&' => ['\\', '&']
  | '%' => ['\\', '%']
  | '$' => ['\\', '$']
  | '#' => ['\\', '#']
  | '_' => ['\\', '_']
  | '{' => ['\\', '{']
  | '}' => ['\\', '}']
  | '~' => "\\textasciitilde\x7b\x7d".toList
  | '^' => "\\textasciicircum\x7b\x7d".toList
  | c => [c]

/-- A text as TeX prints it. -/
def escape (t : Text) : Text :=
  t.flatMap escapeChar

/-- A segment as TeX prints it: a formula stays as it is. -/
def escapeSegment : Segment → Text
  | .plain t => escape t
  | .math t => t

/-- A text as TeX prints it, with its formulas as they are. -/
def escapeAroundMath (t : Text) : Text :=
  (Text.segments t).flatMap escapeSegment

/-! ## Addresses

Backslashes and braces are percent-encoded, and percent and number signs are escaped, those that the
encoding brings in included. -/

/-- A character of an address as it stands in an argument. -/
def addressChar : Char → Text
  | '\\' => "\\%5C".toList
  | '{' => "\\%7B".toList
  | '}' => "\\%7D".toList
  | '%' => ['\\', '%']
  | '#' => ['\\', '#']
  | c => [c]

/-- An address as it stands in an argument. -/
def escapeAddress (address : Text) : Text :=
  address.flatMap addressChar

theorem addressChar_of_not_mem {c : Char} (h : c ∉ ['\\', '{', '}', '%', '#']) :
    addressChar c = [c] := by
  rw [addressChar.eq_def]
  split <;> simp_all

end MarkTex.Tex
