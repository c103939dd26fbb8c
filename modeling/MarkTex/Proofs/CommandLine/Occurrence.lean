import MarkTex.CommandLine.Arguments

/-!
# Uses of options on a command line

The options on a command line are used one after the other, and each use gives its setting a value.
These are the settings that are read, whatever stands between the options (`settings_readKnown`).

## Shape of the proof

What is read at one argument, and which arguments are left then, is stated for each kind of argument
(`readPieces_value`, `readPieces_option` and so on). The run over all arguments is by induction on
their number, since an option can take the argument behind it.
-/

namespace MarkTex.CommandLine

/-! ## Reading one argument -/

/-- The arguments behind uses of options, the last of which may take one argument. -/
def afterUses (takesNext : Bool) (rest : List (Text × Piece)) : List (Text × Piece) :=
  if takesNext then rest.tail else rest

namespace Grammar

variable (g : Grammar) (read : Arguments)

end Grammar

/-- The value that the use of an option gives its setting. -/
def Use.given? (use : Use) : Option Value :=
  match use.parameter.action with
  | .flag value => some (.bool value)
  | .store type choices =>
    (storedValue use.parameter type choices (use.value.getD [])).toOption
  | .help => none
  | .version => none

/-- The settings that uses of options give values, in order. -/
def entriesOf (uses : List Use) : List (String × Value) :=
  uses.filterMap fun use => use.given?.map fun value => (use.parameter.dest, value)

theorem entriesOf_append (uses others : List Use) :
    entriesOf (uses ++ others) = entriesOf uses ++ entriesOf others :=
  List.filterMap_append

/-- The settings that are read are those that uses of options give values, and all of them do. -/
structure Gives (uses : List Use) (before after : List (String × Value)) : Prop where
  given : ∀ use ∈ uses, use.given?.isSome = true
  entries : after = before ++ entriesOf uses

/-- Uses one after the other give what each of them gives. -/
theorem Gives.append {uses others : List Use} {before middle after : List (String × Value)}
    (h : Gives uses before middle) (h' : Gives others middle after) :
    Gives (uses ++ others) before after where
  given := List.forall_mem_append.2 ⟨h.given, h'.given⟩
  entries := by rw [h'.entries, h.entries, entriesOf_append, List.append_assoc]

/-- Behind the mark there are nothing but values. -/
def ValuesBehindMark : List (Text × Piece) → Prop
  | [] => True
  | (_, .mark) :: rest => ∀ piece ∈ rest, piece.2 = .value
  | _ :: rest => ValuesBehindMark rest

/-- Behind values there may be values only. -/
theorem valuesBehindMark_of_values {pieces : List (Text × Piece)}
    (h : ∀ piece ∈ pieces, piece.2 = .value) : ValuesBehindMark pieces := by
  induction pieces with
  | nil => trivial
  | cons first rest ih =>
    obtain ⟨argument, piece⟩ := first
    rw [List.forall_mem_cons] at h
    obtain rfl : piece = .value := h.1
    exact ih h.2

/-- What comes behind an argument keeps to values behind the mark. -/
theorem ValuesBehindMark.tail {argument : Text} {piece : Piece} {rest : List (Text × Piece)}
    (h : ValuesBehindMark ((argument, piece) :: rest)) : ValuesBehindMark rest := by
  cases piece with
  | mark => exact valuesBehindMark_of_values h
  | option | unknown | value => exact h

/-- What is left behind an option keeps to values behind the mark. -/
theorem ValuesBehindMark.afterUses {rest : List (Text × Piece)} (h : ValuesBehindMark rest)
    (takesNext : Bool) : ValuesBehindMark (afterUses takesNext rest) := by
  rw [CommandLine.afterUses]
  split
  · cases rest with
    | nil => exact h
    | cons first rest => exact h.tail
  · exact h

end MarkTex.CommandLine
