import MarkTex.Proofs.Config.Leaves

/-!
# Configurations without a flat form

A configuration has a flat form just if all its leaves have texts for keys and none of them stands
for a mapping that holds itself. Otherwise the first leaf of another kind tells what is wrong
(`faultOf?_flatten`).
-/

namespace MarkTex

/-- The fault of what failed. -/
def faultOf? {ε α : Type} : Except ε α → Option ε
  | .ok _ => none
  | .error fault => some fault

/-- A result with a fault is that fault. -/
theorem faultOf?_eq_some {ε α : Type} {result : Except ε α} {fault : ε} :
    faultOf? result = some fault ↔ result = .error fault := by
  cases result with
  | ok a => exact ⟨fun h => (nomatch h), fun h => nomatch h⟩
  | error cause => exact ⟨fun h => congrArg Except.error (Option.some.inj h),
      fun h => congrArg some (Except.error.inj h)⟩

namespace Config

/-- What is wrong with a key: it is no text. -/
def keyFault? : Value → Option KeyFault
  | .str _ => none
  | key => some (.notText key)

/-- What is wrong with a leaf: it stands for a mapping that holds itself, or its key is no text. -/
def leafFault? : Value × Value → Option KeyFault
  | (_, .cycle true) => some .endless
  | (key, _) => keyFault? key

/-- An entry that holds no mapping fails for what is wrong with it as a leaf. -/
theorem faultOf?_leaf {flat : List (String × Value)} {key value : Value}
    (hleaf : ∀ entries, value ≠ .map entries) :
    faultOf? (flattenEntry flat key value) = (leavesAt key value).findSome? leafFault? := by
  have hleaves : leavesAt key value = [(key, value)] := by
    rw [leavesAt.eq_def]
    split
    · exact absurd rfl (hleaf _)
    · rfl
  rw [hleaves, List.findSome?_singleton, flattenEntry.eq_def]
  split
  · exact absurd rfl (hleaf _)
  · rfl
  · rename_i hcycle
    rw [leafFault?.eq_2 key value hcycle]
    cases key <;> rfl

/-- Flattening fails with the fault of the first leaf that has one. -/
theorem faultOf?_flattenOnto : ∀ (entries : List (Value × Value)) (flat : List (String × Value)),
    faultOf? (flattenOnto flat entries) = (leaves entries).findSome? leafFault? := by
  refine (leaves.mutual_induct
    (fun entries => ∀ flat,
      faultOf? (flattenOnto flat entries) = (leaves entries).findSome? leafFault?)
    (fun key value => ∀ flat,
      faultOf? (flattenEntry flat key value) = (leavesAt key value).findSome? leafFault?)
    ?map ?leaf ?nil ?cons).1
  -- a group is flattened by itself, so what was there before plays no part
  case map =>
    intro key entries ih flat
    rw [flattenEntry, leavesAt, ← ih []]
    cases flattenOnto [] entries <;> rfl
  case leaf =>
    intro key value hleaf flat
    exact faultOf?_leaf hleaf
  case nil =>
    intro flat
    rfl
  case cons =>
    intro key value rest hentry hrest flat
    rw [flattenOnto, leaves, List.findSome?_append, ← hentry flat]
    cases flattenEntry flat key value with
    | error fault => rfl
    | ok middle => exact hrest middle

/-- **A configuration fails for the first leaf that is not named by a text.** -/
theorem faultOf?_flatten (entries : List (Value × Value)) :
    faultOf? (flatten entries) = (leaves entries).findSome? leafFault? :=
  faultOf?_flattenOnto entries []

end Config

end MarkTex
