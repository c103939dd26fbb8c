import MarkTex.Body.Fragment

/-!
# Putting fragments together

Fragments under `++` form a monoid, and so do features under `union`. The features of fragments put
together are the union of their features, in whatever way their texts are put together.
-/

namespace MarkTex.Body

/-! ## Features -/

namespace Packages

/-- Packages that are needed can be put together in any grouping. -/
theorem union_assoc (p q r : Packages) : (p.union q).union r = p.union (q.union r) := by
  simp only [union, Bool.or_assoc]

/-- To need no packages adds nothing in front. -/
@[simp] theorem empty_union (p : Packages) : Packages.union {} p = p := by
  simp only [union, Bool.false_or]

/-- To need no packages adds nothing behind. -/
@[simp] theorem union_empty (p : Packages) : p.union {} = p := by
  simp only [union, Bool.or_false]

end Packages

namespace Features

/-- Features can be put together in any grouping. -/
theorem union_assoc (f g h : Features) : (f.union g).union h = f.union (g.union h) := by
  simp only [union, Packages.union_assoc, Bool.or_assoc]

/-- No features add nothing in front. -/
@[simp] theorem empty_union (f : Features) : Features.union {} f = f := by
  simp only [union, Packages.empty_union, Bool.false_or]

/-- No features add nothing behind. -/
@[simp] theorem union_empty (f : Features) : f.union {} = f := by
  simp only [union, Packages.union_empty, Bool.or_false]

/-- What any of several bodies needs. -/
def unionAll (features : List Features) : Features :=
  features.foldr union {}

@[simp] theorem unionAll_nil : unionAll [] = {} :=
  rfl

@[simp] theorem unionAll_cons (f : Features) (fs : List Features) :
    unionAll (f :: fs) = f.union (unionAll fs) :=
  rfl

theorem unionAll_append (fs gs : List Features) :
    unionAll (fs ++ gs) = (unionAll fs).union (unionAll gs) := by
  induction fs with
  | nil => simp
  | cons f fs ih => rw [List.cons_append, unionAll_cons, ih, unionAll_cons, union_assoc]

end Features

/-! ## Fragments -/

attribute [ext] Fragment

namespace Fragment

variable (a b c : Fragment)

@[simp] theorem text_append : (a ++ b).text = a.text ++ b.text :=
  rfl

@[simp] theorem features_append : (a ++ b).features = a.features.union b.features :=
  rfl

@[simp] theorem notices_append : (a ++ b).notices = a.notices ++ b.notices :=
  rfl

@[simp] theorem fault_append : (a ++ b).fault = (a.fault <|> b.fault) :=
  rfl

protected theorem append_assoc : a ++ b ++ c = a ++ (b ++ c) := by
  ext1
  · exact List.append_assoc ..
  · exact Features.union_assoc ..
  · exact List.append_assoc ..
  · simp only [fault_append]
    cases a.fault <;> rfl

@[simp] protected theorem empty_append : ({} : Fragment) ++ a = a := by
  ext1 <;> simp

@[simp] protected theorem append_empty : a ++ ({} : Fragment) = a := by
  ext1 <;> simp

@[simp] theorem concat_nil : concat [] = {} :=
  rfl

@[simp] theorem concat_cons (l : List Fragment) : concat (a :: l) = a ++ concat l :=
  rfl

theorem concat_append (l m : List Fragment) : concat (l ++ m) = concat l ++ concat m := by
  induction l with
  | nil => simp
  | cons a l ih => rw [List.cons_append, concat_cons, ih, concat_cons, Fragment.append_assoc]

theorem features_concat (l : List Fragment) :
    (concat l).features = Features.unionAll (l.map (·.features)) := by
  induction l with
  | nil => rfl
  | cons a l ih => rw [concat_cons, features_append, ih, List.map_cons, Features.unionAll_cons]

/-- A join needs what the joined fragments need. -/
theorem features_joinWith (separator : Text) (l : List Fragment) :
    (joinWith separator l).features = Features.unionAll (l.map (·.features)) :=
  features_concat l

/-- A text in front changes nothing but the text. -/
theorem ofText_append (t : Text) : ofText t ++ a = { a with text := t ++ a.text } := by
  ext1 <;> simp [ofText]

/-- A text behind changes nothing but the text. -/
theorem append_ofText (t : Text) : a ++ ofText t = { a with text := a.text ++ t } := by
  ext1 <;> simp [ofText]

/-! ## Texts that are joined -/

theorem texts_append (fragments others : List Fragment) :
    texts (fragments ++ others) = texts fragments ++ texts others := by
  simp [texts]

/-- A fragment with a text contributes this text. -/
theorem texts_cons {fragment : Fragment} (h : fragment.text ≠ []) (fragments : List Fragment) :
    texts (fragment :: fragments) = fragment.text :: texts fragments := by
  simp [texts, h]

theorem texts_eq_nil {fragments : List Fragment} (h : ∀ fragment ∈ fragments, fragment.text = []) :
    texts fragments = [] := by
  simpa [texts] using h

end Fragment

end MarkTex.Body
