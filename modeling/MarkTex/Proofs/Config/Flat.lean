import Mathlib.Data.List.Basic
import Mathlib.Data.List.Induction
import MarkTex.Proofs.Config.Keys

/-!
# Flat forms

A nested configuration whose keys are texts has a flat form. It groups nothing and has no hyphens in
its names. A name is there just if a leaf has it, at whatever depth, and the names are in the order
of their first leaves; the value is that of the last leaf. A flat form that is flattened stays as it
is (`exists_flatForm`).

## Shape of the proof

The flat form is what the leaves make of it in turn, so its names are those of the leaves, each put
behind the others where it first comes (`pairwise_foldl_withName`). A flat form is a configuration
of leaves only, which make just its own entries (`namedLeaves_nest`).
-/

namespace MarkTex.Config

/-! ## Nested configurations -/

/-- Whether a key is a text. -/
def isText : Value → Bool
  | .str _ => true
  | _ => false

/-- Whether a value is a mapping, or stands for one that holds itself. -/
def isMapping : Value → Bool
  | .map _ => true
  | .cycle isMap => isMap
  | _ => false

mutual

/-- Whether the keys of a configuration are texts at every depth, and no mapping holds itself. -/
def isNested : List (Value × Value) → Bool
  | [] => true
  | (key, value) :: rest => isText key && isNestedValue value && isNested rest

/-- Whether a value is a nested configuration or no mapping. -/
def isNestedValue : Value → Bool
  | .map entries => isNested entries
  | value => !isMapping value

end

/-- The leaves of a nested configuration have texts for keys and hold no mapping. -/
theorem leaves_of_isNested : ∀ {entries : List (Value × Value)}, isNested entries = true →
    ∀ leaf ∈ leaves entries, isText leaf.1 = true ∧ isMapping leaf.2 = false := by
  refine @(leaves.mutual_induct
    (fun entries => isNested entries = true →
      ∀ leaf ∈ leaves entries, isText leaf.1 = true ∧ isMapping leaf.2 = false)
    (fun key value => isText key = true → isNestedValue value = true →
      ∀ leaf ∈ leavesAt key value, isText leaf.1 = true ∧ isMapping leaf.2 = false)
    ?map ?leaf ?nil ?cons).1
  case map =>
    intro key entries ih _ hentries
    rw [isNestedValue] at hentries
    rw [leavesAt]
    exact ih hentries
  -- what is no mapping is a leaf, and its key was checked where the entry stands
  case leaf =>
    intro key value hleaf hkey hvalue leaf hmem
    rw [isNestedValue.eq_2 value hleaf, Bool.not_eq_true'] at hvalue
    rw [leavesAt.eq_2 key value hleaf, List.mem_singleton] at hmem
    rw [hmem]
    exact ⟨hkey, hvalue⟩
  case nil =>
    intro _ leaf hmem
    rw [leaves] at hmem
    exact absurd hmem List.not_mem_nil
  case cons =>
    intro key value rest hentry hrest hnested
    rw [isNested, Bool.and_eq_true, Bool.and_eq_true] at hnested
    rw [leaves, List.forall_mem_append]
    exact ⟨hentry hnested.1.1 hnested.1.2, hrest hnested.2⟩

/-- A nested configuration has a flat form, for none of its leaves is at fault. -/
theorem flatten_of_isNested {entries : List (Value × Value)} (h : isNested entries = true) :
    flatten entries = .ok (setAll [] (namedLeaves entries)) := by
  have hfault : faultOf? (flatten entries) = none := by
    rw [faultOf?_flatten, List.findSome?_eq_none_iff]
    rintro ⟨key, value⟩ hmem
    obtain ⟨hkey, hvalue⟩ := leaves_of_isNested h _ hmem
    have hcycle : value ≠ .cycle true := by
      rintro rfl
      cases hvalue
    rw [leafFault?.eq_2 key value hcycle]
    cases key with
    | str name => rfl
    | _ => cases hkey
  cases hflat : flatten entries with
  | error fault =>
    rw [hflat] at hfault
    cases hfault
  | ok flat => rw [eq_setAll_of_flattenOnto entries distinct_nil hflat]

/-! ## Names without hyphens -/

/-- The name of an option has no hyphens. -/
theorem not_mem_optionName (key : String) : '-' ∉ (optionName key).toList := by
  rw [optionName, String.toList_ofList, Text.replaceChar, List.mem_flatMap]
  rintro ⟨c, -, hc⟩
  split at hc
  · simp at hc
  · rename_i hne
    exact hne (List.mem_singleton.1 hc).symm

/-- A name without hyphens is the name of its option. -/
theorem optionName_of_not_mem {name : String} (h : '-' ∉ name.toList) : optionName name = name := by
  have hsame : ∀ t : Text, '-' ∉ t → Text.replaceChar '-' ['_'] t = t := by
    intro t ht
    induction t with
    | nil => rfl
    | cons c t ih =>
      rw [List.mem_cons, not_or] at ht
      rw [Text.replaceChar, List.flatMap_cons, if_neg (Ne.symm ht.1)]
      exact congrArg (c :: ·) (ih ht.2)
  rw [optionName, hsame _ h, String.ofList_toList]

/-! ## Names in the order of their first leaves -/

/-- The place of the first leaf of a configuration that has the name of an option. -/
def firstLeafAt (name : String) (entries : List (Value × Value)) : Nat :=
  (leaves entries).findIdx fun leaf => isNameOf name leaf.1

/-- Names that are put behind one another, each where it first comes, keep that order. -/
theorem pairwise_foldl_withName (names : List String) :
    (names.foldl withName []).Pairwise fun m n => names.idxOf m < names.idxOf n := by
  induction names using List.reverseRecOn with
  | nil => exact .nil
  | append_singleton names name ih =>
    -- one more name behind the others moves none of them
    have hbefore : (names.foldl withName []).Pairwise fun m n =>
        (names ++ [name]).idxOf m < (names ++ [name]).idxOf n := by
      refine ih.imp_of_mem fun {m n} hm hn hlt => ?_
      have hm' : m ∈ names := (mem_foldl_withName.1 hm).resolve_left List.not_mem_nil
      have hn' : n ∈ names := (mem_foldl_withName.1 hn).resolve_left List.not_mem_nil
      rwa [List.idxOf_append_of_mem hm', List.idxOf_append_of_mem hn']
    rw [List.foldl_append, List.foldl_cons, List.foldl_nil, withName]
    split
    · exact hbefore
    · -- a new name comes first behind all the others, so it is put behind them
      rename_i hname
      have hname' : name ∉ names := fun hmem => hname (mem_foldl_withName.2 (.inr hmem))
      refine List.pairwise_append.2 ⟨hbefore, List.pairwise_singleton _ _, fun m hm n hn => ?_⟩
      have hm' : m ∈ names := (mem_foldl_withName.1 hm).resolve_left List.not_mem_nil
      rw [List.mem_singleton.1 hn, List.idxOf_append_of_mem hm', List.idxOf_append_of_notMem hname']
      have hlt := List.idxOf_lt_length_of_mem hm'
      omega

/-- A key stands for a name if its leaf has this name. -/
theorem isNameOf_iff {name : String} {leaf : Value × Value} :
    isNameOf name leaf.1 = true ↔ (namedLeaf? leaf).map Prod.fst = some name := by
  obtain ⟨key, value⟩ := leaf
  cases key with
  | str k => simp [namedLeaf?, isNameOf]
  | _ => simp [namedLeaf?, isNameOf]

/-- A name is among those of some leaves if one of them has it. -/
theorem mem_names_namedLeaf {name : String} {leaves : List (Value × Value)} :
    name ∈ (leaves.filterMap namedLeaf?).map Prod.fst ↔
      ∃ leaf ∈ leaves, isNameOf name leaf.1 = true := by
  rw [List.map_filterMap, List.mem_filterMap]
  exact exists_congr fun leaf => and_congr_right fun _ => isNameOf_iff.symm

/-- Where every leaf has a text for its key, the entries that they make have the places of the
leaves. -/
theorem idxOf_names_namedLeaf (name : String) {leaves : List (Value × Value)}
    (h : ∀ leaf ∈ leaves, isText leaf.1 = true) :
    ((leaves.filterMap namedLeaf?).map Prod.fst).idxOf name =
      leaves.findIdx fun leaf => isNameOf name leaf.1 := by
  induction leaves with
  | nil => rfl
  | cons leaf leaves ih =>
    obtain ⟨key, value⟩ := leaf
    rw [List.forall_mem_cons] at h
    cases key with
    | str k =>
      have hcons : ((Value.str k, value) :: leaves).filterMap namedLeaf? =
          (optionName k, value) :: leaves.filterMap namedLeaf? := rfl
      rw [hcons, List.map_cons, List.idxOf_cons, List.findIdx_cons, ih h.2, isNameOf]
      rfl
    | _ => cases h.1

/-! ## What is taken over -/

/-- Setting a name puts one entry in and takes none from elsewhere. -/
theorem mem_of_mem_set {name : String} {value : Value} {flat : List (String × Value)}
    {entry : String × Value} (h : entry ∈ set name value flat) :
    entry = (name, value) ∨ entry ∈ flat := by
  induction flat with
  | nil => exact .inl (List.mem_singleton.1 h)
  | cons first flat ih =>
    obtain ⟨n, v⟩ := first
    rw [set] at h
    split at h
    · rename_i hn
      rw [hn, List.mem_cons] at h
      exact h.imp_right (List.mem_cons_of_mem _)
    · rw [List.mem_cons] at h
      rcases h with rfl | h
      · exact .inr List.mem_cons_self
      · exact (ih h).imp_right (List.mem_cons_of_mem _)

/-- Every entry of what is put together comes from one of the two sides. -/
theorem mem_of_mem_setAll {flat others : List (String × Value)} {entry : String × Value}
    (h : entry ∈ setAll flat others) : entry ∈ flat ∨ entry ∈ others := by
  induction others generalizing flat with
  | nil => exact .inl h
  | cons other others ih =>
    rw [List.mem_cons]
    rcases ih (setAll_cons flat other others ▸ h) with h | h
    · exact (mem_of_mem_set h).elim (.inr ∘ .inl) .inl
    · exact .inr (.inr h)

/-- What a leaf makes has a name without hyphens, and holds what the leaf holds. -/
theorem namedLeaf?_eq_some {leaf : Value × Value} {entry : String × Value}
    (h : namedLeaf? leaf = some entry) : '-' ∉ entry.1.toList ∧ entry.2 = leaf.2 := by
  obtain ⟨key, value⟩ := leaf
  cases key with
  | str k =>
    rw [← Option.some.inj h]
    exact ⟨not_mem_optionName k, rfl⟩
  | _ => exact nomatch h

/-! ## Flat forms are flat -/

/-- Entries that group nothing and have no hyphens in their names. -/
def IsFlat (flat : List (String × Value)) : Prop :=
  ∀ entry ∈ flat, '-' ∉ entry.1.toList ∧ isMapping entry.2 = false

/-- What the leaves of a nested configuration make is flat. -/
theorem isFlat_setAll_namedLeaves {entries : List (Value × Value)} (h : isNested entries = true) :
    IsFlat (setAll [] (namedLeaves entries)) := by
  intro entry hentry
  obtain ⟨leaf, hleaf, hmade⟩ :=
    List.mem_filterMap.1 ((mem_of_mem_setAll hentry).resolve_left List.not_mem_nil)
  obtain ⟨hname, hvalue⟩ := namedLeaf?_eq_some hmade
  exact ⟨hname, hvalue ▸ (leaves_of_isNested h leaf hleaf).2⟩

/-- A flat form as a configuration. -/
def nest (flat : List (String × Value)) : List (Value × Value) :=
  flat.map fun (name, value) => (.str name, value)

/-- An entry that groups nothing is its own leaf. -/
theorem leavesAt_of_not_isMapping {value : Value} (key : Value) (h : isMapping value = false) :
    leavesAt key value = [(key, value)] := by
  cases value with
  | map entries => exact nomatch h
  | _ => rfl

/-- The leaves of a flat form make just its own entries. -/
theorem namedLeaves_nest {flat : List (String × Value)} (h : IsFlat flat) :
    namedLeaves (nest flat) = flat := by
  induction flat with
  | nil => rfl
  | cons entry flat ih =>
    obtain ⟨name, value⟩ := entry
    obtain ⟨⟨hname, hvalue⟩, hrest⟩ := List.forall_mem_cons.1 h
    have hentry : [(Value.str name, value)].filterMap namedLeaf? = [(name, value)] := by
      simp [namedLeaf?, optionName_of_not_mem hname]
    rw [nest, List.map_cons, namedLeaves_cons, leavesAt_of_not_isMapping _ hvalue, hentry]
    exact congrArg ((name, value) :: ·) (ih hrest)

/-- A flat form is a nested configuration with texts for keys. -/
theorem isNested_nest {flat : List (String × Value)} (h : IsFlat flat) :
    isNested (nest flat) = true := by
  induction flat with
  | nil => rfl
  | cons entry flat ih =>
    obtain ⟨name, value⟩ := entry
    obtain ⟨⟨-, hvalue⟩, hrest⟩ := List.forall_mem_cons.1 h
    have hleaf : isNestedValue value = true := by
      cases value with
      | map entries => exact nomatch hvalue
      | _ => simpa [isNestedValue] using hvalue
    rw [nest, List.map_cons, isNested, hleaf]
    exact ih hrest

/-- Entries that are the flat form of a configuration. -/
structure FlatForm (entries : List (Value × Value)) (flat : List (String × Value)) : Prop where
  /-- They group nothing, and there are no hyphens in their names. -/
  isFlat : IsFlat flat
  /-- Their names are those of leaves. -/
  names : ∀ name, name ∈ flat.map Prod.fst ↔ ∃ leaf ∈ leaves entries, isNameOf name leaf.1 = true
  /-- The value of a name is that of the last leaf that has it. -/
  values : ∀ name, flat.lookup name = lastLeaf? name entries
  /-- The names are in the order of the first leaves that have them; so none comes twice. -/
  order : (flat.map Prod.fst).Pairwise fun m n => firstLeafAt m entries < firstLeafAt n entries

/-- **A nested configuration has a flat form, which is its own flat form.** -/
theorem exists_flatForm (entries : List (Value × Value)) (h : isNested entries = true) :
    ∃ flat, flatten entries = .ok flat ∧ FlatForm entries flat ∧
      flatten (nest flat) = .ok flat := by
  have hflat : IsFlat (setAll [] (namedLeaves entries)) := isFlat_setAll_namedLeaves h
  have hnames : (setAll [] (namedLeaves entries)).map Prod.fst =
      ((namedLeaves entries).map Prod.fst).foldl withName [] :=
    names_setAll [] _
  refine ⟨setAll [] (namedLeaves entries), flatten_of_isNested h, ⟨hflat, fun name => ?_,
    (lookup_flatten (flatten_of_isNested h)).2, ?_⟩, ?_⟩
  · rw [hnames, mem_foldl_withName, namedLeaves, mem_names_namedLeaf]
    exact or_iff_right List.not_mem_nil
  · rw [hnames]
    refine (pairwise_foldl_withName _).imp fun {m n} hlt => ?_
    have htexts : ∀ leaf ∈ leaves entries, isText leaf.1 = true := fun leaf hleaf =>
      (leaves_of_isNested h leaf hleaf).1
    rwa [namedLeaves, idxOf_names_namedLeaf m htexts, idxOf_names_namedLeaf n htexts] at hlt
  · rw [flatten_of_isNested (isNested_nest hflat), namedLeaves_nest hflat,
      setAll_setAll distinct_nil]

/-- A configuration with a name in a group and outside, with a hyphen and without. -/
def grouped : List (Value × Value) :=
  [(.str "document", .map [(.str "font-size", .str "12pt"), (.str "toc", .bool true)]),
    (.str "font_size", .str "10pt"), (.str "table", .map [(.str "toc", .bool false)])]

/-- Two groups, and names that come twice, in and outside of them and with a hyphen or not: the flat
form has each name once, with its last value. -/
theorem exists_flatForm_grouped : isNested grouped = true ∧
    ∃ flat, flatten grouped = .ok flat ∧ FlatForm grouped flat ∧ flatten (nest flat) = .ok flat :=
  ⟨by decide, exists_flatForm grouped (by decide)⟩

/-- The value is the last one, the place that of the first. -/
example : flatten grouped = .ok [("font_size", .str "10pt"), ("toc", .bool false)] := by
  rfl

end MarkTex.Config
