import Mathlib.Data.List.Induction
import MarkTex.Config.Flatten

/-!
# Leaves of a configuration

A configuration is a tree: its mappings group entries, and its leaves are the entries that hold a
value. Its flat form has each name once, with the value of the last leaf that has the name, where
the leaves are taken depth first (`lookup_flatten`).

## Shape of the proof

A group is flattened on its own before its entries are taken over. Entries that have each name once
are told by their names in order and by their values (`eq_of_lookup`), and neither depends on
whether entries were put together before (`setAll_setAll`). So the leaves are taken over one by one,
whatever groups they stand in (`eq_setAll_of_flattenOnto`).
-/

namespace MarkTex.Config

/-! ## Leaves -/

mutual

/-- The leaves of a configuration, depth first. -/
def leaves : List (Value × Value) → List (Value × Value)
  | [] => []
  | (key, value) :: rest => leavesAt key value ++ leaves rest

/-- The leaves of one entry: those of the mapping that it holds, or the entry itself. -/
def leavesAt (key : Value) : Value → List (Value × Value)
  | .map entries => leaves entries
  | value => [(key, value)]

end

/-- Whether a key is the name of an option, with hyphens for underscores or not. -/
def isNameOf (name : String) (key : Value) : Bool :=
  match key with
  | .str k => optionName k = name
  | _ => false

/-- The value of the last of some leaves that have the name of an option. -/
def lastNamed? (name : String) (leaves : List (Value × Value)) : Option Value :=
  (leaves.reverse.find? fun leaf => isNameOf name leaf.1).map (·.2)

/-- The value of the last leaf of a configuration that has the name of an option. -/
def lastLeaf? (name : String) (entries : List (Value × Value)) : Option Value :=
  lastNamed? name (leaves entries)

/-! ## Entries that have each name once -/

/-- No name comes twice. -/
def Distinct (flat : List (String × Value)) : Prop :=
  (flat.map Prod.fst).Nodup

theorem distinct_nil : Distinct [] :=
  List.nodup_nil

/-- The first entry with a name is the one that is looked up. -/
theorem lookup_cons_eq (name m : String) (value : Value) (flat : List (String × Value)) :
    ((name, value) :: flat).lookup m = if m = name then some value else flat.lookup m := by
  rw [List.lookup_cons]
  by_cases h : m = name
  · rw [if_pos h, beq_iff_eq.2 h]
  · rw [if_neg h, beq_eq_false_iff_ne.2 h]

/-- A name that is not there has no value. -/
theorem lookup_eq_none {name : String} {flat : List (String × Value)}
    (h : name ∉ flat.map Prod.fst) : flat.lookup name = none := by
  rw [List.lookup_eq_none_iff]
  intro entry hentry
  rw [bne_iff_ne]
  intro hname
  exact h (List.mem_map.2 ⟨entry, hentry, hname.symm⟩)

/-- A name has the value that it was set to last, and other names keep theirs. -/
theorem lookup_set (name : String) (value : Value) (flat : List (String × Value)) (m : String) :
    (set name value flat).lookup m = if m = name then some value else flat.lookup m := by
  induction flat with
  | nil => rw [set, lookup_cons_eq]
  | cons entry flat ih =>
    obtain ⟨n, v⟩ := entry
    rw [set]
    by_cases hn : n = name
    · rw [if_pos hn, lookup_cons_eq, lookup_cons_eq, hn]
      by_cases hm : m = name
      · rw [if_pos hm, if_pos hm]
      · rw [if_neg hm, if_neg hm, if_neg hm]
    · rw [if_neg hn, lookup_cons_eq, lookup_cons_eq, ih]
      by_cases hm : m = n
      · rw [if_pos hm, if_pos hm, if_neg (hm ▸ hn)]
      · rw [if_neg hm, if_neg hm]

/-- Setting a name adds it, if it was not there. -/
theorem mem_names_set {name m : String} {value : Value} {flat : List (String × Value)} :
    m ∈ (set name value flat).map Prod.fst ↔ m = name ∨ m ∈ flat.map Prod.fst := by
  induction flat with
  | nil => simp [set]
  | cons entry flat ih =>
    obtain ⟨n, v⟩ := entry
    rw [set]
    by_cases hn : n = name
    · rw [if_pos hn, hn, List.map_cons, List.map_cons, List.mem_cons, or_self_left]
    · rw [if_neg hn, List.map_cons, List.map_cons, List.mem_cons, List.mem_cons, ih]
      exact or_left_comm

/-- Setting a name leaves the names distinct. -/
theorem distinct_set (name : String) (value : Value) {flat : List (String × Value)}
    (h : Distinct flat) : Distinct (set name value flat) := by
  induction flat with
  | nil => simp [Distinct, set]
  | cons entry flat ih =>
    obtain ⟨n, v⟩ := entry
    rw [Distinct, List.map_cons, List.nodup_cons] at h
    rw [set]
    by_cases hn : n = name
    · rw [if_pos hn, Distinct, List.map_cons, List.nodup_cons]
      exact h
    · rw [if_neg hn, Distinct, List.map_cons, List.nodup_cons, mem_names_set]
      exact ⟨not_or.2 ⟨hn, h.1⟩, ih h.2⟩

/-- Where no name comes twice, the last entry of a name is the first. -/
theorem lookup_reverse {flat : List (String × Value)} (h : Distinct flat) (m : String) :
    flat.reverse.lookup m = flat.lookup m := by
  induction flat with
  | nil => rfl
  | cons entry flat ih =>
    obtain ⟨n, v⟩ := entry
    rw [Distinct, List.map_cons, List.nodup_cons] at h
    rw [List.reverse_cons, List.lookup_append, ih h.2, lookup_cons_eq, lookup_cons_eq]
    by_cases hm : m = n
    · rw [if_pos hm, if_pos hm, hm, lookup_eq_none h.1, Option.none_or]
    · rw [if_neg hm, if_neg hm, List.lookup_nil, Option.or_none]

theorem setAll_cons (flat : List (String × Value)) (entry : String × Value)
    (others : List (String × Value)) :
    setAll flat (entry :: others) = setAll (set entry.1 entry.2 flat) others :=
  rfl

/-- Putting entries together leaves the names distinct. -/
theorem distinct_setAll {flat : List (String × Value)} (h : Distinct flat)
    (others : List (String × Value)) : Distinct (setAll flat others) := by
  induction others generalizing flat with
  | nil => exact h
  | cons entry others ih =>
    rw [setAll_cons]
    exact ih (distinct_set entry.1 entry.2 h)

/-- A name has its last value among what was put in, or else the one it had. -/
theorem lookup_setAll (flat others : List (String × Value)) (m : String) :
    (setAll flat others).lookup m = (others.reverse.lookup m).or (flat.lookup m) := by
  induction others generalizing flat with
  | nil => rfl
  | cons entry others ih =>
    obtain ⟨n, v⟩ := entry
    rw [setAll_cons, ih, lookup_set, List.reverse_cons, List.lookup_append, Option.or_assoc,
      lookup_cons_eq]
    by_cases hm : m = n
    · rw [if_pos hm, if_pos hm, Option.some_or]
    · rw [if_neg hm, if_neg hm, List.lookup_nil, Option.none_or]

/-! ## Names in order -/

/-- Names with one more behind them, unless it is among them. -/
def withName (names : List String) (name : String) : List String :=
  if name ∈ names then names else names ++ [name]

/-- The names after setting one are those before, with it behind them if it is new. -/
theorem names_set (name : String) (value : Value) (flat : List (String × Value)) :
    (set name value flat).map Prod.fst = withName (flat.map Prod.fst) name := by
  rw [withName]
  induction flat with
  | nil => simp [set]
  | cons entry flat ih =>
    obtain ⟨n, v⟩ := entry
    rw [set]
    by_cases hn : n = name
    · simp [hn]
    · rw [if_neg hn, List.map_cons, List.map_cons, ih]
      by_cases hmem : name ∈ flat.map Prod.fst
      · rw [if_pos hmem, if_pos (List.mem_cons_of_mem _ hmem)]
      · have hcons : name ∉ n :: flat.map Prod.fst := by
          rw [List.mem_cons, not_or]
          exact ⟨Ne.symm hn, hmem⟩
        rw [if_neg hmem, if_neg hcons, List.cons_append]

/-- Taking over entries puts their names behind those that are there. -/
theorem names_setAll (flat others : List (String × Value)) :
    (setAll flat others).map Prod.fst =
      (others.map Prod.fst).foldl withName (flat.map Prod.fst) := by
  induction others generalizing flat with
  | nil => rfl
  | cons entry others ih => rw [setAll_cons, ih, names_set, List.map_cons, List.foldl_cons]

/-- Adding names in turn adds just these names. -/
theorem mem_foldl_withName {names others : List String} {name : String} :
    name ∈ others.foldl withName names ↔ name ∈ names ∨ name ∈ others := by
  induction others generalizing names with
  | nil => simp
  | cons other others ih =>
    have hstep : name ∈ withName names other ↔ name ∈ names ∨ name = other := by
      rw [withName]
      split
      · rename_i hmem
        refine ⟨.inl, ?_⟩
        rintro (h | rfl)
        · exact h
        · exact hmem
      · rw [List.mem_append, List.mem_singleton]
    rw [List.foldl_cons, ih, hstep, List.mem_cons, or_assoc]

/-- It does not matter if names come once each. -/
theorem foldl_foldl_withName (names others : List String) :
    (others.foldl withName []).foldl withName names = others.foldl withName names := by
  induction others using List.reverseRecOn with
  | nil => rfl
  | append_singleton others name ih =>
    rw [List.foldl_append, List.foldl_append, List.foldl_cons, List.foldl_nil, List.foldl_cons,
      List.foldl_nil, ← ih, withName]
    split
    · rename_i hmem
      rw [withName, if_pos (mem_foldl_withName.2 (.inr hmem))]
    · rw [List.foldl_append, List.foldl_cons, List.foldl_nil]

/-- Entries that have each name once are told by their names in order and by their values. -/
theorem eq_of_lookup {flat other : List (String × Value)} (h : Distinct flat)
    (hnames : flat.map Prod.fst = other.map Prod.fst)
    (hlookup : ∀ m, flat.lookup m = other.lookup m) : flat = other := by
  induction flat generalizing other with
  | nil => exact (List.map_eq_nil_iff.1 hnames.symm).symm
  | cons entry flat ih =>
    cases other with
    | nil => exact nomatch hnames
    | cons entry' other =>
      obtain ⟨n, v⟩ := entry
      obtain ⟨n', v'⟩ := entry'
      rw [List.map_cons, List.map_cons] at hnames
      obtain ⟨rfl, hrest⟩ := List.cons.inj hnames
      rw [Distinct, List.map_cons, List.nodup_cons] at h
      have hvalue := hlookup n
      rw [lookup_cons_eq, lookup_cons_eq, if_pos rfl, if_pos rfl] at hvalue
      obtain rfl := Option.some.inj hvalue
      refine congrArg ((n, v) :: ·) (ih h.2 hrest fun m => ?_)
      have hm := hlookup m
      rw [lookup_cons_eq, lookup_cons_eq] at hm
      -- the first name is none of the others, so looking it up tells nothing of them
      by_cases hmn : m = n
      · rw [hmn, lookup_eq_none h.1, lookup_eq_none (hrest ▸ h.1)]
      · rwa [if_neg hmn, if_neg hmn] at hm

theorem setAll_append (flat entries others : List (String × Value)) :
    setAll flat (entries ++ others) = setAll (setAll flat entries) others :=
  List.foldl_append

/-- Entries may be put together on their own before they are taken over. -/
theorem setAll_setAll {flat : List (String × Value)} (h : Distinct flat)
    (others : List (String × Value)) : setAll flat (setAll [] others) = setAll flat others := by
  have hinner : Distinct (setAll [] others) := distinct_setAll distinct_nil others
  refine eq_of_lookup (distinct_setAll h _) ?_ fun m => ?_
  · rw [names_setAll, names_setAll, names_setAll, List.map_nil, foldl_foldl_withName]
  · rw [lookup_setAll, lookup_setAll, lookup_reverse hinner, lookup_setAll, List.lookup_nil,
      Option.or_none]

/-! ## The flat form -/

/-- The entry that a leaf makes in the flat form: its value under the name of an option. A leaf
without a text for a key makes none. -/
def namedLeaf? : Value × Value → Option (String × Value)
  | (.str name, value) => some (optionName name, value)
  | _ => none

/-- The entries that the leaves of a configuration make, depth first. -/
def namedLeaves (entries : List (Value × Value)) : List (String × Value) :=
  (leaves entries).filterMap namedLeaf?

theorem namedLeaves_cons (key value : Value) (rest : List (Value × Value)) :
    namedLeaves ((key, value) :: rest) =
      (leavesAt key value).filterMap namedLeaf? ++ namedLeaves rest := by
  rw [namedLeaves, leaves, List.filterMap_append]
  rfl

/-- The first of some leaves with the name of an option is the first entry of that name. -/
theorem lookup_namedLeaf (name : String) (leaves : List (Value × Value)) :
    (leaves.filterMap namedLeaf?).lookup name =
      (leaves.find? fun leaf => isNameOf name leaf.1).map (·.2) := by
  induction leaves with
  | nil => rfl
  | cons leaf leaves ih =>
    obtain ⟨key, value⟩ := leaf
    cases key with
    | str k =>
      have hcons : ((Value.str k, value) :: leaves).filterMap namedLeaf? =
          (optionName k, value) :: leaves.filterMap namedLeaf? := rfl
      rw [hcons, lookup_cons_eq, List.find?_cons, isNameOf]
      by_cases hname : optionName k = name
      · rw [if_pos hname.symm, decide_eq_true hname]
        rfl
      · rw [if_neg (Ne.symm hname), decide_eq_false hname]
        exact ih
    | _ => exact ih

/-- The last entry that leaves make under a name is that of the last leaf with the name. -/
theorem lookup_reverse_namedLeaf (name : String) (leaves : List (Value × Value)) :
    (leaves.filterMap namedLeaf?).reverse.lookup name = lastNamed? name leaves := by
  rw [← List.filterMap_reverse, lookup_namedLeaf]
  rfl

/-- An entry that holds no mapping makes one entry of the flat form. -/
theorem flattenEntry_leaf {flat extended : List (String × Value)} {key value : Value}
    (hleaf : ∀ entries, value ≠ .map entries) (h : flattenEntry flat key value = .ok extended) :
    extended = setAll flat ((leavesAt key value).filterMap namedLeaf?) := by
  have hleaves : leavesAt key value = [(key, value)] := by
    rw [leavesAt.eq_def]
    split
    · exact absurd rfl (hleaf _)
    · rfl
  rw [flattenEntry.eq_def] at h
  split at h
  · exact absurd rfl (hleaf _)
  · exact nomatch h
  split at h
  · rw [hleaves, ← Except.ok.inj h]
    rfl
  · exact nomatch h

/-- **The flat form is what the leaves make of it in turn**, however they are grouped: a group is
flattened on its own first, and taking over its entries is the same as taking over its leaves. -/
theorem eq_setAll_of_flattenOnto : ∀ (entries : List (Value × Value))
    {flat extended : List (String × Value)}, Distinct flat →
    flattenOnto flat entries = .ok extended → extended = setAll flat (namedLeaves entries) := by
  refine (leaves.mutual_induct
    (fun entries => ∀ {flat extended : List (String × Value)}, Distinct flat →
      flattenOnto flat entries = .ok extended → extended = setAll flat (namedLeaves entries))
    (fun key value => ∀ {flat extended : List (String × Value)}, Distinct flat →
      flattenEntry flat key value = .ok extended →
        extended = setAll flat ((leavesAt key value).filterMap namedLeaf?))
    ?map ?leaf ?nil ?cons).1
  -- the inner group has distinct names, so its entries may be put in as they come
  case map =>
    intro key entries ih flat extended hflat h
    rw [flattenEntry] at h
    cases hinner : flattenOnto [] entries with
    | error fault => simp [hinner, Except.map] at h
    | ok inner =>
      rw [hinner] at h
      rw [← Except.ok.inj h, ih distinct_nil hinner, setAll_setAll hflat, leavesAt, namedLeaves]
  case leaf =>
    intro key value hleaf flat extended _ h
    exact flattenEntry_leaf hleaf h
  case nil =>
    intro flat extended _ h
    rw [flattenOnto] at h
    exact (Except.ok.inj h).symm
  case cons =>
    intro key value rest hentry hrest flat extended hflat h
    rw [flattenOnto] at h
    cases hfirst : flattenEntry flat key value with
    | error fault => simp [hfirst] at h
    | ok middle =>
      simp only [hfirst] at h
      obtain rfl := hentry hflat hfirst
      rw [hrest (distinct_setAll hflat _) h, ← setAll_append, namedLeaves_cons]

/-- **The flat form of a configuration has the value of the last leaf for each name**, and no name
twice. -/
theorem lookup_flatten {entries : List (Value × Value)} {flat : List (String × Value)}
    (h : flatten entries = .ok flat) :
    Distinct flat ∧ ∀ name, flat.lookup name = lastLeaf? name entries := by
  obtain rfl := eq_setAll_of_flattenOnto entries distinct_nil h
  refine ⟨distinct_setAll distinct_nil _, fun name => ?_⟩
  rw [lookup_setAll, List.lookup_nil, Option.or_none, namedLeaves, lookup_reverse_namedLeaf]
  rfl

end MarkTex.Config
