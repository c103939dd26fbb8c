import MarkTex.Options.Basic

/-!
# Rules for the fields of options

What the checks of a class of options come to is said by rules: each allows some values of one field
and tells the fault of any other (`Rule`). A class that is read by rules (`Ruled`) accepts fields
that obey them all and reports the first rule that is broken. From this follows what every update
comes to (`tried_install`).

## Shape of the proof

A reader of one field by a rule (`Reads`) goes in front of what is read by the rules behind it
(`Follows.cons`), so that a class is checked field by field in the order in which it reads them.
-/

namespace MarkTex

/-! ## Rules -/

/-- A rule for one field: the values that it allows, and the fault of any other. -/
structure Rule where
  field : String
  allows : Value → Bool
  fault : Value → OptionFault
  /-- Whether the message about a value shows it. -/
  shows : Bool

namespace Rule

/-- The field is one of some texts. -/
def choice (field : String) (allowed : List String) : Rule where
  field := field
  allows value :=
    match value with
    | .str s => allowed.contains s
    | _ => false
  fault value := OptionFault.showing (.notAllowed field allowed value) value
  shows := true

/-- The field is an integer of at least one. Truth values are no integers. -/
def positive (field : String) : Rule where
  field := field
  allows value :=
    match value with
    | .int i => 1 ≤ i
    | _ => false
  fault value := OptionFault.showing (.notPositiveInteger field value) value
  shows := true

/-- The field is a text with a character that is not white space. -/
def filled (field : String) : Rule where
  field := field
  allows value :=
    match value with
    | .str s => s.toList.any fun c => !Text.isBlank c
    | _ => false
  fault value := .blank field value
  shows := false

/-- Whether the message about a value that a rule does not allow can be written. -/
def canTell (rule : Rule) (value : Value) : Bool :=
  !rule.shows || value.isShowable

/-- What is told about a value that a rule does not allow: its fault is reported as one of the
rule's field, if the message about it can be written. -/
def Tells (rule : Rule) (value : Value) : Prop :=
  if rule.canTell value then
    (rule.fault value).isReported = true ∧ (rule.fault value).field? = some rule.field
  else rule.fault value = .unshowable

/-- A rule that shows the value in its message tells its field wherever the message can be written.
-/
theorem tells_of_showing {rule : Rule} {fault : OptionFault} {value : Value}
    (hshows : rule.shows = true) (hfault : rule.fault value = OptionFault.showing fault value)
    (hreported : fault.isReported = true) (hfield : fault.field? = some rule.field) :
    rule.Tells value := by
  rw [Tells, canTell, hshows, Bool.not_true, Bool.false_or, hfault, OptionFault.showing]
  cases value.isShowable with
  | true => exact ⟨hreported, hfield⟩
  | false => rfl

/-- A choice tells its field and the value that is none of its names. -/
theorem tells_choice (field : String) (allowed : List String) (value : Value) :
    (choice field allowed).Tells value :=
  tells_of_showing rfl rfl rfl rfl

/-- A positive integer tells its field and the value that is none. -/
theorem tells_positive (field : String) (value : Value) : (positive field).Tells value :=
  tells_of_showing rfl rfl rfl rfl

/-- A filled text tells its field and the value that is none. -/
theorem tells_filled (field : String) (value : Value) : (filled field).Tells value :=
  ⟨rfl, rfl⟩

/-! ### Values that are allowed -/

/-- A choice allows the texts that are its names. -/
theorem allows_choice {field : String} {allowed : List String} {value : Value} :
    (choice field allowed).allows value = true ↔ ∃ name ∈ allowed, value = .str name := by
  constructor
  · intro h
    cases value with
    | str s => exact ⟨s, List.contains_iff_mem.1 h, rfl⟩
    | _ => exact absurd h Bool.false_ne_true
  · rintro ⟨name, hname, rfl⟩
    exact List.contains_iff_mem.2 hname

/-- A positive integer allows the integers from one on. -/
theorem allows_positive {field : String} {value : Value} :
    (positive field).allows value = true ↔ ∃ n : Int, 1 ≤ n ∧ value = .int n := by
  constructor
  · intro h
    cases value with
    | int n => exact ⟨n, of_decide_eq_true h, rfl⟩
    | _ => exact absurd h Bool.false_ne_true
  · rintro ⟨n, hn, rfl⟩
    exact decide_eq_true hn

end Rule

/-- Fields obey all of some rules. -/
def Obeys (rules : List Rule) (fields : Fields) : Prop :=
  ∀ rule ∈ rules, rule.allows (fields.get rule.field) = true

/-- The first of some rules that fields break. -/
def firstBroken? (rules : List Rule) (fields : Fields) : Option Rule :=
  rules.find? fun rule => !rule.allows (fields.get rule.field)

/-- Fields obey the rules just if none of these is broken. -/
theorem firstBroken?_eq_none {rules : List Rule} {fields : Fields} :
    firstBroken? rules fields = none ↔ Obeys rules fields := by
  rw [firstBroken?, List.find?_eq_none]
  exact forall₂_congr fun rule _ => by rw [Bool.not_eq_true', Bool.not_eq_false]

/-! ## Reading by rules -/

/-- A reader of one field follows a rule: it gives what stands for an allowed value, and the fault
of any other. -/
structure Reads {β : Type} (rule : Rule) (read : Value → Except OptionFault β)
    (toValue : β → Value) : Prop where
  allowed : ∀ {value}, rule.allows value = true → ∃ b, read value = .ok b ∧ toValue b = value
  refused : ∀ {value}, rule.allows value = false → read value = .error (rule.fault value)

/-- A choice is read by its rule. -/
theorem reads_choice {α : Type} {field : String} {choices : List α} {name : α → String}
    {allowed : List String} (hallowed : choices.map name = allowed) :
    Reads (.choice field allowed) (readChoice field choices name)
      fun choice => .str (name choice) where
  allowed := by
    subst hallowed
    intro value h
    cases value with
    | str s =>
      obtain ⟨choice, hmem, hname⟩ := List.mem_map.1 (List.contains_iff_mem.1 h)
      -- the choice that is found need not be `choice`, but has its name
      have hsome : (choices.find? fun choice => name choice = s).isSome = true :=
        List.find?_isSome.2 ⟨choice, hmem, decide_eq_true hname⟩
      obtain ⟨found, hfound⟩ := Option.isSome_iff_exists.1 hsome
      have hs := List.find?_some hfound
      refine ⟨found, ?_, congrArg Value.str (of_decide_eq_true hs)⟩
      rw [readChoice, hfound]
    | _ => exact absurd h Bool.false_ne_true
  refused := by
    subst hallowed
    intro value h
    rw [readChoice.eq_def]
    split
    · rename_i s
      cases hfound : choices.find? fun choice => name choice = s with
      | none => rfl
      | some choice =>
        have hname := List.find?_some hfound
        have hs : s ∈ choices.map name :=
          List.mem_map.2 ⟨choice, List.mem_of_find?_eq_some hfound, of_decide_eq_true hname⟩
        exact absurd (List.contains_iff_mem.2 hs) (Bool.eq_false_iff.1 h)
    · rfl

/-- A positive integer is read by its rule. -/
theorem reads_positive (field : String) :
    Reads (.positive field) (readPositive field) fun n => .int n.val where
  allowed := by
    intro value h
    cases value with
    | int i =>
      have hi : 1 ≤ i := of_decide_eq_true h
      match i with
      | .ofNat (n + 1) => exact ⟨⟨n + 1, Nat.succ_pos n⟩, rfl, rfl⟩
    | _ => exact absurd h Bool.false_ne_true
  refused := by
    intro value h
    -- nothing but an integer from one on takes the branch that reads
    rw [readPositive.eq_def]
    split
    · rename_i n
      have hn : ¬ (1 : Int) ≤ .ofNat (n + 1) := of_decide_eq_false h
      rw [Int.ofNat_eq_natCast] at hn
      omega
    · rfl

/-- A filled text is read by its rule. -/
theorem reads_filled (field : String) :
    Reads (.filled field) (readFilled field) fun s => .str s.val where
  allowed := by
    intro value h
    cases value with
    | str s =>
      have hs : isFilled s = true := h
      refine ⟨⟨s, hs⟩, ?_, rfl⟩
      rw [readFilled, dif_pos hs]
    | _ => exact absurd h Bool.false_ne_true
  refused := by
    intro value h
    -- a text of white space only is refused like a value that is no text
    rw [readFilled.eq_def]
    split
    · rename_i s
      have hs : isFilled s = false := h
      rw [dif_neg (Bool.eq_false_iff.1 hs)]
      rfl
    · rfl

/-- What is read of fields by some rules: the fault of the first that is broken or, if none is,
something good. -/
def Follows {β : Type} (rules : List Rule) (fields : Fields) (good : β → Prop)
    (result : Except OptionFault β) : Prop :=
  match firstBroken? rules fields with
  | some rule => result = .error (rule.fault (fields.get rule.field))
  | none => ∃ b, result = .ok b ∧ good b

section

variable {β γ : Type} {rule : Rule} {rules : List Rule} {fields : Fields} {good : β → Prop}

/-- Where no rules are left, what was read is the result. -/
theorem Follows.nil {b : β} (h : good b) : Follows [] fields good (.ok b) :=
  ⟨b, rfl, h⟩

/-- A field is read by its rule before those behind it. -/
theorem Follows.cons {read : Value → Except OptionFault γ} {toValue : γ → Value}
    {rest : γ → Except OptionFault β} (hread : Reads rule read toValue)
    (hrest : ∀ c, toValue c = fields.get rule.field → Follows rules fields good (rest c)) :
    Follows (rule :: rules) fields good (read (fields.get rule.field) >>= rest) := by
  rw [Follows, firstBroken?, List.find?_cons]
  cases h : rule.allows (fields.get rule.field) with
  | true =>
    obtain ⟨c, hc, hvalue⟩ := hread.allowed h
    rw [hc]
    exact hrest c hvalue
  | false =>
    rw [hread.refused h]
    rfl

/-- What follows the rules reports the first that is broken. -/
theorem Follows.eq_error {result : Except OptionFault β} (h : Follows rules fields good result)
    (hbroken : firstBroken? rules fields = some rule) :
    result = .error (rule.fault (fields.get rule.field)) := by
  rw [Follows, hbroken] at h
  exact h

/-- What follows the rules comes to a result where none is broken. -/
theorem Follows.exists_ok {result : Except OptionFault β} (h : Follows rules fields good result)
    (hobeys : Obeys rules fields) : ∃ b, result = .ok b ∧ good b := by
  rw [Follows, firstBroken?_eq_none.2 hobeys] at h
  exact h

end

end MarkTex
