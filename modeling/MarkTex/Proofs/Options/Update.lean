import MarkTex.Options.Document
import MarkTex.Options.Table
import MarkTex.Proofs.Config.Leaves
import MarkTex.Proofs.Options.Rule

/-!
# Updates of options

Whatever is tried on options, those in use obey the rules of their class (`guarded_options`). An
update that is accepted sets the fields that it names and no other. One that is refused leaves the
options as they were; it names a field that does not exist, or gives a field a value that its rule
does not allow.

## Shape of the proof

Options are read by rules (`Ruled`): the first that is broken is reported, and what is read of
fields that obey all has these fields. The field of a broken rule was given by the update, since the
options before it obey all rules.
-/

namespace MarkTex

open OptionSet

/-! ## Names of fields -/

namespace Fields

variable {fields changes : Fields}

/-- An update names no unknown field just if it names fields of the options only. -/
theorem unknown?_eq_none :
    fields.unknown? changes = none ↔
      ∀ name ∈ changes.map Prod.fst, name ∈ fields.map Prod.fst := by
  rw [unknown?, Option.map_eq_none_iff, List.find?_eq_none, List.forall_mem_map]
  refine forall₂_congr fun change _ => ?_
  rw [Bool.not_eq_true', Bool.not_eq_false, List.any_eq_true, List.mem_map]
  simp only [decide_eq_true_eq]

/-- The unknown field is one that the update names and the options have not. -/
theorem of_unknown?_eq_some {name : String} (h : fields.unknown? changes = some name) :
    name ∈ changes.map Prod.fst ∧ name ∉ fields.map Prod.fst := by
  obtain ⟨change, hchange, rfl⟩ := Option.map_eq_some_iff.1 h
  refine ⟨List.mem_map_of_mem (List.mem_of_find?_eq_some hchange), fun hmem => ?_⟩
  obtain ⟨field, hfield, hname⟩ := List.mem_map.1 hmem
  have hany : (fields.any fun field => field.1 = change.1) = true :=
    List.any_eq_true.2 ⟨field, hfield, decide_eq_true hname⟩
  have hnone := List.find?_some hchange
  dsimp only at hnone
  rw [hany] at hnone
  cases hnone

/-- A field has the value of the update, if this names it, or else its own. -/
theorem lookup_overlay (fields changes : Fields) (name : String) :
    (fields.overlay changes).lookup name =
      (fields.lookup name).map fun old => (changes.lookup name).getD old := by
  induction fields with
  | nil => rfl
  | cons field fields ih =>
    obtain ⟨n, old⟩ := field
    rw [overlay, List.map_cons, List.lookup_cons, List.lookup_cons]
    cases hname : name == n with
    | true => rw [beq_iff_eq.1 hname]; rfl
    | false => exact ih

/-- A field with a value is one of the fields. -/
theorem mem_names_of_lookup {name : String} {value : Value} (h : fields.lookup name = some value) :
    name ∈ fields.map Prod.fst := by
  refine Decidable.byContradiction fun hnot => ?_
  rw [Config.lookup_eq_none hnot] at h
  cases h

/-- Fields have the values of changes where these name them, and their own elsewhere. -/
theorem get_overlay (hknown : fields.unknown? changes = none) (name : String) :
    (fields.overlay changes).get name = (changes.lookup name).getD (fields.get name) := by
  rw [get, get, lookup_overlay]
  cases hfield : fields.lookup name with
  | some old => rfl
  | none =>
    cases hchange : changes.lookup name with
    | none => rfl
    | some value =>
      -- a changed name is that of a field, which has a value
      have hmem := unknown?_eq_none.1 hknown name (mem_names_of_lookup hchange)
      obtain ⟨field, hin, hname⟩ := List.mem_map.1 hmem
      have hne := List.lookup_eq_none_iff.1 hfield field hin
      rw [hname, bne_self_eq_false] at hne
      cases hne

end Fields

/-! ## What an update comes to -/

/-- What an update of options comes to, and which options are in use after it. -/
inductive Tried {α : Type} [OptionSet α] (rules : List Rule) (o : α) (changes : Fields) :
    α × Except OptionFault α → Prop
  /-- The changes name fields and keep the rules: the new options have the given values in these
  fields and the values before in all others. -/
  | accepted (next : α) (known : ∀ name ∈ changes.map Prod.fst, name ∈ (fields o).map Prod.fst)
      (obeys : Obeys rules ((fields o).overlay changes))
      (sets : ∀ name, (fields next).get name = (changes.lookup name).getD ((fields o).get name)) :
      Tried rules o changes (next, .ok next)
  /-- The changes name something that is no field. -/
  | unknown (name : String) (named : name ∈ changes.map Prod.fst)
      (noField : name ∉ (fields o).map Prod.fst) :
      Tried rules o changes (o, .error (.unknownField (className α) name))
  /-- A field is given a value that its rule does not allow, the first that is broken. This is
  reported as a fault of the field, unless the message shows the value and cannot be written. -/
  | refused (rule : Rule) (value : Value)
      (first : firstBroken? rules ((fields o).overlay changes) = some rule)
      (known : ∀ name ∈ changes.map Prod.fst, name ∈ (fields o).map Prod.fst)
      (given : changes.lookup rule.field = some value) (forbidden : rule.allows value = false)
      (tells : rule.Tells value) :
      Tried rules o changes (o, .error (rule.fault value))

/-- A class of options is read by rules, and what is told of a value that one of them does not allow
is told by the rule. -/
structure Ruled (α : Type) [OptionSet α] (rules : List Rule) : Prop where
  obeys : ∀ o : α, Obeys rules (fields o)
  tells : ∀ rule ∈ rules, ∀ value, rule.Tells value
  follows : ∀ (o : α) (changes : Fields), Follows rules ((fields o).overlay changes)
    (fun next : α => fields next = (fields o).overlay changes)
    (ofFields ((fields o).overlay changes))

/-- A class of options is read by rules, whatever is told of values that they do not allow. -/
def ReadBy (α : Type) [OptionSet α] (rules : List Rule) : Prop :=
  ∀ (o : α) (changes : Fields), Follows rules ((fields o).overlay changes)
    (fun next : α => fields next = (fields o).overlay changes)
    (ofFields ((fields o).overlay changes))

/-- What an update of options comes to where they are read by rules: as in `Tried`, with the fault
that the broken rule has for the value. -/
inductive Attempted {α : Type} [OptionSet α] (rules : List Rule) (o : α) (changes : Fields) :
    α × Except OptionFault α → Prop
  | accepted (next : α) (known : ∀ name ∈ changes.map Prod.fst, name ∈ (fields o).map Prod.fst)
      (obeys : Obeys rules ((fields o).overlay changes))
      (sets : ∀ name, (fields next).get name = (changes.lookup name).getD ((fields o).get name)) :
      Attempted rules o changes (next, .ok next)
  | unknown (name : String) (named : name ∈ changes.map Prod.fst)
      (noField : name ∉ (fields o).map Prod.fst) :
      Attempted rules o changes (o, .error (.unknownField (className α) name))
  | refused (rule : Rule) (value : Value)
      (first : firstBroken? rules ((fields o).overlay changes) = some rule)
      (known : ∀ name ∈ changes.map Prod.fst, name ∈ (fields o).map Prod.fst)
      (given : changes.lookup rule.field = some value) (forbidden : rule.allows value = false) :
      Attempted rules o changes (o, .error (rule.fault value))

section

variable {α : Type} [OptionSet α] {rules : List Rule}

/-- The field of a rule that is broken after an update was given by the update. -/
theorem given_of_broken {o : α} (hobeys : Obeys rules (fields o)) {changes : Fields}
    (hknown : (fields o).unknown? changes = none) {rule : Rule} (hmem : rule ∈ rules)
    (hbroken : rule.allows (((fields o).overlay changes).get rule.field) = false) :
    changes.lookup rule.field = some (((fields o).overlay changes).get rule.field) := by
  rw [Fields.get_overlay hknown] at hbroken ⊢
  cases hgiven : changes.lookup rule.field with
  | some value => rfl
  | none =>
    rw [hgiven, Option.getD_none, hobeys rule hmem] at hbroken
    cases hbroken

/-- Every update of options that obey their rules is accepted, unknown or refused. -/
theorem ReadBy.attempted_install (h : ReadBy α rules) {o : α} (hobeys : Obeys rules (fields o))
    (changes : Fields) : Attempted rules o changes (install o changes) := by
  rw [install, update]
  cases hunknown : (fields o).unknown? changes with
  | some name =>
    obtain ⟨hnamed, hnot⟩ := Fields.of_unknown?_eq_some hunknown
    exact .unknown name hnamed hnot
  | none =>
    have hknown := Fields.unknown?_eq_none.1 hunknown
    dsimp only
    cases hbroken : firstBroken? rules ((fields o).overlay changes) with
    | some rule =>
      -- the value that breaks the rule is a new one, as the options before obey all rules
      have hmem := List.mem_of_find?_eq_some hbroken
      have hforbidden := List.find?_some hbroken
      rw [Bool.not_eq_true'] at hforbidden
      rw [(h o changes).eq_error hbroken]
      exact .refused rule _ hbroken hknown (given_of_broken hobeys hunknown hmem hforbidden)
        hforbidden
    | none =>
      have hafter := firstBroken?_eq_none.1 hbroken
      obtain ⟨next, hnext, hfields⟩ := (h o changes).exists_ok hafter
      rw [hnext]
      refine .accepted next hknown hafter fun name => ?_
      rw [hfields, Fields.get_overlay hunknown]

/-- Every update of a class with rules sets just what it names or changes nothing. -/
theorem Ruled.tried_install (h : Ruled α rules) (o : α) (changes : Fields) :
    Tried rules o changes (install o changes) := by
  have hattempted := ReadBy.attempted_install h.follows (h.obeys o) changes
  generalize install o changes = outcome at hattempted
  cases hattempted with
  | accepted next known obeys sets => exact .accepted next known obeys sets
  | unknown name named noField => exact .unknown name named noField
  | refused rule value first known given forbidden =>
    exact .refused rule value first known given forbidden
      (h.tells rule (List.mem_of_find?_eq_some first) value)

/-- Options are made like by an update of the default ones. -/
theorem ofChanges_eq_install (changes : Fields) :
    ofChanges changes = (install (default : α) changes).2 := by
  rw [ofChanges, install]
  cases update (default : α) changes <;> rfl

/-- Options obey the rules after an update if they did so before. -/
theorem ReadBy.obeys_install (h : ReadBy α rules) {o : α} (hobeys : Obeys rules (fields o))
    (changes : Fields) : Obeys rules (fields (install o changes).1) := by
  rw [install, update]
  cases hunknown : (fields o).unknown? changes with
  | some name => exact hobeys
  | none =>
    dsimp only
    -- a refused update leaves the options as they are, and an accepted one was read from fields
    -- that obey
    cases hbroken : firstBroken? rules ((fields o).overlay changes) with
    | some rule =>
      rw [(h o changes).eq_error hbroken]
      exact hobeys
    | none =>
      have hafter := firstBroken?_eq_none.1 hbroken
      obtain ⟨next, hnext, hfields⟩ := (h o changes).exists_ok hafter
      rw [hnext]
      dsimp only
      rwa [hfields]

/-! ## Runs of updates -/

/-- The updates that are accepted among some that are tried in order. -/
def acceptedUpdates (o : α) : List Fields → List Fields
  | [] => []
  | changes :: rest =>
    match install o changes with
    | (next, .ok _) => changes :: acceptedUpdates next rest
    | (same, .error _) => acceptedUpdates same rest

/-- The value that the last of some updates gives to a field, if one does. -/
def lastGiven? (name : String) (updates : List Fields) : Option Value :=
  updates.reverse.findSome? (List.lookup name)

/-- The last value that updates give to a field is that of the later ones, or else of the first. -/
theorem lastGiven?_cons (name : String) (changes : Fields) (updates : List Fields) :
    lastGiven? name (changes :: updates) =
      (lastGiven? name updates).or (changes.lookup name) := by
  rw [lastGiven?, List.reverse_cons, List.findSome?_append, List.findSome?_singleton]
  rfl

/-- However often options are updated, they obey their rules. -/
theorem ReadBy.obeys_installAll (h : ReadBy α rules) {first : α}
    (hobeys : Obeys rules (fields first)) (updates : List Fields) :
    Obeys rules (fields (installAll first updates)) := by
  induction updates generalizing first with
  | nil => exact hobeys
  | cons changes updates ih => exact ih (h.obeys_install hobeys changes)

/-- A field in use has the value that the last accepted update gave to it. -/
theorem ReadBy.get_installAll (h : ReadBy α rules) {first : α}
    (hobeys : Obeys rules (fields first)) (updates : List Fields) (name : String) :
    (fields (installAll first updates)).get name =
      (lastGiven? name (acceptedUpdates first updates)).getD ((fields first).get name) := by
  induction updates generalizing first with
  | nil => rfl
  | cons changes updates ih =>
    rw [installAll, List.foldl_cons, ← installAll, ih (h.obeys_install hobeys changes),
      acceptedUpdates]
    have hattempted := h.attempted_install hobeys changes
    -- only an accepted update is among those whose values count
    generalize hinstall : install first changes = outcome at hattempted
    cases hattempted with
    | accepted next _ _ hsets =>
      dsimp only
      rw [lastGiven?_cons, hsets]
      cases lastGiven? name (acceptedUpdates next updates) <;> rfl
    | unknown => rfl
    | refused => rfl

end

/-! ## The classes -/

/-- The rules of table options. -/
def Table.Options.rules : List Rule :=
  [.choice "table_style" ["booktabs", "standard"], .positive "auto_wrap_threshold"]

/-- The rules of document options. -/
def Document.Options.rules : List Rule :=
  [.choice "document_class" ["article", "report", "book"],
    .choice "font_size" ["10pt", "11pt", "12pt"],
    .choice "page_size" ["a4paper", "letterpaper", "a5paper"],
    .filled "margin", .filled "cjk_font_name", .filled "cjk_font_file", .filled "cjk_font_path"]

/-- The options of tables are read by their rules, field by field. -/
theorem ruled_tableOptions : Ruled Table.Options Table.Options.rules where
  obeys := by
    intro o
    simp only [Obeys, Table.Options.rules, List.forall_mem_cons, List.not_mem_nil, false_imp_iff,
      implies_true, and_true]
    refine ⟨?_, decide_eq_true (Int.ofNat_le.2 o.wrapThreshold_pos)⟩
    show (["booktabs", "standard"].contains o.style.name) = true
    cases o.style <;> decide
  tells := by
    simp only [Table.Options.rules, List.forall_mem_cons, List.not_mem_nil, false_imp_iff,
      implies_true, and_true]
    exact ⟨Rule.tells_choice _ _, Rule.tells_positive _⟩
  follows := by
    intro o changes
    refine Follows.cons (reads_choice rfl) fun style hstyle => ?_
    refine Follows.cons (reads_positive _) fun threshold hthreshold => ?_
    refine Follows.nil ?_
    show [("table_style", Value.str style.name), ("auto_wrap_threshold", .int threshold.val)] = _
    rw [hstyle, hthreshold]
    rfl

/-- The options of documents are read by their rules, field by field. -/
theorem ruled_documentOptions : Ruled Document.Options Document.Options.rules where
  obeys := by
    intro o
    simp only [Obeys, Document.Options.rules, List.forall_mem_cons, List.not_mem_nil,
      false_imp_iff, implies_true, and_true]
    refine ⟨?_, ?_, ?_, o.margin.property, o.fontName.property, o.fontFile.property,
      o.fontPath.property⟩
    · show (["article", "report", "book"].contains o.documentClass.name) = true
      cases o.documentClass <;> decide
    · show (["10pt", "11pt", "12pt"].contains o.fontSize.name) = true
      cases o.fontSize <;> decide
    · show (["a4paper", "letterpaper", "a5paper"].contains o.pageSize.name) = true
      cases o.pageSize <;> decide
  tells := by
    simp only [Document.Options.rules, List.forall_mem_cons, List.not_mem_nil, false_imp_iff,
      implies_true, and_true]
    exact ⟨Rule.tells_choice _ _, Rule.tells_choice _ _, Rule.tells_choice _ _,
      Rule.tells_filled _, Rule.tells_filled _, Rule.tells_filled _, Rule.tells_filled _⟩
  follows := by
    intro o changes
    refine Follows.cons (reads_choice rfl) fun documentClass hclass => ?_
    refine Follows.cons (reads_choice rfl) fun fontSize hfontSize => ?_
    refine Follows.cons (reads_choice rfl) fun pageSize hpageSize => ?_
    refine Follows.cons (reads_filled _) fun margin hmargin => ?_
    refine Follows.cons (reads_filled _) fun fontName hfontName => ?_
    refine Follows.cons (reads_filled _) fun fontFile hfontFile => ?_
    refine Follows.cons (reads_filled _) fun fontPath hfontPath => ?_
    refine Follows.nil ?_
    show [("document_class", Value.str documentClass.name), ("font_size", .str fontSize.name),
      ("page_size", .str pageSize.name), ("enable_chinese", _), ("enable_toc", _),
      ("margin", .str margin), ("cjk_font_name", .str fontName), ("cjk_font_file", .str fontFile),
      ("cjk_font_path", .str fontPath)] = _
    rw [hclass, hfontSize, hpageSize, hmargin, hfontName, hfontFile, hfontPath]
    rfl

/-! ## Options in use -/

/-- Options of a class obey its rules after some updates were tried on them, however they were made,
and a further update comes to what it should. -/
structure Guarded {α : Type} [OptionSet α] (rules : List Rule) (first : α) (updates : List Fields)
    (changes : Fields) : Prop where
  /-- Options are made from the default ones like by an update of these. -/
  made : ofChanges changes = (install (default : α) changes).2 ∧
    Tried rules (default : α) changes (install default changes)
  obeys : Obeys rules (fields (installAll first updates))
  tried : Tried rules (installAll first updates) changes
    (install (installAll first updates) changes)
  history : ∀ name, (fields (installAll first updates)).get name =
    (lastGiven? name (acceptedUpdates first updates)).getD ((fields first).get name)

/-- Rules guard the options of their class through any updates. -/
theorem Ruled.guarded {α : Type} [OptionSet α] {rules : List Rule} (h : Ruled α rules) (first : α)
    (updates : List Fields) (changes : Fields) : Guarded rules first updates changes where
  made := ⟨ofChanges_eq_install changes, h.tried_install default changes⟩
  obeys := h.obeys (installAll first updates)
  tried := h.tried_install (installAll first updates) changes
  history := ReadBy.get_installAll h.follows (h.obeys first) updates

/-- **Options for tables and for documents obey their rules at all times.** An update sets the
fields that it names and no other, or leaves the options as they were; then it names what is no
field, or gives a field a value that its rule does not allow. -/
theorem guarded_options (table : Table.Options) (document : Document.Options)
    (updates : List Fields) (changes : Fields) :
    Guarded Table.Options.rules table updates changes ∧
      Guarded Document.Options.rules document updates changes :=
  ⟨ruled_tableOptions.guarded table updates changes,
    ruled_documentOptions.guarded document updates changes⟩

/-- A threshold below zero is refused with a message that shows it. -/
theorem update_negativeThreshold (o : Table.Options) (m : Nat) :
    update o [("auto_wrap_threshold", .int (.negSucc m))] =
      .error (OptionFault.showing (.notPositiveInteger "auto_wrap_threshold" (.int (.negSucc m)))
        (.int (.negSucc m))) := by
  obtain ⟨style, threshold, hpos⟩ := o
  cases style <;> rfl

/-- An integer with more digits than a message may have cannot be shown. -/
theorem not_isShowable_of_le {m : Nat} (h : Nat.pow 10 Number.mostDigits ≤ m) :
    (Value.int (.negSucc m)).isShowable = false := by
  rw [Value.isShowable, Int.natAbs_negSucc, decide_eq_false_iff_not, Nat.not_lt]
  exact Nat.le_succ_of_le h

/-- Not every fault of an update is reported as one of the options or of the name of a field: an
integer that is refused may be too long to be shown in the message about it. -/
theorem not_reported_longThreshold :
    ¬ ∀ (o : Table.Options) (changes : Fields) (fault : OptionFault),
      update o changes = .error fault →
        fault.isReported = true ∨ ∃ name, fault = .unknownField (className Table.Options) name := by
  intro h
  have hlong := not_isShowable_of_le (Nat.le_refl (Nat.pow 10 Number.mostDigits))
  have hupdate := update_negativeThreshold default (Nat.pow 10 Number.mostDigits)
  rw [OptionFault.showing, hlong] at hupdate
  rcases h default _ _ hupdate with hreported | ⟨name, hname⟩
  · cases hreported
  · cases hname

end MarkTex
