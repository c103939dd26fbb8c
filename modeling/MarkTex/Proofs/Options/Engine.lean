import MarkTex.Options.Engine
import MarkTex.Proofs.Number.Double
import MarkTex.Proofs.Options.Update

/-!
# Options for compiling

Options for compiling are read by rules like those for tables and documents, so that an update
either sets the fields that it names or leaves the options as they were (`kept_options`).

Two rules allow more than they are to. A time that is a double but no number is not at most zero,
and so passes for one above it. A name is looked through for slashes as a whole and never asked to be a
text, so that a collection passes if none of its parts is a slash, and a value that cannot be looked
through is refused without a report. Where neither happens, options are what they are to be
(`sound_iff`).
-/

namespace MarkTex

open OptionSet

/-! ## The rules -/

/-- The values that a text is compared with when it is looked for in a collection. -/
def Value.parts? : Value → Option (List Value)
  | .list items => some items
  | .map entries => some (entries.map Prod.fst)
  | .set members => some members
  | .pair first second => some [first, second]
  | _ => none

/-- Whether a value counts as yes and cannot be looked through, being neither a text nor a
collection. -/
def Value.isPartless (value : Value) : Bool :=
  match value with
  | .str _ => false
  | v => v.truthy && v.parts?.isNone

namespace Rule

/-- The field is a number above zero, or a double that is no number. -/
def seconds (field : String) : Rule where
  field := field
  allows value :=
    match value with
    | .int n => 0 < n
    | .float x => 0.0 < x || x.isNaN
    | _ => false
  fault value := OptionFault.showing (.notPositiveNumber field value) value
  shows := true

/-- The name of files is a text that is not empty and holds no slash or backslash, or a collection
that is not empty and holds neither of these texts. -/
def stem : Rule where
  field := "job_name"
  allows value :=
    match value with
    | .str s => s ≠ "" && !(s.toList.contains '/' || s.toList.contains '\\')
    | v =>
      match v.parts? with
      | some parts => !parts.isEmpty && !parts.any Engine.isSeparator
      | none => false
  fault value :=
    if value.isPartless then .noParts value.qualifiedTypeName
    else OptionFault.showing (.notStem value) value
  shows := true

end Rule

namespace Engine

/-- The rules of options for compiling. -/
def Options.rules : List Rule :=
  [.choice "engine" ["xelatex", "pdflatex"], .positive "passes", .seconds "timeout", .stem]

/-! ## Reading by the rules -/

/-- The rule for a time allows integers above zero, and doubles above zero or no numbers. -/
theorem allows_seconds {field : String} {value : Value} :
    (Rule.seconds field).allows value = true ↔ (∃ n : Int, 0 < n ∧ value = .int n) ∨
      ∃ x : Float, (0.0 < x ∨ x.isNaN = true) ∧ value = .float x := by
  constructor
  · intro h
    cases value with
    | int n => exact .inl ⟨n, of_decide_eq_true h, rfl⟩
    | float x => exact .inr ⟨x, by simpa [Rule.seconds] using h, rfl⟩
    | _ => exact absurd h Bool.false_ne_true
  · rintro (⟨n, hn, rfl⟩ | ⟨x, hx, rfl⟩)
    · exact decide_eq_true hn
    · simpa [Rule.seconds] using hx

/-- The rule for a time tells the value that is no positive number. -/
theorem fault_seconds (field : String) (value : Value) :
    (Rule.seconds field).fault value =
      OptionFault.showing (.notPositiveNumber field value) value :=
  rfl

/-- A time is read by its rule. -/
theorem reads_seconds (field : String) :
    Reads (.seconds field) (readSeconds field) Seconds.toValue where
  allowed := by
    intro value h
    rcases allows_seconds.1 h with ⟨n, hn, rfl⟩ | ⟨x, hx, rfl⟩
    · exact ⟨.whole n, if_neg (Int.not_le.2 hn), rfl⟩
    · exact ⟨.fraction x, if_neg (Number.Double.not_le_zero_iff.2 hx), rfl⟩
  refused := by
    intro value h
    rw [← Bool.not_eq_true, allows_seconds] at h
    rw [fault_seconds]
    -- only an integer or a double is compared with zero at all
    cases value with
    | int n =>
      have hn : n ≤ 0 := Int.not_lt.1 fun hn => h (.inl ⟨n, hn, rfl⟩)
      exact if_pos hn
    | float x =>
      have hx : x ≤ 0.0 := not_not.1 fun hx =>
        h (.inr ⟨x, Number.Double.not_le_zero_iff.1 hx, rfl⟩)
      exact if_pos hx
    | _ => rfl

/-- A collection is looked through by its parts. -/
theorem holdsSeparator_of_parts {value : Value} {parts : List Value}
    (h : value.parts? = some parts) :
    holdsSeparator value = .ok (parts.any isSeparator) ∧ value.truthy = !parts.isEmpty := by
  cases value with
  | list items =>
    obtain rfl := Option.some.inj h
    exact ⟨rfl, rfl⟩
  | map entries =>
    obtain rfl := Option.some.inj h
    rw [List.any_map, List.isEmpty_map]
    exact ⟨rfl, rfl⟩
  | set members =>
    obtain rfl := Option.some.inj h
    exact ⟨rfl, rfl⟩
  | pair first second =>
    obtain rfl := Option.some.inj h
    simp [holdsSeparator, Value.truthy]
  | _ => exact nomatch h

/-- A name that can be looked through is taken if it is neither empty nor holds a slash. -/
theorem readJobName_eq {value : Value} {holds : Bool} (h : holdsSeparator value = .ok holds) :
    readJobName value =
      if value.truthy && !holds then .ok value
      else .error (OptionFault.showing (.notStem value) value) := by
  rw [readJobName, h]
  cases value.truthy <;> cases holds <;> rfl

/-- A name that cannot be looked through is refused: for that reason, or as no name if it is falsy.
-/
theorem readJobName_of_error {value : Value} {fault : OptionFault}
    (h : holdsSeparator value = .error fault) :
    readJobName value =
      .error (if value.truthy then fault else OptionFault.showing (.notStem value) value) := by
  rw [readJobName, h]
  cases value.truthy <;> rfl

/-- The rule for a name allows texts that are not empty and have no slash. -/
theorem allows_stem_str (s : String) :
    Rule.stem.allows (.str s) =
      ((Value.str s).truthy && !(s.toList.contains '/' || s.toList.contains '\\')) := by
  have htruthy : (Value.str s).truthy = decide (s ≠ "") := by
    rw [Bool.eq_iff_iff, decide_eq_true_iff, Value.truthy, Bool.not_eq_true', ← Bool.not_eq_true,
      String.isEmpty_iff]
  rw [htruthy]
  rfl

/-- The rule for a name allows collections that are not empty and hold no slash as a part. -/
theorem allows_stem_of_parts {value : Value} {parts : List Value} (h : value.parts? = some parts) :
    Rule.stem.allows value = (value.truthy && !parts.any isSeparator) := by
  rw [(holdsSeparator_of_parts h).2]
  cases value with
  | list | map | set | pair =>
    obtain rfl := Option.some.inj h
    rfl
  | _ => exact nomatch h

/-- A value that is no text has nothing to be looked through in if it is truthy and has no parts. -/
theorem isPartless_of_ne {value : Value} (h : ∀ s, value ≠ .str s) :
    value.isPartless = (value.truthy && value.parts?.isNone) := by
  cases value with
  | str s => exact absurd rfl (h s)
  | _ => rfl

/-- What the name of files is looked through for, and what comes of it. -/
theorem holdsSeparator_cases (value : Value) :
    (∃ holds, holdsSeparator value = .ok holds ∧ value.isPartless = false ∧
      Rule.stem.allows value = (value.truthy && !holds)) ∨
    (holdsSeparator value = .error (.noParts value.qualifiedTypeName) ∧
      value.isPartless = value.truthy ∧ Rule.stem.allows value = false) := by
  -- a text is looked through by its characters, any other value by its parts
  by_cases htext : ∃ s, value = .str s
  · obtain ⟨s, rfl⟩ := htext
    exact .inl ⟨_, rfl, rfl, allows_stem_str s⟩
  · rw [not_exists] at htext
    have hpartless := isPartless_of_ne htext
    cases hparts : value.parts? with
    | some parts =>
      rw [hparts] at hpartless
      exact .inl ⟨_, (holdsSeparator_of_parts hparts).1, hpartless.trans (Bool.and_false _),
        allows_stem_of_parts hparts⟩
    | none =>
      rw [hparts] at hpartless
      refine .inr ⟨?_, hpartless.trans (Bool.and_true _), ?_⟩
      all_goals
        cases value with
        | str s => exact absurd rfl (htext s)
        | list | map | set | pair => exact nomatch hparts
        | _ => rfl

/-- A name is read by its rule. -/
theorem reads_stem : Reads .stem readJobName id where
  allowed := by
    intro value h
    refine ⟨value, ?_, rfl⟩
    rcases holdsSeparator_cases value with ⟨holds, hholds, -, hallows⟩ | ⟨-, -, hallows⟩
    · rw [readJobName_eq hholds, ← hallows, if_pos h]
    · exact absurd (hallows.symm.trans h) Bool.false_ne_true
  refused := by
    intro value h
    show _ = Except.error (if value.isPartless then OptionFault.noParts value.qualifiedTypeName
      else OptionFault.showing (.notStem value) value)
    rcases holdsSeparator_cases value with ⟨holds, hholds, hparts, hallows⟩ | ⟨hfault, hparts, -⟩
    · rw [readJobName_eq hholds, ← hallows, h, hparts]
      rfl
    · rw [readJobName_of_error hfault, hparts]

/-- Options for compiling are read by their rules. -/
theorem readBy_rules : ReadBy Options Options.rules := by
  intro o changes
  refine Follows.cons (reads_choice rfl) fun engine hengine => ?_
  refine Follows.cons (reads_positive _) fun passes hpasses => ?_
  refine Follows.cons (reads_seconds _) fun timeout htimeout => ?_
  refine Follows.cons reads_stem fun jobName hjobName => ?_
  refine Follows.nil ?_
  show [("engine", Value.str engine.program), ("passes", .int passes.val),
    ("timeout", timeout.toValue), ("job_name", id jobName)] = _
  rw [hengine, hpasses, htimeout, hjobName]
  rfl

/-- What it is to obey the rules for compiling, field by field. -/
theorem obeys_iff {fields : Fields} :
    Obeys Options.rules fields ↔
      (Rule.choice "engine" ["xelatex", "pdflatex"]).allows (fields.get "engine") = true ∧
      (Rule.positive "passes").allows (fields.get "passes") = true ∧
      (Rule.seconds "timeout").allows (fields.get "timeout") = true ∧
      Rule.stem.allows (fields.get "job_name") = true := by
  simp only [Obeys, Options.rules, List.forall_mem_cons, List.not_mem_nil, false_imp_iff,
    implies_true, and_true]
  rfl

/-- The default options obey their rules. -/
theorem obeys_default : Obeys Options.rules (fields (default : Options)) :=
  obeys_iff.2 ⟨by decide, by decide, by decide +kernel, by decide⟩

/-! ## Values that are not allowed -/

/-- What is told about a value that a rule for compiling does not allow. -/
def Tells (rule : Rule) (value : Value) : Prop :=
  if rule.field = "job_name" ∧ value.isPartless = true then
    rule.fault value = .noParts value.qualifiedTypeName
  else rule.Tells value

/-- Each rule for compiling tells the field and the value that it does not allow. -/
theorem tells_rules : ∀ rule ∈ Options.rules, ∀ value, Tells rule value := by
  simp only [Options.rules, List.forall_mem_cons, List.not_mem_nil, false_imp_iff, implies_true,
    and_true]
  refine ⟨fun value => ?_, fun value => ?_, fun value => ?_, fun value => ?_⟩
  · exact (if_neg (not_and_of_not_left _ (by decide))).mpr (Rule.tells_choice _ _ _)
  · exact (if_neg (not_and_of_not_left _ (by decide))).mpr (Rule.tells_positive _ _)
  · exact (if_neg (not_and_of_not_left _ (by decide))).mpr
      (Rule.tells_of_showing rfl (fault_seconds _ _) rfl rfl)
  · rw [Tells]
    split
    · rename_i h
      exact if_pos h.2
    · rename_i h
      have hparts : ¬ value.isPartless = true := fun hparts => h ⟨rfl, hparts⟩
      exact Rule.tells_of_showing rfl (if_neg hparts) rfl rfl

/-! ## What options are to be -/

/-- A text is allowed as a name if it is not empty and holds neither kind of slash. -/
theorem allows_stem_text {s : String} :
    Rule.stem.allows (.str s) = true ↔ s ≠ "" ∧ '/' ∉ s.toList ∧ '\\' ∉ s.toList := by
  simp [Rule.stem]

/-- What options for compiling are to be: the engine is one of two, there is at least one pass, the
time is a number above zero, and the name of the files is a text that is not empty and holds no
slash or backslash. -/
structure Sound (o : Options) : Prop where
  engine : ∃ name ∈ ["xelatex", "pdflatex"], (fields o).get "engine" = .str name
  passes : ∃ n : Int, 1 ≤ n ∧ (fields o).get "passes" = .int n
  timeout : (∃ n : Int, 0 < n ∧ (fields o).get "timeout" = .int n) ∨
    ∃ x : Float, 0.0 < x ∧ (fields o).get "timeout" = .float x
  jobName : ∃ s : String, s ≠ "" ∧ '/' ∉ s.toList ∧ '\\' ∉ s.toList ∧
    (fields o).get "job_name" = .str s

/-- Options that obey the rules are what they are to be, unless the time is no number or the name of
the files no text. -/
theorem sound_iff {o : Options} (h : Obeys Options.rules (fields o)) :
    Sound o ↔ (∀ x : Float, (fields o).get "timeout" = .float x → x.isNaN = false) ∧
      ∃ s, (fields o).get "job_name" = .str s := by
  obtain ⟨hengine, hpasses, htimeout, hjobName⟩ := obeys_iff.1 h
  constructor
  · intro hsound
    refine ⟨fun x hx => ?_, ?_⟩
    · rcases hsound.timeout with ⟨n, -, hn⟩ | ⟨y, hy, heq⟩
      · exact nomatch hx.symm.trans hn
      · obtain rfl := Value.float.inj (hx.symm.trans heq)
        exact Number.Double.not_isNaN_of_pos hy
    · obtain ⟨s, -, -, -, hs⟩ := hsound.jobName
      exact ⟨s, hs⟩
  · -- what the rules allow beyond this is no number or no text
    rintro ⟨hnumber, s, hs⟩
    refine ⟨Rule.allows_choice.1 hengine, Rule.allows_positive.1 hpasses, ?_, s, ?_⟩
    · refine (allows_seconds.1 htimeout).imp_right fun ⟨x, hpos, hx⟩ => ⟨x, ?_, hx⟩
      refine hpos.resolve_right fun hnan => ?_
      rw [hnumber x hx] at hnan
      exact Bool.false_ne_true hnan
    · rw [hs] at hjobName
      obtain ⟨hne, hslash, hbackslash⟩ := allows_stem_text.1 hjobName
      exact ⟨hne, hslash, hbackslash, hs⟩

/-- How options for compiling are kept, of which `o` are in use, and what an update of them comes
to. -/
structure Kept (o : Options) (changes : Fields) : Prop where
  obeys : Obeys Options.rules (fields o)
  /-- The options are what they are to be, unless the time is no number or the name no text. -/
  sound : Sound o ↔ (∀ x : Float, (fields o).get "timeout" = .float x → x.isNaN = false) ∧
    ∃ s, (fields o).get "job_name" = .str s
  attempted : Attempted Options.rules o changes (install o changes)
  /-- A refusal is reported as a fault of its field, unless the value cannot be shown or the name
  cannot be looked through. -/
  tells : ∀ rule value, firstBroken? Options.rules ((fields o).overlay changes) = some rule →
    changes.lookup rule.field = some value → Tells rule value

/-- Options that obey their rules are sound up to what the rules let through, and every update of
them comes to what it should. -/
theorem kept_of_obeys {o : Options} (h : Obeys Options.rules (fields o)) (changes : Fields) :
    Kept o changes where
  obeys := h
  sound := sound_iff h
  attempted := readBy_rules.attempted_install h changes
  tells := fun rule value hbroken _ => tells_rules rule (List.mem_of_find?_eq_some hbroken) value

/-- **Options for compiling obey their rules at all times.** They are made like by an update of the
default ones. Every update sets the fields that it names and no other, or leaves the options as they
were. -/
theorem kept_options (made : Fields) (updates : List Fields) (changes : Fields) :
    ofChanges made = (install (default : Options) made).2 ∧ Kept default made ∧
      ∀ first : Options, ofChanges made = .ok first → Kept (installAll first updates) changes := by
  refine ⟨ofChanges_eq_install made, kept_of_obeys obeys_default made, fun first hfirst => ?_⟩
  have hobeys := readBy_rules.obeys_install obeys_default made
  rw [ofChanges] at hfirst
  rw [install, hfirst] at hobeys
  exact kept_of_obeys (readBy_rules.obeys_installAll hobeys updates) changes

/-- Options with three passes refuse a time of nothing before they are given a name. -/
theorem kept_options_threePasses :
    ofChanges [("passes", .int 3)] = .ok ({ passes := ⟨3, by decide⟩ } : Options) ∧
      Kept (installAll { passes := ⟨3, by decide⟩ } [[("timeout", .int 0)]])
        [("job_name", .str "thesis")] :=
  ⟨rfl, (kept_options [("passes", .int 3)] [[("timeout", .int 0)]]
    [("job_name", .str "thesis")]).2.2 _ rfl⟩

/-- A time that is no number. -/
def noNumber : Float := Float.ofBits 0x7ff8000000000000

/-- The double for no number is no number. -/
theorem isNaN_noNumber : noNumber.isNaN = true := by
  decide +kernel

/-- Values for the fields are not always refused with a report or make options that are what they
are to be: a time that is no number is taken. -/
theorem not_sound_noNumber :
    ¬ ∀ changes : Fields,
      (∀ name ∈ changes.map Prod.fst, name ∈ (fields (default : Options)).map Prod.fst) →
        (∃ fault, (ofChanges changes : Except OptionFault Options) = .error fault ∧
          fault.isReported = true) ∨
        ∃ o : Options, ofChanges changes = .ok o ∧ Sound o := by
  intro h
  -- the update is accepted, for a time that is no number is not below zero
  obtain ⟨o, hmade, hfields⟩ := (readBy_rules default [("timeout", .float noNumber)]).exists_ok
    (obeys_iff.2 ⟨by decide, by decide,
      allows_seconds.2 (.inr ⟨noNumber, .inr isNaN_noNumber, rfl⟩), by decide⟩)
  rcases h [("timeout", .float noNumber)] (by decide) with ⟨fault, hfault, -⟩ | ⟨other, hok, hsound⟩
  · exact nomatch hmade.symm.trans hfault
  · obtain rfl := Except.ok.inj (hmade.symm.trans hok)
    rcases hsound.timeout with ⟨n, -, hn⟩ | ⟨x, hx, heq⟩
    · rw [hfields] at hn
      exact nomatch hn
    · rw [hfields] at heq
      obtain rfl : noNumber = x := Value.float.inj heq
      exact Bool.false_ne_true ((Number.Double.not_isNaN_of_pos hx).symm.trans isNaN_noNumber)

/-- A number is refused as a name, but not as a fault of the options. -/
example : (ofChanges [("job_name", .int 5)] : Except OptionFault Options) =
    .error (.noParts "int") :=
  rfl

end Engine

end MarkTex
