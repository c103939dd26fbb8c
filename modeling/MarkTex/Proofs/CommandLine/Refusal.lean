import MarkTex.Program.Run
import MarkTex.Proofs.CommandLine.Defaults
import MarkTex.Proofs.Config.Keys

/-!
# Configurations that are refused

A configuration is applied as a whole or not at all. Applied, it gives settings new defaults and
changes nothing else. Refused, it fails for the first key or, if all keys are fine, for the first
value that is refused (`result_withConfig`).

Not every refusal is reported. A key that is no text is not, nor are three kinds of values: an
infinite number where an integer is taken, an integer past all doubles where a double is taken, and
a value with an integer of so many digits that no message can show it (`Breaks`). A run ends without
an exit status there (`withConfig_reports_iff`).

## Shape of the proof

What a parameter does with a value does not depend on its default, so that the entries of a flat
configuration can be judged by the grammar from before them (`refusal?_withDefault`). One entry sets
one default; the run over all entries follows by induction (`result_withEntries`). Which faults are
reported is read off the conversion of one value (`ValueType.isReported_of_convert`).
-/

namespace MarkTex.CommandLine

/-! ## Values that are refused -/

/-- Why the value of an entry is refused: its name is that of a setting with defaults from outside
that does not take it. -/
def Grammar.refusal? (g : Grammar) (source : String) (entry : String × Value) :
    Option SettingFault :=
  (g.configurable? entry.1).bind fun p => faultOf? (p.convert source entry.2)

/-- Whether the refusal of a value as one of a type is not reported. -/
def ValueType.breaksOn : ValueType → Value → Bool
  | .int, .float x => x.isInf
  | .float, .int i => (Number.floatOfInt? i).isNone
  | _, value => !value.isShowable

/-- Whether the refusal of a value by a parameter is not reported. -/
def Parameter.breaksOn (p : Parameter) (value : Value) : Bool :=
  match p.action with
  | .store type _ => type.breaksOn value
  | _ => !value.isShowable

/-- A fault that shows a value is reported only if the value can be shown. -/
theorem SettingFault.isReported_showing {fault : SettingFault} (h : fault.isReported = true)
    (value : Value) : (fault.showing value).isReported = value.isShowable := by
  rw [showing]
  cases value.isShowable with
  | true => exact h
  | false => rfl

/-- What is not a number is not infinite. -/
theorem not_isInf_of_isNaN {x : Float} (h : x.isNaN = true) : x.isInf = false := by
  rw [Float.isNaN, Float.Model.isNaN] at h
  rw [Float.isInf, Float.Model.isInf]
  cases hx : x.toModel.unpack with
  | infinity sign =>
    rw [hx] at h
    cases h
  | notANumber => rfl
  | zero => rfl
  | finite => rfl

/-- A value that is refused as one of a type is reported, unless it breaks the conversion. -/
theorem ValueType.isReported_of_convert {type : ValueType} {refused fault : SettingFault}
    {value : Value} (hrefused : refused.isReported = value.isShowable)
    (h : type.convert refused value = .error fault) :
    fault.isReported = !type.breaksOn value := by
  rw [convert.eq_def] at h
  split at h
  · cases h
  · cases h
  · -- a text
    split at h
    · cases h
    · obtain rfl := Except.error.inj h
      rw [hrefused]
      cases type <;> rfl
  · -- bytes
    split at h
    · cases h
    · obtain rfl := Except.error.inj h
      rw [hrefused]
      cases type <;> rfl
  · cases h
  · -- a number with a point as an integer
    rename_i x
    rw [breaksOn]
    split at h
    · rename_i hnan
      obtain rfl := Except.error.inj h
      rw [hrefused, not_isInf_of_isNaN hnan]
      rfl
    split at h
    · rename_i hinf
      obtain rfl := Except.error.inj h
      rw [hinf]
      rfl
    · cases h
  · -- an integer as a number with a point
    rw [breaksOn]
    split at h
    · cases h
    · rename_i hlarge
      obtain rfl := Except.error.inj h
      rw [hlarge]
      rfl
  · cases h
  · obtain rfl := Except.error.inj h
    rw [hrefused, breaksOn.eq_3, Bool.not_not]
    · assumption
    · assumption

/-- A text option takes every value as it is. -/
theorem ValueType.convert_text (refused : SettingFault) (value : Value) :
    ValueType.text.convert refused value = .ok value := by
  cases value <;> rfl

/-- Whether only texts are chosen among. -/
def Parameter.choosesText (p : Parameter) : Bool :=
  match p.action with
  | .store type choices => type = .text || choices.isEmpty
  | _ => true

/-- Wherever the program takes one of several choices, they are texts. -/
theorem choosesText_parameters : ∀ p ∈ grammar.parameters, p.choosesText = true := by decide

/-- A flag refuses what cannot be shown. -/
theorem SettingFault.isReported_of_flag {value v : Value} {fault : SettingFault}
    (h : (if value.isShowable then .ok v else .error .unshowable) = Except.error fault) :
    fault.isReported = !!value.isShowable := by
  cases hshown : value.isShowable with
  | true =>
    rw [hshown, if_pos rfl] at h
    cases h
  | false =>
    rw [hshown, if_neg Bool.false_ne_true] at h
    rw [← Except.error.inj h]
    rfl

/-- A value that a parameter refuses is reported, unless it breaks the conversion. -/
theorem Parameter.isReported_of_convert {p : Parameter} {source : String} {value : Value}
    {fault : SettingFault} (hchooses : p.choosesText = true)
    (h : p.convert source value = .error fault) : fault.isReported = !p.breaksOn value := by
  obtain ⟨dest, names, action, default⟩ := p
  rw [convert] at h
  cases action with
  | flag on => exact SettingFault.isReported_of_flag h
  | help => exact SettingFault.isReported_of_flag h
  | version => exact SettingFault.isReported_of_flag h
  | store type choices =>
    rw [breaksOn]
    rw [choosesText] at hchooses
    dsimp only at h hchooses ⊢
    split at h
    · rename_i hconvert
      obtain rfl := Except.error.inj h
      exact ValueType.isReported_of_convert (SettingFault.isReported_showing rfl value) hconvert
    · rename_i v hconvert
      split at h
      · cases h
      · rename_i hchoice
        obtain rfl := Except.error.inj h
        -- where there are choices they are among texts, so that the value was taken as it is
        rw [Bool.or_eq_true, not_or] at hchoice
        rw [Bool.or_eq_true, or_iff_left hchoice.1, decide_eq_true_eq] at hchooses
        subst hchooses
        rw [ValueType.convert_text] at hconvert
        rw [SettingFault.isReported_showing rfl, ← Except.ok.inj hconvert]
        exact (Bool.not_not _).symm

/-! ## Entries -/

/-- The parameter after a flat configuration: its default is the value of its entry, as its options
take it. -/
def Parameter.afterEntries (p : Parameter) (source : String) (flat : List (String × Value)) :
    Parameter :=
  ((p.entry? flat).bind fun value => (p.convert source value).toOption).elim p p.withDefault

/-- The grammar after a flat configuration. -/
def Grammar.afterEntries (g : Grammar) (source : String) (flat : List (String × Value)) : Grammar :=
  { g with parameters := g.parameters.map fun p => p.afterEntries source flat }

/-- Each setting is that of one parameter. -/
def Grammar.Distinct (g : Grammar) : Prop :=
  (g.parameters.map Parameter.dest).Nodup

/-- No two parameters of the program set the same setting. -/
theorem distinct_grammar : grammar.Distinct := by
  rw [Grammar.Distinct]
  decide

section

variable {g : Grammar} {p : Parameter} {source : String} {flat : List (String × Value)}

/-- A new default leaves the settings of a grammar and their order. -/
theorem map_dest_withDefault (g : Grammar) (dest : String) (value : Value) :
    (g.withDefault dest value).parameters.map Parameter.dest = g.parameters.map Parameter.dest := by
  rw [Grammar.withDefault, List.map_map]
  refine List.map_congr_left fun p _ => ?_
  rw [Function.comp_apply]
  split <;> rfl

/-- A new default leaves open which names may be configured. -/
theorem configurable?_withDefault (g : Grammar) (dest : String) (value : Value) (name : String) :
    (g.withDefault dest value).configurable? name =
      (g.configurable? name).map fun p =>
        if p.dest = dest then { p with default := value } else p := by
  have hname : ((fun p : Parameter => p.isConfigurable && decide (p.dest = name)) ∘ fun p =>
      if p.dest = dest then { p with default := value } else p) =
        fun p => p.isConfigurable && decide (p.dest = name) := by
    funext p
    rw [Function.comp_apply]
    split <;> rfl
  rw [Grammar.configurable?, Grammar.configurable?, Grammar.withDefault, List.find?_map, hname]

/-- Which entries are refused does not depend on the defaults. -/
theorem refusal?_withDefault (g : Grammar) (source dest : String) (value : Value) :
    (g.withDefault dest value).refusal? source = g.refusal? source := by
  funext entry
  rw [Grammar.refusal?, Grammar.refusal?, configurable?_withDefault]
  cases g.configurable? entry.1 with
  | none => rfl
  | some p =>
    rw [Option.map_some, Option.bind_some, Option.bind_some]
    split <;> rfl

/-- Parameters of one setting are one. -/
theorem Grammar.Distinct.eq (hg : g.Distinct) {q : Parameter} (hp : p ∈ g.parameters)
    (hq : q ∈ g.parameters) (h : q.dest = p.dest) : q = p :=
  List.inj_on_of_nodup_map hg hq hp h

/-- An entry sets the default of the parameter that it names. -/
theorem afterEntries_withDefault (hg : g.Distinct) {name : String} {value v : Value}
    (hflat : name ∉ flat.map Prod.fst) (hname : g.configurable? name = some p)
    (hconvert : p.convert source value = .ok v) :
    (g.withDefault name v).afterEntries source flat =
      g.afterEntries source ((name, value) :: flat) := by
  obtain ⟨hp, rfl⟩ := Grammar.configurable?_eq_some hname
  rw [Grammar.afterEntries, Grammar.afterEntries, Grammar.withDefault]
  dsimp only
  rw [List.map_map]
  refine congrArg (Grammar.mk · g.takesInput) (List.map_congr_left fun q hq => ?_)
  rw [Function.comp_apply]
  by_cases hdest : q.dest = p.dest
  · obtain rfl := hg.eq (List.mem_of_find?_eq_some hname) hq hdest
    -- names occur once, so that no later entry overwrites the new default
    have hnone : Parameter.entry? (q.withDefault v) flat = none := Parameter.entry?_eq_none hflat
    rw [if_pos rfl, Parameter.afterEntries, Parameter.afterEntries, Parameter.entry?_cons_self hp]
    change Option.elim ((Parameter.entry? (q.withDefault v) flat).bind _) (q.withDefault v) _ = _
    rw [hnone, Option.bind_some, hconvert]
    rfl
  · have hnot : ¬ (q.isConfigurable = true ∧ q.dest = p.dest) := fun h => hdest h.2
    rw [if_neg hdest, Parameter.afterEntries, Parameter.afterEntries,
      Parameter.entry?_cons_of_not hnot]

/-- An entry that names no setting changes nothing. -/
theorem afterEntries_unknown {name : String} (hname : g.configurable? name = none) (value : Value) :
    g.afterEntries source ((name, value) :: flat) = g.afterEntries source flat := by
  rw [Grammar.afterEntries, Grammar.afterEntries]
  refine congrArg (Grammar.mk · g.takesInput) (List.map_congr_left fun q hq => ?_)
  have hnot : ¬ (q.isConfigurable = true ∧ q.dest = name) := by
    have h := List.find?_eq_none.1 hname q hq
    rw [Bool.and_eq_true, decide_eq_true_eq] at h
    exact h
  rw [Parameter.afterEntries, Parameter.afterEntries, Parameter.entry?_cons_of_not hnot]

/-- **The entries of a flat configuration are applied all or, if one of them is refused, not at
all.** -/
theorem result_withEntries (hg : g.Distinct) (hflat : Config.Distinct flat) :
    (g.withEntries source flat).result =
      match flat.findSome? (g.refusal? source) with
      | some fault => .error (.setting fault)
      | none => .ok (g.afterEntries source flat) := by
  induction flat generalizing g with
  | nil =>
    have hsame : (fun p : Parameter => p.afterEntries source []) = id := by
      funext p
      rw [Parameter.afterEntries, Parameter.entry?_eq_none (List.not_mem_nil)]
      rfl
    rw [Grammar.withEntries, List.findSome?_nil, Grammar.afterEntries, hsame, List.map_id]
  | cons entry rest ih =>
    obtain ⟨name, value⟩ := entry
    rw [Config.Distinct, List.map_cons, List.nodup_cons] at hflat
    rw [Grammar.withEntries, List.findSome?_cons]
    cases hname : g.configurable? name with
    | none =>
      have hrefusal : g.refusal? source (name, value) = none := by
        rw [Grammar.refusal?, hname, Option.bind_none]
      rw [hrefusal, afterEntries_unknown hname]
      exact ih hg hflat.2
    | some p =>
      have hrefusal : g.refusal? source (name, value) = faultOf? (p.convert source value) := by
        rw [Grammar.refusal?, hname, Option.bind_some]
      rw [hrefusal]
      dsimp only
      cases hconvert : p.convert source value with
      | error fault => rfl
      | ok v =>
        -- the entries behind it are judged as by the grammar before
        have hdistinct : (g.withDefault name v).Distinct := by
          rw [Grammar.Distinct, map_dest_withDefault]
          exact hg
        have hrest := ih hdistinct hflat.2
        rw [refusal?_withDefault, afterEntries_withDefault hg hflat.1 hname hconvert] at hrest
        exact hrest

end

/-! ## Configurations -/

/-- Two grammars differ at most in the defaults of settings that have them from outside. -/
structure DifferInDefaults (before after : Grammar) : Prop where
  takesInput : after.takesInput = before.takesInput
  parameters : List.Forall₂
    (fun p q => q = p ∨ p.isConfigurable = true ∧ ∃ value, q = p.withDefault value)
    before.parameters after.parameters

/-- The entries of a configuration change nothing but defaults. -/
theorem differInDefaults_afterEntries (g : Grammar) (source : String)
    (flat : List (String × Value)) : DifferInDefaults g (g.afterEntries source flat) where
  takesInput := rfl
  parameters := by
    rw [Grammar.afterEntries, List.forall₂_map_right_iff, List.forall₂_same]
    intro p hp
    rw [Parameter.afterEntries]
    cases hvalue : (p.entry? flat).bind fun value => (p.convert source value).toOption with
    | none => exact .inl rfl
    | some value =>
      refine .inr ⟨?_, value, rfl⟩
      obtain ⟨entry, hentry, -⟩ := Option.bind_eq_some_iff.1 hvalue
      rw [Parameter.entry?] at hentry
      split at hentry
      · assumption
      · cases hentry

/-- What a configuration is refused for is not reported: a key is no text or a mapping groups
itself; or, with a flat form, the first value that is refused breaks its conversion. -/
inductive Breaks (source : String) (entries : Config.Entries) : Prop where
  | key {leaf : Value × Value} {cause : Config.KeyFault} (hleaf : leaf ∈ Config.leaves entries)
      (hcause : Config.leafFault? leaf = some cause)
  | value {flat : List (String × Value)} {name : String} {value : Value} {p : Parameter}
      (hflat : Config.flatten entries = .ok flat)
      (hfirst : flat.find? (fun entry => (grammar.refusal? source entry).isSome) =
        some (name, value))
      (hname : grammar.configurable? name = some p) (hbreaks : p.breaksOn value = true)

section

variable {source : String} {entries : Config.Entries}

/-- The first value that a function has on a list is the one where it first has any. -/
theorem findSome?_eq_bind_find? {α β : Type} (f : α → Option β) (l : List α) :
    l.findSome? f = (l.find? fun a => (f a).isSome).bind f := by
  induction l with
  | nil => rfl
  | cons a l ih =>
    rw [List.findSome?_cons, List.find?_cons]
    cases h : f a with
    | none => exact ih
    | some b => exact h.symm

/-- A configuration with a flat form does what the entries of that do. -/
theorem result_withConfig (source : String) {flat : List (String × Value)}
    (h : Config.flatten entries = .ok flat) :
    (grammar.withConfig source entries).result =
      match (flat.find? fun entry => (grammar.refusal? source entry).isSome).bind
        (grammar.refusal? source) with
      | some fault => .error (.setting fault)
      | none => .ok (grammar.afterEntries source flat) := by
  rw [← findSome?_eq_bind_find?, Grammar.withConfig, h]
  exact result_withEntries distinct_grammar (Config.lookup_flatten h).1

/-- A configuration without a flat form has a leaf of which the key is at fault. -/
theorem breaks_of_error {cause : Config.KeyFault} (h : Config.flatten entries = .error cause) :
    Breaks source entries := by
  have hkeys := Config.faultOf?_flatten entries
  rw [h] at hkeys
  obtain ⟨leaf, hleaf, hcause⟩ := List.exists_of_findSome?_eq_some hkeys.symm
  exact .key hleaf hcause

/-- A configuration with a flat form breaks for nothing but the first value that is refused. -/
theorem breaks_iff_of_flatten {flat : List (String × Value)}
    (h : Config.flatten entries = .ok flat) :
    Breaks source entries ↔ ∃ name value p,
      flat.find? (fun entry => (grammar.refusal? source entry).isSome) = some (name, value) ∧
        grammar.configurable? name = some p ∧ p.breaksOn value = true := by
  refine ⟨fun hbreaks => ?_, fun ⟨_, _, _, hfirst, hname, hbreaks⟩ => .value h hfirst hname hbreaks⟩
  -- a configuration with a flat form has no fault of a key
  cases hbreaks with
  | key hleaf hcause =>
    have hkeys := Config.faultOf?_flatten entries
    rw [h] at hkeys
    rw [List.findSome?_eq_none_iff.1 hkeys.symm _ hleaf] at hcause
    cases hcause
  | value hflat hfirst hname hbreaks =>
    obtain rfl := Except.ok.inj (h.symm.trans hflat)
    exact ⟨_, _, _, hfirst, hname, hbreaks⟩

/-- The refusal of the first entry that is refused is reported, unless the configuration breaks. -/
theorem isReported_iff_of_first {flat : List (String × Value)} {entry : String × Value}
    {fault : SettingFault} (hflatten : Config.flatten entries = .ok flat)
    (hfirst : flat.find? (fun entry => (grammar.refusal? source entry).isSome) = some entry)
    (hfault : grammar.refusal? source entry = some fault) :
    fault.isReported = false ↔ Breaks source entries := by
  rw [Grammar.refusal?] at hfault
  obtain ⟨p, hname, hp⟩ := Option.bind_eq_some_iff.1 hfault
  have hreported := Parameter.isReported_of_convert
    (choosesText_parameters p (List.mem_of_find?_eq_some hname)) (faultOf?_eq_some.1 hp)
  rw [hreported, Bool.not_eq_false', breaks_iff_of_flatten hflatten]
  refine ⟨fun hbreaks => ⟨_, _, _, hfirst, hname, hbreaks⟩, ?_⟩
  -- the first entry that is refused is one, so it is the same value
  rintro ⟨name, value, q, hentry, hq, hbreaks⟩
  obtain rfl := Option.some.inj (hfirst.symm.trans hentry)
  obtain rfl := Option.some.inj (hname.symm.trans hq)
  exact hbreaks

/-- How a run ends whose configuration is refused. -/
theorem fail_config (fault : ConfigFault) (s : Program.State) :
    Program.fail s (.config fault) =
      if fault.isReported then
        (s.complain (Program.errorLine fault.message), .exit Program.Failure.refusedStatus)
      else (s, .crash (.config fault)) := by
  rw [Program.fail, Program.Failure.status?]
  cases fault.isReported <;> rfl

/-- **A configuration gives settings new defaults and changes nothing else, or is refused.** A
refusal ends the run with a line about it and the status of refused settings, but where it is not
reported: there the run ends without a status. -/
theorem withConfig_reports_iff (source : String) (entries : Config.Entries) :
    (∃ configured, (grammar.withConfig source entries).result = .ok configured ∧
      DifferInDefaults grammar configured ∧ ¬ Breaks source entries) ∨
    ∃ fault, (grammar.withConfig source entries).result = .error fault ∧
      (fault.isReported = false ↔ Breaks source entries) ∧
      ∀ s, Program.fail s (.config fault) =
        if fault.isReported then
          (s.complain (Program.errorLine fault.message), .exit Program.Failure.refusedStatus)
        else (s, .crash (.config fault)) := by
  -- faults of keys come before those of values
  cases hflatten : Config.flatten entries with
  | error cause =>
    refine .inr ⟨.key cause, ?_, ⟨fun _ => breaks_of_error hflatten, fun _ => rfl⟩, fail_config _⟩
    rw [Grammar.withConfig, hflatten]
  | ok flat =>
    have hresult := result_withConfig source hflatten
    cases hfirst : flat.find? fun entry => (grammar.refusal? source entry).isSome with
    | none =>
      rw [hfirst] at hresult
      refine .inl ⟨_, hresult, differInDefaults_afterEntries grammar source flat, ?_⟩
      rw [breaks_iff_of_flatten hflatten, hfirst]
      rintro ⟨_, _, _, hentry, -⟩
      cases hentry
    | some entry =>
      have hrefused : (grammar.refusal? source entry).isSome = true :=
        List.find?_some (p := fun entry => (grammar.refusal? source entry).isSome) hfirst
      obtain ⟨fault, hfault⟩ := Option.isSome_iff_exists.1 hrefused
      rw [hfirst, Option.bind_some, hfault] at hresult
      exact .inr ⟨_, hresult, isReported_iff_of_first hflatten hfirst hfault, fail_config _⟩

/-- An infinite number of passes is not reported. -/
theorem not_reported_infinitePasses :
    ¬ ∀ (source : String) (entries : Config.Entries) (fault : ConfigFault),
      (grammar.withConfig source entries).result = .error fault → fault.isReported = true := by
  intro h
  have hinfinite : (grammar.withConfig "config.toml"
      [(.str "passes", .float (1.0 / 0.0))]).result = .error (.setting .infinite) := by
    rfl
  exact nomatch h _ _ _ hinfinite

end

end MarkTex.CommandLine
