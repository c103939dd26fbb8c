import Mathlib.Data.List.Forall2
import MarkTex.Proofs.CommandLine.Occurrence

/-!
# Parts of a grammar

A part of a grammar knows some of its options, and no input (`Part`). Where the grammar can tell
arguments apart, so can its part (`Part.classifyAll`): a known option is the same option, and any
other is no option, but a value or not recognised (`Counterpart`).

## Shape of the proof

An argument can be short for the options that start with it. Those that the part knows are those of
the grammar that are kept (`Part.candidates_filter`), so what is short for one option of the grammar
is short for this one or for none. An argument with the full name of another option is short for
none, since no other option is the start of a known one (`Part.candidates_eq_nil`).
-/

namespace MarkTex.CommandLine

/-- A grammar that knows the options of another that are kept, and takes no input. These have long
names, and no other option has a name with which one of theirs starts. -/
structure Part (keep : Parameter → Bool) (g part : Grammar) : Prop where
  parameters : part.parameters = g.parameters.filter keep
  noInput : part.takesInput = false
  long : ∀ p ∈ part.parameters, ∀ n ∈ p.names,
    ['-', '-'].isPrefixOf n.toList = true ∧ 2 < n.toList.length
  apart : ∀ p ∈ g.parameters, keep p = false → ∀ m ∈ p.names,
    ∀ q ∈ part.parameters, ∀ n ∈ q.names, m.toList.isPrefixOf n.toList = false
  noSign : ∀ p ∈ g.parameters, ∀ n ∈ p.names, '=' ∉ n.toList

/-- What an argument is for a grammar, and what it is for the part that knows the options that are
kept. -/
inductive Counterpart (keep : Parameter → Bool) : Piece → Piece → Prop
  | known (found : Found) (hkeep : keep found.parameter = true)
      (hlong : isShort found.name = false) : Counterpart keep (.option found) (.option found)
  | other (found : Found) (piece : Piece) (hkeep : keep found.parameter = false)
      (hpiece : piece = .unknown ∨ piece = .value) : Counterpart keep (.option found) piece
  | unknown : Counterpart keep .unknown .unknown
  | value : Counterpart keep .value .value
  | mark : Counterpart keep .mark .mark

/-- Arguments with what they are for a grammar and for its part. -/
def Counterparts (keep : Parameter → Bool) : List (Text × Piece) → List (Text × Piece) → Prop :=
  List.Forall₂ fun whole part => whole.1 = part.1 ∧ Counterpart keep whole.2 part.2

/-! ## Finding options -/

/-- An argument without an equals sign has no value joined to it. -/
theorem cutSign_of_not_mem {argument : Text} (h : '=' ∉ argument) :
    cutSign argument = (argument, none) := by
  have hcut : Text.cutAt ['='] argument = none := by
    induction argument with
    | nil => rfl
    | cons c rest ih =>
      rw [List.mem_cons, not_or] at h
      rw [Text.cutAt, if_neg, ih h.2]
      · rfl
      · simpa using h.1
  rw [cutSign, hcut]

/-- What is found by a name is a parameter of the grammar with that name. -/
theorem Grammar.find?_eq_some {g : Grammar} {name : Text} {p : Parameter}
    (h : g.find? name = some p) : p ∈ g.parameters ∧ ∃ n ∈ p.names, n.toList = name := by
  rw [find?] at h
  refine ⟨List.mem_of_find?_eq_some h, ?_⟩
  have hnamed := List.find?_some h
  obtain ⟨n, hn, hname⟩ := List.any_eq_true.1 hnamed
  exact ⟨n, hn, of_decide_eq_true hname⟩

/-- The options of one parameter that an argument can be. -/
def Parameter.offers (argument : Text) (p : Parameter) : List Found :=
  p.names.filterMap fun name =>
    if ['-', '-'].isPrefixOf argument then
      if (cutSign argument).1.isPrefixOf name.toList then
        some ⟨p, name.toList, (cutSign argument).2⟩
      else none
    else if name.toList = argument.take 2 then some ⟨p, name.toList, some (argument.drop 2)⟩
    else if argument.isPrefixOf name.toList then some ⟨p, name.toList, none⟩
    else none

/-- The candidates for an argument are what each parameter offers, long or short. -/
theorem Grammar.candidates_eq (g : Grammar) (argument : Text) :
    g.candidates argument = g.parameters.flatMap (Parameter.offers argument) := by
  rw [candidates]
  by_cases hlong : ['-', '-'].isPrefixOf argument = true
  · rw [if_pos hlong, longCandidates]
    refine congrArg (g.parameters.flatMap ·) (funext fun p => ?_)
    rw [Parameter.offers]
    simp only [if_pos hlong]
    rfl
  · rw [if_neg hlong, shortCandidates]
    refine congrArg (g.parameters.flatMap ·) (funext fun p => ?_)
    rw [Parameter.offers]
    simp only [if_neg hlong]

/-- An option that an argument can be has its name from its parameter. -/
theorem Parameter.of_mem_offers {argument : Text} {p : Parameter} {found : Found}
    (h : found ∈ p.offers argument) :
    found.parameter = p ∧ ∃ n ∈ p.names, n.toList = found.name := by
  obtain ⟨n, hn, hmade⟩ := List.mem_filterMap.1 h
  have hmade' : found.parameter = p ∧ n.toList = found.name := by
    split at hmade
    · -- a value after the equals sign, a long name cut short, or a short name with letters behind
      -- it
      split at hmade
      · rw [← Option.some.inj hmade]
        exact ⟨rfl, rfl⟩
      · cases hmade
    split at hmade
    · rw [← Option.some.inj hmade]
      exact ⟨rfl, rfl⟩
    split at hmade
    · rw [← Option.some.inj hmade]
      exact ⟨rfl, rfl⟩
    · cases hmade
  exact ⟨hmade'.1, n, hn, hmade'.2⟩

/-- A candidate is a parameter of the grammar, found by one of its names. -/
theorem Grammar.of_mem_candidates {g : Grammar} {argument : Text} {found : Found}
    (h : found ∈ g.candidates argument) :
    found.parameter ∈ g.parameters ∧ ∃ n ∈ found.parameter.names, n.toList = found.name := by
  rw [candidates_eq] at h
  obtain ⟨p, hp, hfound⟩ := List.mem_flatMap.1 h
  obtain ⟨rfl, hname⟩ := Parameter.of_mem_offers hfound
  exact ⟨hp, hname⟩

/-- Where what is found tells whether it is kept, it is looked for among what is kept. -/
theorem find?_filter_eq {α : Type} {keep found : α → Bool} {items : List α}
    (h : ∀ a ∈ items, found a = true → ∀ b ∈ items, found b = true → keep a = keep b) :
    (items.filter keep).find? found = (items.find? found).filter keep := by
  induction items with
  | nil => rfl
  | cons item items ih =>
    have hrest : (items.filter keep).find? found = (items.find? found).filter keep :=
      ih fun a ha hfa b hb hfb => h a (.tail _ ha) hfa b (.tail _ hb) hfb
    rw [List.find?_cons, List.filter_cons]
    cases hitem : found item with
    | true =>
      dsimp only
      rw [Option.filter_some]
      cases hkeep : keep item with
      | true => rw [if_pos rfl, if_pos rfl, List.find?_cons, hitem]
      | false =>
        rw [if_neg Bool.false_ne_true, if_neg Bool.false_ne_true, List.find?_eq_none]
        intro other hother hfound
        rw [List.mem_filter] at hother
        -- all that could be found are kept alike, and the first one is not kept
        have hsame := h item List.mem_cons_self hitem other (.tail _ hother.1) hfound
        rw [hkeep, hother.2] at hsame
        cases hsame
    | false =>
      dsimp only
      rw [← hrest]
      split
      · rw [List.find?_cons, hitem]
      · rfl

/-- What is found for the parameters that are kept is what is kept of all that is found. -/
theorem flatMap_filter_parameter {keep : Parameter → Bool} {find : Parameter → List Found}
    (h : ∀ p, ∀ found ∈ find p, found.parameter = p) (ps : List Parameter) :
    (ps.filter keep).flatMap find =
      (ps.flatMap find).filter fun found => keep found.parameter := by
  rw [List.filter_flatMap]
  induction ps with
  | nil => rfl
  | cons p ps ih =>
    rw [List.flatMap_cons, ← ih, List.filter_cons]
    cases hkeep : keep p with
    | true =>
      have hall : (find p).filter (fun found => keep found.parameter) = find p :=
        List.filter_eq_self.2 fun found hfound => by rw [h p found hfound, hkeep]
      rw [if_pos rfl, List.flatMap_cons, hall]
    | false =>
      have hnone : (find p).filter (fun found => keep found.parameter) = [] :=
        List.filter_eq_nil_iff.2 fun found hfound => by
          rw [h p found hfound, hkeep]
          exact Bool.false_ne_true
      rw [if_neg Bool.false_ne_true, hnone, List.nil_append]

namespace Part

variable {keep : Parameter → Bool} {g part : Grammar} (h : Part keep g part)

include h

/-- The part has the parameters of the grammar that are kept. -/
theorem mem_parameters {p : Parameter} :
    p ∈ part.parameters ↔ p ∈ g.parameters ∧ keep p = true := by
  rw [h.parameters, List.mem_filter]

/-- A parameter that is kept has no short name. -/
theorem isShort_of_keep {p : Parameter} (hp : p ∈ g.parameters) (hkeep : keep p = true) {n : String}
    (hn : n ∈ p.names) : isShort n.toList = false := by
  rw [isShort, (h.long p (h.mem_parameters.2 ⟨hp, hkeep⟩) n hn).1]
  rfl

/-- The part finds by a name what the grammar finds, if it is kept. -/
theorem find?_eq (name : Text) : part.find? name = (g.find? name).filter keep := by
  rw [Grammar.find?, Grammar.find?, h.parameters]
  -- an option that is kept cannot share its name with one that is not
  have hapart : ∀ p ∈ g.parameters, (p.names.any fun n => n.toList = name) = true →
      ∀ q ∈ g.parameters, (q.names.any fun n => n.toList = name) = true →
        keep p = false → keep q = true → False := by
    intro p hp hpname q hq hqname hpkeep hqkeep
    obtain ⟨m, hm, hmname⟩ := List.any_eq_true.1 hpname
    obtain ⟨n, hn, hnname⟩ := List.any_eq_true.1 hqname
    have hnot := h.apart p hp hpkeep m hm q (h.mem_parameters.2 ⟨hq, hqkeep⟩) n hn
    have hsame : m.toList = n.toList :=
      (of_decide_eq_true hmname).trans (of_decide_eq_true hnname).symm
    have hstarts : m.toList.isPrefixOf n.toList = true :=
      List.isPrefixOf_iff_prefix.2 (hsame ▸ List.prefix_rfl)
    rw [hstarts] at hnot
    cases hnot
  refine find?_filter_eq fun p hp hpname q hq hqname => ?_
  cases hpkeep : keep p with
  | true =>
    cases hqkeep : keep q with
    | true => rfl
    | false => exact (hapart q hq hqname p hp hpname hqkeep hpkeep).elim
  | false =>
    cases hqkeep : keep q with
    | true => exact (hapart p hp hpname q hq hqname hpkeep hqkeep).elim
    | false => rfl

/-- The candidates of the part are those of the grammar that are kept. -/
theorem candidates_filter (argument : Text) :
    part.candidates argument =
      (g.candidates argument).filter fun found => keep found.parameter := by
  rw [Grammar.candidates_eq, Grammar.candidates_eq, h.parameters]
  exact flatMap_filter_parameter (fun p found hfound => (Parameter.of_mem_offers hfound).1) _

/-- An argument that names another option can be none of the part. -/
theorem candidates_eq_nil {p : Parameter} (hp : p ∈ g.parameters) (hkeep : keep p = false)
    {m : String} (hm : m ∈ p.names) {argument : Text} (hname : (cutSign argument).1 = m.toList)
    (hlength : 2 ≤ argument.length) : part.candidates argument = [] := by
  rw [Grammar.candidates_eq, List.flatMap_eq_nil_iff]
  intro q hq
  rw [Parameter.offers, List.filterMap_eq_nil_iff]
  intro n hn
  -- a name that is kept has two hyphens and more, and starts with no name of another option
  obtain ⟨hlong, hmore⟩ := h.long q hq n hn
  split
  · rw [hname, h.apart p hp hkeep m hm q hq n hn]
    rfl
  · rename_i hhyphens
    rw [if_neg, if_neg]
    · intro hstarts
      rw [List.isPrefixOf_iff_prefix] at hhyphens hlong hstarts
      exact hhyphens (List.prefix_of_prefix_length_le hlong hstarts hlength)
    · intro htake
      rw [htake, List.length_take] at hmore
      omega

/-! ## Telling arguments apart -/

/-- An argument that is clear among candidates is clear among the kept ones, and a counterpart of
what it was. -/
theorem pieceAmong_filter {argument : Text} {candidates : List Found} {piece : Piece}
    (hfound : ∀ found ∈ candidates,
      found.parameter ∈ g.parameters ∧ ∃ n ∈ found.parameter.names, n.toList = found.name)
    (hpiece : pieceAmong argument candidates = .ok piece) :
    ∃ piece', pieceAmong argument (candidates.filter fun found => keep found.parameter) =
      .ok piece' ∧ Counterpart keep piece piece' := by
  match candidates with
  | [] =>
    rw [List.filter_nil, hpiece]
    rw [pieceAmong] at hpiece
    split at hpiece
    · rw [← Except.ok.inj hpiece]
      exact ⟨.value, rfl, .value⟩
    · rw [← Except.ok.inj hpiece]
      exact ⟨.unknown, rfl, .unknown⟩
  | [found] =>
    obtain ⟨hmem, n, hn, hname⟩ := hfound found List.mem_cons_self
    obtain rfl := Except.ok.inj hpiece
    rw [List.filter_singleton]
    cases hkeep : keep found.parameter with
    | true =>
      exact ⟨.option found, rfl, .known found hkeep (hname ▸ h.isShort_of_keep hmem hkeep hn)⟩
    | false =>
      rw [cond_false, pieceAmong]
      split
      · exact ⟨.value, rfl, .other found .value hkeep (.inr rfl)⟩
      · exact ⟨.unknown, rfl, .other found .unknown hkeep (.inl rfl)⟩
  | first :: second :: others => cases hpiece

/-- An argument that names another option is for the part a value or not recognised. -/
theorem pieceAmong_other {p : Parameter} (hp : p ∈ g.parameters) (hkeep : keep p = false)
    {m : String} (hm : m ∈ p.names) {argument : Text} (hname : (cutSign argument).1 = m.toList)
    (hlength : 2 ≤ argument.length) :
    ∃ piece, pieceAmong argument (part.candidates argument) = .ok piece ∧
      (piece = .unknown ∨ piece = .value) := by
  rw [h.candidates_eq_nil hp hkeep hm hname hlength, pieceAmong]
  split
  · exact ⟨.value, rfl, .inr rfl⟩
  · exact ⟨.unknown, rfl, .inl rfl⟩

/-- An argument with a hyphen that the grammar can tell is told by the part, too. -/
theorem classifyHyphened {argument : Text} {piece : Piece} (hlength : 2 ≤ argument.length)
    (hpiece : g.classifyHyphened argument = .ok piece) :
    ∃ piece', part.classifyHyphened argument = .ok piece' ∧ Counterpart keep piece piece' := by
  rw [Grammar.classifyHyphened] at hpiece ⊢
  cases hcut : cutSign argument with
  | mk name joined =>
    -- where nothing is found by the whole name, the candidates decide for both
    have hamong : pieceAmong argument (g.candidates argument) = .ok piece →
        ∃ piece', pieceAmong argument (part.candidates argument) = .ok piece' ∧
          Counterpart keep piece piece' := by
      rw [h.candidates_filter]
      exact h.pieceAmong_filter fun found hfound => Grammar.of_mem_candidates hfound
    rw [hcut] at hpiece
    dsimp only at hpiece ⊢
    rw [h.find?_eq]
    cases joined with
    | none => exact hamong hpiece
    | some value =>
      cases hfind : g.find? name with
      | none =>
        rw [hfind] at hpiece
        exact hamong hpiece
      | some p =>
        rw [hfind] at hpiece
        obtain rfl := Except.ok.inj hpiece
        obtain ⟨hp, n, hn, hname⟩ := Grammar.find?_eq_some hfind
        rw [Option.filter_some]
        cases hkeep : keep p with
        | true => exact ⟨_, rfl, .known _ hkeep (hname ▸ h.isShort_of_keep hp hkeep hn)⟩
        | false =>
          obtain ⟨piece', hpiece', hleft⟩ :=
            h.pieceAmong_other hp hkeep hn (by rw [hcut, hname]) hlength
          exact ⟨piece', hpiece', .other _ piece' hkeep hleft⟩

/-- What an argument is for the part follows from what it is for the grammar. -/
theorem classify {argument : Text} {piece : Piece} (hpiece : g.classify argument = .ok piece) :
    ∃ piece', part.classify argument = .ok piece' ∧ Counterpart keep piece piece' := by
  match argument with
  | [] =>
    obtain rfl := Except.ok.inj hpiece
    exact ⟨.value, rfl, .value⟩
  | c :: rest =>
    -- without a hyphen an argument is a value for every grammar
    by_cases hhyphen : c = '-'
    · subst hhyphen
      rw [Grammar.classify] at hpiece ⊢
      rw [h.find?_eq]
      cases hfind : g.find? ('-' :: rest) with
      | some p =>
        rw [hfind] at hpiece
        obtain rfl := Except.ok.inj hpiece
        obtain ⟨hp, n, hn, hname⟩ := Grammar.find?_eq_some hfind
        rw [Option.filter_some]
        cases hkeep : keep p with
        | true => exact ⟨_, rfl, .known _ hkeep (hname ▸ h.isShort_of_keep hp hkeep hn)⟩
        | false =>
          cases rest with
          | nil => exact ⟨.value, rfl, .other _ .value hkeep (.inr rfl)⟩
          | cons c rest =>
            have hcut : cutSign ('-' :: c :: rest) = ('-' :: c :: rest, none) :=
              cutSign_of_not_mem (hname ▸ h.noSign p hp n hn)
            obtain ⟨piece', hpiece', hleft⟩ :=
              h.pieceAmong_other hp hkeep hn (by rw [hcut, hname]) (by simp)
            refine ⟨piece', ?_, .other _ piece' hkeep hleft⟩
            rw [if_neg Bool.false_ne_true, if_neg (by simp), Grammar.classifyHyphened, hcut]
            exact hpiece'
      | none =>
        rw [hfind] at hpiece
        rw [Option.filter_none]
        cases rest with
        | nil =>
          obtain rfl := Except.ok.inj hpiece
          exact ⟨.value, rfl, .value⟩
        | cons c rest => exact h.classifyHyphened (by simp) hpiece
    · have hvalue : ∀ grammar : Grammar, grammar.classify (c :: rest) = .ok .value := by
        intro grammar
        rw [Grammar.classify.eq_2]
        rintro tail htail
        exact hhyphen (List.cons.inj htail).1
      rw [hvalue] at hpiece
      obtain rfl := Except.ok.inj hpiece
      exact ⟨.value, hvalue part, .value⟩

/-- What the arguments of a command line are for the part follows from what they are for the
grammar. -/
theorem classifyAll {arguments : List Text} {pieces : List (Text × Piece)}
    (hpieces : g.classifyAll arguments = .ok pieces) :
    ∃ pieces', part.classifyAll arguments = .ok pieces' ∧ Counterparts keep pieces pieces' := by
  induction arguments generalizing pieces with
  | nil =>
    obtain rfl := Except.ok.inj hpieces
    exact ⟨[], rfl, .nil⟩
  | cons argument rest ih =>
    rw [Grammar.classifyAll] at hpieces ⊢
    split at hpieces
    · rename_i hmark
      rw [if_pos hmark, ← Except.ok.inj hpieces]
      refine ⟨_, rfl, .cons ⟨rfl, .mark⟩ ?_⟩
      -- what stands behind the mark is a value for both
      rw [List.forall₂_map_left_iff, List.forall₂_map_right_iff, List.forall₂_same]
      exact fun value _ => ⟨rfl, .value⟩
    · rename_i hmark
      rw [if_neg hmark]
      cases hpiece : g.classify argument with
      | error fault =>
        rw [hpiece] at hpieces
        cases hpieces
      | ok piece =>
        rw [hpiece] at hpieces
        cases hrest : g.classifyAll rest with
        | error fault =>
          rw [hrest] at hpieces
          cases hpieces
        | ok others =>
          rw [hrest] at hpieces
          obtain rfl := Except.ok.inj hpieces
          obtain ⟨piece', hpiece', hcounterpart⟩ := h.classify hpiece
          obtain ⟨others', hothers', hcounterparts⟩ := ih hrest
          refine ⟨(argument, piece') :: others', ?_, .cons ⟨rfl, hcounterpart⟩ hcounterparts⟩
          rw [hpiece', hothers']
          rfl

end Part

end MarkTex.CommandLine
