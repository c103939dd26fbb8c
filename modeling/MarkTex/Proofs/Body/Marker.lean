import Mathlib.Logic.ExistsUnique
import MarkTex.Proofs.Body.Phrase

/-!
# Markers and their partners

A closing marker goes with the innermost marker that is open, if it closes markers of that kind, and
with none otherwise. This alone decides how children are read into phrases: there is exactly one
list of phrases whose markers go together in this way, whose runs are as long as can be, and which
holds every child once and in order (`Stacked`, `existsUnique_stacked`). Running text is emitted as
these phrases, each marker that was closed around the phrases inside of it (`textOfPhrases`).

## Shape of the proof

* The children are read in one pass. What is held on the way is a level of closed phrases for each
  marker that is open (`Held`); reading one more child keeps this, and at the end the levels make up
  stacked phrases (`stacked_arrangeFrom`).
* The other way round, reading the children of stacked phrases holds just these phrases, level by
  level (`arrangeFrom_children`), so no others are possible.
-/

namespace MarkTex.Body

open Markdown (Token)

/-! ## Kinds of children -/

/-- Whether a child is neither part of a run nor a marker. -/
def isLeafKind (kind : String) : Bool :=
  !isRunKind kind && (closerOf? kind).isNone && !isCloser kind

/-- Opening markers, closing markers and parts of runs are told apart by their kinds. -/
theorem kinds_of_closerOf? {opener closer : String} (h : closerOf? opener = some closer) :
    isRunKind opener = false ∧ isRunKind closer = false ∧ closerOf? closer = none ∧
      isCloser closer = true := by
  rw [closerOf?] at h
  split at h
  · rename_i hkind
    obtain rfl := Option.some.inj h
    subst hkind
    decide
  split at h
  · rename_i hkind
    obtain rfl := Option.some.inj h
    subst hkind
    decide
  split at h
  · rename_i hkind
    obtain rfl := Option.some.inj h
    subst hkind
    decide
  split at h
  · rename_i hkind
    obtain rfl := Option.some.inj h
    subst hkind
    decide
  · exact nomatch h

/-- A closing marker is neither part of a run nor an opening one. -/
theorem kinds_of_isCloser {kind : String} (h : isCloser kind = true) :
    isRunKind kind = false ∧ closerOf? kind = none := by
  rw [isCloser, Bool.or_eq_true, Bool.or_eq_true, Bool.or_eq_true] at h
  rcases h with ((h | h) | h) | h <;> obtain rfl := of_decide_eq_true h <;> decide

/-! ## Stacked phrases -/

namespace Phrase

/-- Whether a phrase is a run. -/
def isRun : Phrase → Bool
  | run _ => true
  | _ => false

/-- Whether a phrase is an opening marker that nothing closes. -/
def isUnclosed : Phrase → Bool
  | unclosed _ => true
  | _ => false

/-- The innermost marker that is open behind a phrase. -/
def innermostAfter (innermost : Option Token) : Phrase → Option Token
  | unclosed opener => some opener
  | _ => innermost

/-- A phrase that is closed leaves the same marker innermost. -/
theorem innermostAfter_of_closed {phrase : Phrase} (h : phrase.isUnclosed = false)
    (innermost : Option Token) : phrase.innermostAfter innermost = innermost := by
  cases phrase with
  | unclosed opener => exact nomatch h
  | run | leaf | marked | unmatched => rfl

end Phrase

/-- No two runs stand side by side where the first phrases end and the others start. -/
def Apart (phrases others : List Phrase) : Prop :=
  ∀ last ∈ phrases.getLast?, ∀ next ∈ others.head?, last.isRun = true → next.isRun = false

/-- Nothing is left open by the phrases. -/
def Closed (phrases : List Phrase) : Prop :=
  ∀ phrase ∈ phrases, phrase.isUnclosed = false

mutual

/-- Whether a phrase may stand where `innermost` is the innermost marker that is open: a closing
marker without partner must not close that marker, and what stands between two partners leaves
nothing open. -/
def Phrase.Fits (innermost : Option Token) : Phrase → Prop
  | .run children => children ≠ [] ∧ ∀ child ∈ children, isRunKind child.kind = true
  | .leaf child => isLeafKind child.kind = true
  | .marked opener closer inner =>
    closerOf? opener.kind = some closer.kind ∧ Closed inner ∧ PhrasesFit (some opener) inner
  | .unclosed opener => (closerOf? opener.kind).isSome = true
  | .unmatched closer =>
    isCloser closer.kind = true ∧ ∀ opener ∈ innermost, closerOf? opener.kind ≠ some closer.kind

/-- Whether phrases may stand behind each other where `innermost` is the innermost marker that is
open. A marker that nothing closes is the innermost one for the phrases behind it. -/
def PhrasesFit (innermost : Option Token) : List Phrase → Prop
  | [] => True
  | phrase :: phrases =>
    phrase.Fits innermost ∧ Apart [phrase] phrases ∧
      PhrasesFit (phrase.innermostAfter innermost) phrases

end

/-- The markers of a running text go together as a stack of open markers has it. -/
def Stacked (phrases : List Phrase) : Prop :=
  PhrasesFit none phrases

mutual

/-- The children that a phrase was read from. -/
def Phrase.children : Phrase → List Token
  | .run children => children
  | .leaf child => [child]
  | .marked opener closer inner => opener :: childrenOfPhrases inner ++ [closer]
  | .unclosed opener => [opener]
  | .unmatched closer => [closer]

/-- The children that phrases were read from. -/
def childrenOfPhrases : List Phrase → List Token
  | [] => []
  | phrase :: phrases => phrase.children ++ childrenOfPhrases phrases

end

theorem childrenOfPhrases_append (phrases others : List Phrase) :
    childrenOfPhrases (phrases ++ others) =
      childrenOfPhrases phrases ++ childrenOfPhrases others := by
  induction phrases with
  | nil => rfl
  | cons phrase phrases ih =>
    rw [List.cons_append, childrenOfPhrases, ih, childrenOfPhrases, List.append_assoc]

theorem childrenOfPhrases_singleton (phrase : Phrase) :
    childrenOfPhrases [phrase] = phrase.children := by
  rw [childrenOfPhrases, childrenOfPhrases, List.append_nil]

/-- A run that is closed has the children it had, and an empty one makes no phrase. -/
theorem childrenOfPhrases_closeRun (run : List Token) : childrenOfPhrases (closeRun run) = run := by
  rw [closeRun]
  split
  · rename_i hrun
    rw [List.isEmpty_iff.1 hrun, childrenOfPhrases]
  · rw [childrenOfPhrases_singleton, Phrase.children]

/-! ## Phrases behind phrases -/

/-- A phrase that is no run is apart from whatever is in front of it. -/
theorem Apart.of_not_run {phrases others : List Phrase} {phrase : Phrase}
    (h : phrase.isRun = false) : Apart phrases (phrase :: others) := by
  intro last _ next hnext _
  obtain rfl := Option.some.inj hnext
  exact h

/-- Where nothing follows, no two runs touch. -/
theorem apart_nil (phrases : List Phrase) : Apart phrases [] := by
  intro last _ next hnext
  exact nomatch hnext

theorem phrasesFit_singleton {innermost : Option Token} {phrase : Phrase} :
    PhrasesFit innermost [phrase] ↔ phrase.Fits innermost := by
  rw [PhrasesFit, PhrasesFit]
  exact ⟨And.left, fun h => ⟨h, apart_nil _, trivial⟩⟩

theorem closed_nil : Closed [] :=
  fun _ h => absurd h List.not_mem_nil

theorem closed_singleton {phrase : Phrase} (h : phrase.isUnclosed = false) : Closed [phrase] := by
  intro other hother
  rw [List.mem_singleton.1 hother]
  exact h

/-- Closed phrases stay so when others that are closed follow. -/
theorem Closed.append {phrases others : List Phrase} (h : Closed phrases) (h' : Closed others) :
    Closed (phrases ++ others) :=
  List.forall_mem_append.2 ⟨h, h'⟩

/-- Phrases that leave nothing open do not matter to the phrases behind them. -/
theorem phrasesFit_append {innermost : Option Token} {phrases others : List Phrase}
    (hclosed : Closed phrases) (hphrases : PhrasesFit innermost phrases)
    (hothers : PhrasesFit innermost others) (hapart : Apart phrases others) :
    PhrasesFit innermost (phrases ++ others) := by
  induction phrases with
  | nil => exact hothers
  | cons phrase phrases ih =>
    have hphrase : phrase.innermostAfter innermost = innermost :=
      Phrase.innermostAfter_of_closed (hclosed phrase List.mem_cons_self) innermost
    rw [PhrasesFit, hphrase] at hphrases
    obtain ⟨hfits, hnext, hrest⟩ := hphrases
    rw [List.cons_append, PhrasesFit, hphrase]
    cases phrases with
    | nil => exact ⟨hfits, hapart, hothers⟩
    | cons next rest =>
      -- the last of the phrases, which must be apart from the others, is the last of the rest as
      -- well
      refine ⟨hfits, hnext, ih (fun p hp => hclosed p (List.mem_cons_of_mem _ hp)) hrest ?_⟩
      intro last hlast
      exact hapart last (by rw [List.getLast?_cons_cons]; exact hlast)

/-! ## What is held while children are read -/

/-- The innermost of the open markers. -/
def innermostOf (markers : List OpenMarker) : Option Token :=
  markers.head?.map OpenMarker.opener

/-- Phrases that may stand where `innermost` is the innermost open marker, and that leave nothing
open. -/
structure Level (innermost : Option Token) (phrases : List Phrase) : Prop where
  closed : Closed phrases
  fit : PhrasesFit innermost phrases

/-- In front of each open marker stands a level of its own. -/
def Held : List OpenMarker → Prop
  | [] => True
  | marker :: outer =>
    (closerOf? marker.opener.kind).isSome = true ∧ Level (innermostOf outer) marker.before ∧
      Held outer

theorem level_nil (innermost : Option Token) : Level innermost [] :=
  ⟨closed_nil, by rw [PhrasesFit]; trivial⟩

/-- A level that does not end with a run, with the run that was read behind it. -/
theorem Level.closeRun {innermost : Option Token} {phrases : List Phrase} {run : List Token}
    (h : Level innermost phrases) (hlast : ∀ last ∈ phrases.getLast?, last.isRun = false)
    (hrun : ∀ child ∈ run, isRunKind child.kind = true) :
    Level innermost (phrases ++ Body.closeRun run) := by
  rw [Body.closeRun]
  split
  · rwa [List.append_nil]
  · rename_i hne
    have hfits : (Phrase.run run).Fits innermost := by
      rw [Phrase.Fits]
      exact ⟨fun hnil => hne (by rw [hnil]; rfl), hrun⟩
    refine ⟨h.closed.append (closed_singleton rfl),
      phrasesFit_append h.closed h.fit (phrasesFit_singleton.2 hfits) ?_⟩
    -- the phrase in front of a run that was just closed is no run, or the run would have taken it
    -- in
    intro last hmem _ _ hisrun
    exact absurd hisrun (by rw [hlast last hmem]; decide)

/-- A level grows by a phrase that is neither a run nor left open. -/
theorem Level.concat {innermost : Option Token} {phrases : List Phrase} {phrase : Phrase}
    (h : Level innermost phrases) (hphrase : phrase.Fits innermost) (hrun : phrase.isRun = false)
    (hclosed : phrase.isUnclosed = false) : Level innermost (phrases ++ [phrase]) where
  closed := h.closed.append (closed_singleton hclosed)
  fit := phrasesFit_append h.closed h.fit (phrasesFit_singleton.2 hphrase) (.of_not_run hrun)

/-- The levels make up stacked phrases when the children end. -/
theorem stacked_leaveOpen {markers : List OpenMarker} {inner : List Phrase} (hheld : Held markers)
    (hinner : PhrasesFit (innermostOf markers) inner) : Stacked (leaveOpen inner markers) := by
  induction markers generalizing inner with
  | nil => exact hinner
  | cons marker outer ih =>
    obtain ⟨hopener, hlevel, houter⟩ := hheld
    rw [leaveOpen]
    -- an opener that stays open stands between its level and what was inside, so no runs touch
    -- there
    refine ih houter (phrasesFit_append hlevel.closed hlevel.fit ?_ (.of_not_run rfl))
    have hfits : (Phrase.unclosed marker.opener).Fits (innermostOf outer) := by
      rw [Phrase.Fits]
      exact hopener
    rw [PhrasesFit]
    refine ⟨hfits, ?_, hinner⟩
    intro last hlast _ _ hrun
    obtain rfl := Option.some.inj hlast
    exact absurd hrun Bool.false_ne_true

/-- Children that are left are read into stacked phrases if what is held in front of them is made of
levels. -/
theorem stacked_arrangeFrom {markers : List OpenMarker} {done : List Phrase} {run : List Token}
    (hheld : Held markers) (hdone : Level (innermostOf markers) done)
    (hlast : ∀ last ∈ done.getLast?, last.isRun = false)
    (hrun : ∀ child ∈ run, isRunKind child.kind = true) (children : List Token) :
    Stacked (arrangeFrom markers done run children) := by
  induction children generalizing markers done run with
  | nil => exact stacked_leaveOpen hheld (hdone.closeRun hlast hrun).fit
  | cons child rest ih =>
    have hnorun : ∀ child ∈ ([] : List Token), isRunKind child.kind = true :=
      fun _ h => absurd h List.not_mem_nil
    have hlevel := hdone.closeRun hlast hrun
    -- behind a phrase that is no run, a new run may start
    have hends : ∀ {phrases : List Phrase} {phrase : Phrase}, phrase.isRun = false →
        ∀ last ∈ (phrases ++ [phrase]).getLast?, last.isRun = false := by
      intro phrases phrase hphrase last hmem
      rw [List.getLast?_concat] at hmem
      obtain rfl := Option.some.inj hmem
      exact hphrase
    rw [arrangeFrom]
    by_cases hchild : isRunKind child.kind = true
    · rw [if_pos hchild]
      exact ih hheld hdone hlast (List.forall_mem_append.2 ⟨hrun, by simpa using hchild⟩)
    rw [if_neg hchild]
    by_cases hopener : (closerOf? child.kind).isSome = true
    · rw [if_pos hopener]
      exact ih ⟨hopener, hlevel, hheld⟩ (level_nil _) (by simp) hnorun
    rw [if_neg hopener]
    by_cases hcloser : isCloser child.kind = true
    · rw [if_pos hcloser]
      cases markers with
      | nil =>
        have hfits : (Phrase.unmatched child).Fits none := by
          rw [Phrase.Fits]
          exact ⟨hcloser, by simp⟩
        exact ih hheld (hlevel.concat hfits rfl rfl) (hends rfl) hnorun
      | cons marker outer =>
        by_cases hmatch : closerOf? marker.opener.kind = some child.kind
        · simp only [if_pos hmatch]
          obtain ⟨-, hbefore, houter⟩ := hheld
          have hfits : (Phrase.marked marker.opener child (done ++ closeRun run)).Fits
              (innermostOf outer) := by
            rw [Phrase.Fits]
            exact ⟨hmatch, hlevel.closed, hlevel.fit⟩
          exact ih houter (hbefore.concat hfits rfl rfl) (hends rfl) hnorun
        · simp only [if_neg hmatch]
          have hfits : (Phrase.unmatched child).Fits (innermostOf (marker :: outer)) := by
            rw [Phrase.Fits]
            refine ⟨hcloser, fun opener hmem => ?_⟩
            obtain rfl := Option.some.inj hmem
            exact hmatch
          exact ih hheld (hlevel.concat hfits rfl rfl) (hends rfl) hnorun
    · rw [if_neg hcloser]
      have hfits : (Phrase.leaf child).Fits (innermostOf markers) := by
        rw [Phrase.Fits, isLeafKind]
        simp [hchild, hcloser, Option.not_isSome_iff_eq_none.1 hopener]
      exact ih hheld (hlevel.concat hfits rfl rfl) (hends rfl) hnorun

/-! ## Every child is held once and in order -/

/-- Phrases that end a level stand at the end of all phrases. -/
theorem children_leaveOpen_append (phrases others : List Phrase) (markers : List OpenMarker) :
    childrenOfPhrases (leaveOpen (phrases ++ others) markers) =
      childrenOfPhrases (leaveOpen phrases markers) ++ childrenOfPhrases others := by
  induction markers generalizing phrases with
  | nil => exact childrenOfPhrases_append phrases others
  | cons marker outer ih =>
    have hassoc : marker.before ++ .unclosed marker.opener :: (phrases ++ others) =
        marker.before ++ .unclosed marker.opener :: phrases ++ others := by
      simp
    rw [leaveOpen, hassoc, ih, leaveOpen]

/-- No child is lost or moved while the children are arranged. -/
theorem children_arrangeFrom (markers : List OpenMarker) (done : List Phrase)
    (run children : List Token) :
    childrenOfPhrases (arrangeFrom markers done run children) =
      childrenOfPhrases (leaveOpen done markers) ++ run ++ children := by
  induction children generalizing markers done run with
  | nil => rw [arrangeFrom, children_leaveOpen_append, childrenOfPhrases_closeRun, List.append_nil]
  | cons child rest ih =>
    -- a phrase that was read from the child alone takes its place
    have hphrase : ∀ {phrase : Phrase}, phrase.children = [child] →
        childrenOfPhrases (leaveOpen (done ++ closeRun run ++ [phrase]) markers) ++ [] ++ rest =
          childrenOfPhrases (leaveOpen done markers) ++ run ++ child :: rest := by
      intro phrase hchildren
      rw [children_leaveOpen_append, children_leaveOpen_append, childrenOfPhrases_singleton,
        childrenOfPhrases_closeRun, hchildren]
      simp
    rw [arrangeFrom]
    split
    · rw [ih]
      simp
    split
    · rw [ih, leaveOpen]
      have hopen := children_leaveOpen_append (done ++ closeRun run) [.unclosed child] markers
      rw [hopen, children_leaveOpen_append, childrenOfPhrases_singleton, childrenOfPhrases_closeRun,
        Phrase.children]
      simp
    split
    · cases markers with
      | nil => exact (ih ..).trans (hphrase rfl)
      | cons marker outer =>
        simp only
        split
        · rw [ih, leaveOpen, children_leaveOpen_append, children_leaveOpen_append,
            childrenOfPhrases_singleton, Phrase.children, childrenOfPhrases_append,
            childrenOfPhrases_closeRun, childrenOfPhrases, Phrase.children]
          simp
        · exact (ih ..).trans (hphrase rfl)
    · exact (ih ..).trans (hphrase rfl)

/-- Reading children into phrases loses none of them and repeats none. -/
theorem childrenOfPhrases_arrange (children : List Token) :
    childrenOfPhrases (arrange children) = children := by
  rw [arrange, children_arrangeFrom, leaveOpen, childrenOfPhrases]
  rfl

/-- The children are arranged into phrases whose markers go together. -/
theorem stacked_arrange (children : List Token) : Stacked (arrange children) :=
  have hheld : Held [] := trivial
  stacked_arrangeFrom hheld (level_nil none) (by simp) (by simp) children

/-! ## Reading the children of stacked phrases -/

/-- The tokens do not go on with a run. -/
def EndsRun (tokens : List Token) : Prop :=
  ∀ t ∈ tokens.head?, isRunKind t.kind = false

/-- A run that was read is closed where the tokens do not go on with it. -/
theorem arrangeFrom_endsRun {rest : List Token} (h : EndsRun rest) (markers : List OpenMarker)
    (done : List Phrase) (run : List Token) :
    arrangeFrom markers done run rest = arrangeFrom markers (done ++ closeRun run) [] rest := by
  have hnone : done ++ closeRun run ++ closeRun [] = done ++ closeRun run := List.append_nil _
  cases rest with
  | nil => rw [arrangeFrom, arrangeFrom, hnone]
  | cons t rest =>
    have ht : ¬ isRunKind t.kind = true := by
      rw [h t rfl]
      decide
    rw [arrangeFrom, arrangeFrom, if_neg ht, if_neg ht, hnone]

/-- Texts and line breaks are taken into the run, as many as there are. -/
theorem arrangeFrom_run {children : List Token}
    (h : ∀ child ∈ children, isRunKind child.kind = true) (markers : List OpenMarker)
    (done : List Phrase) (run rest : List Token) :
    arrangeFrom markers done run (children ++ rest) =
      arrangeFrom markers done (run ++ children) rest := by
  induction children generalizing run with
  | nil => rw [List.nil_append, List.append_nil]
  | cons child children ih =>
    rw [List.forall_mem_cons] at h
    rw [List.cons_append, arrangeFrom, if_pos h.1, ih h.2, List.append_assoc]
    rfl

/-- A phrase that is no run starts with a child that is part of none. -/
theorem endsRun_children {innermost : Option Token} {phrase : Phrase}
    (hfits : phrase.Fits innermost) (hrun : phrase.isRun = false) (rest : List Token) :
    EndsRun (phrase.children ++ rest) := by
  intro t ht
  -- the first child of a phrase that is no run is a leaf or a marker
  cases phrase with
  | run children => exact nomatch hrun
  | leaf child =>
    obtain rfl := Option.some.inj ht
    rw [Phrase.Fits, isLeafKind] at hfits
    simp only [Bool.and_eq_true, Bool.not_eq_true'] at hfits
    exact hfits.1.1
  | marked opener closer inner =>
    obtain rfl := Option.some.inj ht
    rw [Phrase.Fits] at hfits
    exact (kinds_of_closerOf? hfits.1).1
  | unclosed opener =>
    obtain rfl := Option.some.inj ht
    rw [Phrase.Fits] at hfits
    obtain ⟨closer, hcloser⟩ := Option.isSome_iff_exists.1 hfits
    exact (kinds_of_closerOf? hcloser).1
  | unmatched closer =>
    obtain rfl := Option.some.inj ht
    rw [Phrase.Fits] at hfits
    exact (kinds_of_isCloser hfits.1).1

/-- Behind a run, the children of the other phrases do not go on with it. -/
theorem endsRun_of_apart {innermost : Option Token} {phrase : Phrase} {phrases : List Phrase}
    (hrun : phrase.isRun = true) (hapart : Apart [phrase] phrases)
    (hfit : PhrasesFit innermost phrases) {rest : List Token} (hrest : EndsRun rest) :
    EndsRun (childrenOfPhrases phrases ++ rest) := by
  cases phrases with
  | nil => exact hrest
  | cons next phrases =>
    rw [PhrasesFit] at hfit
    rw [childrenOfPhrases, List.append_assoc]
    exact endsRun_children hfit.1 (hapart phrase rfl next rfl hrun) _

section

variable (markers : List OpenMarker) (done : List Phrase)

/-- An opening marker starts a level of its own. -/
theorem arrangeFrom_opener {opener : Token} (h : (closerOf? opener.kind).isSome = true)
    (rest : List Token) :
    arrangeFrom markers done [] (opener :: rest) =
      arrangeFrom (⟨opener, done⟩ :: markers) [] [] rest := by
  obtain ⟨closer, hcloser⟩ := Option.isSome_iff_exists.1 h
  have hrun : ¬ isRunKind opener.kind = true := by
    rw [(kinds_of_closerOf? hcloser).1]
    decide
  have hnone : done ++ closeRun [] = done := List.append_nil _
  rw [arrangeFrom, if_neg hrun, if_pos h, hnone]

/-- A closing marker that the innermost open one does not go with stands by itself. -/
theorem arrangeFrom_unmatched {closer : Token} (hkind : isCloser closer.kind = true)
    (h : ∀ opener ∈ innermostOf markers, closerOf? opener.kind ≠ some closer.kind)
    (rest : List Token) :
    arrangeFrom markers done [] (closer :: rest) =
      arrangeFrom markers (done ++ [.unmatched closer]) [] rest := by
  obtain ⟨hrun, hopener⟩ := kinds_of_isCloser hkind
  have hnone : done ++ closeRun [] = done := List.append_nil _
  rw [arrangeFrom, if_neg (by rw [hrun]; decide), if_neg (by rw [hopener]; decide), if_pos hkind,
    hnone]
  cases markers with
  | nil => rfl
  | cons marker outer => exact if_neg (h marker.opener rfl)

/-- A closing marker that goes with the innermost open one encloses the phrases of its level. -/
theorem arrangeFrom_partner {marker : OpenMarker} {closer : Token}
    (h : closerOf? marker.opener.kind = some closer.kind) (rest : List Token) :
    arrangeFrom (marker :: markers) done [] (closer :: rest) =
      arrangeFrom markers (marker.before ++ [.marked marker.opener closer done]) [] rest := by
  obtain ⟨-, hrun, hopener, hkind⟩ := kinds_of_closerOf? h
  have hnone : done ++ closeRun [] = done := List.append_nil _
  rw [arrangeFrom, if_neg (by rw [hrun]; decide), if_neg (by rw [hopener]; decide), if_pos hkind,
    hnone]
  exact if_pos h

/-- A leaf is a phrase of the level it stands on. -/
theorem arrangeFrom_leaf {child : Token} (h : isLeafKind child.kind = true) (rest : List Token) :
    arrangeFrom markers done [] (child :: rest) =
      arrangeFrom markers (done ++ [.leaf child]) [] rest := by
  rw [isLeafKind] at h
  simp only [Bool.and_eq_true, Bool.not_eq_true', Option.isNone_iff_eq_none] at h
  obtain ⟨⟨hrun, hopener⟩, hcloser⟩ := h
  have hnone : done ++ closeRun [] = done := List.append_nil _
  rw [arrangeFrom, if_neg (by rw [hrun]; decide), if_neg (by rw [hopener]; decide),
    if_neg (by rw [hcloser]; decide), hnone]

end

mutual

/-- The children of a phrase that is closed are read as the phrase. -/
theorem arrangeFrom_phrase (markers : List OpenMarker) (done : List Phrase) :
    ∀ (phrase : Phrase) (rest : List Token), phrase.Fits (innermostOf markers) →
      phrase.isUnclosed = false → (phrase.isRun = true → EndsRun rest) →
      arrangeFrom markers done [] (phrase.children ++ rest) =
        arrangeFrom markers (done ++ [phrase]) [] rest
  | .run children, rest, hfits, _, hrest => by
    rw [Phrase.Fits] at hfits
    have hclose : closeRun children = [.run children] := by
      rw [closeRun, if_neg (by simpa using hfits.1)]
    rw [Phrase.children, arrangeFrom_run hfits.2, List.nil_append,
      arrangeFrom_endsRun (hrest rfl), hclose]
  | .leaf child, rest, hfits, _, _ => by
    rw [Phrase.Fits] at hfits
    exact arrangeFrom_leaf markers done hfits rest
  | .marked opener closer inner, rest, hfits, _, _ => by
    rw [Phrase.Fits] at hfits
    obtain ⟨hpartner, hclosed, hinner⟩ := hfits
    have hopener : (closerOf? opener.kind).isSome = true := by
      rw [hpartner]
      rfl
    have hends : EndsRun (closer :: rest) := by
      intro t ht
      obtain rfl := Option.some.inj ht
      exact (kinds_of_closerOf? hpartner).2.1
    rw [Phrase.children, List.cons_append, List.cons_append,
      arrangeFrom_opener markers done hopener, List.append_assoc]
    -- what stands between the partners is read on a level of its own
    have hlevel := arrangeFrom_phrases (⟨opener, done⟩ :: markers) [] inner (closer :: rest)
      hinner hclosed hends
    rw [List.singleton_append, hlevel, List.nil_append]
    exact arrangeFrom_partner markers inner hpartner rest
  | .unclosed _, _, _, hunclosed, _ => nomatch hunclosed
  | .unmatched closer, rest, hfits, _, _ => by
    rw [Phrase.Fits] at hfits
    exact arrangeFrom_unmatched markers done hfits.1 hfits.2 rest

/-- The children of phrases that leave nothing open are read as the phrases. -/
theorem arrangeFrom_phrases (markers : List OpenMarker) (done : List Phrase) :
    ∀ (phrases : List Phrase) (rest : List Token), PhrasesFit (innermostOf markers) phrases →
      Closed phrases → EndsRun rest →
      arrangeFrom markers done [] (childrenOfPhrases phrases ++ rest) =
        arrangeFrom markers (done ++ phrases) [] rest
  | [], rest, _, _, _ => by rw [childrenOfPhrases, List.nil_append, List.append_nil]
  | phrase :: phrases, rest, hfit, hclosed, hrest => by
    obtain ⟨hphrase, hothers⟩ := List.forall_mem_cons.1 hclosed
    rw [PhrasesFit, Phrase.innermostAfter_of_closed hphrase] at hfit
    obtain ⟨hfits, hapart, hfit⟩ := hfit
    -- a run ends only where no run follows, which is what being apart says
    rw [childrenOfPhrases, List.append_assoc, arrangeFrom_phrase markers done phrase _ hfits hphrase
        fun hrun => endsRun_of_apart hrun hapart hfit hrest,
      arrangeFrom_phrases markers (done ++ [phrase]) phrases rest hfit hothers hrest,
      List.append_assoc]
    rfl

end

/-- The children of stacked phrases are read as the phrases, also if some markers stay open. -/
theorem arrangeFrom_children (markers : List OpenMarker) (done phrases : List Phrase)
    (h : PhrasesFit (innermostOf markers) phrases) :
    arrangeFrom markers done [] (childrenOfPhrases phrases) =
      leaveOpen (done ++ phrases) markers := by
  induction phrases generalizing markers done with
  | nil =>
    rw [childrenOfPhrases, arrangeFrom]
    rfl
  | cons phrase phrases ih =>
    rw [PhrasesFit] at h
    obtain ⟨hfits, hapart, hfit⟩ := h
    rw [childrenOfPhrases]
    by_cases hunclosed : phrase.isUnclosed = true
    · -- the marker starts a level, which the phrases behind it belong to
      cases phrase with
      | unclosed opener =>
        rw [Phrase.Fits] at hfits
        rw [Phrase.children, List.singleton_append, arrangeFrom_opener markers done hfits,
          ih (⟨opener, done⟩ :: markers) [] hfit, leaveOpen, List.nil_append]
      | run | leaf | marked | unmatched => exact absurd hunclosed Bool.false_ne_true
    · rw [Bool.not_eq_true] at hunclosed
      rw [Phrase.innermostAfter_of_closed hunclosed] at hfit
      have hends : phrase.isRun = true → EndsRun (childrenOfPhrases phrases) := by
        intro hrun
        have hrest : EndsRun [] := by simp [EndsRun]
        have hall := endsRun_of_apart hrun hapart hfit hrest
        rwa [List.append_nil] at hall
      rw [arrangeFrom_phrase markers done phrase _ hfits hunclosed hends, ih markers _ hfit,
        List.append_assoc]
      rfl

/-- Arranging the children of stacked phrases gives back these phrases. -/
theorem arrange_children {phrases : List Phrase} (h : Stacked phrases) :
    arrange (childrenOfPhrases phrases) = phrases :=
  arrangeFrom_children [] [] phrases h

/-- There is just one way in which the markers among children can go together. -/
theorem existsUnique_stacked (children : List Token) :
    ∃! phrases, Stacked phrases ∧ childrenOfPhrases phrases = children := by
  refine ⟨arrange children, ⟨stacked_arrange children, childrenOfPhrases_arrange children⟩, ?_⟩
  rintro phrases ⟨hstacked, rfl⟩
  exact (arrange_children hstacked).symm

/-! ## The text of phrases -/

/-- What stands in front of the text between a marker and its partner. -/
def decoration (opener : Token) : Text :=
  if opener.kind = "strong_open" then "\\textbf\x7b".toList
  else if opener.kind = "em_open" then "\\textit\x7b".toList
  else if opener.kind = "s_open" then "\\sout\x7b".toList
  else "\\href\x7b".toList ++ Tex.escapeAddress (opener.attrText "href") ++ "\x7d\x7b".toList

mutual

/-- The text of a phrase: a marker that was closed stands around the phrases inside of it, and a
marker without partner leaves no trace. -/
def Phrase.text : Phrase → Text
  | .run children => (renderRun children).text
  | .leaf child => (renderLeaf child).text
  | .marked opener _ inner => decoration opener ++ textOfPhrases inner ++ ['}']
  | .unclosed _ => []
  | .unmatched _ => []

/-- The texts of phrases, one behind the other. -/
def textOfPhrases : List Phrase → Text
  | [] => []
  | phrase :: phrases => phrase.text ++ textOfPhrases phrases

end

/-- A marked phrase is emitted between what its marker begins with and a brace. -/
theorem text_decorate (opener : Token) (inner : Fragment) :
    (decorate opener inner).text = decoration opener ++ inner.text ++ ['}'] := by
  rw [decorate, decoration]
  split
  · rfl
  split
  · rfl
  split
  · simp [Fragment.mapText, Fragment.needing, Tex.command, Tex.braced]
  · simp [Fragment.mapText, Fragment.needing, Tex.command, Tex.braced]

mutual

/-- The text of a rendered phrase is told by recursion on the phrase. -/
theorem text_render : ∀ phrase : Phrase, phrase.render.text = phrase.text
  | .run _ => by rw [Phrase.render, Phrase.text]
  | .leaf _ => by rw [Phrase.render, Phrase.text]
  | .marked opener _ inner => by
    rw [Phrase.render, Phrase.text, text_decorate, text_renderPhrases inner]
  | .unclosed _ => by rw [Phrase.render, Phrase.text]
  | .unmatched _ => by
    rw [Phrase.render, Phrase.text]
    rfl

/-- The text of rendered phrases is told by recursion on them. -/
theorem text_renderPhrases :
    ∀ phrases : List Phrase, (renderPhrases phrases).text = textOfPhrases phrases
  | [] => by rw [renderPhrases, textOfPhrases]
  | phrase :: phrases => by
    rw [renderPhrases, textOfPhrases, Fragment.text_append, text_render phrase,
      text_renderPhrases phrases]

end

/-- **Running text is emitted as its markers go together.** Whatever the children are, there is just
one list of stacked phrases that holds them, each once and in order, and the running text is the
texts of these phrases: its runs and its other leaves one behind the other, with each marker that
has a partner around what stands between the two, and nothing for any other marker. So a forest of
phrases whose markers all have partners is emitted by recursion on the forest. -/
theorem renderInlines_eq_textOfPhrases :
    (∀ children, (∃! phrases, Stacked phrases ∧ childrenOfPhrases phrases = children) ∧
      ∃ phrases, Stacked phrases ∧ childrenOfPhrases phrases = children ∧
        (renderInlines children).text = textOfPhrases phrases) ∧
    ∀ forest, Stacked forest →
      (renderInlines (childrenOfPhrases forest)).text = textOfPhrases forest := by
  have htext : ∀ children,
      (renderInlines children).text = textOfPhrases (arrange children) := by
    intro children
    rw [renderInlines_eq, text_renderPhrases]
  refine ⟨fun children => ⟨existsUnique_stacked children, ?_⟩, fun forest hforest => ?_⟩
  · exact ⟨arrange children, stacked_arrange children, childrenOfPhrases_arrange children,
      htext children⟩
  · rw [htext, arrange_children hforest]

/-- Bold text that is opened in front of italic text and closed inside of it. -/
def crossedMarkers : List Phrase :=
  [.unclosed { kind := "strong_open" },
    .run [{ kind := "text", content := "a".toList }],
    .marked { kind := "em_open" } { kind := "em_close" }
      [.run [{ kind := "text", content := "b".toList }],
        .unmatched { kind := "strong_close" },
        .run [{ kind := "text", content := "c".toList }]]]

/-- Crossed markers: strong text is closed while the emphasis inside of it is open. So it stays
open, its closing marker stands by itself, and only the emphasis is set. -/
theorem renderInlines_crossedMarkers :
    Stacked crossedMarkers ∧
      (renderInlines (childrenOfPhrases crossedMarkers)).text =
        (renderRun [{ kind := "text", content := "a".toList }]).text ++
          "\\textit\x7b".toList ++
          (renderRun [{ kind := "text", content := "b".toList }]).text ++
          (renderRun [{ kind := "text", content := "c".toList }]).text ++ ['}'] := by
  have hstacked : Stacked crossedMarkers := by
    simp [Stacked, crossedMarkers, PhrasesFit, Phrase.Fits, Apart, Closed, Phrase.isRun,
      Phrase.isUnclosed, Phrase.innermostAfter, closerOf?, isCloser, isRunKind]
  refine ⟨hstacked, ?_⟩
  rw [renderInlines_eq_textOfPhrases.2 crossedMarkers hstacked]
  simp [crossedMarkers, textOfPhrases, Phrase.text, decoration]

end MarkTex.Body
