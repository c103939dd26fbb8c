import MarkTex.Proofs.Tex.Decode
import MarkTex.Proofs.Text.Lines

/-!
# Looking for an optional argument

Some commands look for an optional argument: they skip the spaces and line ends behind them, and a
bracket that comes next is taken for the start of the argument. `seekers` reads them off a text,
each with the first character that it finds. Other markup, escaped characters and addresses hold no
such command, whatever follows them (`Inert`).

## Shape of the proof

A name of letters is read to its end, so what decides about it is the sign behind it
(`seekers_name`); all that is emitted of other names ends with such a sign.
-/

namespace MarkTex.Tex

/-! ## Reading a text -/

/-- A command that looks for an optional argument. -/
inductive Seeker where
  | item
  /-- The end of a line or of a row. It looks for a star, too. -/
  | lineEnd
  | topRule
  | headerRule
  deriving DecidableEq, Repr

namespace Seeker

/-- What stands behind the backslash. -/
def name : Seeker → Text
  | item => "item".toList
  | lineEnd => ['\\']
  | topRule => "toprule".toList
  | headerRule => "midrule".toList

/-- The command with a name of letters. -/
def ofName? (name : Text) : Option Seeker :=
  [item, topRule, headerRule].find? fun seeker => seeker.name = name

end Seeker

/-- Whether a command stops at the character when it looks for an argument. -/
def isVisible (c : Char) : Bool :=
  c != ' ' && c != '\n'

/-- The first character of a text that is not skipped. -/
def firstVisible (t : Text) : Option Char :=
  t.find? isVisible

/-- The signs that start an argument. -/
def argumentSigns : List Char :=
  ['[', '*']

/-- The command that stands behind a backslash, if it looks for an argument, and the first character
that it finds. A name of letters is as long as it can be. -/
def seekerAt? : Text → Option (Seeker × Option Char)
  | [] => none
  | c :: r =>
    if c = '\\' then some (.lineEnd, firstVisible r)
    else
      (Seeker.ofName? ((c :: r).takeWhile Char.isAlpha)).map fun seeker =>
        (seeker, firstVisible ((c :: r).dropWhile Char.isAlpha))

/-- The commands of a text that look for an argument, in order, each with the first character that
it finds. A backslash takes the next character with it. -/
def seekers : Text → List (Seeker × Option Char)
  | [] => []
  | [_] => []
  | c :: d :: r =>
    if c = '\\' then (seekerAt? (d :: r)).toList ++ seekers r else seekers (d :: r)

/-- Only a backslash starts a command. -/
theorem seekers_cons {c : Char} (h : c ≠ '\\') (r : Text) : seekers (c :: r) = seekers r := by
  cases r with
  | nil => rfl
  | cons d r => rw [seekers, if_neg h]

/-- A backslash takes the next character, and may start a command that looks for an argument. -/
theorem seekers_backslash (c : Char) (r : Text) :
    seekers ('\\' :: c :: r) = (seekerAt? (c :: r)).toList ++ seekers r := by
  rw [seekers, if_pos rfl]

/-! ## Texts without such commands -/

/-- A text in which no such command is read, whatever follows. -/
def Inert (t : Text) : Prop :=
  ∀ rest, seekers (t ++ rest) = seekers rest

/-- What is put together from inert texts is inert. -/
theorem compositional_inert : Text.Compositional Inert where
  nil := fun _ => rfl
  append := fun hs ht rest => by rw [List.append_assoc, hs, ht]

/-- A text without backslashes is inert. -/
theorem inert_of_not_mem {t : Text} (h : '\\' ∉ t) : Inert t := by
  apply compositional_inert.of_chars
  intro c hc rest
  apply seekers_cons
  rintro rfl
  exact h hc

/-- A sign that a backslash takes with it. -/
theorem inert_sign {c : Char} (hbackslash : c ≠ '\\') (hletter : c.isAlpha = false) :
    Inert ['\\', c] := by
  intro rest
  have hname : (c :: rest).takeWhile Char.isAlpha = [] := by
    rw [List.takeWhile_cons, hletter]
    rfl
  rw [List.cons_append, List.singleton_append, seekers_backslash, seekerAt?, if_neg hbackslash,
    hname]
  rfl

/-- A name of letters with a sign behind it is read to its end. -/
theorem seekerAt?_name {name : Text} (hne : name ≠ []) (hname : name.all Char.isAlpha = true)
    {c : Char} (hc : c.isAlpha = false) (rest : Text) :
    seekerAt? (name ++ c :: rest) =
      (Seeker.ofName? name).map fun seeker => (seeker, firstVisible (c :: rest)) := by
  have hletters := List.all_eq_true.1 hname
  -- the name ends with its letters, whatever comes behind them
  have htake : (name ++ c :: rest).takeWhile Char.isAlpha = name := by
    rw [List.takeWhile_append_of_pos hletters, List.takeWhile_cons, hc]
    exact List.append_nil name
  have hdrop : (name ++ c :: rest).dropWhile Char.isAlpha = c :: rest := by
    rw [List.dropWhile_append_of_pos hletters, List.dropWhile_cons, hc]
    rfl
  cases name with
  | nil => exact absurd rfl hne
  | cons a name =>
    have ha : a ≠ '\\' := by
      rintro rfl
      exact absurd (hletters _ List.mem_cons_self) (by decide)
    rw [List.cons_append] at htake hdrop ⊢
    rw [seekerAt?, if_neg ha, htake, hdrop]

/-- Behind the backslash of a name, the rest of the name is read as letters. -/
theorem seekers_name {name : Text} (hne : name ≠ []) (hname : name.all Char.isAlpha = true)
    {c : Char} (hc : c.isAlpha = false) (rest : Text) :
    seekers ('\\' :: name ++ c :: rest) =
      ((Seeker.ofName? name).map fun seeker => (seeker, firstVisible (c :: rest))).toList ++
        seekers (c :: rest) := by
  rw [← seekerAt?_name hne hname hc]
  cases name with
  | nil => exact absurd rfl hne
  | cons a name =>
    have hbackslash : '\\' ∉ name := by
      intro hmem
      have hletter := List.all_eq_true.1 hname _ (List.mem_cons_of_mem a hmem)
      exact absurd hletter (by decide)
    rw [List.cons_append, List.cons_append, seekers_backslash, inert_of_not_mem hbackslash]

example : seekers "\\item [x] \\\\\n * \\items[y] \\midrule".toList =
    [(.item, some '['), (.lineEnd, some '*'), (.headerRule, none)] := by
  decide

/-- A name of letters that is not one of such a command. -/
structure IsOtherName (name : Text) : Prop where
  ne_nil : name ≠ []
  letters : name.all Char.isAlpha = true
  other : Seeker.ofName? name = none

instance (name : Text) : Decidable (IsOtherName name) :=
  decidable_of_iff
    (name ≠ [] ∧ name.all Char.isAlpha = true ∧ Seeker.ofName? name = none)
    ⟨fun h => ⟨h.1, h.2.1, h.2.2⟩, fun h => ⟨h.ne_nil, h.letters, h.other⟩⟩

/-- A command of another name is inert in front of inert text. -/
theorem inert_name {name : Text} (h : IsOtherName name) {c : Char} (hc : c.isAlpha = false)
    {t : Text} (ht : Inert (c :: t)) : Inert ('\\' :: name ++ c :: t) := by
  intro rest
  have hread := seekers_name h.ne_nil h.letters hc (t ++ rest)
  rw [h.other] at hread
  rw [List.append_assoc]
  exact hread.trans (ht rest)

/-- No such command has a name with another first letter. -/
theorem inert_initial {c : Char} (hletter : c.isAlpha = true) (hinitial : c ∉ ['i', 't', 'm'])
    {t : Text} (ht : '\\' ∉ t) : Inert ('\\' :: c :: t) := by
  intro rest
  have hbackslash : c ≠ '\\' := by
    rintro rfl
    exact absurd hletter (by decide)
  have hinitials : ∀ seeker ∈ [Seeker.item, .topRule, .headerRule],
      seeker.name.headD ' ' ∈ ['i', 't', 'm'] := by
    decide
  -- names of commands that look for an argument have another first letter
  have hother : ∀ r, Seeker.ofName? (c :: r) = none := by
    intro r
    rw [Seeker.ofName?, List.find?_eq_none]
    intro seeker hseeker hname
    have hhead := hinitials seeker hseeker
    rw [of_decide_eq_true hname] at hhead
    exact hinitial hhead
  rw [List.cons_append, List.cons_append, seekers_backslash, seekerAt?, if_neg hbackslash,
    List.takeWhile_cons, if_pos hletter, hother]
  exact inert_of_not_mem ht rest

/-- Inert text in braces is inert. -/
theorem inert_braced {t : Text} (h : Inert t) : Inert (braced t) := by
  have hopen : Inert ['{'] := inert_of_not_mem (by simp)
  have hclose : Inert ['}'] := inert_of_not_mem (by simp)
  exact compositional_inert.append (compositional_inert.append hopen h) hclose

/-- A command of another name with an inert argument is inert. -/
theorem inert_command {name : String} (h : IsOtherName name.toList) {arg : Text}
    (harg : Inert arg) : Inert (command name arg) :=
  inert_name h rfl (inert_braced harg)

/-- The command that opens an environment is inert. -/
theorem inert_opening {name : String} (h : '\\' ∉ name.toList) : Inert (opening name) :=
  inert_command (by decide) (inert_of_not_mem h)

/-- The command that closes an environment is inert. -/
theorem inert_closing {name : String} (h : '\\' ∉ name.toList) : Inert (closing name) :=
  inert_command (by decide) (inert_of_not_mem h)

/-- An escaped character is inert. -/
theorem inert_escapeChar (c : Char) : Inert (escapeChar c) := by
  by_cases h : c ∈ specials
  · have hword : ∀ name : String, IsOtherName name.toList → Inert (command name []) :=
      fun name hname => inert_command hname compositional_inert.nil
    simp only [specials, List.mem_cons, List.not_mem_nil, or_false] at h
    rcases h with rfl | rfl | rfl | rfl | rfl | rfl | rfl | rfl | rfl | rfl
    · exact hword "textbackslash" (by decide)
    · exact inert_sign (by decide) rfl
    · exact inert_sign (by decide) rfl
    · exact inert_sign (by decide) rfl
    · exact inert_sign (by decide) rfl
    · exact inert_sign (by decide) rfl
    · exact inert_sign (by decide) rfl
    · exact inert_sign (by decide) rfl
    · exact hword "textasciitilde" (by decide)
    · exact hword "textasciicircum" (by decide)
  · rw [escapeChar_of_not_mem h]
    apply inert_of_not_mem
    intro hmem
    rw [List.mem_singleton] at hmem
    rw [← hmem] at h
    exact h List.mem_cons_self

/-- An escaped address is inert. -/
theorem inert_escapeAddress (address : Text) : Inert (escapeAddress address) := by
  apply compositional_inert.flatMap
  intro c _
  by_cases h : c ∈ ['\\', '{', '}', '%', '#']
  · have hcode : ∀ code : Text, '\\' ∉ code → Inert ('\\' :: '%' :: code) := fun code hmem =>
      compositional_inert.append (inert_sign (by decide) rfl) (inert_of_not_mem hmem)
    -- an encoded character is an escaped percent sign and two digits
    simp only [List.mem_cons, List.not_mem_nil, or_false] at h
    rcases h with rfl | rfl | rfl | rfl | rfl
    · exact hcode ['5', 'C'] (by simp)
    · exact hcode ['7', 'B'] (by simp)
    · exact hcode ['7', 'D'] (by simp)
    · exact inert_sign (by decide) rfl
    · exact inert_sign (by decide) rfl
  · rw [addressChar_of_not_mem h]
    apply inert_of_not_mem
    intro hmem
    rw [List.mem_singleton] at hmem
    rw [← hmem] at h
    exact h List.mem_cons_self

end MarkTex.Tex
