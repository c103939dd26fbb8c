import MarkTex.Proofs.Tex.Decode
import MarkTex.Proofs.Text.Lines

/-!
# Reading what is emitted

A text is read character by character, where a backslash takes the next character with it and the
first argument of a link command is told apart from everything else (`read`). A text is clean if
reading it ends where it began and no sign that means something to TeX is left to itself
(`Clean`): percent and number signs are always taken, the other signs are taken or stand in an
address.

## Shape of the proof

Where reading stands behind a text is a fold over its characters, so texts can be read one after the
other (`read_append`, `Leads.append`). White space is never taken in a clean text. So white space
can be cut off from both ends, if what follows begins with white space again (`Clean.strip_space`).
-/

namespace MarkTex.Tex

/-! ## Reading a text -/

/-- Where reading stands. -/
inductive Place where
  | text
  /-- In the name of a link command, behind its first `count` letters. -/
  | name (count : Nat)
  /-- In the first argument of a link command, inside `depth` further braces. -/
  | address (depth : Nat)
  /-- Behind a backslash that stands at `outer`. -/
  | escape (outer : Place)
  deriving DecidableEq

/-- How a character is read. -/
inductive Role where
  /-- It is a backslash, or the character that a backslash takes with it. -/
  | taken
  /-- It belongs to the first argument of a link command. -/
  | address
  | bare
  deriving DecidableEq

namespace Place

/-- How a character is read that stands at a place. -/
def role : Place → Char → Role
  | escape _, _ => .taken
  | _, '\\' => .taken
  | address _, _ => .address
  | _, _ => .bare

/-- The name of a link command, and the brace that opens its first argument. -/
def linkName : Text :=
  "href\x7b".toList

/-- The place behind a character that may be the next one of the name of a link command. -/
def spell (count : Nat) (c : Char) : Place :=
  if linkName[count]? = some c then
    if count + 1 = linkName.length then address 0 else name (count + 1)
  else text

/-- The place behind a character. -/
def next : Place → Char → Place
  | escape (address depth), _ => address depth
  | escape _, c => spell 0 c
  | outer, '\\' => escape outer
  | name count, c => spell count c
  | address depth, '{' => address (depth + 1)
  | address (depth + 1), '}' => address depth
  | address 0, '}' => text
  | address depth, _ => address depth
  | _, _ => text

end Place

/-- The place behind a text. -/
def after (place : Place) (t : Text) : Place :=
  t.foldl Place.next place

/-- The characters of a text, each with how it is read. -/
def read : Place → Text → List (Char × Role)
  | _, [] => []
  | place, c :: r => (c, place.role c) :: read (place.next c) r

theorem after_append (place : Place) (s t : Text) :
    after place (s ++ t) = after (after place s) t :=
  List.foldl_append

theorem read_append (place : Place) (s t : Text) :
    read place (s ++ t) = read place s ++ read (after place s) t := by
  induction s generalizing place with
  | nil => rfl
  | cons c s ih =>
    rw [List.cons_append, read, ih, read, List.cons_append]
    rfl

/-! ## Signs -/

/-- Whether a character may be read so. White space is never taken, and a sign that means something
to TeX is never left to itself. -/
def isGuarded : Char × Role → Bool
  | (c, .taken) => !Text.isBlank c
  | (c, .address) => decide (c ∉ ['%', '#'])
  | (c, .bare) => decide (c ∉ ['%', '#', '$', '_', '^', '~', '&'])

/-- In a guarded sign a percent or number sign is taken, and no other sign is bare. -/
theorem role_of_isGuarded {c : Char} {role : Role} (h : isGuarded (c, role) = true) :
    (c ∈ ['%', '#'] → role = .taken) ∧ (c ∈ ['$', '_', '^', '~', '&'] → role ≠ .bare) := by
  cases role with
  | taken => exact ⟨fun _ => rfl, fun _ => nofun⟩
  | address =>
    have hc : c ∉ ['%', '#'] := of_decide_eq_true h
    exact ⟨fun hmem => absurd hmem hc, fun _ => nofun⟩
  | bare =>
    have hc : c ∉ ['%', '#'] ++ ['$', '_', '^', '~', '&'] := of_decide_eq_true h
    rw [List.mem_append, not_or] at hc
    exact ⟨fun hmem => absurd hmem hc.1, fun hmem => absurd hmem hc.2⟩

/-- Reading the text leads from one place to another, and leaves no sign to itself. -/
def Leads (start stop : Place) (t : Text) : Prop :=
  after start t = stop ∧ ∀ sign ∈ read start t, isGuarded sign = true

instance (start stop : Place) (t : Text) : Decidable (Leads start stop t) :=
  inferInstanceAs (Decidable (_ ∧ _))

theorem leads_nil (place : Place) : Leads place place [] :=
  ⟨rfl, fun _ h => absurd h List.not_mem_nil⟩

/-- Texts lead from place to place one after the other. -/
theorem Leads.append {start middle stop : Place} {s t : Text} (hs : Leads start middle s)
    (ht : Leads middle stop t) : Leads start stop (s ++ t) := by
  obtain ⟨hafter, hguarded⟩ := hs
  rw [Leads, after_append, read_append, List.forall_mem_append, hafter]
  exact ⟨ht.1, hguarded, ht.2⟩

/-- What is left of a text leads on from where its front ends. -/
theorem Leads.of_append {start middle stop : Place} {s t : Text} (hs : after start s = middle)
    (h : Leads start stop (s ++ t)) : Leads middle stop t := by
  rw [Leads, after_append, read_append, List.forall_mem_append, hs] at h
  exact ⟨h.1, h.2.2⟩

/-- What is put together from texts that lead to where they begin does so. -/
theorem compositional_leads (place : Place) : Text.Compositional (Leads place place) :=
  ⟨leads_nil place, Leads.append⟩

/-! ## Clean texts -/

/-- Reading the text ends where it began, and no sign in it is left to itself. -/
abbrev Clean (t : Text) : Prop :=
  Leads .text .text t

/-- What is put together from clean texts is clean. -/
theorem compositional_clean : Text.Compositional Clean :=
  compositional_leads .text

/-- A character that is no special sign is clean. -/
theorem clean_singleton {c : Char} (h : c ∉ specials) : Clean [c] := by
  simp only [specials, List.mem_cons, List.not_mem_nil, or_false, not_or] at h
  have hnext : Place.text.next c = .text := by
    simp [Place.next, h]
  have hrole : Place.text.role c = .bare := by
    simp [Place.role, h]
  refine ⟨hnext, fun sign hsign => ?_⟩
  rw [read, hrole, read, List.mem_singleton] at hsign
  rw [hsign]
  simp [isGuarded, h]

/-- A text without special signs is clean. -/
theorem clean_of_not_mem {t : Text} (h : ∀ c ∈ t, c ∉ specials) : Clean t :=
  compositional_clean.of_chars fun c hc => clean_singleton (h c hc)

/-! ## Escaped texts -/

/-- An escaped character is clean. -/
theorem clean_escapeChar (c : Char) : Clean (escapeChar c) := by
  have hspecials : (specials.all fun c => decide (Clean (escapeChar c))) = true := by
    decide
  by_cases h : c ∈ specials
  · exact of_decide_eq_true (List.all_eq_true.1 hspecials c h)
  · rw [escapeChar_of_not_mem h]
    exact clean_singleton h

/-- Escaped text is clean. -/
theorem clean_escape (t : Text) : Clean (escape t) :=
  compositional_clean.flatMap fun c _ => clean_escapeChar c

/-! ## Commands -/

/-- Clean text in braces is clean. -/
theorem clean_braced {t : Text} (h : Clean t) : Clean (braced t) := by
  have hopen : Clean ['{'] := by
    decide
  have hclose : Clean ['}'] := by
    decide
  exact (hopen.append h).append hclose

/-- A command with a clean argument is clean. -/
theorem clean_command {name : String} (hname : Clean ('\\' :: name.toList)) {arg : Text}
    (harg : Clean arg) : Clean (command name arg) :=
  hname.append (clean_braced harg)

/-- Whatever stands in an address, it neither ends the argument nor leaves a percent or number sign
to itself. -/
theorem leads_addressChar (c : Char) : Leads (.address 0) (.address 0) (addressChar c) := by
  let escaped := ['\\', '{', '}', '%', '#']
  have hescaped : (escaped.all fun c =>
      decide (Leads (.address 0) (.address 0) (addressChar c))) = true := by
    decide
  by_cases h : c ∈ escaped
  · exact of_decide_eq_true (List.all_eq_true.1 hescaped c h)
  · rw [addressChar_of_not_mem h]
    simp only [escaped, List.mem_cons, List.not_mem_nil, or_false, not_or] at h
    -- any other character stays at its level of the address
    have hnext : (Place.address 0).next c = .address 0 := by
      simp [Place.next, h]
    have hrole : (Place.address 0).role c = .address := by
      simp [Place.role, h]
    refine ⟨hnext, fun sign hsign => ?_⟩
    rw [read, hrole, read, List.mem_singleton] at hsign
    rw [hsign]
    simp [isGuarded, h]

/-- A link command with its address. -/
theorem clean_link (address : Text) : Clean (command "href" (escapeAddress address)) := by
  have hcommand : command "href" (escapeAddress address) =
      "\\href\x7b".toList ++ escapeAddress address ++ ['}'] := by
    simp [command, braced]
  have hopen : Leads .text (.address 0) "\\href\x7b".toList := by
    decide
  have hclose : Leads (.address 0) .text ['}'] := by
    decide
  rw [hcommand]
  have haddress : Leads (.address 0) (.address 0) (escapeAddress address) :=
    (compositional_leads _).flatMap fun c _ => leads_addressChar c
  exact (hopen.append haddress).append hclose

/-! ## Stripping -/

/-- White space leads nowhere, neither from the text nor from an address. -/
theorem after_blank {place : Place} (hplace : place = .text ∨ ∃ depth, place = .address depth)
    {t : Text} (ht : ∀ c ∈ t, Text.isBlank c = true) : after place t = place := by
  induction t with
  | nil => rfl
  | cons c t ih =>
    rw [List.forall_mem_cons] at ht
    -- white space is none of the signs that change the place
    have hne : ∀ d, Text.isBlank d = false → c ≠ d := by
      rintro d hd rfl
      rw [ht.1] at hd
      exact nomatch hd
    have hbackslash : c ≠ '\\' := hne _ (by decide)
    have hopen : c ≠ '\x7b' := hne _ (by decide)
    have hclose : c ≠ '\x7d' := hne _ (by decide)
    have hnext : place.next c = place := by
      rcases hplace with rfl | ⟨depth, rfl⟩
      · rw [Place.next.eq_def]
        simp
      · rw [Place.next.eq_def]
        simp [hclose]
    have hafter : after place (c :: t) = after (place.next c) t := rfl
    rw [hafter, hnext, ih ht.2]

/-- White space ends the name of a command. -/
theorem next_name_space (count : Nat) : (Place.name count).next ' ' = .text := by
  have hletter : Place.linkName[count]? ≠ some ' ' := fun hget =>
    absurd (List.mem_of_getElem? hget) (by decide)
  show Place.spell count ' ' = .text
  rw [Place.spell, if_neg hletter]

/-- A clean text may be stripped in front of white space. -/
theorem Clean.strip_space {t : Text} (h : Clean t) : Clean (Text.strip t ++ [' ']) := by
  obtain ⟨front, back, ht, hfront, hback⟩ := Text.exists_strip t
  rw [ht, List.append_assoc] at h
  have hcore : Clean (Text.strip t ++ back) := h.of_append (after_blank (.inl rfl) hfront)
  cases back with
  | nil =>
    rw [List.append_nil] at hcore
    exact hcore.append (by decide)
  | cons c back =>
    obtain ⟨hafter, hguarded⟩ := hcore
    rw [after_append] at hafter
    rw [read_append, List.forall_mem_append, read, List.forall_mem_cons] at hguarded
    obtain ⟨hguarded, hblank, -⟩ := hguarded
    rw [Clean, Leads, after_append, read_append, List.forall_mem_append]
    -- behind what is left, white space came next: so it was not taken, and led back to the text
    cases hplace : after .text (Text.strip t) with
    | text => exact ⟨rfl, hguarded, by decide⟩
    | name count =>
      have hspace : ∀ sign ∈ [(' ', Role.bare)], isGuarded sign = true := by
        decide
      exact ⟨next_name_space count, hguarded, hspace⟩
    | address depth =>
      rw [hplace, after_blank (.inr ⟨depth, rfl⟩) hback] at hafter
      exact nomatch hafter
    | escape outer =>
      rw [hplace] at hblank
      have hc := hback c List.mem_cons_self
      simp [Place.role, isGuarded, hc] at hblank

/-- What may be stripped in front of a space is read in front of it as it is read alone. -/
theorem Clean.read_space {s : Text} (h : Clean (s ++ [' '])) (t : Text) :
    after .text (s ++ ' ' :: t) = after .text t ∧
      read .text (s ++ ' ' :: t) = read .text s ++ (' ', .bare) :: read .text t := by
  obtain ⟨hafter, hguarded⟩ := h
  rw [after_append] at hafter
  have hnext : (after .text s).next ' ' = .text := hafter
  have hrole : (after .text s).role ' ' = .bare := by
    rw [read_append, List.forall_mem_append, read, List.forall_mem_cons] at hguarded
    -- a space that leads back to text was read in text, in a name, or behind a backslash, which
    -- would have taken it
    cases hplace : after .text s with
    | text => rfl
    | name count => rfl
    | address depth =>
      rw [hplace] at hnext
      exact nomatch hnext
    | escape outer =>
      rw [hplace] at hguarded
      have htaken : isGuarded (' ', .taken) = true := hguarded.2.1
      exact absurd htaken (by decide)
  rw [after_append, read_append, read, hnext, hrole]
  exact ⟨congrArg (after · t) hnext, rfl⟩

end MarkTex.Tex
