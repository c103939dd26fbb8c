import MarkTex.Proofs.Tex.Optional

/-!
# Pieces of what is emitted

What is emitted is written in pieces, which are characters of the document, commands that look for
an optional argument, and other markup (`Piece`). Pieces can be put together so that just the
commands among them are read as such, whatever follows (`Reads`), and so that no piece but a
character of the document starts with a sign of an argument (`Honest`). Then each command looks at
the first piece behind it that shows something, and it sees a sign of an argument exactly if that
piece is this very character of the document (`Faithful.seekers_write`).

## Shape of the proof

Reading goes piece by piece, since each piece is read in the same way in front of any text. So what
is put together from faithful pieces is faithful. Only a command with a name of letters needs a sign
behind it: it is written with one, or at the end of a line (`faithful_linePieces`).
-/

namespace MarkTex.Tex

/-! ## Pieces -/

/-- A piece of what is emitted, told apart by where it comes from. -/
inductive Piece where
  /-- A character of the document, escaped. -/
  | text (c : Char)
  /-- A command that looks for an optional argument. -/
  | seeker (command : Seeker)
  /-- Any other markup. -/
  | markup (t : Text)
  deriving DecidableEq, Repr

namespace Piece

/-- A piece as it is written. -/
def write : Piece → Text
  | text c => escapeChar c
  | seeker command => '\\' :: command.name
  | markup t => t

/-- The first character of a piece that is not skipped. -/
def first? (piece : Piece) : Option Char :=
  firstVisible piece.write

/-- Only a character of the document starts with a sign of an argument. -/
def Honest (piece : Piece) : Prop :=
  ∀ c ∈ argumentSigns, piece.first? = some c → piece = text c

/-- A sign of an argument is visible as itself. -/
theorem first?_text {c : Char} (h : c ∈ argumentSigns) : (text c).first? = some c := by
  simp only [argumentSigns, List.mem_cons, List.not_mem_nil, or_false] at h
  rcases h with rfl | rfl <;> rfl

/-- A character of the document is honest. -/
theorem honest_text (c : Char) : (text c).Honest := by
  intro d hd hfirst
  by_cases h : c ∈ specials
  · obtain ⟨r, hr⟩ := head_escapeChar h
    have hbackslash : (text c).first? = some '\\' := by
      rw [first?, write, hr]
      rfl
    obtain rfl := Option.some.inj (hfirst.symm.trans hbackslash)
    exact absurd hd (by decide)
  · rw [first?, write, escapeChar_of_not_mem h, firstVisible] at hfirst
    rw [List.mem_singleton.1 (List.mem_of_find?_eq_some hfirst)]

/-- A piece that does not show a sign of an argument first is honest. -/
theorem honest_of_first? {piece : Piece} (h : piece.first? ∉ argumentSigns.map some) :
    piece.Honest := by
  intro c hc hfirst
  rw [hfirst] at h
  exact absurd (List.mem_map_of_mem hc) h

/-- Markup that starts with a backslash. -/
theorem honest_backslash {piece : Piece} {r : Text} (h : piece.write = '\\' :: r) :
    piece.Honest := by
  have hfirst : piece.first? = some '\\' := by
    rw [first?, h]
    rfl
  apply honest_of_first?
  rw [hfirst]
  decide

/-- A command that looks for an argument is honest, for it starts with a backslash. -/
theorem honest_seeker (command : Seeker) : (seeker command).Honest :=
  honest_backslash rfl

end Piece

/-- Pieces as they are written, one after the other. -/
def writePieces (pieces : List Piece) : Text :=
  pieces.flatMap Piece.write

@[simp] theorem writePieces_nil : writePieces [] = [] :=
  rfl

@[simp] theorem writePieces_cons (piece : Piece) (pieces : List Piece) :
    writePieces (piece :: pieces) = piece.write ++ writePieces pieces :=
  List.flatMap_cons

@[simp] theorem writePieces_append (pieces others : List Piece) :
    writePieces (pieces ++ others) = writePieces pieces ++ writePieces others :=
  List.flatMap_append

/-- Characters of the document are written escaped. -/
theorem writePieces_map_text (t : Text) : writePieces (t.map .text) = escape t := by
  rw [writePieces, List.flatMap_map]
  rfl

/-! ## Reading pieces -/

/-- The commands among the pieces, each with the first character that it finds when `rest` follows
the pieces. -/
def announced (rest : Text) : List Piece → List (Seeker × Option Char)
  | [] => []
  | .seeker command :: pieces =>
    (command, firstVisible (writePieces pieces ++ rest)) :: announced rest pieces
  | .text _ :: pieces => announced rest pieces
  | .markup _ :: pieces => announced rest pieces

/-- What is announced in pieces depends on the text behind them. -/
theorem announced_append (rest : Text) (pieces others : List Piece) :
    announced rest (pieces ++ others) =
      announced (writePieces others ++ rest) pieces ++ announced rest others := by
  induction pieces with
  | nil => rfl
  | cons piece pieces ih =>
    cases piece with
    | text c => exact ih
    | markup t => exact ih
    | seeker command =>
      rw [List.cons_append, announced, ih, announced, writePieces_append, List.append_assoc,
        List.cons_append]

/-- Just the commands among the pieces are read as such, whatever follows. -/
def Reads (pieces : List Piece) : Prop :=
  ∀ rest, seekers (writePieces pieces ++ rest) = announced rest pieces ++ seekers rest

theorem reads_nil : Reads [] :=
  fun _ => rfl

/-- Pieces that read as their commands do so one after the other. -/
theorem Reads.append {pieces others : List Piece} (h : Reads pieces) (h' : Reads others) :
    Reads (pieces ++ others) := by
  intro rest
  rw [writePieces_append, List.append_assoc, h, h', announced_append, List.append_assoc]

/-- A character of the document reads as no command. -/
theorem reads_text (c : Char) : Reads [.text c] := by
  intro rest
  rw [writePieces_cons, writePieces_nil, List.append_nil]
  exact inert_escapeChar c rest

/-- Inert markup reads as no command. -/
theorem reads_markup {t : Text} (h : Inert t) : Reads [.markup t] := by
  intro rest
  rw [writePieces_cons, writePieces_nil, List.append_nil]
  exact h rest

/-- The end of a line reads as itself. -/
theorem reads_lineEnd : Reads [.seeker .lineEnd] := by
  intro rest
  exact seekers_backslash '\\' rest

/-- A command with a sign behind it that ends its name. -/
theorem reads_seeker (command : Seeker) {c : Char} (hletter : c.isAlpha = false)
    (hbackslash : c ≠ '\\') : Reads [.seeker command, .markup [c]] := by
  intro rest
  have hword : ∀ name : Text, name ≠ [] → name.all Char.isAlpha = true →
      Seeker.ofName? name = some command →
      seekers ('\\' :: name ++ c :: rest) =
        (command, firstVisible (c :: rest)) :: seekers rest := by
    intro name hne hname hcommand
    rw [seekers_name hne hname hletter, hcommand, seekers_cons hbackslash]
    rfl
  -- all but one of these commands have a name of letters, which the sign behind it ends
  cases command with
  | item => exact hword "item".toList (by decide) (by decide) (by decide)
  | topRule => exact hword "toprule".toList (by decide) (by decide) (by decide)
  | headerRule => exact hword "midrule".toList (by decide) (by decide) (by decide)
  | lineEnd =>
    show seekers ('\\' :: '\\' :: c :: rest) = _
    rw [seekers_backslash, seekers_cons hbackslash]
    rfl

/-! ## Faithful pieces -/

/-- Pieces that are read as what they are, with no sign of an argument but from the document. -/
structure Faithful (pieces : List Piece) : Prop where
  reads : Reads pieces
  honest : ∀ piece ∈ pieces, piece.Honest

theorem faithful_nil : Faithful [] :=
  ⟨reads_nil, List.forall_mem_nil _⟩

/-- Faithful pieces are faithful one after the other. -/
theorem Faithful.append {pieces others : List Piece} (h : Faithful pieces) (h' : Faithful others) :
    Faithful (pieces ++ others) :=
  ⟨h.reads.append h'.reads, List.forall_mem_append.2 ⟨h.honest, h'.honest⟩⟩

/-- What is made of faithful pieces one by one is faithful. -/
theorem Faithful.flatMap {α : Type} {f : α → List Piece} {items : List α}
    (h : ∀ item ∈ items, Faithful (f item)) : Faithful (items.flatMap f) := by
  induction items with
  | nil => exact faithful_nil
  | cons item items ih =>
    rw [List.forall_mem_cons] at h
    rw [List.flatMap_cons]
    exact h.1.append (ih h.2)

/-- Markup is faithful if it is inert and honest. -/
theorem faithful_markup {t : Text} (hinert : Inert t) (hhonest : (Piece.markup t).Honest) :
    Faithful [.markup t] :=
  ⟨reads_markup hinert, List.forall_mem_singleton.2 hhonest⟩

/-- Markup that starts with a command. -/
theorem faithful_backslash {t r : Text} (hinert : Inert t) (h : t = '\\' :: r) :
    Faithful [.markup t] :=
  faithful_markup hinert (Piece.honest_backslash h)

/-- The commands among the pieces, each with the piece that it looks at: the first one behind it
that shows something. -/
def followers : List Piece → List (Seeker × Option Piece)
  | [] => []
  | .seeker command :: pieces =>
    (command, pieces.find? fun piece => piece.first?.isSome) :: followers pieces
  | .text _ :: pieces => followers pieces
  | .markup _ :: pieces => followers pieces

/-- What is first seen of pieces is seen of the first piece that shows something. -/
theorem firstVisible_writePieces (pieces : List Piece) :
    firstVisible (writePieces pieces) =
      (pieces.find? fun piece => piece.first?.isSome).bind Piece.first? := by
  induction pieces with
  | nil => rfl
  | cons piece pieces ih =>
    rw [firstVisible] at ih
    rw [firstVisible, writePieces_cons, List.find?_append, List.find?_cons, ih]
    -- a piece without anything visible is skipped, as white space is in the text
    cases hfirst : piece.first? with
    | none =>
      rw [Piece.first?, firstVisible] at hfirst
      rw [hfirst]
      rfl
    | some c =>
      have hhere := hfirst
      rw [Piece.first?, firstVisible] at hhere
      rw [hhere]
      exact hfirst.symm

/-- What is announced is each command with what its follower shows first. -/
theorem announced_eq (pieces : List Piece) :
    announced [] pieces =
      (followers pieces).map fun follower => (follower.1, follower.2.bind Piece.first?) := by
  induction pieces with
  | nil => rfl
  | cons piece pieces ih =>
    cases piece with
    | text c => exact ih
    | markup t => exact ih
    | seeker command =>
      rw [announced, followers, List.map_cons, ih, List.append_nil, firstVisible_writePieces]

/-- What a command looks at is one of the pieces. -/
theorem mem_of_mem_followers {pieces : List Piece} {command : Seeker} {piece : Piece}
    (h : (command, some piece) ∈ followers pieces) : piece ∈ pieces := by
  induction pieces with
  | nil => exact absurd h List.not_mem_nil
  | cons first pieces ih =>
    cases first with
    | text c => exact List.mem_cons_of_mem _ (ih h)
    | markup t => exact List.mem_cons_of_mem _ (ih h)
    | seeker other =>
      rw [followers, List.mem_cons] at h
      rcases h with h | h
      · obtain ⟨-, hpiece⟩ := Prod.mk.inj h
        exact List.mem_cons_of_mem _ (List.mem_of_find?_eq_some hpiece.symm)
      · exact List.mem_cons_of_mem _ (ih h)

/-- **The commands that are read are those that were written**, each with the first character of the
piece that it looks at; and this is a sign of an argument exactly if the piece is that character of
the document. -/
theorem Faithful.seekers_write {pieces : List Piece} (h : Faithful pieces) :
    seekers (writePieces pieces) =
        (followers pieces).map (fun follower => (follower.1, follower.2.bind Piece.first?)) ∧
      ∀ follower ∈ followers pieces, ∀ c ∈ argumentSigns,
        follower.2.bind Piece.first? = some c ↔ follower.2 = some (.text c) := by
  constructor
  · have hread := h.reads []
    rw [List.append_nil, announced_eq] at hread
    rw [hread, seekers, List.append_nil]
  · rintro ⟨command, next⟩ hmem c hc
    cases next with
    | none => simp
    | some piece =>
      -- only a character of the document shows such a sign first
      have hhonest := h.honest piece (mem_of_mem_followers hmem)
      rw [Option.bind_some, Option.some.injEq]
      constructor
      · exact hhonest c hc
      · rintro rfl
        exact Piece.first?_text hc

/-! ## Pieces put together -/

/-- Lists of pieces with markup between neighbours. -/
def joinPieces (separator : Text) : List (List Piece) → List Piece
  | [] => []
  | [pieces] => pieces
  | pieces :: next :: more => pieces ++ .markup separator :: joinPieces separator (next :: more)

theorem writePieces_joinPieces (separator : Text) (parts : List (List Piece)) :
    writePieces (joinPieces separator parts) =
      List.intercalate separator (parts.map writePieces) := by
  fun_induction joinPieces separator parts with
  | case1 => rfl
  | case2 pieces => exact List.intercalate_singleton.symm
  | case3 pieces next more ih =>
    rw [writePieces_append, writePieces_cons, ih, Piece.write, ← List.append_assoc, List.map_cons,
      List.map_cons, List.map_cons, List.intercalate_cons_cons]

/-- Faithful parts are faithful when they are joined by a faithful separator. -/
theorem faithful_joinPieces {separator : Text} (hseparator : Faithful [.markup separator])
    {parts : List (List Piece)} (h : ∀ pieces ∈ parts, Faithful pieces) :
    Faithful (joinPieces separator parts) := by
  fun_induction joinPieces separator parts with
  | case1 => exact faithful_nil
  | case2 pieces => exact h pieces (List.mem_singleton_self _)
  | case3 pieces next more ih =>
    rw [List.forall_mem_cons] at h
    exact h.1.append (hseparator.append (ih h.2))

/-- Lines of pieces, and a last line of markup. -/
def linePieces (lines : List (List Piece)) (last : Text) : List Piece :=
  lines.flatMap (· ++ [.markup ['\n']]) ++ [.markup last]

/-- Pieces in lines are written as lines. -/
theorem writePieces_linePieces (lines : List (List Piece)) (last : Text) :
    writePieces (linePieces lines last) =
      List.intercalate ['\n'] (lines.map writePieces ++ [last]) := by
  rw [linePieces, writePieces_append, Text.intercalate_append_cons, writePieces, List.flatMap_assoc,
    List.flatMap_map]
  simp [Piece.write, writePieces]

/-- A line may end with a command, since the line end ends its name. -/
theorem faithful_linePieces {lines : List (List Piece)} {last : Text}
    (hlast : Faithful [.markup last])
    (h : ∀ line ∈ lines, Faithful (line ++ [.markup ['\n']])) : Faithful (linePieces lines last) :=
  (Faithful.flatMap h).append hlast

/-- A space or a line end is skipped. -/
theorem faithful_skipped {c : Char} (h : isVisible c = false) : Faithful [.markup [c]] := by
  have hbackslash : '\\' ∉ [c] := by
    intro hmem
    rw [← List.mem_singleton.1 hmem] at h
    exact absurd h (by decide)
  have hfirst : (Piece.markup [c]).first? = none := by
    rw [Piece.first?, Piece.write, firstVisible, List.find?_cons, h]
    rfl
  apply faithful_markup (inert_of_not_mem hbackslash)
  apply Piece.honest_of_first?
  rw [hfirst]
  decide

/-- A line feed is faithful. -/
theorem faithful_lineFeed : Faithful [.markup ['\n']] :=
  faithful_skipped rfl

/-- A command with a space or a line end behind it. -/
theorem faithful_seeker (command : Seeker) {c : Char} (h : isVisible c = false) :
    Faithful [.seeker command, .markup [c]] := by
  have hblank : c = ' ' ∨ c = '\n' := by
    by_contra hne
    rw [not_or] at hne
    simp [isVisible, hne.1, hne.2] at h
  have hreads : Reads [.seeker command, .markup [c]] := by
    rcases hblank with rfl | rfl
    · exact reads_seeker command (by decide) (by decide)
    · exact reads_seeker command (by decide) (by decide)
  refine ⟨hreads, ?_⟩
  rw [List.forall_mem_cons]
  exact ⟨Piece.honest_seeker command, (faithful_skipped h).honest⟩

/-! ## Pieces without the white space at their ends -/

/-- A text that white space is not stripped off in part: it is white space, or has none at its
ends. -/
def Whole (t : Text) : Prop :=
  t.all Text.isBlank = true ∨
    (∃ c r, t = c :: r ∧ Text.isBlank c = false) ∧ ∃ c r, t = r ++ [c] ∧ Text.isBlank c = false

/-- A character is whole: it is a blank or none. -/
theorem whole_singleton (c : Char) : Whole [c] := by
  cases h : Text.isBlank c with
  | false => exact .inr ⟨⟨c, [], rfl, h⟩, c, [], rfl, h⟩
  | true => exact .inl (by simp [h])

/-- Markup that starts with a backslash and does not end in white space. -/
theorem whole_backslash (t : Text) {c : Char} (hc : Text.isBlank c = false) :
    Whole ('\\' :: (t ++ [c])) :=
  .inr ⟨⟨'\\', t ++ [c], rfl, rfl⟩, c, '\\' :: t, rfl, hc⟩

/-- An escaped character is whole. -/
theorem whole_escapeChar (c : Char) : Whole (escapeChar c) := by
  by_cases h : c ∈ specials
  · simp only [specials, List.mem_cons, List.not_mem_nil, or_false] at h
    rcases h with rfl | rfl | rfl | rfl | rfl | rfl | rfl | rfl | rfl | rfl
    · exact whole_backslash "textbackslash\x7b".toList rfl
    · exact whole_backslash [] rfl
    · exact whole_backslash [] rfl
    · exact whole_backslash [] rfl
    · exact whole_backslash [] rfl
    · exact whole_backslash [] rfl
    · exact whole_backslash [] rfl
    · exact whole_backslash [] rfl
    · exact whole_backslash "textasciitilde\x7b".toList rfl
    · exact whole_backslash "textasciicircum\x7b".toList rfl
  · rw [escapeChar_of_not_mem h]
    exact whole_singleton c

/-- The pieces from the first that shows more than white space to the last. -/
def trimPieces (pieces : List Piece) : List Piece :=
  let isBlank (piece : Piece) : Bool := piece.write.all Text.isBlank
  ((pieces.dropWhile isBlank).reverse.dropWhile isBlank).reverse

/-- Trimming keeps pieces that were there. -/
theorem mem_of_mem_trimPieces {pieces : List Piece} {piece : Piece}
    (h : piece ∈ trimPieces pieces) : piece ∈ pieces := by
  rw [trimPieces, List.mem_reverse] at h
  exact (List.dropWhile_sublist _).mem (List.mem_reverse.1 ((List.dropWhile_sublist _).mem h))

/-- What is dropped off a text that items write is what the items in front write, if none is dropped
in part. -/
theorem dropWhile_flatMap {α : Type} {f : α → Text} {p : Char → Bool} {items : List α}
    (h : ∀ item ∈ items, (f item).all p = true ∨ ∃ c r, f item = c :: r ∧ p c = false) :
    (items.flatMap f).dropWhile p = (items.dropWhile fun item => (f item).all p).flatMap f := by
  induction items with
  | nil => rfl
  | cons item items ih =>
    rw [List.forall_mem_cons] at h
    rw [List.flatMap_cons, List.dropWhile_cons]
    rcases h.1 with hall | ⟨c, r, hcons, hc⟩
    · rw [if_pos hall, List.dropWhile_append_of_pos (List.all_eq_true.1 hall), ih h.2]
    · have hkept : (f item).all p = false := by simp [hcons, hc]
      rw [hkept, if_neg (by decide), List.flatMap_cons, hcons, List.cons_append,
        List.dropWhile_cons, hc]
      rfl

/-- Pieces that are whole are trimmed as the text is stripped. -/
theorem writePieces_trimPieces {pieces : List Piece} (h : ∀ piece ∈ pieces, Whole piece.write) :
    writePieces (trimPieces pieces) = Text.strip (writePieces pieces) := by
  let isBlank (piece : Piece) : Bool := piece.write.all Text.isBlank
  have hfront : (writePieces pieces).dropWhile Text.isBlank =
      writePieces (pieces.dropWhile isBlank) :=
    dropWhile_flatMap fun piece hpiece => (h piece hpiece).imp_right And.left
  have hback : (writePieces (pieces.dropWhile isBlank)).reverse.dropWhile Text.isBlank =
      (writePieces (trimPieces pieces)).reverse := by
    -- from behind, a piece that is no blank ends with a character that is none
    have hends : ∀ piece ∈ (pieces.dropWhile isBlank).reverse,
        ((List.reverse ∘ Piece.write) piece).all Text.isBlank = true ∨
          ∃ c r, (List.reverse ∘ Piece.write) piece = c :: r ∧ Text.isBlank c = false := by
      intro piece hpiece
      have hmem := (List.dropWhile_sublist isBlank).mem (List.mem_reverse.1 hpiece)
      rw [Function.comp_apply, List.all_reverse]
      refine (h piece hmem).imp_right ?_
      rintro ⟨-, c, r, hlast, hc⟩
      refine ⟨c, r.reverse, ?_, hc⟩
      rw [hlast, List.reverse_append]
      rfl
    have hdrop := dropWhile_flatMap hends
    simp only [Function.comp_apply, List.all_reverse] at hdrop
    rw [writePieces, writePieces, List.reverse_flatMap, hdrop, List.reverse_flatMap, trimPieces,
      List.reverse_reverse]
  rw [Text.strip, Text.trimBy, hfront, hback, List.reverse_reverse]

/-- A piece that is faithful by itself, wherever it stands, and is not stripped in part. -/
structure Piece.Loose (piece : Piece) : Prop where
  reads : Reads [piece]
  honest : piece.Honest
  whole : Whole piece.write

/-- A character of the document is loose. -/
theorem loose_text (c : Char) : (Piece.text c).Loose :=
  ⟨reads_text c, Piece.honest_text c, whole_escapeChar c⟩

/-- The end of a line is loose. -/
theorem loose_lineEnd : (Piece.seeker .lineEnd).Loose :=
  ⟨reads_lineEnd, Piece.honest_seeker _, whole_backslash [] rfl⟩

/-- A line feed is loose. -/
theorem loose_lineFeed : (Piece.markup ['\n']).Loose :=
  ⟨faithful_lineFeed.reads, faithful_lineFeed.honest _ (List.mem_singleton_self _),
    whole_singleton '\n'⟩

/-- Pieces that are faithful by themselves are faithful together. -/
theorem faithful_of_loose {pieces : List Piece} (h : ∀ piece ∈ pieces, piece.Loose) :
    Faithful pieces := by
  induction pieces with
  | nil => exact faithful_nil
  | cons piece pieces ih =>
    rw [List.forall_mem_cons] at h
    have hhere : Faithful [piece] := ⟨h.1.reads, List.forall_mem_singleton.2 h.1.honest⟩
    exact hhere.append (ih h.2)

end MarkTex.Tex
