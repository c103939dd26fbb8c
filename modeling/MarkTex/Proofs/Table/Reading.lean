import MarkTex.Proofs.Table.Layout
import MarkTex.Proofs.Tex.Reading

/-!
# Reading rows of tables

A body is written in stretches: clean markup, and rows of tables (`Written`). What is written so is
read stretch by stretch, and in a row exactly one ampersand stands between neighbouring cells
(`Written.escaped`). A table that is laid out is written with the rows that it is given, each cell
stripped (`written_layout`).

## Shape of the proof

The cells of a row are clean in front of white space, which is what stripping leaves of them; so
each of them is read on its own (`Stretch.read_row`). The stretches of a body are kept apart by
being clean: reading is at the same place behind each of them.
-/

namespace MarkTex.Table

open Tex (Place Role Clean Leads after read isGuarded)

/-! ## Stretches -/

/-- A stretch of what is written: markup, or a row of a table with its cells. -/
inductive Stretch where
  | markup (t : Text)
  | row (cells : Row)

namespace Stretch

/-- A stretch as it is written. -/
def text : Stretch → Text
  | markup t => t
  | row cells => List.intercalate " & ".toList cells ++ " \\\\".toList

/-- The texts that a stretch is made of, without what the layout of the table adds. -/
def parts : Stretch → List Text
  | markup t => [t]
  | row cells => cells

/-- The row that a stretch is. -/
def row? : Stretch → Option Row
  | markup _ => none
  | row cells => some cells

/-- The sign between neighbouring cells as it is read. -/
def separator : List (Char × Role) :=
  [(' ', .bare), ('&', .bare), (' ', .bare)]

/-- The end of a row as it is read. -/
def ending : List (Char × Role) :=
  [(' ', .bare), ('\\', .taken), ('\\', .taken)]

/-- A stretch as it is read: each part of it by itself, and one sign between neighbouring cells. -/
def reading : Stretch → List (Char × Role)
  | markup t => read .text t
  | row cells => separator.intercalate (cells.map (read .text)) ++ ending

/-- The parts of the stretch leave no sign to itself: markup by itself, and a cell in front of white
space. -/
def Clean : Stretch → Prop
  | markup t => Tex.Clean t
  | row cells => ∀ cell ∈ cells, Tex.Clean (cell ++ [' '])

/-- A row is read cell by cell. -/
theorem read_row {cells : Row} (h : ∀ cell ∈ cells, Tex.Clean (cell ++ [' '])) :
    after .text (row cells).text = .text ∧ read .text (row cells).text = (row cells).reading := by
  rw [text, reading]
  induction cells with
  | nil => exact ⟨rfl, rfl⟩
  | cons cell cells ih =>
    rw [List.forall_mem_cons] at h
    cases cells with
    | nil =>
      obtain ⟨hafter, hread⟩ := h.1.read_space "\\\\".toList
      rw [List.map_singleton, List.intercalate_singleton, List.intercalate_singleton]
      exact ⟨hafter, hread⟩
    | cons next rest =>
      obtain ⟨ihafter, ihread⟩ := ih h.2
      let tail := List.intercalate " & ".toList (next :: rest) ++ " \\\\".toList
      have htext : List.intercalate " & ".toList (cell :: next :: rest) ++ " \\\\".toList =
          cell ++ ' ' :: ('&' :: ' ' :: tail) := by
        simp [tail, List.intercalate_cons_cons]
      obtain ⟨hafter, hread⟩ := h.1.read_space ('&' :: ' ' :: tail)
      -- an ampersand behind a cell is read bare, for the cell leaves the reading where it was
      have hsign : read .text ('&' :: ' ' :: tail) =
          ('&', .bare) :: (' ', .bare) :: read .text tail := rfl
      rw [htext]
      constructor
      · rw [hafter]
        exact ihafter
      · rw [hread, hsign, ihread, List.map_cons, List.map_cons, List.map_cons,
          List.intercalate_cons_cons]
        simp [separator]

/-- A clean stretch is read part by part, and reading ends where it began. -/
theorem Clean.read_text {s : Stretch} (h : s.Clean) :
    after .text s.text = .text ∧ read .text s.text = s.reading := by
  cases s with
  | markup t => exact ⟨h.1, rfl⟩
  | row cells => exact read_row h

end Stretch

/-! ## Bodies -/

/-- The text is written in clean stretches, and its rows are the given ones. -/
def Written (t : Text) (rows : List Row) : Prop :=
  ∃ stretches : List Stretch, stretches.flatMap Stretch.text = t ∧
    stretches.filterMap Stretch.row? = rows ∧ ∀ stretch ∈ stretches, stretch.Clean

theorem written_nil : Written [] [] :=
  ⟨[], rfl, rfl, fun _ h => absurd h List.not_mem_nil⟩

/-- Clean text is written without rows. -/
theorem written_markup {t : Text} (h : Tex.Clean t) : Written t [] := by
  refine ⟨[.markup t], List.append_nil t, rfl, fun stretch hstretch => ?_⟩
  rw [List.mem_singleton.1 hstretch]
  exact h

/-- What is written one after the other has the rows of both. -/
theorem Written.append {s t : Text} {rows more : List Row} (hs : Written s rows)
    (ht : Written t more) : Written (s ++ t) (rows ++ more) := by
  obtain ⟨front, rfl, rfl, hfront⟩ := hs
  obtain ⟨back, rfl, rfl, hback⟩ := ht
  exact ⟨front ++ back, List.flatMap_append, List.filterMap_append,
    List.forall_mem_append.2 ⟨hfront, hback⟩⟩

/-- A row is never written as nothing. -/
theorem rows_of_written_nil {rows : List Row} (h : Written [] rows) : rows = [] := by
  obtain ⟨stretches, htext, rfl, -⟩ := h
  rw [List.filterMap_eq_nil_iff]
  intro stretch hstretch
  have hempty := List.flatMap_eq_nil_iff.1 htext stretch hstretch
  cases stretch with
  | markup t => rfl
  | row cells => simp [Stretch.text] at hempty

/-- The texts are written one by one, and the given rows are those of all. -/
inductive WrittenAll : List Text → List Row → Prop where
  | nil : WrittenAll [] []
  | cons {t : Text} {texts : List Text} {rows more : List Row} (h : Written t rows)
    (hs : WrittenAll texts more) : WrittenAll (t :: texts) (rows ++ more)

namespace WrittenAll

/-- A clean text in front of others brings no rows. -/
theorem markup {t : Text} {texts : List Text} {rows : List Row} (h : Tex.Clean t)
    (hs : WrittenAll texts rows) : WrittenAll (t :: texts) rows :=
  .cons (written_markup h) hs

theorem append {texts others : List Text} {rows more : List Row} (h : WrittenAll texts rows)
    (hs : WrittenAll others more) : WrittenAll (texts ++ others) (rows ++ more) := by
  induction h with
  | nil => exact hs
  | cons ht _ ih =>
    rw [List.cons_append, List.append_assoc]
    exact .cons ht ih

/-- Texts that are joined by a clean separator are written with all their rows. -/
theorem intercalate {separator : Text} (hseparator : Tex.Clean separator) {texts : List Text}
    {rows : List Row} (h : WrittenAll texts rows) :
    Written (List.intercalate separator texts) rows := by
  have hrest : ∀ {texts : List Text} {rows : List Row}, WrittenAll texts rows →
      Written (texts.flatMap (separator ++ ·)) rows := by
    intro texts rows h
    induction h with
    | nil => exact written_nil
    | cons ht _ ih => exact ((written_markup hseparator).append ht).append ih
  cases h with
  | nil => exact written_nil
  | cons ht hs =>
    rw [Text.intercalate_cons]
    exact ht.append (hrest hs)

/-- Empty texts hold no rows. -/
theorem filter_nonempty {texts : List Text} {rows : List Row} (h : WrittenAll texts rows) :
    WrittenAll (texts.filter (!·.isEmpty)) rows := by
  induction h with
  | nil => exact .nil
  | @cons t texts rows more ht _ ih =>
    cases t with
    | nil =>
      rw [rows_of_written_nil ht]
      exact ih
    | cons c t => exact .cons ht ih

end WrittenAll

/-! ## How a body is read -/

/-- What is emitted is read without a sign that was left to itself: percent and number signs are
taken everywhere, other signs are taken or stand in an address, and the ampersands that are left are
those between neighbouring cells of the rows of its tables. -/
structure Escaped (content : Text) (rows : List Row) : Prop where
  taken : ∀ c ∈ ['%', '#'], ∀ role, (c, role) ∈ read .text content → role = .taken
  addressed : ∀ c ∈ ['$', '_', '^', '~'], (c, .bare) ∉ read .text content
  separated : ∃ stretches : List Stretch, stretches.flatMap Stretch.text = content ∧
    stretches.filterMap Stretch.row? = rows ∧
    read .text content = stretches.flatMap Stretch.reading ∧
    ∀ stretch ∈ stretches, ∀ part ∈ stretch.parts, ('&', .bare) ∉ read .text part

/-- What is written stretch by stretch is read stretch by stretch. -/
theorem read_stretches {stretches : List Stretch} (h : ∀ stretch ∈ stretches, stretch.Clean) :
    read .text (stretches.flatMap Stretch.text) = stretches.flatMap Stretch.reading := by
  induction stretches with
  | nil => rfl
  | cons stretch stretches ih =>
    rw [List.forall_mem_cons] at h
    obtain ⟨hafter, hread⟩ := h.1.read_text
    rw [List.flatMap_cons, Tex.read_append, hafter, hread, ih h.2, List.flatMap_cons]

/-- In a part of a stretch no sign is left bare. -/
theorem guarded_of_mem_parts {stretch : Stretch} (h : stretch.Clean) {part : Text}
    (hpart : part ∈ stretch.parts) : ∀ sign ∈ read .text part, isGuarded sign = true := by
  cases stretch with
  | markup t =>
    rw [List.mem_singleton.1 hpart]
    exact h.2
  | row cells =>
    have hcell := (h part hpart).2
    rw [Tex.read_append, List.forall_mem_append] at hcell
    exact hcell.1

/-- What holds of the lists and of what stands between them holds of all of it. -/
theorem forall_mem_intercalate {α : Type} {p : α → Prop} {between : List α} {lists : List (List α)}
    (hbetween : ∀ x ∈ between, p x) (h : ∀ list ∈ lists, ∀ x ∈ list, p x) :
    ∀ x ∈ between.intercalate lists, p x := by
  induction lists with
  | nil =>
    rw [List.intercalate_nil]
    exact fun _ hx => absurd hx List.not_mem_nil
  | cons list lists ih =>
    rw [List.forall_mem_cons] at h
    cases lists with
    | nil =>
      rw [List.intercalate_singleton]
      exact h.1
    | cons next lists =>
      rw [List.intercalate_cons_cons, List.forall_mem_append, List.forall_mem_append]
      exact ⟨⟨h.1, hbetween⟩, ih h.2⟩

/-- In a clean stretch, only the ampersands between cells are left to themselves. -/
theorem guarded_of_mem_reading {stretch : Stretch} (h : stretch.Clean) :
    ∀ sign ∈ stretch.reading, isGuarded sign = true ∨ sign = ('&', .bare) := by
  cases stretch with
  | markup t => exact fun sign hsign => .inl (h.2 sign hsign)
  | row cells =>
    rw [Stretch.reading, List.forall_mem_append]
    refine ⟨forall_mem_intercalate (by decide) fun list hlist => ?_, by decide⟩
    obtain ⟨cell, hcell, rfl⟩ := List.mem_map.1 hlist
    exact fun sign hsign => .inl (guarded_of_mem_parts h hcell sign hsign)

/-- What is written in stretches is escaped, and its bare ampersands are those between cells. -/
theorem Written.escaped {t : Text} {rows : List Row} (h : Written t rows) : Escaped t rows := by
  obtain ⟨stretches, rfl, rfl, hclean⟩ := h
  have hread := read_stretches hclean
  have hguarded : ∀ c role, (c, role) ∈ read .text (stretches.flatMap Stretch.text) →
      isGuarded (c, role) = true ∨ (c, role) = ('&', .bare) := by
    intro c role hsign
    rw [hread] at hsign
    obtain ⟨stretch, hstretch, hsign⟩ := List.mem_flatMap.1 hsign
    exact guarded_of_mem_reading (hclean stretch hstretch) _ hsign
  refine ⟨?_, ?_, stretches, rfl, rfl, hread, ?_⟩
  · -- a sign that is escaped wherever it stands is not an ampersand, so it is guarded
    intro c hc role hsign
    rcases hguarded c role hsign with hsign | hsign
    · exact (Tex.role_of_isGuarded hsign).1 hc
    · obtain ⟨rfl, -⟩ := Prod.mk.inj hsign
      exact absurd hc (by decide)
  · intro c hc hsign
    rcases hguarded c .bare hsign with hsign | hsign
    · exact (Tex.role_of_isGuarded hsign).2 (List.mem_append_left ['&'] hc) rfl
    · obtain ⟨rfl, -⟩ := Prod.mk.inj hsign
      exact absurd hc (by decide)
  · intro stretch hstretch part hpart hsign
    have hguarded := guarded_of_mem_parts (hclean stretch hstretch) hpart _ hsign
    exact absurd hguarded (by decide)

/-! ## Tables -/

/-- The characters of a column specification are no special signs. -/
theorem not_mem_specials {c : Char} (h : isSpecChar c = true) : c ∉ Tex.specials := by
  have hspecials : (Tex.specials.all fun c => !isSpecChar c) = true := by
    decide
  intro hspecial
  have hother := List.all_eq_true.1 hspecials c hspecial
  rw [h] at hother
  exact nomatch hother

/-- A column specification is clean. -/
theorem clean_columnSpec {a : Analysis} {environment : Environment} {spec : Text}
    (h : columnSpec a environment = .ok spec) : Tex.Clean spec := by
  refine holds_columnSpec Tex.compositional_clean
    (fun c hc => Tex.clean_singleton (not_mem_specials hc)) (fun t ht => ?_) h
  have hopen : Tex.Clean ['{'] := by
    decide
  have hwidth : Tex.Clean t := Tex.clean_of_not_mem fun c hc => not_mem_specials (ht c hc)
  have hunit : Tex.Clean "\\textwidth\x7d".toList := by
    decide
  have hbox := hopen.append (hwidth.append hunit)
  simpa [Tex.braced] using hbox

/-- The line that opens a table is clean. -/
theorem clean_openingLine (environment : Environment) {spec : Text} (h : Tex.Clean spec) :
    Tex.Clean (openingLine environment spec) := by
  have hopening : ∀ line : Text, Tex.Clean line → Tex.Clean (line ++ Tex.braced spec) :=
    fun line hline => hline.append (Tex.clean_braced h)
  cases environment with
  | tabular => exact hopening (Tex.opening "tabular") (by decide)
  | tabularx => exact hopening (Tex.opening "tabularx" ++ "\x7b\\textwidth\x7d".toList) (by decide)
  | longtable => exact hopening (Tex.opening "longtable") (by decide)

/-- A row is written as the row of its cells, each stripped. -/
theorem written_writeRow {row : Row} (h : ∀ cell ∈ row, Tex.Clean cell) :
    Written (writeRow row) [row.map Text.strip] := by
  refine ⟨[.row (row.map Text.strip)], List.append_nil _, rfl, fun stretch hstretch => ?_⟩
  rw [List.mem_singleton.1 hstretch]
  intro cell hcell
  obtain ⟨source, hsource, rfl⟩ := List.mem_map.1 hcell
  exact Tex.Clean.strip_space (h source hsource)

/-- The rules of a table are clean. -/
theorem clean_rules (style : Style) :
    Tex.Clean style.topRule ∧ Tex.Clean style.headerRule ∧ Tex.Clean style.bottomRule := by
  cases style <;> decide

/-- Rows are written as themselves, each cell stripped. -/
theorem written_rows {rows : List Row} (h : ∀ row ∈ rows, ∀ cell ∈ row, Tex.Clean cell) :
    WrittenAll (rows.map writeRow) (rows.map fun row => row.map Text.strip) := by
  induction rows with
  | nil => exact .nil
  | cons row rows ih =>
    rw [List.forall_mem_cons] at h
    exact .cons (written_writeRow h.1) (ih h.2)

/-- The lines of the rows bring these rows. -/
theorem written_bodyLines (style : Style) {rows : List Row}
    (h : ∀ row ∈ rows, ∀ cell ∈ row, Tex.Clean cell) :
    WrittenAll (bodyLines style rows) (rows.map fun row => row.map Text.strip) := by
  cases rows with
  | nil => exact .nil
  | cons header body =>
    rw [List.forall_mem_cons] at h
    exact .cons (written_writeRow h.1) (.markup (clean_rules style).2.1 (written_rows h.2))

/-- A table is written with the rows it is assembled of. -/
theorem written_assemble (style : Style) (environment : Environment) {spec : Text}
    {rows : List Row} (hspec : Tex.Clean spec) (h : ∀ row ∈ rows, ∀ cell ∈ row, Tex.Clean cell) :
    Written (assemble style environment spec rows) (rows.map fun row => row.map Text.strip) := by
  have hclosing : Tex.Clean (Tex.closing environment.name) := by
    cases environment <;> decide
  have hend : WrittenAll [style.bottomRule, Tex.closing environment.name] [] :=
    .markup (clean_rules style).2.2 (.markup hclosing .nil)
  have hlines := (written_bodyLines style h).append hend
  rw [List.append_nil] at hlines
  exact WrittenAll.intercalate (by decide)
    (.markup (clean_openingLine environment hspec) (.markup (clean_rules style).1 hlines))

/-- A table that was laid out is written with the rows that it was given. -/
theorem written_layout {options : Options} {rows measured : List Row}
    {alignments : List Alignment} {table : Layout}
    (hlayout : layout options rows measured alignments = .ok table)
    (h : ∀ row ∈ rows, ∀ cell ∈ row, Tex.Clean cell) :
    Written table.code (rows.map fun row => row.map Text.strip) := by
  rcases layout_cases hlayout with ⟨rfl, rfl⟩ | ⟨-, spec, hspec, -, hcode, -⟩
  · exact written_nil
  · rw [hcode]
    exact written_assemble options.style _ (clean_columnSpec hspec) h

end MarkTex.Table
