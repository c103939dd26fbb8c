import MarkTex.Proofs.Text.Lines
import MarkTex.Table.Layout

/-!
# What the layout of a table is made of

A table without rows has no code and asks for no package. Any other is assembled in the environment
that its measures ask for, if they give a column specification. There are three forms of columns
(`IsColumn`), so what holds of the few characters that they are written in, and of a width in braces,
holds of every specification (`holds_columnSpec`).
-/

namespace MarkTex.Table

/-- A table that is laid out has no rows, or is assembled from a column specification. -/
theorem layout_cases {options : Options} {rows measured : List Row} {alignments : List Alignment}
    {table : Layout} (h : layout options rows measured alignments = .ok table) :
    (rows = [] ∧ table = ⟨[], .tabular, [], none, []⟩) ∨
    (rows ≠ [] ∧ ∃ spec,
      columnSpec (analyze options rows measured alignments) table.environment = .ok spec ∧
      table.environment = (analyze options rows measured alignments).environment ∧
      table.code = assemble options.style table.environment spec rows ∧
      table.packages = packages options.style table.environment) := by
  rw [layout] at h
  split at h
  · rename_i hrows
    exact .inl ⟨List.isEmpty_iff.1 hrows, (Except.ok.inj h).symm⟩
  · rename_i hrows
    let analysis := analyze options rows measured alignments
    cases hspec : columnSpec analysis analysis.environment with
    | error fault => simp [analysis, hspec, bind, Except.bind] at h
    | ok spec =>
      simp only [analysis, hspec, bind, Except.bind, pure, Except.pure] at h
      obtain rfl := Except.ok.inj h
      exact .inr ⟨fun hnil => hrows (List.isEmpty_iff.2 hnil), spec, hspec, rfl, rfl, rfl⟩

/-! ## Column specification -/

/-- Whether `c` may stand in a width. -/
def isWidthChar (c : Char) : Bool :=
  c.isDigit || c == '.'

/-- A width is written in digits and a point. -/
theorem isWidthChar_writeWidth (width : Nat) : ∀ c ∈ writeWidth width, isWidthChar c = true := by
  have hint : ∀ n : Nat, (Number.writeInt n).all isWidthChar = true := by
    intro n
    have htext : Number.writeInt n = Nat.toDigits 10 n := by
      show (Nat.repr n).toList = Nat.toDigits 10 n
      rw [Nat.repr, String.toList_ofList]
    rw [htext, List.all_eq_true]
    intro c hc
    -- a numeral in base ten has digits only
    have hdigit : c.isDigit = true := Nat.isDigit_of_mem_toDigits (by decide) (by decide) hc
    rw [isWidthChar, hdigit]
    rfl
  have hzeros : ∀ n : Nat, (List.replicate n '0').all isWidthChar = true := by
    intro n
    rw [List.all_eq_true]
    intro c hc
    rw [List.eq_of_mem_replicate hc]
    decide
  have hpart : (if width % 100 % 10 == 0 then Number.writeInt ↑(width % 100 / 10)
      else Text.padZeros 2 (Number.writeInt ↑(width % 100))).all isWidthChar = true := by
    split
    · exact hint _
    · rw [Text.padZeros, List.all_append, hzeros, hint]
      rfl
  rw [← List.all_eq_true, writeWidth, List.all_append, List.all_cons, Bool.and_eq_true,
    Bool.and_eq_true]
  exact ⟨hint (width / 100), by decide, hpart⟩

/-- The forms of columns: one that takes the width left over, one that takes the width of its cells,
and one that takes a fraction of the width of the text. -/
inductive IsColumn : Text → Prop where
  | shared : IsColumn ['X']
  | letter (alignment : Alignment) : IsColumn [alignment.letter]
  | box (alignment : Alignment) (width : Nat) :
    IsColumn (alignment.box :: Tex.braced (writeWidth width ++ "\\textwidth".toList))

/-- A column that shares the space has one of the three forms. -/
theorem isColumn_shared {c : Columns} {index : Nat} {column : Text}
    (h : c.shared index = .ok column) : IsColumn column := by
  rw [Columns.shared] at h
  split at h
  · obtain rfl := Except.ok.inj h
    exact .shared
  split at h
  · exact nomatch h
  · obtain rfl := Except.ok.inj h
    exact .letter _

/-- A column of its own width has one of the three forms. -/
theorem isColumn_boxed {c : Columns} {widths : List Nat} {index : Nat} {column : Text}
    (h : c.boxed widths index = .ok column) : IsColumn column := by
  rw [Columns.boxed] at h
  split at h
  · exact nomatch h
  split at h
  · split at h
    · exact nomatch h
    · split at h
      · obtain rfl := Except.ok.inj h
        exact .box _ _
      · obtain rfl := Except.ok.inj h
        exact .letter _
  · obtain rfl := Except.ok.inj h
    exact .letter _

/-- Every result of a traversal comes from one of the items. -/
theorem exists_of_mem_mapM {α β ε : Type} {f : α → Except ε β} {items : List α} {results : List β}
    (h : items.mapM f = .ok results) {y : β} (hy : y ∈ results) : ∃ x ∈ items, f x = .ok y := by
  induction items generalizing results with
  | nil =>
    obtain rfl : results = [] := by
      simpa [pure, Except.pure] using h.symm
    exact absurd hy List.not_mem_nil
  | cons x items ih =>
    rw [List.mapM_cons] at h
    cases hx : f x with
    | error e => simp [hx, bind, Except.bind] at h
    | ok value =>
      cases hrest : items.mapM f with
      | error e => simp [hx, hrest, bind, Except.bind] at h
      | ok values =>
        obtain rfl : value :: values = results := by
          simpa [hx, hrest, bind, Except.bind, pure, Except.pure] using h
        -- a result comes from the first item or from one of the others
        rcases List.mem_cons.1 hy with rfl | hy
        · exact ⟨x, List.mem_cons_self, hx⟩
        · obtain ⟨z, hz, hfz⟩ := ih hrest hy
          exact ⟨z, List.mem_cons_of_mem _ hz, hfz⟩

/-- A column specification is made of columns with spaces between them. -/
theorem columns_of_columnSpec {a : Analysis} {environment : Environment} {spec : Text}
    (h : columnSpec a environment = .ok spec) :
    ∃ columns, List.intercalate [' '] columns = spec ∧ ∀ column ∈ columns, IsColumn column := by
  rw [columnSpec, Columns.spec] at h
  cases hspecs : a.columns.specs environment with
  | error fault => simp [hspecs, Except.map] at h
  | ok columns =>
    have hspec : List.intercalate [' '] columns = spec := by
      simpa [hspecs, Except.map] using h
    refine ⟨columns, hspec, fun column hcolumn => ?_⟩
    rw [Columns.specs.eq_def] at hspecs
    split at hspecs
    · obtain ⟨index, -, hindex⟩ := exists_of_mem_mapM hspecs hcolumn
      exact isColumn_shared hindex
    · cases hwidths : widths a.columns.lengths a.columns.long with
      | error fault => simp [hwidths, bind, Except.bind] at hspecs
      | ok widths =>
        simp only [hwidths, bind, Except.bind] at hspecs
        obtain ⟨index, -, hindex⟩ := exists_of_mem_mapM hspecs hcolumn
        exact isColumn_boxed hindex

/-- Whether `c` may stand in a column specification, apart from braces and from the command that is
the unit of widths. -/
def isSpecChar (c : Char) : Bool :=
  c.isAlphanum || c == '.' || c == ' '

/-- The characters of a width may stand in a specification. -/
theorem isSpecChar_of_isWidthChar {c : Char} (h : isWidthChar c = true) : isSpecChar c = true := by
  rw [isWidthChar, Bool.or_eq_true] at h
  rcases h with h | h
  · simp [isSpecChar, Char.isAlphanum, h]
  · simp [isSpecChar, h]

/-- What is kept by putting texts together, and holds of the characters of a column specification and
of a width in braces, holds of the whole specification. -/
theorem holds_columnSpec {p : Text → Prop} (hp : Text.Compositional p)
    (hchar : ∀ c, isSpecChar c = true → p [c])
    (hbox : ∀ t : Text, (∀ c ∈ t, isSpecChar c = true) →
      p (Tex.braced (t ++ "\\textwidth".toList)))
    {a : Analysis} {environment : Environment} {spec : Text}
    (h : columnSpec a environment = .ok spec) : p spec := by
  obtain ⟨columns, rfl, hcolumns⟩ := columns_of_columnSpec h
  refine hp.intercalate (hchar ' ' (by decide)) fun column hcolumn => ?_
  cases hcolumns column hcolumn with
  | shared => exact hchar 'X' (by decide)
  | letter alignment => exact hchar alignment.letter (by cases alignment <;> decide)
  | box alignment width =>
    have hletter := hchar alignment.box (by cases alignment <;> decide)
    refine hp.append hletter (hbox _ fun c hc => ?_)
    exact isSpecChar_of_isWidthChar (isWidthChar_writeWidth width c hc)

end MarkTex.Table
