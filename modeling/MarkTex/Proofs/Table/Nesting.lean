import MarkTex.Proofs.Table.Layout
import MarkTex.Proofs.Tex.Neutral
import MarkTex.Proofs.Text.Lines

/-!
# Nesting in tables

A table is one environment. Its column specification and its rules are neutral, whatever the
measures are, and so is each row if its cells may be stripped.
-/

namespace MarkTex.Table

open Tex (Neutral Trimmable isPlain)

/-! ## Column specification -/

/-- A column specification is neutral. -/
theorem neutral_columnSpec {a : Analysis} {environment : Environment} {spec : Text}
    (h : columnSpec a environment = .ok spec) : Neutral spec := by
  have hplain : ∀ c, isSpecChar c = true → isPlain c = true := fun c =>
    Tex.isPlain_of_class (by decide) (by decide) (by decide)
  have hunit : Neutral "\\textwidth".toList := fun n t => rfl
  refine holds_columnSpec Tex.compositional_neutral
    (fun c hc => Tex.neutral_singleton (hplain c hc)) (fun t ht => ?_) h
  have hwidth : Neutral t := Tex.neutral_of_plain (List.all_eq_true.2 fun c hc => hplain c (ht c hc))
  exact Tex.neutral_braced (hwidth.append hunit)

/-! ## Lines -/

/-- A row is neutral if its cells may be stripped. -/
theorem neutral_writeRow {row : Row} (h : ∀ cell ∈ row, Trimmable cell) :
    Neutral (writeRow row) := by
  have hcells : ∀ cell ∈ row.map Text.strip, Neutral cell := by
    intro cell hcell
    obtain ⟨source, hsource, rfl⟩ := List.mem_map.1 hcell
    exact (h source hsource).neutral_strip
  have hseparator : Neutral " & ".toList := Tex.neutral_of_plain (by decide)
  have hend : Neutral " \\\\".toList := fun n t => rfl
  exact (Tex.compositional_neutral.intercalate hseparator hcells).append hend

/-- The rules of a table are neutral. -/
theorem neutral_rules (style : Style) :
    Neutral style.topRule ∧ Neutral style.headerRule ∧ Neutral style.bottomRule := by
  cases style <;> exact ⟨fun n t => rfl, fun n t => rfl, fun n t => rfl⟩

/-- The lines of the rows are neutral. -/
theorem neutral_bodyLines (style : Style) {rows : List Row}
    (h : ∀ row ∈ rows, ∀ cell ∈ row, Trimmable cell) :
    ∀ line ∈ bodyLines style rows, Neutral line := by
  intro line hline
  cases rows with
  | nil => simp [bodyLines] at hline
  | cons header body =>
    rw [List.forall_mem_cons] at h
    rw [bodyLines, List.mem_cons, List.mem_cons] at hline
    rcases hline with rfl | rfl | hline
    · exact neutral_writeRow h.1
    · exact (neutral_rules style).2.1
    · obtain ⟨row, hrow, rfl⟩ := List.mem_map.1 hline
      exact neutral_writeRow (h.2 row hrow)

/-- The line that opens a table opens its environment, and its arguments are neutral. -/
theorem openingLine_eq (environment : Environment) {spec : Text} (h : Neutral spec) :
    ∃ arguments, Neutral arguments ∧
      openingLine environment spec = Tex.opening environment.name ++ arguments := by
  cases environment with
  | tabularx =>
    have hwidth : Neutral "\x7b\\textwidth\x7d".toList := fun n t => rfl
    refine ⟨"\x7b\\textwidth\x7d".toList ++ Tex.braced spec,
      hwidth.append (Tex.neutral_braced h), ?_⟩
    rw [openingLine, List.append_assoc]
    rfl
  | tabular => exact ⟨Tex.braced spec, Tex.neutral_braced h, rfl⟩
  | longtable => exact ⟨Tex.braced spec, Tex.neutral_braced h, rfl⟩

/-- The name of an environment is plain. -/
theorem isPlain_environmentName (environment : Environment) :
    environment.name.toList.all isPlain = true := by
  cases environment <;> decide

/-! ## Whole tables -/

/-- A table is neutral if its cells may be stripped. -/
theorem neutral_assemble (style : Style) (environment : Environment) {spec : Text}
    {rows : List Row} (hspec : Neutral spec) (h : ∀ row ∈ rows, ∀ cell ∈ row, Trimmable cell) :
    Neutral (assemble style environment spec rows) := by
  obtain ⟨arguments, harguments, hopening⟩ := openingLine_eq environment hspec
  let inner := style.topRule :: bodyLines style rows ++ [style.bottomRule]
  have hinner : ∀ line ∈ inner, Neutral line := by
    intro line hline
    obtain ⟨htop, -, hbottom⟩ := neutral_rules style
    rcases List.mem_append.1 hline with hline | hline
    · rcases List.mem_cons.1 hline with rfl | hline
      · exact htop
      · exact neutral_bodyLines style h line hline
    · rw [List.mem_singleton.1 hline]
      exact hbottom
  have hbreak : Neutral ['\n'] := Tex.neutral_singleton (by decide)
  have hlines : Neutral (inner.flatMap (['\n'] ++ ·)) := by
    exact Tex.compositional_neutral.flatMap fun line hline => hbreak.append (hinner line hline)
  -- all that stands between the two commands is taken together as what the environment holds
  have hassemble : assemble style environment spec rows =
      Tex.opening environment.name ++ (arguments ++ inner.flatMap (['\n'] ++ ·) ++ ['\n']) ++
        Tex.closing environment.name := by
    rw [assemble, List.cons_append, Text.intercalate_cons, hopening]
    simp [inner]
  rw [hassemble]
  exact Tex.neutral_environment (isPlain_environmentName environment)
    ((harguments.append hlines).append hbreak)

/-- A table that was laid out is neutral if its cells may be stripped. -/
theorem neutral_layout {options : Options} {rows measured : List Row}
    {alignments : List Alignment} {table : Layout}
    (hlayout : layout options rows measured alignments = .ok table)
    (h : ∀ row ∈ rows, ∀ cell ∈ row, Trimmable cell) : Neutral table.code := by
  rcases layout_cases hlayout with ⟨-, rfl⟩ | ⟨-, spec, hspec, -, hcode, -⟩
  · exact Tex.neutral_nil
  · rw [hcode]
    exact neutral_assemble options.style _ (neutral_columnSpec hspec) h

end MarkTex.Table
