import MarkTex.Proofs.Body.Block
import MarkTex.Proofs.Body.Construct
import MarkTex.Proofs.Document.Preamble
import MarkTex.Proofs.Math.Segment
import MarkTex.Proofs.Table.Layout

/-!
# A document loads what its body needs

Whatever is emitted into the body of a document, the packages that it cannot do without are loaded
in its preamble.

## Shape of the proof

`Supplied` relates features to the constructs that they stand for: each construct finds its packages
loaded, and so does each package that the features name. Features that are put together supply what
each of them does (`Supplied.union`), so the relation goes up from the phrases of a running text and
the rows of a table through the outline of the body.
-/

namespace MarkTex.Document

open Body
open Markdown (Token)

/-- A document with these features loads the packages of the constructs, and those that the features
name. -/
structure Supplied (options : Options) (features : Features) (constructs : List Construct) :
    Prop where
  constructs : ∀ construct ∈ constructs, ∀ package ∈ construct.packages,
    package ∈ loaded options features
  named : ∀ package ∈ features.packages.names, package ∈ loaded options features

namespace Supplied

variable {options : Options} {features more : Features} {constructs others : List Construct}

theorem empty : Supplied options {} [] where
  constructs _ h := absurd h List.not_mem_nil
  named _ h := absurd h List.not_mem_nil

/-- Features supply fewer constructs, too. -/
theorem mono (h : Supplied options features constructs) (hsub : others ⊆ constructs) :
    Supplied options features others where
  constructs construct hmem := h.constructs construct (hsub hmem)
  named := h.named

/-- The names of packages, spelled out one by one. -/
theorem mem_names {p : Packages} {package : String} :
    package ∈ p.names ↔
      p.booktabs = true ∧ "booktabs" = package ∨ p.graphicx = true ∧ "graphicx" = package ∨
      p.hyperref = true ∧ "hyperref" = package ∨ p.listings = true ∧ "listings" = package ∨
      p.longtable = true ∧ "longtable" = package ∨ p.tabularx = true ∧ "tabularx" = package ∨
      p.ulem = true ∧ "ulem" = package ∨ p.xcolor = true ∧ "xcolor" = package := by
  simp only [Packages.names, List.mem_filterMap, List.mem_cons, List.not_mem_nil, or_false,
    or_and_right, exists_or, exists_eq_left, Option.ite_none_right_eq_some, Option.some.injEq]

/-- A package of two sets of packages is in one of them. -/
theorem mem_names_union {p q : Packages} {package : String}
    (h : package ∈ (p.union q).names) : package ∈ p.names ∨ package ∈ q.names := by
  rw [mem_names] at h
  simp only [mem_names]
  simp only [Packages.union, Bool.or_eq_true] at h
  rcases h with h | h | h | h | h | h | h | h <;> rcases h with ⟨h | h, rfl⟩ <;> simp [h]

/-- Features that are put together supply what each of them does. -/
theorem union (h : Supplied options features constructs) (hmore : Supplied options more others) :
    Supplied options (features.union more) (constructs ++ others) where
  constructs := by
    refine List.forall_mem_append.2 ⟨fun construct hmem package hpackage => ?_,
      fun construct hmem package hpackage => ?_⟩
    · exact (loaded_union (h.constructs construct hmem package hpackage) more).1
    · exact (loaded_union (hmore.constructs construct hmem package hpackage) features).2
  named package hpackage := by
    rcases mem_names_union hpackage with hleft | hright
    · exact (loaded_union (h.named package hleft) more).1
    · exact (loaded_union (hmore.named package hright) features).2

theorem unionAll {α : Type} {needs : α → Features} {made : α → List Construct} {l : List α}
    (h : ∀ x ∈ l, Supplied options (needs x) (made x)) :
    Supplied options (Features.unionAll (l.map needs)) (l.flatMap made) := by
  induction l with
  | nil => exact empty
  | cons x l ih =>
    rw [List.forall_mem_cons] at h
    rw [List.map_cons, Features.unionAll_cons, List.flatMap_cons]
    exact h.1.union (ih h.2)

end Supplied

/-! ## Running text -/

section

variable (options : Options)

/-- The loaded packages are those of the fixed list that are asked for. -/
theorem mem_loaded {options : Options} {features : Features} {package : String} :
    package ∈ loaded options features ↔
      package ∈ allPackages ∧ asksFor options features package = true :=
  List.mem_filter

/-- Ideographs are supplied where the feature for them is set. -/
theorem supplied_ideographs {features : Features} {t : Text}
    (hpackages : features.packages = {})
    (h : Text.hasIdeograph t = true → features.chinese = true) :
    Supplied options features (ideographsIn t) where
  constructs := by
    intro construct hconstruct
    rw [ideographsIn] at hconstruct
    split at hconstruct
    · rename_i hideograph
      rw [List.mem_singleton.1 hconstruct]
      simp [Construct.packages, mem_loaded, allPackages, asksFor, loadsIdeographs, h hideograph]
    · exact absurd hconstruct List.not_mem_nil
  named := by
    rw [hpackages]
    exact fun _ hpackage => absurd hpackage List.not_mem_nil

/-- The ideographs and the formulas of a text are noted. -/
theorem supplied_textFeatures (source : Text) :
    Supplied options (textFeatures source) (constructsOfText source) where
  constructs := by
    refine List.forall_mem_append.2 ⟨fun construct hconstruct => ?_, ?_⟩
    · obtain ⟨span, hspan, rfl⟩ := List.mem_map.1 hconstruct
      have hmath : (textFeatures source).math = true :=
        Text.hasMath_iff.2 (List.ne_nil_of_mem hspan)
      simp [Construct.packages, mem_loaded, allPackages, asksFor, hmath]
    · exact (supplied_ideographs options rfl fun h => h).constructs
  named _ hpackage := absurd hpackage List.not_mem_nil

/-- A leaf names what it needs. -/
theorem supplied_renderLeaf (child : Token) :
    Supplied options (renderLeaf child).features (constructsOfLeaf child) := by
  rw [renderLeaf, constructsOfLeaf]
  split
  · exact supplied_ideographs options rfl fun h => h
  split
  · constructor
    · simp [Construct.packages, mem_loaded, allPackages, asksFor, Fragment.needing]
    · simp [Packages.names, mem_loaded, allPackages, asksFor, Fragment.needing]
  split
  · exact Supplied.empty
  · exact supplied_textFeatures options child.content

/-- A marker names what it needs, on top of what it encloses. -/
theorem supplied_decorate (opener : Token) {inner : Fragment} {constructs : List Construct}
    (h : Supplied options inner.features constructs) :
    Supplied options (decorate opener inner).features
      (constructsOfMarker opener ++ constructs) := by
  have hstruck : Supplied options { packages := { ulem := true } } [.strikethrough] := by
    constructor
    · simp [Construct.packages, mem_loaded, allPackages, asksFor]
    · simp [Packages.names, mem_loaded, allPackages, asksFor]
  have hlink : Supplied options { packages := { hyperref := true } } [.link] := by
    constructor
    · simp [Construct.packages, mem_loaded, allPackages, asksFor]
    · simp [Packages.names, mem_loaded, allPackages, asksFor]
  rw [decorate, constructsOfMarker]
  by_cases hstrong : opener.kind = "strong_open"
  · rw [if_pos hstrong, if_pos (by simp [hstrong])]
    exact h
  by_cases hem : opener.kind = "em_open"
  · rw [if_neg hstrong, if_pos hem, if_pos (by simp [hem])]
    exact h
  -- any marker that is neither bold, italic nor struck is a link
  have hmarker : ¬ (decide (opener.kind = "strong_open") || decide (opener.kind = "em_open")) := by
    simp [hstrong, hem]
  rw [if_neg hstrong, if_neg hem, if_neg hmarker]
  by_cases hs : opener.kind = "s_open"
  · rw [if_pos hs, if_pos hs]
    exact (h.union hstruck).mono List.perm_append_comm.subset
  · rw [if_neg hs, if_neg hs]
    exact (h.union hlink).mono List.perm_append_comm.subset

mutual

/-- A phrase notes what it needs. -/
theorem supplied_render :
    ∀ phrase : Phrase, Supplied options phrase.render.features phrase.constructs
  | .run _ => by
    rw [Phrase.render, Phrase.constructs]
    exact supplied_textFeatures options _
  | .leaf child => by
    rw [Phrase.render, Phrase.constructs]
    exact supplied_renderLeaf options child
  | .marked opener _ inner => by
    rw [Phrase.render, Phrase.constructs]
    exact supplied_decorate options opener (supplied_renderPhrases inner)
  | .unclosed _ => by
    rw [Phrase.render, Phrase.constructs]
    exact Supplied.empty
  | .unmatched _ => by
    rw [Phrase.render, Phrase.constructs]
    exact Supplied.empty

/-- Phrases name what they need. -/
theorem supplied_renderPhrases :
    ∀ phrases : List Phrase,
      Supplied options (renderPhrases phrases).features (constructsOfPhrases phrases)
  | [] => by
    rw [renderPhrases, constructsOfPhrases]
    exact Supplied.empty
  | phrase :: phrases => by
    rw [renderPhrases, constructsOfPhrases, Fragment.features_append]
    exact (supplied_render phrase).union (supplied_renderPhrases phrases)

end

/-- Running text names what it needs. -/
theorem supplied_renderInlines (children : List Token) :
    Supplied options (renderInlines children).features (constructsOfInlines children) := by
  rw [renderInlines_eq]
  exact supplied_renderPhrases options (arrange children)

/-! ## Blocks without blocks inside -/

/-- The line end that is added to code is no ideograph. -/
theorem hasIdeograph_listingBody (code : Text) :
    Text.hasIdeograph (listingBody code) = Text.hasIdeograph code := by
  rw [listingBody]
  split
  · rfl
  · have hbreak : Text.isIdeograph '\n' = false := by decide
    simp [Text.hasIdeograph, hbreak]

/-- A listing names what it needs, its ideographs included. -/
theorem supplied_renderListing (t : Token) :
    Supplied options (renderListing t).features (constructsOfListing t) := by
  have hlisting : Supplied options
      { packages := { listings := true, xcolor := true }, code := true }
      [.listing t.content] := by
    constructor
    · simp [Construct.packages, mem_loaded, allPackages, asksFor]
    · simp [Packages.names, mem_loaded, allPackages, asksFor]
  have hideographs : Supplied options { chinese := Text.hasIdeograph (listingBody t.content) }
      (ideographsIn t.content) := by
    rw [hasIdeograph_listingBody]
    exact supplied_ideographs options rfl fun h => h
  -- the features of a listing are its own and those of its code
  have hfeatures : (renderListing t).features =
      Features.union { packages := { listings := true, xcolor := true }, code := true }
        { chinese := Text.hasIdeograph (listingBody t.content) } := by
    rw [renderListing]
    simp [Features.union, Packages.union]
  rw [hfeatures]
  exact hlisting.union hideographs

/-- A table notes that there is one, and what its cells need, kept or not. -/
theorem supplied_tableNeeds (tokens : List Token) :
    Supplied options (Features.union { tables := true } (collectCells tokens).2.features)
      ((rowsFrom [] tokens).flatten.flatMap constructsOfInlines) := by
  have htables : Supplied options { tables := true } [] :=
    ⟨fun _ h => absurd h List.not_mem_nil, fun _ h => absurd h List.not_mem_nil⟩
  have hcells : Supplied options (collectCells tokens).2.features
      ((cellsFrom tokens).flatMap constructsOfInlines) := by
    rw [collectCells_eq, features_needsOf]
    exact Supplied.unionAll fun cell _ => supplied_renderInlines options cell
  refine (htables.union hcells).mono fun construct hconstruct => ?_
  obtain ⟨cell, hcell, hmem⟩ := List.mem_flatMap.1 hconstruct
  obtain ⟨row, hrow, hcell⟩ := List.mem_flatten.1 hcell
  -- every cell of a row that is kept was read as a cell, and it is only rows without cells that are
  -- not
  have hkept := (mem_of_mem_rowsFrom hrow hcell).resolve_left List.not_mem_nil
  exact List.mem_flatMap.2 ⟨cell, hkept, hmem⟩

/-- The packages that the environment and the rules of a table name. -/
theorem supplied_tablePackages (style : Table.Style) (environment : Table.Environment) :
    Supplied options
      { packages := Packages.ofNames (Table.packages style environment), tables := true }
      [.table environment style] := by
  cases style <;> cases environment <;> constructor <;>
    simp [Construct.packages, mem_loaded, allPackages, asksFor, Table.packages, Packages.ofNames,
      Packages.names, Table.Environment.name]

/-- A table names what it needs, whether or not it could be laid out. -/
theorem supplied_renderTable (tableOptions : Table.Options) (tokens : List Token) :
    Supplied options (renderTable tableOptions tokens).features
      (constructsOfTable tableOptions tokens) := by
  have hneeds := supplied_tableNeeds options tokens
  have hempty : (rowsFrom [] tokens).isEmpty = (collectCells tokens).1.rows.isEmpty := by
    rw [collectCells_eq, List.isEmpty_map]
  rw [renderTable, constructsOfTable]
  simp only [hempty]
  cases hlayout : Table.layout tableOptions (collectCells tokens).1.rows
      (collectCells tokens).1.plainRows (collectCells tokens).1.alignments with
  | error cause =>
    simp only [Fragment.features_append, Features.union_empty]
    exact hneeds.mono (List.nil_subset _)
  | ok table =>
    simp only [Fragment.features_append]
    rcases Table.layout_cases hlayout with ⟨hnil, rfl⟩ | ⟨hne, spec, -, -, -, hpackages⟩
    · have hnone : Packages.ofNames [] = {} := rfl
      rw [hnil, hnone, Features.union_empty]
      exact hneeds
    · rw [if_neg (by simpa using hne), hpackages]
      have htable := hneeds.union
        (supplied_tablePackages options tableOptions.style table.environment)
      -- that there is a table is noted on both sides, which adds nothing
      have hfeatures : ∀ (needs : Features) (named : Packages),
          (Features.union { tables := true } needs).union { packages := named, tables := true } =
            (Features.union { tables := true } needs).union { packages := named } := by
        intro needs named
        simp [Features.union]
      rw [hfeatures] at htable
      exact htable.mono List.perm_append_comm.subset

/-! ## Blocks that hold blocks -/

variable (tableOptions : Table.Options)

mutual

/-- A part of a body notes what it needs. -/
theorem supplied_part :
    ∀ part : Part,
      Supplied options (part.render tableOptions).features (part.constructs tableOptions)
  | .heading _ text => by
    rw [Part.render, Part.constructs]
    exact supplied_renderInlines options text
  | .unreadable _ => by
    rw [Part.render, Part.constructs]
    exact Supplied.empty
  | .paragraph text => by
    rw [Part.render, Part.constructs]
    exact supplied_renderInlines options text
  | .list kind items => by
    rw [Part.render, Part.constructs, features_renderList]
    exact supplied_itemParts items
  | .quote parts => by
    rw [Part.render, Part.constructs, features_renderQuote]
    exact supplied_parts parts
  | .listing t => by
    rw [Part.render, Part.constructs]
    exact supplied_renderListing options t
  | .rule => by
    rw [Part.render, Part.constructs]
    exact Supplied.empty
  | .table tokens => by
    rw [Part.render, Part.constructs]
    exact supplied_renderTable options tableOptions tokens
  | .passed t => by
    rw [Part.render, Part.constructs, renderPassed]
    split <;> exact Supplied.empty

/-- Parts name what they need. -/
theorem supplied_parts :
    ∀ parts : List Part,
      Supplied options (Features.unionAll ((renderParts tableOptions parts).map (·.features)))
        (constructsOfParts tableOptions parts)
  | [] => by
    rw [renderParts, constructsOfParts]
    exact Supplied.empty
  | part :: parts => by
    rw [renderParts, constructsOfParts, List.map_cons, Features.unionAll_cons]
    exact (supplied_part part).union (supplied_parts parts)

/-- Items name what they need. -/
theorem supplied_itemParts :
    ∀ items : List (List Part),
      Supplied options (Features.unionAll ((renderItemParts tableOptions items).map (·.features)))
        (constructsOfItems tableOptions items)
  | [] => by
    rw [renderItemParts, constructsOfItems]
    exact Supplied.empty
  | parts :: items => by
    rw [renderItemParts, constructsOfItems, List.map_cons, Features.unionAll_cons,
      features_renderItem]
    exact (supplied_parts parts).union (supplied_itemParts items)

end

/-- What a body needs is noted, whether its tokens are balanced or not. -/
theorem supplied_body (tokens : List Token) :
    Supplied options (Body.render tableOptions tokens).features
      (constructs tableOptions tokens) := by
  rw [Body.render_eq, Fragment.features_joinWith]
  exact supplied_parts options tableOptions (outline tokens)

end

/-! ## Whole documents -/

/-- **A document loads what its body needs**, whatever the tokens of the body are: the packages that
each construct cannot do without, and every package that the features name. None is loaded twice. -/
theorem loadedPackages_render (options : Options) (tableOptions : Table.Options)
    (tokens : List Token) (forExport : Bool) (h : options.OneLine) :
    let body := Body.render tableOptions tokens
    let packages := loadedPackages (assemble options body.features body.text forExport)
    (∀ construct ∈ constructs tableOptions tokens, construct.packages ⊆ packages) ∧
      body.features.packages.names ⊆ packages ∧ packages.Nodup := by
  intro body packages
  have hpackages : packages = loaded options body.features :=
    loadedPackages_assemble h body.features body.text forExport
  have hsupplied := supplied_body options tableOptions tokens
  rw [hpackages]
  refine ⟨?_, ?_, nodup_loaded options body.features⟩
  · intro construct hconstruct package hpackage
    exact hsupplied.constructs construct hconstruct package hpackage
  · intro package hpackage
    exact hsupplied.named package hpackage

/-- A listing and a struck image in a paragraph that nothing closes: their packages are loaded, and
none twice. -/
theorem loadedPackages_render_openParagraph :
    Options.OneLine {} ∧
      let body := Body.render {} openParagraph
      ["listings", "xcolor", "amsmath", "amssymb", "ulem", "graphicx"] ⊆
        loadedPackages (assemble {} body.features body.text true) := by
  have hline : Options.OneLine {} := by decide
  obtain ⟨hloaded, -, -⟩ := loadedPackages_render {} {} openParagraph true hline
  rw [constructs_openParagraph] at hloaded
  refine ⟨hline, ?_⟩
  simpa [Construct.packages, and_assoc] using hloaded

end MarkTex.Document
