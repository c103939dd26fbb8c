import MarkTex.Document
import MarkTex.Proofs.Body.Fragment
import MarkTex.Proofs.Text.Lines

/-!
# The preamble of a document

Which packages a document loads can be read off its text: each line in front of the document
environment that starts with `\usepackage` loads the package in its braces. These are the packages
that the options and the features of the body ask for, in a fixed order and none of them twice
(`loadedPackages_assemble`, `nodup_loaded`). With more features no package goes missing
(`loaded_union`).
-/

namespace MarkTex.Document

/-! ## Reading a preamble -/

/-- A text without the options in square brackets that it may start with. -/
def skipOptions : Text → Text
  | '[' :: r => (r.dropWhile (· ≠ ']')).drop 1
  | r => r

/-- The package that a line loads. -/
def packageOf? (line : Text) : Option String :=
  let command := "\\usepackage".toList
  if command.isPrefixOf line then
    match skipOptions (line.drop command.length) with
    | '{' :: r => some (String.ofList (r.takeWhile (· ≠ '}')))
    | _ => none
  else none

/-- The lines of a document in front of its document environment. -/
def preamble (document : Text) : List Text :=
  (Text.splitAt '\n' document).takeWhile (· ≠ Tex.opening "document")

/-- The packages that a document loads, in order. -/
def loadedPackages (document : Text) : List String :=
  (preamble document).filterMap packageOf?

/-! ## The packages asked for -/

/-- All packages that a document may load, in order. -/
def allPackages : List String :=
  ["geometry"] ++ ["fontspec", "xeCJK"] ++ ["graphicx"] ++ ["hyperref"] ++ ["amsmath", "amssymb"] ++
    ["booktabs"] ++ ["tabularx"] ++ ["longtable"] ++ ["array"] ++ ["listings", "xcolor"] ++
    ["ulem"] ++ ["enumitem", "float"]

section

variable (options : Options) (features : Body.Features)

/-- Whether options and features ask for a package. -/
def asksFor (package : String) : Bool :=
  match package with
  | "fontspec" => loadsIdeographs options features
  | "xeCJK" => loadsIdeographs options features
  | "graphicx" => features.images
  | "hyperref" => features.packages.hyperref
  | "amsmath" => features.math
  | "amssymb" => features.math
  | "booktabs" => features.tables && features.packages.booktabs
  | "tabularx" => features.tables && features.packages.tabularx
  | "longtable" => features.tables && features.packages.longtable
  | "array" => features.tables
  | "listings" => features.code
  | "xcolor" => features.code
  | "ulem" => features.packages.ulem
  | _ => true

/-- The packages that options and features ask for, in order. -/
def loaded : List String :=
  allPackages.filter (asksFor options features)

/-- No package is asked for twice. -/
theorem nodup_loaded : (loaded options features).Nodup := by
  have hall : allPackages.Nodup := by decide
  exact List.filter_sublist.nodup hall

variable {options features}

/-- What is asked for by features is asked for by more features. -/
theorem asksFor_union {package : String} (h : asksFor options features package = true)
    (more : Body.Features) :
    asksFor options (features.union more) package = true ∧
      asksFor options (more.union features) package = true := by
  have hideographs : loadsIdeographs options features = true →
      loadsIdeographs options (features.union more) = true ∧
        loadsIdeographs options (more.union features) = true := by
    simp only [loadsIdeographs, Body.Features.union, Bool.or_eq_true]
    rintro (h | h) <;> simp [h]
  unfold asksFor at h ⊢
  split at h <;> simp_all [Body.Features.union, Body.Packages.union]

/-- A package that is loaded stays so with more features, on either side. -/
theorem loaded_union {package : String} (h : package ∈ loaded options features)
    (more : Body.Features) :
    package ∈ loaded options (features.union more) ∧
      package ∈ loaded options (more.union features) := by
  obtain ⟨hmem, hasks⟩ := List.mem_filter.1 h
  obtain ⟨hleft, hright⟩ := asksFor_union hasks more
  exact ⟨List.mem_filter.2 ⟨hmem, hleft⟩, List.mem_filter.2 ⟨hmem, hright⟩⟩

end

/-! ## The lines of a preamble -/

/-- Options whose texts are single lines. -/
def Options.OneLine (options : Options) : Prop :=
  ∀ t ∈ [options.margin, options.fontName, options.fontFile, options.fontPath],
    '\n' ∉ t.val.toList

instance (options : Options) : Decidable options.OneLine :=
  inferInstanceAs (Decidable (∀ t ∈ [_, _, _, _], _))

/-- The texts are single lines in front of the document environment, and load the given packages. -/
structure Loads (lines : List Text) (packages : List String) : Prop where
  oneLine : ∀ line ∈ lines, '\n' ∉ line
  before : ∀ line ∈ lines, line ≠ Tex.opening "document"
  packages : lines.filterMap packageOf? = packages

theorem Loads.nil : Loads [] [] :=
  ⟨fun _ h => absurd h List.not_mem_nil, fun _ h => absurd h List.not_mem_nil, rfl⟩

/-- Lines one after the other load what each of them loads, in order. -/
theorem Loads.append {lines others : List Text} {packages more : List String}
    (h : Loads lines packages) (ho : Loads others more) :
    Loads (lines ++ others) (packages ++ more) where
  oneLine := List.forall_mem_append.2 ⟨h.oneLine, ho.oneLine⟩
  before := List.forall_mem_append.2 ⟨h.before, ho.before⟩
  packages := by rw [List.filterMap_append, h.packages, ho.packages]

/-- Lines that stand in the preamble if some packages are asked for load just these. -/
theorem Loads.linesIf {options : Options} {features : Body.Features} {lines : List Text}
    {packages : List String} {condition : Bool} (h : Loads lines packages)
    (hc : ∀ package ∈ packages, asksFor options features package = condition) :
    Loads (linesIf condition lines) (packages.filter (asksFor options features)) := by
  cases condition with
  | true =>
    rw [List.filter_eq_self.2 hc]
    exact h
  | false =>
    have hnone : packages.filter (asksFor options features) = [] :=
      List.filter_eq_nil_iff.2 fun package hpackage => by simp [hc package hpackage]
    rw [hnone]
    exact Loads.nil

/-- A line loads no package unless its second character is the one of that command. -/
theorem packageOf?_of_second {t : Text} (h : t[1]? ≠ some 'u') : packageOf? t = none := by
  rw [packageOf?]
  refine if_neg fun hprefix => h ?_
  obtain ⟨rest, rfl⟩ := List.isPrefixOf_iff_prefix.1 hprefix
  rfl

/-- A line that loads no package and is not the one that opens the document, as its second character
tells. -/
theorem loads_none {t : Text} (ht : '\n' ∉ t) (hu : t[1]? ≠ some 'u') (hb : t[1]? ≠ some 'b') :
    Loads [t] [] where
  oneLine := by
    rw [List.forall_mem_singleton]
    exact ht
  before := by
    rw [List.forall_mem_singleton]
    rintro rfl
    exact hb rfl
  packages := by
    rw [List.filterMap_cons_none (packageOf?_of_second hu)]
    rfl

/-- Lines that load nothing one by one load nothing together. -/
theorem loads_nothing {lines : List Text} (h : ∀ line ∈ lines, Loads [line] []) :
    Loads lines [] := by
  induction lines with
  | nil => exact Loads.nil
  | cons line lines ih =>
    rw [List.forall_mem_cons] at h
    exact h.1.append (ih h.2)

/-- Lines without anything of the options in them. -/
theorem loads_fixed {lines : List Text} {packages : List String}
    (h : (∀ line ∈ lines, '\n' ∉ line) ∧ (∀ line ∈ lines, line ≠ Tex.opening "document") ∧
      lines.filterMap packageOf? = packages) : Loads lines packages :=
  ⟨h.1, h.2.1, h.2.2⟩

/-- Such lines behind the condition under which their packages are asked for. -/
theorem loads_asked {options : Options} {features : Body.Features} {lines : List Text}
    {packages : List String} {condition : Bool}
    (h : (∀ line ∈ lines, '\n' ∉ line) ∧ (∀ line ∈ lines, line ≠ Tex.opening "document") ∧
      lines.filterMap packageOf? = packages)
    (hc : ∀ package ∈ packages, asksFor options features package = condition) :
    Loads (linesIf condition lines) (packages.filter (asksFor options features)) :=
  (loads_fixed h).linesIf hc

/-! ## Whole preambles -/

section

variable {options : Options}

/-- The line of the document class loads no package. -/
theorem loads_classLine (options : Options) : Loads [classLine options] [] := by
  have hsize : ∀ size : FontSize, '\n' ∉ size.name.toList := by
    rintro (_ | _ | _) <;> decide
  have hpage : ∀ page : PageSize, '\n' ∉ page.name.toList := by
    rintro (_ | _ | _) <;> decide
  have hclass : ∀ documentClass : DocumentClass, '\n' ∉ documentClass.name.toList := by
    rintro (_ | _ | _) <;> decide
  unfold classLine
  refine loads_none ?_ ?_ ?_
  · simp [Tex.braced, hsize, hpage, hclass]
  · simp
  · simp

/-- The lines that choose fonts load no package. -/
theorem loads_fontLines (h : options.OneLine) (forExport : Bool) :
    Loads (fontLines options forExport) [] := by
  have hname : '\n' ∉ options.fontName.val.toList := h options.fontName (by simp)
  have hfile : '\n' ∉ options.fontFile.val.toList := h options.fontFile (by simp)
  have hpath : '\n' ∉ options.fontPath.val.toList := h options.fontPath (by simp)
  have hfamily : ∀ family ∈ ["main", "sans", "mono"], '\n' ∉ family.toList := by decide
  refine loads_nothing fun line hline => ?_
  unfold fontLines at hline
  obtain ⟨family, hmem, rfl⟩ := List.mem_map.1 hline
  simp only
  split
  · refine loads_none ?_ ?_ ?_ <;> simp [Tex.braced, hfamily family hmem, hname]
  · refine loads_none ?_ ?_ ?_ <;> simp [Tex.braced, hfamily family hmem, hfile, hpath]

/-- The lines for ideographs load the packages for them. -/
theorem loads_ideographLines (h : options.OneLine) (forExport : Bool) :
    Loads (ideographLines options forExport) ["fontspec", "xeCJK"] := by
  have hpackages : Loads [usePackage "fontspec", usePackage "xeCJK"] ["fontspec", "xeCJK"] :=
    loads_fixed (by decide)
  have hnote : Loads (if forExport then
      ["% CJK font provided by the TeX distribution; replace it if compilation fails".toList]
    else []) [] := by
    split
    · exact loads_fixed (by decide)
    · exact Loads.nil
  unfold ideographLines
  exact (hpackages.append hnote).append (loads_fontLines h forExport)

/-- Each package stands behind the condition under which it is asked for. -/
theorem loads_packageLines (h : options.OneLine) (features : Body.Features) (forExport : Bool) :
    Loads (packageLines options features forExport) (loaded options features) := by
  -- one fact for each condition, in the order of the lines
  have hgeometry : Loads (linesIf true [usePackage "geometry"])
      (["geometry"].filter (asksFor options features)) :=
    loads_asked (by decide) (by simp [asksFor])
  have hideographs : Loads (linesIf (loadsIdeographs options features)
      (ideographLines options forExport))
      (["fontspec", "xeCJK"].filter (asksFor options features)) :=
    (loads_ideographLines h forExport).linesIf (by simp [asksFor])
  have himages : Loads (linesIf features.images [usePackage "graphicx"])
      (["graphicx"].filter (asksFor options features)) :=
    loads_asked (by decide) (by simp [asksFor])
  have hlinks : Loads (linesIf features.packages.hyperref (usePackage "hyperref" :: linkSetup))
      (["hyperref"].filter (asksFor options features)) :=
    loads_asked (by decide) (by simp [asksFor])
  have hmath : Loads (linesIf features.math [usePackage "amsmath", usePackage "amssymb"])
      (["amsmath", "amssymb"].filter (asksFor options features)) :=
    loads_asked (by decide) (by simp [asksFor])
  have hrules : Loads (linesIf (features.tables && features.packages.booktabs)
      [usePackage "booktabs"]) (["booktabs"].filter (asksFor options features)) :=
    loads_asked (by decide) (by simp [asksFor])
  have hshared : Loads (linesIf (features.tables && features.packages.tabularx)
      [usePackage "tabularx"]) (["tabularx"].filter (asksFor options features)) :=
    loads_asked (by decide) (by simp [asksFor])
  have hlong : Loads (linesIf (features.tables && features.packages.longtable)
      [usePackage "longtable"]) (["longtable"].filter (asksFor options features)) :=
    loads_asked (by decide) (by simp [asksFor])
  have htables : Loads (linesIf features.tables [usePackage "array"])
      (["array"].filter (asksFor options features)) :=
    loads_asked (by decide) (by simp [asksFor])
  have hcode : Loads (linesIf features.code
      (usePackage "listings" :: usePackage "xcolor" :: listingSetup))
      (["listings", "xcolor"].filter (asksFor options features)) :=
    loads_asked (by decide) (by simp [asksFor])
  have hstruck : Loads (linesIf features.packages.ulem
      ["\\usepackage[normalem]\x7bulem\x7d".toList]) (["ulem"].filter (asksFor options features)) :=
    loads_asked (by decide) (by simp [asksFor])
  have hlast : Loads (linesIf true [usePackage "enumitem", usePackage "float"])
      (["enumitem", "float"].filter (asksFor options features)) :=
    loads_asked (by decide) (by simp [asksFor])
  rw [loaded, allPackages]
  simp only [List.filter_append]
  exact ((((((((((hgeometry.append hideographs).append himages).append hlinks).append
    hmath).append hrules).append hshared).append hlong).append htables).append hcode).append
    hstruck).append hlast

/-- The lines of the layout load no package. -/
theorem loads_layoutLines (h : options.OneLine) : Loads (layoutLines options) [] := by
  have hmargin : '\n' ∉ options.margin.val.toList := h options.margin (by simp)
  refine loads_nothing fun line hline => ?_
  unfold layoutLines at hline
  simp only [List.mem_cons, List.not_mem_nil, or_false] at hline
  rcases hline with rfl | rfl | rfl | rfl | rfl | rfl | rfl | rfl | rfl | rfl | rfl <;>
    refine loads_none ?_ ?_ ?_ <;> simp [hmargin]

/-- What stands in front of the line that opens the document is the preamble. -/
theorem loadedPackages_intercalate {lines : List Text} {packages : List String}
    (h : Loads lines packages) (next : Text) (rest : List Text) :
    loadedPackages (List.intercalate ['\n'] (lines ++ Tex.opening "document" :: next :: rest)) =
      packages := by
  have hopening : ∀ line ∈ [Tex.opening "document"], '\n' ∉ line := by decide
  have hcut : Text.splitAt '\n'
        (List.intercalate ['\n'] (lines ++ Tex.opening "document" :: next :: rest)) =
      lines ++ Tex.opening "document" ::
        Text.splitAt '\n' (List.intercalate ['\n'] (next :: rest)) := by
    rw [Text.splitAt_intercalate h.oneLine]
    exact congrArg (lines ++ ·) (Text.splitAt_intercalate hopening next rest)
  have hbefore : ∀ line ∈ lines, decide (line ≠ Tex.opening "document") = true :=
    fun line hline => decide_eq_true (h.before line hline)
  -- no line in front opens the document, so the first one that does ends the preamble
  have hpreamble : preamble
      (List.intercalate ['\n'] (lines ++ Tex.opening "document" :: next :: rest)) = lines := by
    rw [preamble, hcut, List.takeWhile_append_of_pos hbefore,
      List.takeWhile_cons_of_neg (by simp), List.append_nil]
  rw [loadedPackages, hpreamble, h.packages]

/-- **A document loads just the packages that its options and its body ask for.** -/
theorem loadedPackages_assemble (h : options.OneLine) (features : Body.Features) (body : Text)
    (forExport : Bool) :
    loadedPackages (assemble options features body forExport) = loaded options features := by
  have hempty : Loads [[]] [] := loads_nothing (by
    rw [List.forall_mem_singleton]
    exact loads_none (by decide) (by decide) (by decide))
  have hlines : Loads ([classLine options] ++ [[]] ++ packageLines options features forExport ++
      [[]] ++ layoutLines options ++ [[]]) (loaded options features) := by
    have hfront := ((((loads_classLine options).append hempty).append
      (loads_packageLines h features forExport)).append hempty).append (loads_layoutLines h)
    simpa using hfront.append hempty
  have hassemble : assemble options features body forExport =
      List.intercalate ['\n'] (([classLine options] ++ [[]] ++
        packageLines options features forExport ++ [[]] ++ layoutLines options ++ [[]]) ++
          Tex.opening "document" :: [] :: (linesIf options.enableToc.truthy
            ["\\tableofcontents".toList, "\\newpage".toList, []] ++
              [body, [], Tex.closing "document"])) := by
    -- the lines in front of the document environment and those from there on
    unfold assemble frontLines
    simp
  rw [hassemble, loadedPackages_intercalate hlines]

end

end MarkTex.Document
