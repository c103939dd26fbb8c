import MarkTex.Body.Features
import MarkTex.Log.Record
import MarkTex.Options.Document
import MarkTex.Tex.Markup

/-!
# Whole documents

A body becomes a document by a preamble that loads what the body needs, the settings of the page,
and the document environment around it. Fonts for ideographs are named either for an installed font
or by file and directory.
-/

namespace MarkTex.Document

/-- The line that loads a package. -/
def usePackage (name : String) : Text :=
  Tex.command "usepackage" name.toList

/-- The settings of links. -/
def linkSetup : List Text :=
  ["\\hypersetup\x7b",
    "    colorlinks=true,",
    "    linkcolor=blue,",
    "    urlcolor=blue,",
    "    citecolor=blue",
    "\x7d"].map String.toList

/-- The settings of code listings. -/
def listingSetup : List Text :=
  ["\\lstset\x7b",
    "    basicstyle=\\ttfamily\\small,",
    "    breaklines=true,",
    "    frame=single,",
    "    numbers=left,",
    "    numberstyle=\\tiny,",
    "    backgroundcolor=\\color\x7bgray!10\x7d,",
    "    keywordstyle=\\color\x7bblue\x7d,",
    "    commentstyle=\\color\x7bgreen!50!black\x7d,",
    "    stringstyle=\\color\x7bred\x7d",
    "\x7d"].map String.toList

/-- The lines that set the fonts for ideographs in the three families. -/
def fontLines (options : Options) (forExport : Bool) : List Text :=
  ["main", "sans", "mono"].map fun family =>
    let set := "\\setCJK".toList ++ family.toList ++ "font".toList
    if forExport then set ++ Tex.braced options.fontName.val.toList
    else
      set ++ "[Path=".toList ++ options.fontPath.val.toList ++ [']'] ++
        Tex.braced options.fontFile.val.toList

/-- The lines that load and set the fonts for ideographs. -/
def ideographLines (options : Options) (forExport : Bool) : List Text :=
  [usePackage "fontspec", usePackage "xeCJK"] ++
    (if forExport then
      ["% CJK font provided by the TeX distribution; replace it if compilation fails".toList]
    else []) ++ fontLines options forExport

/-- The lines, if the condition holds. -/
def linesIf (condition : Bool) (lines : List Text) : List Text :=
  if condition then lines else []

/-- Whether a document loads fonts for ideographs. -/
def loadsIdeographs (options : Options) (features : Body.Features) : Bool :=
  options.enableChinese.truthy || features.chinese

/-- The lines that load packages. -/
def packageLines (options : Options) (features : Body.Features) (forExport : Bool) : List Text :=
  let packages := features.packages
  [usePackage "geometry"] ++
    linesIf (loadsIdeographs options features) (ideographLines options forExport) ++
    linesIf features.images [usePackage "graphicx"] ++
    linesIf packages.hyperref (usePackage "hyperref" :: linkSetup) ++
    linesIf features.math [usePackage "amsmath", usePackage "amssymb"] ++
    linesIf (features.tables && packages.booktabs) [usePackage "booktabs"] ++
    linesIf (features.tables && packages.tabularx) [usePackage "tabularx"] ++
    linesIf (features.tables && packages.longtable) [usePackage "longtable"] ++
    linesIf features.tables [usePackage "array"] ++
    linesIf features.code (usePackage "listings" :: usePackage "xcolor" :: listingSetup) ++
    linesIf packages.ulem ["\\usepackage[normalem]\x7bulem\x7d".toList] ++
    [usePackage "enumitem", usePackage "float"]

/-- The line that names the class of a document. -/
def classLine (options : Options) : Text :=
  "\\documentclass[".toList ++ options.fontSize.name.toList ++ [','] ++
    options.pageSize.name.toList ++ [']'] ++ Tex.braced options.documentClass.name.toList

/-- The settings of the page and of paragraphs. -/
def layoutLines (options : Options) : List Text :=
  let side (name : String) := "    ".toList ++ name.toList ++ ['='] ++ options.margin.val.toList
  ["% Page layout".toList,
    "\\geometry\x7b".toList,
    side "left" ++ [','],
    side "right" ++ [','],
    side "top" ++ [','],
    side "bottom",
    "\x7d".toList,
    [],
    "% Paragraphs".toList,
    "\\setlength\x7b\\parindent\x7d\x7b0pt\x7d".toList,
    "\\setlength\x7b\\parskip\x7d\x7b0.5em\x7d".toList]

/-- The lines in front of the body. -/
def frontLines (options : Options) (features : Body.Features) (forExport : Bool) : List Text :=
  [classLine options, []] ++ packageLines options features forExport ++ [[]] ++
    layoutLines options ++ [[], Tex.opening "document", []] ++
    linesIf options.enableToc.truthy ["\\tableofcontents".toList, "\\newpage".toList, []]

/-- The whole document around a body. -/
def assemble (options : Options) (features : Body.Features) (body : Text) (forExport : Bool) :
    Text :=
  List.intercalate ['\n']
    (frontLines options features forExport ++ [body, [], Tex.closing "document"])

/-- The message about the fonts for ideographs. -/
def notices (options : Options) (features : Body.Features) (forExport : Bool) : List Log.Record :=
  if loadsIdeographs options features then
    let target := if forExport then "export" else "sandbox"
    [⟨"md2latex.renderers.document", Log.debug, s!"CJK support enabled ({target} target)"⟩]
  else []

end MarkTex.Document
