/-!
# Features

What a body needs from its preamble: packages that it names, and kinds of content that bring further
packages with them.
-/

namespace MarkTex.Body

/-- A set of the packages that a body can name. -/
structure Packages where
  booktabs : Bool := false
  graphicx : Bool := false
  hyperref : Bool := false
  listings : Bool := false
  longtable : Bool := false
  tabularx : Bool := false
  ulem : Bool := false
  xcolor : Bool := false
  deriving DecidableEq, Repr, Inhabited

namespace Packages

/-- The packages that are in one set or the other. -/
def union (p q : Packages) : Packages where
  booktabs := p.booktabs || q.booktabs
  graphicx := p.graphicx || q.graphicx
  hyperref := p.hyperref || q.hyperref
  listings := p.listings || q.listings
  longtable := p.longtable || q.longtable
  tabularx := p.tabularx || q.tabularx
  ulem := p.ulem || q.ulem
  xcolor := p.xcolor || q.xcolor

/-- The set of the packages of the given names; other names are left out. -/
def ofNames (names : List String) : Packages where
  booktabs := names.contains "booktabs"
  graphicx := names.contains "graphicx"
  hyperref := names.contains "hyperref"
  listings := names.contains "listings"
  longtable := names.contains "longtable"
  tabularx := names.contains "tabularx"
  ulem := names.contains "ulem"
  xcolor := names.contains "xcolor"

/-- The names of the packages, in alphabetical order. -/
def names (p : Packages) : List String :=
  [("booktabs", p.booktabs), ("graphicx", p.graphicx), ("hyperref", p.hyperref),
    ("listings", p.listings), ("longtable", p.longtable), ("tabularx", p.tabularx),
    ("ulem", p.ulem), ("xcolor", p.xcolor)].filterMap fun (name, used) =>
      if used then some name else none

end Packages

/-- What a body needs from its preamble. -/
structure Features where
  packages : Packages := {}
  chinese : Bool := false
  images : Bool := false
  tables : Bool := false
  code : Bool := false
  math : Bool := false
  deriving DecidableEq, Repr, Inhabited

/-- What either of two bodies needs. -/
def Features.union (f g : Features) : Features where
  packages := f.packages.union g.packages
  chinese := f.chinese || g.chinese
  images := f.images || g.images
  tables := f.tables || g.tables
  code := f.code || g.code
  math := f.math || g.math

end MarkTex.Body
