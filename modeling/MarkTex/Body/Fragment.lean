import MarkTex.Body.Features
import MarkTex.Log.Record
import MarkTex.Number.Numeral
import MarkTex.Table.Width

/-!
# Fragments

A fragment is a stretch of emitted markup together with what it needs from the preamble, the
messages that came up on the way and the first fault, if there was one. Fragments are put together
in order, and nothing but the text is ever lost.
-/

namespace MarkTex.Body

/-- Why a body could not be emitted. -/
inductive Fault where
  /-- The tag of a heading holds a level that cannot be read. -/
  | headingLevel (cause : Number.NumeralFault)
  /-- The columns of a table could not be laid out. -/
  | tableColumns (cause : Table.WidthFault)
  deriving DecidableEq, Repr

/-- What is wrong with the tokens of a body. -/
def Fault.message : Fault → String
  | headingLevel cause => cause.message
  | tableColumns cause => cause.message

/-- A stretch of a body. -/
structure Fragment where
  text : Text := []
  features : Features := {}
  notices : List Log.Record := []
  fault : Option Fault := none
  deriving DecidableEq, Repr, Inhabited

namespace Fragment

/-- A fragment that needs nothing. -/
def ofText (t : Text) : Fragment where
  text := t

/-- A fragment that needs the given features. -/
def needing (features : Features) (t : Text) : Fragment where
  text := t
  features := features

/-- A message without any text. -/
def ofNotice (record : Log.Record) : Fragment where
  notices := [record]

/-- Two fragments, one after the other. -/
def append (a b : Fragment) : Fragment where
  text := a.text ++ b.text
  features := a.features.union b.features
  notices := a.notices ++ b.notices
  fault := a.fault <|> b.fault

instance : Append Fragment where
  append := append

/-- The fragment with its text changed. -/
def mapText (f : Text → Text) (a : Fragment) : Fragment :=
  { a with text := f a.text }

/-- All fragments, one after the other. -/
def concat (fragments : List Fragment) : Fragment :=
  fragments.foldr append {}

/-- The texts of the fragments that have any. -/
def texts (fragments : List Fragment) : List Text :=
  (fragments.map text).filter (!·.isEmpty)

/-- The fragments that have a text, with `separator` between neighbours; the others count only for
what they need. -/
def joinWith (separator : Text) (fragments : List Fragment) : Fragment :=
  { concat fragments with text := List.intercalate separator (texts fragments) }

/-- The fragments that have a text or not, as lines. -/
def lines (fragments : List Fragment) : Fragment :=
  { concat fragments with text := List.intercalate ['\n'] (fragments.map text) }

end Fragment

end MarkTex.Body
