import MarkTex.Log.Record
import MarkTex.Text.Basic

/-!
# Languages of code listings

The first word after a code fence becomes a listing option, so only ASCII letters and digits and the
signs `_`, `+` and `-` get through, and at most fifty of them.
-/

namespace MarkTex.Tex

/-- The length of the longest language name. -/
def longestLanguage : Nat := 50

/-- Whether `c` may stand in a language name. -/
def isLanguageChar (c : Char) : Bool :=
  Text.isAsciiAlphanum c || c == '_' || c == '+' || c == '-'

/-- Why a language name was dropped. -/
inductive LanguageFault where
  /-- The name is longer than the longest one allowed. -/
  | tooLong (name : Text)
  /-- The name holds a character that does not belong there, or none at all. -/
  | badCharacter (name : Text)
  deriving DecidableEq, Repr

/-- The warning about a dropped name, which shows the first fifty characters of it. -/
def LanguageFault.message : LanguageFault → String
  | tooLong name =>
    s!"Language identifier exceeds maximum length ({longestLanguage}): " ++
      String.ofList (name.take 50) ++ "..."
  | badCharacter name =>
    "Dropped language identifier containing invalid characters: " ++ String.ofList (name.take 50)

/-- The language that a non-empty text names. -/
def checkLanguage (t : Text) : Except LanguageFault Text :=
  let name := Text.strip t
  if name.length > longestLanguage then .error (.tooLong name)
  else if name.isEmpty || !name.all isLanguageChar then .error (.badCharacter name)
  else .ok name

/-- The language that a text names, empty if it names none, and the warning that this brings. -/
def language (t : Text) : Text × List Log.Record :=
  if t.isEmpty then ([], [])
  else
    match checkLanguage t with
    | .ok name => (name, [])
    | .error fault => ([], [⟨"md2latex.utils.security", Log.warning, fault.message⟩])

end MarkTex.Tex
