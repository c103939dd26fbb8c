import MarkTex.Text.Basic
import MarkTex.Text.Printable
import MarkTex.Text.Utf8

/-!
# Quoted texts

Messages quote a text so that it stays on one line and shows what does not print. Single quotes
surround it, double quotes if it holds a single quote and no double quote. Bytes are quoted in the
same way after a small b, where only ASCII characters print.
-/

namespace MarkTex.Text

/-- The quotation mark that needs the least escaping. -/
def quoteMark (t : Text) : Char :=
  if t.contains '\'' && !t.contains '"' then '"' else '\''

/-- A character as it stands between two `mark`s. -/
def quoteChar (mark c : Char) : Text :=
  if c = mark || c = '\\' then ['\\', c]
  else if c = '\n' then ['\\', 'n']
  else if c = '\r' then ['\\', 'r']
  else if c = '\t' then ['\\', 't']
  else if isPrintable c then [c]
  else if c.toNat ≤ 0xFF then '\\' :: 'x' :: hex 2 c.toNat
  else if c.toNat ≤ 0xFFFF then '\\' :: 'u' :: hex 4 c.toNat
  else '\\' :: 'U' :: hex 8 c.toNat

/-- A text in quotation marks, on one line. -/
def quoted (t : Text) : Text :=
  let mark := quoteMark t
  mark :: t.flatMap (quoteChar mark) ++ [mark]

/-- A byte as it stands between two `mark`s. -/
def quoteByte (mark : Char) (b : UInt8) : Text :=
  if b < 0x80 then quoteChar mark (Char.ofNat b.toNat) else '\\' :: 'x' :: hex 2 b.toNat

/-- Bytes in quotation marks, on one line. -/
def quotedBytes (bytes : Bytes) : Text :=
  let mark := quoteMark (bytes.map fun b => Char.ofNat b.toNat)
  'b' :: mark :: bytes.flatMap (quoteByte mark) ++ [mark]

end MarkTex.Text

namespace MarkTex

/-- A string in quotation marks, on one line. -/
def quote (s : String) : String :=
  String.ofList (Text.quoted s.toList)

end MarkTex
