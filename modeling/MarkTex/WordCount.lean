import MarkTex.Markdown.Token
import MarkTex.Math.Segment

/-!
# Counting words

Words and characters are counted apart for the running text and for the cells of tables. Every
ideograph is a word, and so is every longest run of ASCII letters and digits in what remains; white
space does not count as characters. Code, formulas, images and raw markup are left out.
-/

namespace MarkTex.WordCount

open Markdown (Token)

/-! ## Counting a text -/

/-- The number of ideographs and of the runs of ASCII letters and digits between them. `inWord` says
whether the character before belongs to such a run. -/
def countWordsFrom (inWord : Bool) : Text → Nat
  | [] => 0
  | c :: r =>
    if Text.isIdeograph c then countWordsFrom false r + 1
    else if Text.isAsciiAlphanum c then
      if inWord then countWordsFrom true r else countWordsFrom true r + 1
    else countWordsFrom false r

/-- The number of words of a text. -/
def countWords (t : Text) : Nat :=
  countWordsFrom false t

/-- The number of characters of a text that are not white space. -/
def countChars (t : Text) : Nat :=
  t.countP fun c => !Text.isBlank c

/-! ## Collecting the text of a document -/

/-- The text with its formulas taken out: each in turn is searched for from the start, and a space
takes its place. -/
def dropFormulas (t : Text) : Text :=
  (Text.formulas t).foldl (fun rest formula => Text.replaceFirst formula [' '] rest) t

/-- What a child adds to the text that is counted. -/
def childText (child : Token) : Text :=
  if child.kind = "code_inline" || child.kind = "image" || child.kind = "html_inline" then []
  else if child.kind = "softbreak" || child.kind = "hardbreak" then [' ']
  else child.content

/-- The text of an inline token that is counted. -/
def inlineText (t : Token) : Text :=
  dropFormulas (t.inlines.flatMap childText)

/-- The texts of the inline tokens outside and inside tables, where `depth` tables are open. -/
def collectFrom (depth : Nat) : List Token → List Text × List Text
  | [] => ([], [])
  | t :: rest =>
    if t.kind = "table_open" then collectFrom (depth + 1) rest
    else if t.kind = "table_close" then collectFrom (depth - 1) rest
    else
      let (body, table) := collectFrom depth rest
      if t.kind = "inline" then
        if depth = 0 then (inlineText t :: body, table) else (body, inlineText t :: table)
      else (body, table)

/-- The text of a document outside and inside its tables. -/
def collect (tokens : List Token) : Text × Text :=
  let (body, table) := collectFrom 0 tokens
  (List.intercalate [' '] body, List.intercalate [' '] table)

/-! ## The counts of a document -/

/-- The numbers of words and characters outside and inside tables. -/
structure Counts where
  bodyWords : Nat := 0
  tableWords : Nat := 0
  bodyChars : Nat := 0
  tableChars : Nat := 0
  deriving DecidableEq, Repr, Inhabited

/-- The number of all words. -/
def Counts.totalWords (c : Counts) : Nat :=
  c.bodyWords + c.tableWords

/-- The number of all characters. -/
def Counts.totalChars (c : Counts) : Nat :=
  c.bodyChars + c.tableChars

/-- The counts of a document. -/
def count (tokens : List Token) : Counts :=
  let (body, table) := collect tokens
  { bodyWords := countWords body
    tableWords := countWords table
    bodyChars := countChars body
    tableChars := countChars table }

end MarkTex.WordCount
