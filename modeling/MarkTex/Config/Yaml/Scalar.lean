import MarkTex.Config.Fault
import MarkTex.Config.Yaml.Cursor
import MarkTex.Text.Digit

/-!
# Texts of YAML

Four kinds of text: plain ones without marks, those in single or double quotation marks, and blocks
of indented lines. Lines of the first three are joined: one line end is a space, and of several the
first is left out. Each reader starts at a cursor and gives the text and the cursor after it.
-/

namespace MarkTex.Config.Yaml

/-- The text that joins two lines, given the first line end between them and those after it. -/
def joint (first : Char) (more : Text) : Text :=
  (if first != '\n' then [first] else if more.isEmpty then [' '] else []) ++ more

/-! ## Plain texts -/

/-- Whether `c` sets off parts of a collection in brackets or braces. -/
def isFlowMark (c : Char) : Bool :=
  c == ',' || c == '[' || c == ']' || c == '{' || c == '}'

/-- The characters of a plain text up to the next blank, line end or mark. -/
def plainRun (inFlow : Bool) : Text → Text
  | [] => []
  | c :: r =>
    let marks (d : Option Char) : Bool := isGap d || (inFlow && d.any isFlowMark)
    if isGap (some c) then []
    else if c == ':' && marks r.head? then []
    else if inFlow && (isFlowMark c || c == '?') then []
    else c :: plainRun inFlow r

/-- The line ends ahead among spaces, and the cursor after them; `none` if a document starts or ends
after one of them. `fuel` bounds the number of steps. -/
def plainBreaks (fuel : Nat) (cursor : Cursor) : Option (Text × Cursor) :=
  match fuel with
  | 0 => some ([], cursor)
  | fuel + 1 =>
    let cursor := cursor.skipSpaces
    match cursor.takeBreak with
    | none => some ([], cursor)
    | some (b, cursor) =>
      if cursor.atDocument then none
      else (plainBreaks fuel cursor).map fun (more, cursor) => (b :: more, cursor)

/-- What stands between two runs of a plain text. -/
structure PlainGap where
  /-- The text for the gap, empty where the plain text ends. -/
  text : Text
  cursor : Cursor
  /-- Whether a line ended. -/
  broken : Bool

/-- The gap after a run of a plain text. -/
def plainGap (cursor : Cursor) : PlainGap :=
  let (spaces, after) := cursor.span (· == ' ')
  match after.takeBreak with
  | none => ⟨spaces, after, false⟩
  | some (first, next) =>
    if next.atDocument then ⟨[], next, true⟩
    else
      match plainBreaks (next.rest.length + 1) next with
      | none => ⟨[], next, true⟩
      | some (more, next) => ⟨joint first more, next, true⟩

/-- A plain text, and whether a line ended after one of its runs. `gap` is the text before the next
run. Outside of brackets, lines indented by less than `indent` do not belong to it. `fuel` bounds
the number of runs. -/
def readPlain (fuel : Nat) (inFlow : Bool) (indent : Int) (gap : Text) (broken : Bool)
    (cursor : Cursor) : Text × Cursor × Bool :=
  match fuel with
  | 0 => ([], cursor, broken)
  | fuel + 1 =>
    let run := if cursor.isAt '#' then [] else plainRun inFlow cursor.rest
    if run.isEmpty then ([], cursor, broken)
    else
      let next := plainGap (cursor.advance run.length)
      if next.text.isEmpty || next.cursor.isAt '#' || (!inFlow && next.cursor.column < indent) then
        (gap ++ run, next.cursor, next.broken)
      else
        let (more, cursor, broken) := readPlain fuel inFlow indent next.text next.broken next.cursor
        (gap ++ run ++ more, cursor, broken)

/-! ## Texts in quotation marks -/

/-- The character that a letter after a backslash stands for. -/
def escaped? : Char → Option Char
  | '0' => some '\x00'
  | 'a' => some '\x07'
  | 'b' => some '\x08'
  | 't' => some '\t'
  | '\t' => some '\t'
  | 'n' => some '\n'
  | 'v' => some '\x0b'
  | 'f' => some '\x0c'
  | 'r' => some '\r'
  | 'e' => some '\x1b'
  | ' ' => some ' '
  | '"' => some '"'
  | '\\' => some '\\'
  | '/' => some '/'
  | 'N' => some '\u0085'
  | '_' => some '\u00a0'
  | 'L' => some '\u2028'
  | 'P' => some '\u2029'
  | _ => none

/-- The number of hexadecimal digits after a backslash and a letter. -/
def escapeDigits? : Char → Option Nat
  | 'x' => some 2
  | 'u' => some 4
  | 'U' => some 8
  | _ => none

/-- The character with a number, U+FFFD for half of a surrogate pair. -/
def characterOf (n : Nat) : Except Fault Char :=
  if n > 0x10FFFF then .error (.value (.noCharacter n))
  else if 0xD800 ≤ n && n ≤ 0xDFFF then .ok '\uFFFD'
  else .ok (Char.ofNat n)

/-- The line ends ahead among blanks, and the cursor after them; `none` if a document starts or ends
there. `fuel` bounds the number of steps. -/
def quotedBreaks (fuel : Nat) (cursor : Cursor) : Option (Text × Cursor) :=
  match fuel with
  | 0 => none
  | fuel + 1 =>
    if cursor.atDocument then none
    else
      let cursor := (cursor.span fun c => c == ' ' || c == '\t').2
      match cursor.takeBreak with
      | none => some ([], cursor)
      | some (b, cursor) => (quotedBreaks fuel cursor).map fun (more, cursor) => (b :: more, cursor)

/-- What an escape stands for, after its backslash. -/
def readEscape (cursor : Cursor) : Except Fault (Text × Cursor) :=
  match cursor.rest with
  | [] => .error .malformed
  | c :: r =>
    match escaped? c, escapeDigits? c with
    | some x, _ => .ok ([x], cursor.next)
    | none, some count =>
      let digits := r.take count
      match if digits.length = count then Text.hexNumber? digits else none with
      | some n => (characterOf n).map fun x => ([x], cursor.advance (count + 1))
      | none => .error .malformed
    | none, none =>
      match cursor.takeBreak with
      | some (_, next) => orMalformed (quotedBreaks (next.rest.length + 1) next)
      | none => .error .malformed

/-- What blanks and line ends in a quoted text stand for. -/
def readQuotedGap (cursor : Cursor) : Option (Text × Cursor) :=
  let (blanks, cursor) := cursor.span fun c => c == ' ' || c == '\t'
  match cursor.takeBreak with
  | none => some (blanks, cursor)
  | some (first, next) =>
    (quotedBreaks (next.rest.length + 1) next).map fun (more, cursor) => (joint first more, cursor)

/-- A text up to its closing quotation mark. `fuel` bounds the number of steps. -/
def readQuoted (fuel : Nat) (mark : Char) (cursor : Cursor) : Except Fault (Text × Cursor) :=
  match fuel with
  | 0 => .error .malformed
  | fuel + 1 =>
    let goOn (part : Text × Cursor) : Except Fault (Text × Cursor) :=
      (readQuoted fuel mark part.2).map fun (more, cursor) => (part.1 ++ more, cursor)
    match cursor.rest with
    | [] => .error .malformed
    | c :: r =>
      if c = mark then
        if mark = '\'' && r.head? == some '\'' then goOn (['\''], cursor.advance 2)
        else .ok ([], cursor.next)
      else if c = '\\' && mark = '"' then (readEscape cursor.next).bind goOn
      else if isGap (some c) then (orMalformed (readQuotedGap cursor)).bind goOn
      else goOn ([c], cursor.next)

/-! ## Blocks -/

/-- What happens to the line ends after a block. -/
inductive Chomping where
  /-- One is kept. -/
  | clip
  /-- None is kept. -/
  | strip
  /-- All are kept. -/
  | keep
  deriving DecidableEq

/-- How a sign at the head of a block treats the line ends after it. -/
def chomping? : Option Char → Option Chomping
  | some '+' => some .keep
  | some '-' => some .strip
  | _ => none

/-- The indentation that a digit at the head of a block gives. -/
def indentation? (c : Option Char) : Option Nat :=
  match c with
  | some c => if Text.isAsciiDigit c then some (c.toNat - 48) else none
  | none => none

/-- The sign and the digit at the head of a block, in any order, and the cursor after them. -/
def readBlockHead (cursor : Cursor) : Option ((Chomping × Option Nat) × Cursor) :=
  let head :=
    match chomping? (cursor.peek 0) with
    | some chomping =>
      match indentation? (cursor.peek 1) with
      | some n => ((chomping, some n), cursor.advance 2)
      | none => ((chomping, none), cursor.next)
    | none =>
      match indentation? (cursor.peek 0) with
      | none => ((.clip, none), cursor)
      | some n =>
        match chomping? (cursor.peek 1) with
        | some chomping => ((chomping, some n), cursor.advance 2)
        | none => ((.clip, some n), cursor.next)
  if head.1.2 = some 0 then none
  else if head.2.isAt ' ' || isLineEnd (head.2.peek 0) then some head
  else none

/-- The empty lines ahead, the largest column reached by spaces on the way, and the cursor after
them. `fuel` bounds the number of steps. -/
def leadingLines (fuel : Nat) (column : Nat) (cursor : Cursor) : Text × Nat × Cursor :=
  match fuel with
  | 0 => ([], column, cursor)
  | fuel + 1 =>
    let cursor := cursor.skipSpaces
    let column := max column cursor.column
    match cursor.takeBreak with
    | none => ([], column, cursor)
    | some (b, cursor) =>
      let (more, column, cursor) := leadingLines fuel column cursor
      (b :: more, column, cursor)

/-- The cursor after spaces, at column `indent` at most. -/
def skipIndent (indent : Nat) (cursor : Cursor) : Cursor :=
  cursor.advance (((cursor.rest.takeWhile (· == ' ')).take (indent - cursor.column)).length)

/-- The lines ahead with no more than `indent` spaces, and the cursor after them. `fuel` bounds
their number. -/
def emptyLines (fuel : Nat) (indent : Nat) (cursor : Cursor) : Text × Cursor :=
  match fuel with
  | 0 => ([], cursor)
  | fuel + 1 =>
    let cursor := skipIndent indent cursor
    match cursor.takeBreak with
    | none => ([], cursor)
    | some (b, cursor) =>
      let (more, cursor) := emptyLines fuel indent cursor
      (b :: more, cursor)

/-- What follows a line of a block at its end. -/
def blockEnd (chomping : Chomping) (lineEnd empty : Text) : Text :=
  match chomping with
  | .clip => lineEnd
  | .strip => []
  | .keep => lineEnd ++ empty

/-- What stands for the line end between two lines of a folded or literal block. -/
def blockJoint (folded : Bool) (lineEnd empty : Text) (before after : Bool) : Text :=
  if folded && lineEnd = ['\n'] && before && after then (if empty.isEmpty then [' '] else [])
  else lineEnd

/-- Whether `cursor` stands at a line that belongs to a block. -/
def inBlock (indent : Nat) (cursor : Cursor) : Bool :=
  cursor.column == indent && !cursor.rest.isEmpty

/-- Whether no blank comes next. -/
def startsFull (cursor : Cursor) : Bool :=
  !(cursor.isAt ' ' || cursor.isAt '\t')

/-- The lines of a block after the `empty` ones. `fuel` bounds their number. -/
def readBlockLines (fuel : Nat) (folded : Bool) (chomping : Chomping) (indent : Nat) (empty : Text)
    (cursor : Cursor) : Text × Cursor :=
  match fuel with
  | 0 => ([], cursor)
  | fuel + 1 =>
    let (line, after) := cursor.span fun c => !isBreak c
    let (lineEnd, after) :=
      match after.takeBreak with
      | some (b, next) => ([b], next)
      | none => ([], after)
    let (empties, after) := emptyLines (after.rest.length + 1) indent after
    if inBlock indent after then
      let joint := blockJoint folded lineEnd empties (startsFull cursor) (startsFull after)
      let (more, last) := readBlockLines fuel folded chomping indent empties after
      (empty ++ line ++ joint ++ more, last)
    else (empty ++ line ++ blockEnd chomping lineEnd empties, after)

/-- A block after its mark, where the lines of the collection around it are indented by `outer`. -/
def readBlock (folded : Bool) (outer : Int) (cursor : Cursor) : Option (Text × Cursor) :=
  match readBlockHead cursor with
  | none => none
  | some ((chomping, increment), cursor) =>
    match cursor.finishLine with
    | none => none
    | some cursor =>
      let least := (max (outer + 1) 1).toNat
      let fuel := cursor.rest.length + 1
      let (empty, indent, cursor) :=
        match increment with
        | some n =>
          let indent := least + n - 1
          let (empty, cursor) := emptyLines fuel indent cursor
          (empty, indent, cursor)
        | none =>
          let (empty, column, cursor) := leadingLines fuel 0 cursor
          (empty, max least column, cursor)
      if inBlock indent cursor then
        some (readBlockLines fuel folded chomping indent empty cursor)
      else some (blockEnd chomping [] empty, cursor)

end MarkTex.Config.Yaml
