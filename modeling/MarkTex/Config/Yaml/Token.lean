import MarkTex.Config.Yaml.Scalar

/-!
# Tokens of YAML

A YAML text is a sequence of tokens. Indentation becomes tokens that open and close block
collections. A key that fits on one line has no mark in front of it, so each place where such a key
may have started is remembered until its colon comes; then the tokens of the key are put in at that
place.
-/

namespace MarkTex.Config.Yaml

/-- A directive in front of a document. -/
inductive Directive where
  | version (major : Nat)
  | tag (handle initial : Text)
  | other

/-- A token. -/
inductive Token where
  | directive (d : Directive)
  | documentStart
  | documentEnd
  | blockSequence
  | blockMapping
  | blockEnd
  | openSequence
  | closeSequence
  | openMapping
  | closeMapping
  | entry
  | blockEntry
  | key
  | value
  | alias (name : Text)
  | anchor (name : Text)
  /-- A tag: its handle, unless it is written out in full, and the rest. -/
  | tag (handle : Option Text) (rest : Text)
  /-- A text, and whether it is plain. -/
  | scalar (text : Text) (plain : Bool)
  /-- A text that cannot be read, after which no more is. -/
  | unreadable (cause : ValueFault)

/-- A place where a short key may have started: the number of tokens before it, whether it has to be
a key, and where it stands. -/
structure KeyStart where
  token : Nat
  required : Bool
  index : Nat
  line : Nat
  column : Nat

/-- A text that is being cut into tokens. -/
structure Scanner where
  cursor : Cursor
  /-- The number of open brackets and braces. -/
  flow : Nat := 0
  /-- The column of the innermost block collection. -/
  indent : Int := -1
  /-- The columns of the block collections around it, innermost first. -/
  outer : List Int := []
  /-- Whether a short key may start here. -/
  keyAllowed : Bool := true
  /-- The places where a short key may have started, by the number of open brackets. -/
  starts : List (Nat × KeyStart) := []
  /-- Why the text is not known to its end, if it is not. -/
  wall : Option ValueFault := none
  /-- Why nothing more can be read, if so. -/
  fault : Option ValueFault := none
  tokens : List Token := []

namespace Scanner

/-- The scanner after one more token. -/
def push (s : Scanner) (token : Token) : Scanner :=
  { s with tokens := s.tokens ++ [token] }

/-- The scanner with a token put in after the first `n`. -/
def insertAt (s : Scanner) (n : Nat) (token : Token) : Scanner :=
  { s with tokens := s.tokens.take n ++ token :: s.tokens.drop n }

/-- The scanner after `n` characters. -/
def skip (s : Scanner) (n : Nat) : Scanner :=
  { s with cursor := s.cursor.advance n }

/-! ## Short keys -/

/-- Whether a short key that started at `k` cannot end any more. -/
def isStale (s : Scanner) (k : KeyStart) : Bool :=
  k.line != s.cursor.line || s.cursor.index - k.index > 1024

/-- The scanner without the starts of keys that cannot end any more, unless one has to. -/
def dropStale (s : Scanner) : Option Scanner :=
  if s.starts.any fun (_, k) => s.isStale k && k.required then none
  else some { s with starts := s.starts.filter fun (_, k) => !s.isStale k }

/-- The scanner without the start of a key among the innermost brackets, unless it has to be one. -/
def dropStart (s : Scanner) : Option Scanner :=
  if s.starts.any fun (level, k) => level = s.flow && k.required then none
  else some { s with starts := s.starts.filter fun (level, _) => level != s.flow }

/-- The scanner with the start of a key here, if one may start. -/
def markStart (s : Scanner) : Option Scanner :=
  if s.keyAllowed then
    s.dropStart.map fun t =>
      let start : KeyStart := {
        token := s.tokens.length
        required := s.flow = 0 && s.indent == s.cursor.column
        index := s.cursor.index
        line := s.cursor.line
        column := s.cursor.column }
      { t with starts := (s.flow, start) :: t.starts }
  else some s

/-! ## Indentation -/

/-- The scanner with the block collections closed that are indented by more than `column`, given the
columns of the collections around the innermost one. -/
def closeBlocks (s : Scanner) (column : Int) : List Int → Scanner
  | [] => s
  | next :: outer =>
    if s.indent > column then
      closeBlocks ({ s with indent := next, outer := outer }.push .blockEnd) column outer
    else s

/-- The scanner with the block collections closed that are indented by more than `column`. -/
def unwind (s : Scanner) (column : Int) : Scanner :=
  if s.flow > 0 then s else s.closeBlocks column s.outer

/-- The scanner with a block collection at `column`, if that is further in, and whether it is. -/
def deepen (s : Scanner) (column : Int) : Scanner × Bool :=
  if s.indent < column then ({ s with indent := column, outer := s.indent :: s.outer }, true)
  else (s, false)

/-- The scanner with a block collection at the current column opened by `token`, if that is further
in. -/
def openBlock (s : Scanner) (token : Token) : Scanner :=
  match s.deepen s.cursor.column with
  | (s, true) => s.push token
  | (s, false) => s

/-! ## Blanks -/

/-- The scanner at the next token. `fuel` bounds the number of lines. -/
def skipBlank (fuel : Nat) (s : Scanner) : Scanner :=
  match fuel with
  | 0 => s
  | fuel + 1 =>
    let cursor := s.cursor.skipSpaces.skipComment
    match cursor.takeBreak with
    | none => { s with cursor }
    | some (_, cursor) =>
      skipBlank fuel { s with cursor, keyAllowed := s.keyAllowed || s.flow = 0 }

/-! ## Directives, anchors and tags -/

/-- Whether `c` may stand in the name of an anchor or directive. -/
def isNameChar (c : Char) : Bool :=
  Text.isAsciiAlphanum c || c == '-' || c == '_'

/-- Whether a space or the end of the line comes next. -/
def atSpace (cursor : Cursor) : Bool :=
  cursor.isAt ' ' || isLineEnd (cursor.peek 0)

/-- A number, and the cursor after it. -/
def readNumber (cursor : Cursor) : Option (Nat × Cursor) :=
  match cursor.span Text.isAsciiDigit with
  | ([], _) => none
  | (digits, cursor) => some (digits.foldl (fun n d => 10 * n + (d.toNat - 48)) 0, cursor)

/-- The version after the name of its directive. -/
def readVersion (cursor : Cursor) : Option (Directive × Cursor) :=
  match readNumber cursor.skipSpaces with
  | none => none
  | some (major, cursor) =>
    if cursor.isAt '.' then
      match readNumber cursor.next with
      | some (_, cursor) => if atSpace cursor then some (.version major, cursor) else none
      | none => none
    else none

/-- A handle of tags: an exclamation mark, or a name between two. -/
def readHandle (cursor : Cursor) : Option (Text × Cursor) :=
  if cursor.isAt '!' then
    let (name, after) := cursor.next.span isNameChar
    if after.isAt '!' then some ('!' :: name ++ ['!'], after.next)
    else if name.isEmpty && after.isAt ' ' then some (['!'], after)
    else none
  else none

/-- Whether `c` may stand in a tag as it is. -/
def isTagChar (c : Char) : Bool :=
  Text.isAsciiAlphanum c || "-;/?:@&=+$,_.!~*'()[]".toList.contains c

/-- The bytes of the escapes ahead, and the cursor after them. `fuel` bounds their number. -/
def readBytes (fuel : Nat) (cursor : Cursor) : Option (List UInt8 × Cursor) :=
  match fuel with
  | 0 => none
  | fuel + 1 =>
    if cursor.isAt '%' then
      match cursor.rest.tail.take 2 with
      | [a, b] =>
        match Text.hexNumber? [a, b] with
        | some n =>
          (readBytes fuel (cursor.advance 3)).map fun (bytes, cursor) =>
            (n.toUInt8 :: bytes, cursor)
        | none => none
      | _ => none
    else some ([], cursor)

/-- The text that escaped bytes stand for. -/
def ofBytes (bytes : List UInt8) : Option Text :=
  (String.fromUTF8? ⟨bytes.toArray⟩).map String.toList

/-- The characters of a tag ahead, and the cursor after them. `fuel` bounds the number of steps. -/
def readTagText (fuel : Nat) (cursor : Cursor) : Option (Text × Cursor) :=
  match fuel with
  | 0 => none
  | fuel + 1 =>
    match cursor.span isTagChar with
    | (run, cursor) =>
      if cursor.isAt '%' then
        match readBytes (cursor.rest.length + 1) cursor with
        | none => none
        | some (bytes, cursor) =>
          match ofBytes bytes, readTagText fuel cursor with
          | some part, some (more, cursor) => some (run ++ part ++ more, cursor)
          | _, _ => none
      else some (run, cursor)

/-- The characters of a tag, of which there is one at least. -/
def readTagRest (cursor : Cursor) : Option (Text × Cursor) :=
  match readTagText (cursor.rest.length + 1) cursor with
  | some ([], _) => none
  | found => found

/-- The handle and its meaning after the name of their directive. -/
def readTagDirective (cursor : Cursor) : Option (Directive × Cursor) :=
  match readHandle cursor.skipSpaces with
  | none => none
  | some (handle, cursor) =>
    if cursor.isAt ' ' then
      match readTagRest cursor.skipSpaces with
      | some (initial, cursor) =>
        if atSpace cursor then some (.tag handle initial, cursor) else none
      | none => none
    else none

/-- A directive, and the cursor after its line. -/
def readDirective (cursor : Cursor) : Option (Directive × Cursor) :=
  match cursor.next.span isNameChar with
  | ([], _) => none
  | (name, cursor) =>
    if atSpace cursor then
      let read :=
        if name = "YAML".toList then readVersion cursor
        else if name = "TAG".toList then readTagDirective cursor
        else some (.other, (cursor.span fun c => !isBreak c).2)
      match read with
      | some (d, cursor) => cursor.finishLine.map fun cursor => (d, cursor)
      | none => none
    else none

/-- The name of an anchor after its mark. -/
def readName (cursor : Cursor) : Option (Text × Cursor) :=
  match cursor.next.span isNameChar with
  | ([], _) => none
  | (name, cursor) =>
    if isGap (cursor.peek 0) || (cursor.peek 0).any fun c => "?:,]\x7d%@\x60".toList.contains c then
      some (name, cursor)
    else none

/-- Whether an exclamation mark stands in a text before the next space or line end. -/
def hasHandle (t : Text) : Bool :=
  (t.takeWhile fun c => c != ' ' && !isBreak c).contains '!'

/-- A tag with its handle, and the cursor after it. -/
def readTag (cursor : Cursor) : Option (Token × Cursor) :=
  let read : Option (Token × Cursor) :=
    if cursor.peek 1 == some '<' then
      match readTagRest (cursor.advance 2) with
      | some (name, cursor) =>
        if cursor.isAt '>' then some (.tag none name, cursor.next) else none
      | none => none
    else if isGap (cursor.peek 1) then some (.tag none ['!'], cursor.next)
    else
      let handle :=
        if hasHandle cursor.next.rest then readHandle cursor else some (['!'], cursor.next)
      match handle with
      | none => none
      | some (handle, cursor) =>
        (readTagRest cursor).map fun (name, cursor) => (.tag (some handle) name, cursor)
  match read with
  | some (token, cursor) => if atSpace cursor then some (token, cursor) else none
  | none => none

/-! ## Single tokens -/

/-- The scanner after the start or end of a document, or after a directive. -/
def readMark (s : Scanner) (token : Token) (cursor : Cursor) : Option Scanner :=
  (s.unwind (-1)).dropStart.map fun s =>
    { s with cursor, keyAllowed := false }.push token

/-- The scanner after an opening bracket or brace. -/
def openFlow (s : Scanner) (token : Token) : Option Scanner :=
  s.markStart.map fun s => { s with flow := s.flow + 1, keyAllowed := true }.skip 1 |>.push token

/-- The scanner after a closing bracket or brace. -/
def closeFlow (s : Scanner) (token : Token) : Option Scanner :=
  s.dropStart.map fun s => { s with flow := s.flow - 1, keyAllowed := false }.skip 1 |>.push token

/-- The scanner after a comma. -/
def readEntry (s : Scanner) : Option Scanner :=
  s.dropStart.map fun s => { s with keyAllowed := true }.skip 1 |>.push .entry

/-- The scanner after the mark of an item. -/
def readItem (s : Scanner) : Option Scanner :=
  if s.flow = 0 && !s.keyAllowed then none
  else
    let s := if s.flow = 0 then s.openBlock .blockSequence else s
    s.dropStart.map fun s => { s with keyAllowed := true }.skip 1 |>.push .blockEntry

/-- The scanner after the mark of a key. -/
def readKey (s : Scanner) : Option Scanner :=
  if s.flow = 0 && !s.keyAllowed then none
  else
    let s := if s.flow = 0 then s.openBlock .blockMapping else s
    s.dropStart.map fun s => { s with keyAllowed := s.flow = 0 }.skip 1 |>.push .key

/-- The scanner after the colon of a short key that started at `k`. -/
def closeKey (s : Scanner) (k : KeyStart) : Scanner :=
  let s := { s with starts := s.starts.filter fun (level, _) => level != s.flow }
  let s := s.insertAt k.token .key
  let s :=
    if s.flow = 0 then
      match s.deepen k.column with
      | (s, true) => s.insertAt k.token .blockMapping
      | (s, false) => s
    else s
  { s with keyAllowed := false }.skip 1 |>.push .value

/-- The scanner after a colon. -/
def readColon (s : Scanner) : Option Scanner :=
  match s.starts.lookup s.flow with
  | some k => some (s.closeKey k)
  | none =>
    if s.flow = 0 && !s.keyAllowed then none
    else
      let s := if s.flow = 0 then s.openBlock .blockMapping else s
      s.dropStart.map fun s => { s with keyAllowed := s.flow = 0 }.skip 1 |>.push .value

/-- The scanner after a token that can be a short key. -/
def readShort (s : Scanner) (read : Cursor → Option (Token × Cursor)) : Option Scanner :=
  match s.markStart, read s.cursor with
  | some s, some (token, cursor) => some ({ s with cursor, keyAllowed := false }.push token)
  | _, _ => none

/-- The number of tokens that can be taken before the next one has to be read. A token that may
start a short key is only taken when it is known whether it does. -/
def takeable (s : Scanner) : Nat :=
  (s.starts.filter fun (_, k) => !s.isStale k).foldl (fun n (_, k) => min n k.token) s.tokens.length

/-- The scanner with an unreadable token in place of all those that can only be taken when the next
one was read. -/
def giveUp (s : Scanner) (cause : ValueFault) : Scanner :=
  { s with tokens := s.tokens.take s.takeable ++ [.unreadable cause] }

/-- The scanner after a text between two `mark`s. -/
def readBetween (s : Scanner) (mark : Char) : Option Scanner :=
  s.markStart.bind fun s =>
    match readQuoted (s.cursor.rest.length + 1) mark s.cursor.next with
    | .ok (text, cursor) => some ({ s with cursor, keyAllowed := false }.push (.scalar text false))
    | .error (.value cause) => some { s with fault := some cause }
    | .error .malformed => none

/-- The scanner after a block of lines. -/
def readLines (s : Scanner) (folded : Bool) : Option Scanner :=
  match s.dropStart, readBlock folded s.indent s.cursor.next with
  | some s, some (text, cursor) =>
    some ({ s with cursor, keyAllowed := true }.push (.scalar text false))
  | _, _ => none

/-- The scanner after a plain text. -/
def readPlainText (s : Scanner) : Option Scanner :=
  s.markStart.map fun s =>
    let (text, cursor, broken) :=
      readPlain (s.cursor.rest.length + 1) (s.flow > 0) (s.indent + 1) [] false s.cursor
    { s with cursor, keyAllowed := broken }.push (.scalar text true)

/-- Whether a plain text starts with character `c`. -/
def startsPlain (s : Scanner) (c : Char) : Bool :=
  (!isGap (some c) && !("-?:,[]\x7b\x7d#&*!|>'\"%@\x60".toList.contains c)) ||
    (!isGap (s.cursor.peek 1) && (c == '-' || (s.flow = 0 && (c == '?' || c == ':'))))

/-- The scanner after the next token, which starts with character `c`. -/
def readToken (s : Scanner) (c : Char) : Option Scanner :=
  let cursor := s.cursor
  let named (token : Text → Token) (cursor : Cursor) : Option (Token × Cursor) :=
    (readName cursor).map fun (name, cursor) => (token name, cursor)
  let gap := isGap (cursor.peek 1)
  if c = '%' && cursor.column = 0 then
    (readDirective cursor).bind fun (d, cursor) => s.readMark (.directive d) cursor
  else if cursor.column = 0 && cursor.atMarker '-' then s.readMark .documentStart (cursor.advance 3)
  else if cursor.column = 0 && cursor.atMarker '.' then s.readMark .documentEnd (cursor.advance 3)
  else if c = '[' then s.openFlow .openSequence
  else if c = '{' then s.openFlow .openMapping
  else if c = ']' then s.closeFlow .closeSequence
  else if c = '}' then s.closeFlow .closeMapping
  else if c = ',' then s.readEntry
  else if c = '-' && gap then s.readItem
  else if c = '?' && (s.flow > 0 || gap) then s.readKey
  else if c = ':' && (s.flow > 0 || gap) then s.readColon
  else if c = '*' then s.readShort (named .alias)
  else if c = '&' then s.readShort (named .anchor)
  else if c = '!' then s.readShort readTag
  else if c = '|' && s.flow = 0 then s.readLines false
  else if c = '>' && s.flow = 0 then s.readLines true
  else if c = '\'' then s.readBetween '\''
  else if c = '"' then s.readBetween '"'
  else if s.startsPlain c then s.readPlainText
  else none

/-- Whether the text that is known may end inside of the token that starts with character `c`: the
text has no more lines, or ends in quotation marks. -/
def isCut (s : Scanner) (c : Char) : Bool :=
  let rest := s.cursor.rest
  let closed := { s.cursor.next with rest := s.cursor.next.rest ++ [c] }
  !(rest.any isBreak) ||
    ((c == '"' || c == '\'') && (readQuoted (rest.length + 1) c closed).isOk)

/-- The scanner after the next token, which starts with character `c`. There is a fault if that
token needs more of the text than is known. -/
def readKnown (s : Scanner) (c : Char) : Option Scanner :=
  match s.wall, s.readToken c with
  | none, next => next
  | some cause, some next =>
    if next.cursor.rest.isEmpty then some { s with fault := some cause } else some next
  | some cause, none => if s.isCut c then some { s with fault := some cause } else none

/-- The scanner after all tokens. `fuel` bounds their number. -/
def readAll (fuel : Nat) (s : Scanner) : Option Scanner :=
  match fuel with
  | 0 => none
  | fuel + 1 =>
    let here := s.skipBlank (s.cursor.rest.length + 1)
    match here.cursor.rest, s.wall with
    | [], some cause => some (s.giveUp cause)
    | _, _ =>
      match here.dropStale with
      | none => none
      | some here =>
        let here := here.unwind here.cursor.column
        match here.cursor.rest with
        | [] => (here.unwind (-1)).dropStart
        | c :: _ =>
          match here.readKnown c with
          | none => none
          | some next =>
            match next.fault with
            | some cause => some (s.giveUp cause)
            | none => readAll fuel next

end Scanner

/-- Whether `c` may stand in a YAML text. -/
def isPrintable (c : Char) : Bool :=
  let n := c.toNat
  n == 0x09 || n == 0x0A || n == 0x0D || (0x20 ≤ n && n ≤ 0x7E) || n == 0x85 ||
    (0xA0 ≤ n && n ≤ 0xFFFD) || 0x10000 ≤ n

/-- The text after a byte order mark. -/
def dropOrderMark (t : Text) : Text :=
  match t with
  | '\uFEFF' :: r => r
  | t => t

/-- The tokens of a text. `wall` tells why the text is not known to its end, if it is not. -/
def tokens (t : Text) (wall : Option ValueFault) : Option (List Token) :=
  if t.all isPrintable then
    let start : Scanner := { cursor := ⟨dropOrderMark t, 0, 0, 0⟩, wall }
    (start.readAll (t.length + 1)).map Scanner.tokens
  else none

end MarkTex.Config.Yaml
