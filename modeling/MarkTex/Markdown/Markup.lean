import MarkTex.Text.Basic

/-!
# Raw markup

Tags, comments and the other forms of raw markup that a document can hold when it is allowed to:
each as a reader of the form at the start of a text, and the rules by which a line starts and ends a
block of raw markup.
-/

namespace MarkTex.Markdown.Markup

/-! ## Tags -/

/-- The text after its white space. -/
def skipBlank (t : Text) : Text :=
  t.dropWhile Text.isBlank

/-- Whether `c` may stand in the name of a tag. -/
def isTagChar (c : Char) : Bool :=
  Text.isAsciiAlphanum c || c == '-'

/-- What follows the name of a tag that a text starts with. -/
def afterTagName (t : Text) : Option Text :=
  match t with
  | c :: r => if Text.isAsciiLetter c then some (r.dropWhile isTagChar) else none
  | [] => none

/-- Whether `c` may start the name of an attribute. -/
def startsAttribute (c : Char) : Bool :=
  Text.isAsciiLetter c || c == '_' || c == ':'

/-- Whether `c` may stand in the name of an attribute. -/
def isAttributeChar (c : Char) : Bool :=
  Text.isAsciiAlphanum c || c == ':' || c == '.' || c == '_' || c == '-'

/-- Whether `c` may stand in a value without quotation marks. -/
def isValueChar (c : Char) : Bool :=
  0x20 < c.toNat && !("\"'=<>\x60".toList.contains c)

/-- What follows the first `mark` of a text. -/
def afterMark (mark : Char) (t : Text) : Option Text :=
  match t.dropWhile (· ≠ mark) with
  | _ :: rest => some rest
  | [] => none

/-- What follows the value of an attribute. -/
def afterValue (t : Text) : Option Text :=
  match t with
  | '"' :: r => afterMark '"' r
  | '\'' :: r => afterMark '\'' r
  | t =>
    let rest := t.dropWhile isValueChar
    if rest.length < t.length then some rest else none

/-- What follows an attribute and the white space in front of it. -/
def afterAttribute (t : Text) : Option Text :=
  match t with
  | [] => none
  | c :: r =>
    if !Text.isBlank c then none
    else
      match skipBlank r with
      | [] => none
      | d :: s =>
        if !startsAttribute d then none
        else
          let rest := s.dropWhile isAttributeChar
          match skipBlank rest with
          | '=' :: v => afterValue (skipBlank v)
          | _ => some rest

/-- What follows the attributes of a tag. `fuel` bounds their number. -/
def afterAttributes (fuel : Nat) (t : Text) : Text :=
  match fuel with
  | 0 => t
  | fuel + 1 =>
    match afterAttribute t with
    | some rest => afterAttributes fuel rest
    | none => t

/-- What follows an opening tag. -/
def afterOpeningTag (t : Text) : Option Text := do
  let '<' :: r := t | none
  let r ← afterTagName r
  match skipBlank (afterAttributes r.length r) with
  | '/' :: '>' :: rest => some rest
  | '>' :: rest => some rest
  | _ => none

/-- What follows a closing tag. -/
def afterClosingTag (t : Text) : Option Text := do
  let '<' :: '/' :: r := t | none
  let r ← afterTagName r
  match skipBlank r with
  | '>' :: rest => some rest
  | _ => none

/-! ## Other forms -/

/-- What follows the text of a comment. -/
def afterCommentText : Text → Option Text
  | '-' :: '-' :: '>' :: rest => some rest
  | '-' :: '-' :: _ :: r => afterCommentText r
  | '-' :: c :: r => if c = '-' then none else afterCommentText r
  | c :: r => if c = '-' then none else afterCommentText r
  | [] => none

/-- What follows a comment. -/
def afterComment (t : Text) : Option Text :=
  match t with
  | '<' :: '!' :: '-' :: '-' :: '>' :: rest => some rest
  | '<' :: '!' :: '-' :: '-' :: '-' :: '>' :: rest => some rest
  | '<' :: '!' :: '-' :: '-' :: r => afterCommentText r
  | _ => none

/-- What follows the first occurrence of `mark`. -/
def afterText (mark : String) (t : Text) : Option Text :=
  (Text.cutAt mark.toList t).map (·.2)

/-- What follows a processing instruction. -/
def afterInstruction (t : Text) : Option Text :=
  match t with
  | '<' :: '?' :: r => afterText "?>" r
  | _ => none

/-- What follows a declaration. -/
def afterDeclaration (t : Text) : Option Text :=
  match t with
  | '<' :: '!' :: c :: r => if Text.isAsciiLetter c then afterMark '>' r else none
  | _ => none

/-- What follows a section of character data. -/
def afterData (t : Text) : Option Text :=
  let mark := "<![CDATA[".toList
  if mark.isPrefixOf t then afterText "]]>" (t.drop mark.length) else none

/-- What follows the raw markup that a text starts with. -/
def afterMarkup (t : Text) : Option Text :=
  [afterOpeningTag, afterClosingTag, afterComment, afterInstruction, afterDeclaration,
    afterData].findSome? (· t)

/-! ## Blocks of raw markup -/

/-- The elements whose contents are no Markdown. -/
def verbatimElements : List String :=
  ["script", "pre", "style", "textarea"]

/-- The elements that stand for blocks. -/
def blockElements : List String :=
  ["address", "article", "aside", "base", "basefont", "blockquote", "body", "caption", "center",
    "col", "colgroup", "dd", "details", "dialog", "dir", "div", "dl", "dt", "fieldset",
    "figcaption", "figure", "footer", "form", "frame", "frameset", "h1", "h2", "h3", "h4", "h5",
    "h6", "head", "header", "hr", "html", "iframe", "legend", "li", "link", "main", "menu",
    "menuitem", "nav", "noframes", "ol", "optgroup", "option", "p", "param", "search", "section",
    "summary", "table", "tbody", "td", "tfoot", "th", "thead", "title", "tr", "track", "ul"]

/-- Whether what follows a name shows that the name has ended; a block may also end its tag here. -/
def endsName (closes : Bool) (t : Text) : Bool :=
  match t with
  | [] => true
  | '/' :: '>' :: _ => closes
  | c :: _ => c = '>' || Text.isBlank c

/-- Whether a text starts with one of the names, without regard to the case of
ASCII letters. -/
def startsWithName (names : List String) (closes : Bool) (t : Text) : Bool :=
  names.any fun name =>
    name.toList.isPrefixOf (t.map Char.toLower) && endsName closes (t.drop name.length)

/-- The ways in which a line starts a block of raw markup. -/
inductive Start where
  | verbatim
  | comment
  | instruction
  | declaration
  | data
  | block
  | tag
  deriving DecidableEq, Repr

/-- Whether a line starts a block in the given way. -/
def Start.opens (line : Text) : Start → Bool
  | verbatim =>
    match line with
    | '<' :: r => startsWithName verbatimElements false r
    | _ => false
  | comment => "<!--".toList.isPrefixOf line
  | instruction => "<?".toList.isPrefixOf line
  | declaration =>
    match line with
    | '<' :: '!' :: c :: _ => Text.isAsciiLetter c
    | _ => false
  | data => "<![CDATA[".toList.isPrefixOf line
  | block =>
    match line with
    | '<' :: '/' :: r => startsWithName blockElements true r
    | '<' :: r => startsWithName blockElements true r
    | _ => false
  | tag =>
    match [afterOpeningTag, afterClosingTag].findSome? (· line) with
    | some rest => rest.all Text.isBlank
    | none => false

/-- The ways in which a line can start a block, in the order in which they are tried. -/
def starts : List Start :=
  [.verbatim, .comment, .instruction, .declaration, .data, .block, .tag]

/-- Whether a line ends a block that was started in the given way. -/
def Start.closes (line : Text) : Start → Bool
  | verbatim =>
    verbatimElements.any fun name =>
      Text.has (line.map Char.toLower) ("</".toList ++ name.toList ++ ['>'])
  | comment => Text.has line "-->".toList
  | instruction => Text.has line "?>".toList
  | declaration => line.contains '>'
  | data => Text.has line "]]>".toList
  | block => line.isEmpty
  | tag => line.isEmpty

/-- Whether a block that starts in the given way may end a paragraph. -/
def Start.interrupts (s : Start) : Bool :=
  s != .tag

/-- The way in which a line starts a block, if it does. -/
def start? (line : Text) : Option Start :=
  starts.find? (·.opens line)

end MarkTex.Markdown.Markup
