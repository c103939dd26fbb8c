import MarkTex.Markdown.Address.Normal
import MarkTex.Markdown.Line
import MarkTex.Text.Case

/-!
# Links

The parts of a link: where it goes, which is an address in angle brackets or one without spaces, and
its title, which is quoted or stands in parentheses. A link can also name a definition elsewhere;
names are compared without regard to case and to the amount of white space.
-/

namespace MarkTex.Markdown

/-- What a link goes to. -/
structure Target where
  address : Text
  title : Text := []
  deriving DecidableEq, Repr

/-- The definitions of a document: names with what they stand for. The first definition of a name
counts. -/
abbrev Definitions := List (Text × Target)

/-! ## Names -/

/-- The text with each run of white space replaced by a space. -/
def joinBlanks : Text → Text
  | [] => []
  | [c] => if isSpace c then [' '] else [c]
  | c :: d :: r =>
    if isSpace c then
      if isSpace d then joinBlanks (d :: r) else ' ' :: joinBlanks (d :: r)
    else c :: joinBlanks (d :: r)

/-- A name as it is compared. -/
def normalName (name : Text) : Text :=
  Text.upper (Text.lower (joinBlanks (trim name)))

/-! ## Addresses -/

/-- The address in angle brackets whose opening one was read, and what follows the closing one. -/
def bracketedAddress : Text → Option (Text × Text)
  | [] => none
  | ['\\'] => none
  | '\\' :: c :: r => (bracketedAddress r).map fun (t, rest) => ('\\' :: c :: t, rest)
  | c :: r =>
    if c = '\n' || c = '<' then none
    else if c = '>' then some ([], r)
    else (bracketedAddress r).map fun (t, rest) => (c :: t, rest)

/-- The deepest nesting of parentheses in an address. -/
def deepestParentheses : Nat := 32

/-- The address without brackets that a text starts with, and what follows it. `depth` counts the
parentheses that are open. -/
def bareAddress (depth : Nat) : Text → Option (Text × Text)
  | [] => if depth = 0 then some ([], []) else none
  | ['\\'] => if depth = 0 then some (['\\'], []) else none
  | '\\' :: c :: r =>
    if c = ' ' then if depth = 0 then some ([], '\\' :: c :: r) else none
    else (bareAddress depth r).map fun (t, rest) => ('\\' :: c :: t, rest)
  | c :: r =>
    if c.toNat ≤ 0x20 || c.toNat = 0x7F then if depth = 0 then some ([], c :: r) else none
    else if c = '(' then
      if depth = deepestParentheses then none
      else (bareAddress (depth + 1) r).map fun (t, rest) => (c :: t, rest)
    else if c = ')' then
      if depth = 0 then some ([], c :: r)
      else (bareAddress (depth - 1) r).map fun (t, rest) => (c :: t, rest)
    else (bareAddress depth r).map fun (t, rest) => (c :: t, rest)

/-- The address that a text starts with, and what follows it. -/
def readAddress (t : Text) : Option (Text × Text) :=
  match t with
  | '<' :: r => (bracketedAddress r).map fun (raw, rest) => (unescape raw, rest)
  | t =>
    match bareAddress 0 t with
    | some (c :: raw, rest) => some (unescape (c :: raw), rest)
    | _ => none

/-- The normal form of the address that a text starts with, if it may be linked to, and what follows
it. -/
def readSafeAddress (t : Text) : Option (Text × Text) :=
  match readAddress t with
  | none => none
  | some (raw, rest) =>
    let address := Address.normal raw
    if Address.isSafe address then some (address, rest) else none

/-! ## Titles -/

/-- The title up to the character that closes it, and what follows that. -/
def titleUntil (close : Char) : Text → Option (Text × Text)
  | [] => none
  | '\\' :: c :: r => (titleUntil close r).map fun (t, rest) => ('\\' :: c :: t, rest)
  | c :: r =>
    if c = close then some ([], r)
    else if c = '(' && close = ')' then none
    else (titleUntil close r).map fun (t, rest) => (c :: t, rest)

/-- The title that a text starts with, and what follows it. -/
def readTitle (t : Text) : Option (Text × Text) :=
  let title :=
    match t with
    | '"' :: r => titleUntil '"' r
    | '\'' :: r => titleUntil '\'' r
    | '(' :: r => titleUntil ')' r
    | _ => none
  title.map fun (raw, rest) => (unescape raw, rest)

/-! ## Targets in parentheses -/

/-- Whether `c` may stand between the parts of a target. -/
def isTargetSpace (c : Char) : Bool :=
  isSpaceOrTab c || c == '\n'

/-- The text from its first character that is not a space, tab or line feed. -/
def skipTargetSpace (t : Text) : Text :=
  t.dropWhile isTargetSpace

/-- What reading a target in parentheses comes to. -/
inductive TargetReading where
  /-- A target, and what follows the closing parenthesis. -/
  | done (target : Target) (rest : Text)
  /-- No target: the text from where a closing parenthesis was expected. -/
  | broken (rest : Text)
  /-- Nothing at all follows the opening parenthesis. -/
  | missing
  deriving DecidableEq, Repr

/-- The title after an address, which white space must set apart, and what follows it. -/
def readTitleAfter (t : Text) : Text × Text :=
  let r := skipTargetSpace t
  match readTitle r with
  | some (title, rest) => if r.length < t.length then (title, skipTargetSpace rest) else ([], r)
  | none => ([], r)

/-- Reads a target whose opening parenthesis was read. -/
def readTarget (t : Text) : TargetReading :=
  match skipTargetSpace t with
  | [] => .missing
  | start =>
    let (address, afterAddress) := (readSafeAddress start).getD ([], start)
    let (title, rest) := readTitleAfter afterAddress
    match rest with
    | ')' :: rest => .done ⟨address, title⟩ rest
    | rest => .broken rest

/-! ## Definitions -/

/-- The name of a definition whose opening bracket was read, and what follows the closing bracket
and the colon. -/
def definitionName : Text → Option (Text × Text)
  | [] => none
  | '\\' :: c :: r => (definitionName r).map fun (t, rest) => ('\\' :: c :: t, rest)
  | c :: r =>
    if c = '[' then none
    else if c = ']' then
      match r with
      | ':' :: rest => some ([], rest)
      | _ => none
    else (definitionName r).map fun (t, rest) => (c :: t, rest)

/-- Whether only spaces and tabs stand in front of the end of the line. -/
def endsLine (t : Text) : Bool :=
  match t.dropWhile isSpaceOrTab with
  | [] => true
  | c :: _ => c = '\n'

/-- The title after the address of a definition, and what follows it: a title must be set apart or
go over several lines, and nothing may follow it on its line. -/
def definitionTitle (t : Text) : Text × Text :=
  let r := skipTargetSpace t
  match readTitle r with
  | some (title, rest) =>
    let apart := r.length < t.length || (r.take (r.length - rest.length)).contains '\n'
    if apart && (title.isEmpty || endsLine rest) then (title, rest) else ([], t)
  | none => ([], t)

/-- The first line of a text with the line feed that ends it, and the lines after it. -/
def cutLine (t : Text) : Text × Text :=
  let (line, rest) := t.span (· ≠ '\n')
  (line ++ rest.take 1, rest.drop 1)

/-- What a definition goes to, given the text from its address on, and what follows it. The address
ends with its line; where a backslash takes the line feed into it, the definition ends there too. -/
def definitionTarget (t : Text) : Option (Target × Text) := do
  let (line, others) := cutLine t
  let (address, r) ← readSafeAddress line
  if r.isEmpty && Text.endsWith line ['\n'] then some (⟨address, []⟩, '\n' :: others)
  else
    let (title, rest) := definitionTitle (r ++ others)
    some (⟨address, title⟩, rest)

/-- The definition that a text starts with, and what follows it up to the end of its last line. -/
def readDefinition (t : Text) : Option (Text × Target × Text) := do
  let '[' :: r := t | none
  let (name, r) ← definitionName r
  let (target, rest) ← definitionTarget (skipTargetSpace r)
  let name := normalName name
  if endsLine rest && !name.isEmpty then some (name, target, rest) else none

/-! ## How far a definition is looked for -/

/-- The text up to the bracket that ends the name of a definition, or up to one that must not stand
in it. -/
def nameText : Text → Text
  | [] => []
  | '\\' :: c :: r => '\\' :: c :: nameText r
  | c :: r => if c = '[' || c = ']' then [] else c :: nameText r

/-- The text up to the character that closes a title, or up to one that must not stand in it. -/
def titleText (close : Char) : Text → Text
  | [] => []
  | '\\' :: c :: r => '\\' :: c :: titleText close r
  | c :: r => if c = close || (c = '(' && close = ')') then [] else c :: titleText close r

/-- The text that is looked at for a title. -/
def soughtTitle : Text → Text
  | '"' :: r => titleText '"' r
  | '\'' :: r => titleText '\'' r
  | '(' :: r => titleText ')' r
  | _ => []

/-- The number of lines that are passed in looking for what a definition goes to. -/
def targetLinesPassed (t : Text) : Nat :=
  let (line, others) := cutLine t
  match readSafeAddress line with
  | none => 0
  | some (_, r) =>
    if r.isEmpty && Text.endsWith line ['\n'] then 0
    else
      let r := r ++ others
      (r.takeWhile isTargetSpace).count '\n' + (soughtTitle (skipTargetSpace r)).count '\n'

/-- The number of lines that are passed in looking for a definition at the start of a text. -/
def linesPassed (t : Text) : Nat :=
  let r := t.drop 1
  let passed := (nameText r).count '\n'
  match definitionName r with
  | none => passed
  | some (_, r) =>
    passed + (r.takeWhile isTargetSpace).count '\n' + targetLinesPassed (skipTargetSpace r)

end MarkTex.Markdown
