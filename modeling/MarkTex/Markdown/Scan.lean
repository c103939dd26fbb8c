import MarkTex.Markdown.Link
import MarkTex.Markdown.Markup
import Std.Data.HashMap

/-!
# Scanning running text

Where a form of running text ends: escapes, code, addresses in angle brackets, raw markup, character
references, links and images. The label of a link is found by skipping the forms in it one by one,
so links and labels are read by each other; a label that nests too deep is not found.

What was learned is kept: the length of the form at a position, and where runs of backticks were
seen.
-/

namespace MarkTex.Markdown

/-- How deep running text and blocks nest. -/
def deepestNesting : Nat := 20

/-- What running text can refer to, and whether raw markup is recognised in it. -/
structure Context where
  definitions : Definitions := []
  markup : Bool := false

/-- The last position at which a run of backticks of a length was seen, for each length. -/
abbrev Runs := Std.HashMap Nat Nat

/-- What is known about a text: how many characters the form at a position takes beyond its first,
and the runs of backticks that were seen while others were looked for. Once a search has come to the
end of the text, runs of a length are expected no further than where they were seen. -/
structure Known where
  skips : Std.HashMap Nat Nat := {}
  runs : Runs := {}
  searched : Bool := false

/-! ## Forms without contents -/

/-- Whether `c` may start a form other than plain text, or end one. -/
def isSpecial (c : Char) : Bool :=
  "\n!#$%&*+-:<=>@[\\]^_\x60\x7b\x7d~".toList.contains c

/-- The number of spaces and tabs that a text starts with. -/
def spaceCount (t : Text) : Nat :=
  (t.takeWhile isSpaceOrTab).length

/-- The number of characters that a backslash takes in, among those after it. -/
def escapeExtra (r : Text) : Nat :=
  match r with
  | [] => 0
  | c :: s => if c = '\n' then 1 + spaceCount s else 1

/-- Notes a run of `length` backticks that ends in front of the position `pos`. -/
def Runs.note (runs : Runs) (length pos : Nat) : Runs :=
  if length = 0 then runs else runs.insert length (max (runs.getD length 0) (pos - length))

/-- The end of the first run of exactly `length` backticks in the text at `pos`, where `run`
backticks stand in front of it, and the runs seen. -/
def closingRun (length run pos : Nat) (runs : Runs) : Text → Option Nat × Runs
  | [] => if run = length then (some pos, runs) else (none, runs.note run pos)
  | c :: r =>
    if c = '\x60' then closingRun length (run + 1) (pos + 1) runs r
    else if run = length then (some pos, runs)
    else closingRun length 0 (pos + 1) (runs.note run pos) r

/-- The code that the backtick at `pos` starts, given the text after it: the number of further
characters that it takes, and its text, unless there is no run that closes it. -/
def readCode (known : Known) (pos : Nat) (r : Text) : Nat × Option Text × Known :=
  let length := 1 + (r.takeWhile (· = '\x60')).length
  if known.searched && known.runs.getD length 0 ≤ pos then (length - 1, none, known)
  else
    let start := pos + length
    let rest := r.drop (length - 1)
    match closingRun length 0 start known.runs rest with
    | (some last, runs) =>
      (last - pos - 1, some (rest.take (last - length - start)), { known with runs })
    | (none, runs) => (length - 1, none, { known with runs, searched := true })

/-- The text of code as it is shown: a line feed becomes a space, and where spaces stand at both
ends and anything else between them, one goes at either end. -/
def shownCode (t : Text) : Text :=
  let t := t.map fun c => if c = '\n' then ' ' else c
  if t.head? = some ' ' && Text.endsWith t [' '] && t.any (· ≠ ' ') then (t.drop 1).dropLast else t

/-! ## Addresses in angle brackets -/

/-- A text without the line feed at its end. -/
def dropLineFeed (t : Text) : Text :=
  if Text.endsWith t ['\n'] then t.dropLast else t

/-- Whether a text is an address with its scheme. -/
def isFullAddress (t : Text) : Bool :=
  match (dropLineFeed t).span fun c =>
      Text.isAsciiAlphanum c || c == '+' || c == '.' || c == '-' with
  | (c :: scheme, ':' :: rest) =>
    Text.isAsciiLetter c && 1 ≤ scheme.length && scheme.length ≤ 31 &&
      rest.all fun c => 0x20 < c.toNat && c != '<' && c != '>'
  | _ => false

/-- Whether `c` may stand in the part of a mail address in front of the at sign. -/
def isMailboxChar (c : Char) : Bool :=
  Text.isAsciiAlphanum c || ".!#$%&'*+/=?^_\x60\x7b|\x7d~-".toList.contains c

/-- Whether a text is a label of the domain of a mail address. -/
def isDomainLabel (t : Text) : Bool :=
  1 ≤ t.length && t.length ≤ 63 && t.all (fun c => Text.isAsciiAlphanum c || c == '-') &&
    t.head? != some '-' && !Text.endsWith t ['-']

/-- Whether a text is a mail address. -/
def isMailAddress (t : Text) : Bool :=
  match (dropLineFeed t).span isMailboxChar with
  | (_ :: _, '@' :: domain) => (Text.splitAt '.' domain).all isDomainLabel
  | _ => false

/-- The address in angle brackets whose opening one was read, in the form to link to and in the form
to show, and the number of characters that it takes with its closing bracket. -/
def readAutolink (r : Text) : Option (Text × Text × Nat) :=
  match r.span fun c => c ≠ '<' && c ≠ '>' with
  | (t, '>' :: _) =>
    let address? :=
      if isFullAddress t then some (Address.normal t)
      else if isMailAddress t then some (Address.normal ("mailto:".toList ++ t))
      else none
    match address? with
    | some address =>
      if Address.isSafe address then some (address, Address.readable t, t.length + 1) else none
    | none => none
  | _ => none

/-- The number of characters of raw markup beyond the angle bracket that starts it. -/
def markupExtra? (context : Context) (r : Text) : Option Nat :=
  if context.markup then
    (Markup.afterMarkup ('<' :: r)).map fun rest => r.length - rest.length
  else none

/-! ## Links and labels -/

/-- A link or an image: the length of its label, what it goes to, and how many characters it takes
beyond the bracket that opens the label. -/
structure LinkReading where
  label : Nat
  target : Target
  extra : Nat
  deriving DecidableEq, Repr

/-- What a name is defined as. -/
def Context.find? (context : Context) (name : Text) : Option Target :=
  context.definitions.lookup (normalName name)

mutual

/-- The number of characters beyond its first that the form at `pos` takes. -/
def skip (context : Context) (level pos : Nat) (c : Char) (r : Text) (known : Known) :
    Nat × Known :=
  match known.skips[pos]? with
  | some extra => (extra, known)
  | none =>
    let (extra, known) :=
      if level < deepestNesting then skipForm context (level + 1) pos c r known
      else (r.length + 1, known)
    (extra, { known with skips := known.skips.insert pos extra })
termination_by (r.length + 1, 3)
decreasing_by all_goals exact Prod.Lex.right _ (by omega)

/-- The number of characters beyond its first that the form at `pos` takes, found by reading it. -/
def skipForm (context : Context) (level pos : Nat) (c : Char) (r : Text) (known : Known) :
    Nat × Known :=
  if c = '[' then
    match readLink context level true pos r known with
    | (some link, known) => (link.extra, known)
    | (none, known) => (0, known)
  else if c = '!' then
    match r with
    | '[' :: s =>
      match readLink context level false (pos + 1) s known with
      | (some image, known) => (image.extra + 1, known)
      | (none, known) => (0, known)
    | _ => (0, known)
  else if c = '\x60' then
    let (extra, _, known) := readCode known pos r
    (extra, known)
  else if c = '\n' then (spaceCount r, known)
  else if c = '\\' then (escapeExtra r, known)
  else if c = '<' then
    match readAutolink r with
    | some (_, _, extra) => (extra, known)
    | none => ((markupExtra? context r).getD 0, known)
  else if c = '&' then
    match readReference r with
    | some (_, rest) => (r.length - rest.length, known)
    | none => (0, known)
  else if isSpecial c then (0, known)
  else ((r.takeWhile (!isSpecial ·)).length, known)
termination_by (r.length + 1, 2)
decreasing_by
  · exact Prod.Lex.right _ (by omega)
  · simp_wf; exact Prod.Lex.left _ _ (by omega)

/-- The link or image whose label starts behind the bracket at `pos`. A link, but not an image, may
go on after a target in parentheses that is broken. -/
def readLink (context : Context) (level : Nat) (isLink : Bool) (pos : Nat) (r : Text)
    (known : Known) : Option LinkReading × Known :=
  match labelLength context level isLink 1 (pos + 1) r known with
  | (none, known) => (none, known)
  | (some label, known) =>
    let after := r.drop (label + 1)
    let byName (nameAt : Text) : Option LinkReading × Known :=
      if context.definitions.isEmpty then (none, known)
      else
        let (name, rest, known) : Text × Text × Known :=
          match nameAt with
          | '[' :: s =>
            let start := r.length - s.length
            match labelLength context level false 1 (pos + 1 + start) (r.drop start) known with
            | (some length, known) => (s.take length, s.drop (length + 1), known)
            | (none, known) => ([], after, known)
          | _ => ([], after, known)
        let name := if name.isEmpty then r.take label else name
        ((context.find? name).map fun target => ⟨label, target, r.length - rest.length⟩, known)
    match after with
    | '(' :: t =>
      match readTarget t with
      | .done target rest => (some ⟨label, target, r.length - rest.length⟩, known)
      | .missing => (none, known)
      | .broken rest => if isLink then byName (rest.drop 1) else (none, known)
    | _ => byName after
termination_by (r.length + 1, 1)
decreasing_by
  · exact Prod.Lex.left _ _ (by omega)
  · simp_wf; exact Prod.Lex.left _ _ (by omega)

/-- The length of a label up to the bracket that closes the last of `depth` open ones. With
`noLinks`, a label that holds a link is none. -/
def labelLength (context : Context) (level : Nat) (noLinks : Bool) (depth pos : Nat) (t : Text)
    (known : Known) : Option Nat × Known :=
  match t with
  | [] => (none, known)
  | c :: r =>
    if c = ']' && depth ≤ 1 then (some 0, known)
    else
      let (extra, known) := skip context level pos c r known
      if c = '[' && extra ≠ 0 && noLinks then (none, known)
      else
        let depth :=
          if c = ']' then depth - 1 else if c = '[' && extra = 0 then depth + 1 else depth
        let (found, known) :=
          labelLength context level noLinks depth (pos + 1 + extra) (r.drop extra) known
        (found.map (· + (1 + extra)), known)
termination_by (t.length, 4)
decreasing_by
  · simp_wf; exact Prod.Lex.right _ (by omega)
  · simp_wf; exact Prod.Lex.left _ _ (by omega)

end

end MarkTex.Markdown
