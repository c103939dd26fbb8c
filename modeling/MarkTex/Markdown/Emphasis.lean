import MarkTex.Markdown.Token
import MarkTex.Text.Symbol

/-!
# Emphasis

Runs of asterisks, underscores and tildes open and close emphasis. Every marker is first a text
token of its own and has a delimiter that says whether it can open and close; then closing
delimiters are matched with opening ones, from left to right, each with the nearest that fits; and
then the tokens of matched delimiters become opening and closing markers. Two neighbouring pairs of
one marker make strong emphasis.
-/

namespace MarkTex.Markdown

/-! ## Delimiters -/

/-- A marker that may open or close emphasis. -/
structure Delimiter where
  /-- The character of the marker. -/
  mark : Char
  /-- The length of its run, where that counts. -/
  length : Nat
  /-- The position of its token. -/
  token : Nat
  /-- Whether it can open emphasis. -/
  opens : Bool
  /-- Whether it can close emphasis. -/
  closes : Bool
  /-- The delimiter that closes what this one opens. -/
  partner : Option Nat := none
  deriving DecidableEq, Repr, Inhabited

/-- Whether `c` separates words. -/
def isWordGap (c : Char) : Bool :=
  let n := c.toNat
  (0x09 ≤ n && n ≤ 0x0D) || n == 0x20 || n == 0xA0 || n == 0x1680 || (0x2000 ≤ n && n ≤ 0x200A) ||
    n == 0x202F || n == 0x205F || n == 0x3000

/-- Whether a run between the characters `before` and `after` can open and close emphasis: a run can
open where text follows it and close where text precedes it. Inside a word, only marks that may
split words do either. -/
def flanking (splitsWords : Bool) (before after : Char) : Bool × Bool :=
  let left := !isWordGap after &&
    (!Text.isSymbol after || isWordGap before || Text.isSymbol before)
  let right := !isWordGap before &&
    (!Text.isSymbol before || isWordGap after || Text.isSymbol after)
  (left && (splitsWords || !right || Text.isSymbol before),
    right && (splitsWords || !left || Text.isSymbol after))

/-! ## Matching -/

/-- The state of the matching: the delimiters, how many to skip when going back from each, the
positions below which no opener is left for a kind of closer, the start of the current run, and the
token of the delimiter before. -/
structure Matching where
  delimiters : Array Delimiter
  jumps : Array Nat := #[]
  bottoms : List ((Char × Bool × Nat) × Nat) := []
  header : Nat := 0
  lastToken : Option Nat := none

/-- The kind of a closer, which bounds its search: its mark, whether it can open, and the length of
its run modulo three. -/
def Delimiter.closerKind (d : Delimiter) : Char × Bool × Nat :=
  (d.mark, d.opens, d.length % 3)

/-- Whether the lengths of two runs keep them apart: if one of them can both open and close, the sum
is no multiple of three unless both lengths are. -/
def keptApart (opener closer : Delimiter) : Bool :=
  (opener.closes || closer.opens) && (opener.length + closer.length) % 3 == 0 &&
    (opener.length % 3 != 0 || closer.length % 3 != 0)

/-- The nearest opener for a closer among the first `count` delimiters, none of them below
`bottom`. -/
def findOpener (delimiters : Array Delimiter) (jumps : Array Nat) (closer : Delimiter)
    (bottom : Nat) (count : Nat) : Option Nat :=
  match count with
  | 0 => none
  | index + 1 =>
    if index < bottom then none
    else
      let opener := delimiters.getD index default
      if opener.mark = closer.mark && opener.opens && opener.partner.isNone &&
          !keptApart opener closer then
        some index
      else findOpener delimiters jumps closer bottom (index - jumps.getD index 0)
termination_by count
decreasing_by exact Nat.lt_succ_of_le (Nat.sub_le _ _)

/-- Matches the delimiter at `index` as a closer, if it is one. -/
def matchCloser (s : Matching) (index : Nat) : Matching :=
  let closer := s.delimiters.getD index default
  let header :=
    if (s.delimiters.getD s.header default).mark != closer.mark ||
        s.lastToken != some (closer.token - 1) then index
    else s.header
  let s := { s with header, lastToken := some closer.token, jumps := s.jumps.push 0 }
  if !closer.closes then s
  else
    let bottom := (s.bottoms.lookup closer.closerKind).getD 0
    let count := header - s.jumps.getD header 0
    match findOpener s.delimiters s.jumps closer bottom count with
    | some found =>
      let opener := s.delimiters.getD found default
      let before := s.delimiters.getD (found - 1) default
      let extra := if 0 < found && !before.opens then s.jumps.getD (found - 1) 0 + 1 else 0
      { s with
        delimiters :=
          (s.delimiters.setIfInBounds index { closer with opens := false }).setIfInBounds found
            { opener with partner := some index, closes := false }
        jumps := (s.jumps.setIfInBounds index (index - found + extra)).setIfInBounds found extra
        lastToken := none }
    | none => { s with bottoms := (closer.closerKind, count) :: s.bottoms }

/-- The delimiters with their partners found. -/
def matchDelimiters (delimiters : Array Delimiter) : Array Delimiter :=
  ((List.range delimiters.size).foldl matchCloser { delimiters }).delimiters

/-! ## Marking -/

/-- A token turned into a marker. -/
def Token.toMarker (t : Token) (kind tag : String) : Token :=
  { t with kind, tag, content := [] }

/-- The tokens with the one at `index` changed. -/
def modifyToken (tokens : Array Token) (index : Nat) (f : Token → Token) : Array Token :=
  tokens.modify index f

/-- Marks the tokens of a matched pair of tildes, and notes the single tilde in front of the closing
one, if there is one. -/
def markStruck (delimiters : Array Delimiter) (s : Array Token × List Nat) (index : Nat) :
    Array Token × List Nat :=
  let opener := delimiters.getD index default
  match opener.partner with
  | none => s
  | some partner =>
    if opener.mark ≠ '~' then s
    else
      let close := (delimiters.getD partner default).token
      let tokens := modifyToken s.1 opener.token (·.toMarker "s_open" "s")
      let tokens := modifyToken tokens close (·.toMarker "s_close" "s")
      let before := tokens.getD (close - 1) default
      if before.kind = "text" && before.content = ['~'] then (tokens, (close - 1) :: s.2)
      else (tokens, s.2)

/-- The number of closing tilde markers from `index` on. -/
def closersFrom (tokens : List Token) : Nat :=
  (tokens.takeWhile (·.kind = "s_close")).length

/-- Moves a single tilde behind the closing markers that follow it. -/
def moveTilde (tokens : Array Token) (index : Nat) : Array Token :=
  let count := closersFrom (tokens.toList.drop (index + 1))
  tokens.swapIfInBounds index (index + count)

/-- Marks all matched tildes. -/
def markAllStruck (delimiters : Array Delimiter) (tokens : Array Token) : Array Token :=
  let (tokens, single) := (List.range delimiters.size).foldl (markStruck delimiters) (tokens, [])
  single.foldl moveTilde tokens

/-- Marks the tokens of matched asterisks and underscores among the first `count` delimiters, from
the last to the first. -/
def markEmphasis (delimiters : Array Delimiter) : Nat → Array Token → Array Token
  | 0, tokens => tokens
  | index + 1, tokens =>
    let opener := delimiters.getD index default
    match opener.partner with
    | none => markEmphasis delimiters index tokens
    | some partner =>
      if opener.mark ≠ '_' && opener.mark ≠ '*' then markEmphasis delimiters index tokens
      else
        let closer := delimiters.getD partner default
        let outer := delimiters.getD (index - 1) default
        let outerCloser := delimiters.getD (partner + 1) default
        let strong := 0 < index && outer.partner = some (partner + 1) && outer.mark = opener.mark &&
          outer.token + 1 = opener.token && outerCloser.token = closer.token + 1
        let name := if strong then "strong" else "em"
        let tokens := modifyToken tokens opener.token (·.toMarker (name ++ "_open") name)
        let tokens := modifyToken tokens closer.token (·.toMarker (name ++ "_close") name)
        if strong then
          let tokens := modifyToken tokens outer.token ({ · with content := [] })
          let tokens := modifyToken tokens outerCloser.token ({ · with content := [] })
          markEmphasis delimiters (index - 1) tokens
        else markEmphasis delimiters index tokens
termination_by count => count

/-- The tokens with matched delimiters turned into markers. -/
def markDelimiters (tokens : Array Token) (delimiters : Array Delimiter) : Array Token :=
  let delimiters := matchDelimiters delimiters
  markEmphasis delimiters delimiters.size (markAllStruck delimiters tokens)

end MarkTex.Markdown
