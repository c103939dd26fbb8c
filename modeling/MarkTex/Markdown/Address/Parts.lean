import MarkTex.Text.Basic

/-!
# Parts of an address

An address may start with a scheme and a colon, and with two slashes; then come a user in front of
an at sign, a host and a port, and then a path, a query and a fragment. Written again, the parts
make the address they were taken from, save for what no part holds: white space at the ends, an
empty user, a host that is too long, and brackets around a host without a colon.
-/

namespace MarkTex.Markdown.Address

/-- The parts of an address; a part that is empty counts as missing. -/
structure Parts where
  scheme : Text := []
  slashes : Bool := false
  user : Text := []
  host : Text := []
  port : Text := []
  path : Text := []
  query : Text := []
  fragment : Text := []
  deriving DecidableEq, Repr

namespace Parts

/-- Whether brackets stand around the host. -/
def isBracketed (p : Parts) : Bool :=
  p.host.contains ':'

/-- What stands in front of the host. -/
def writeFront (p : Parts) : Text :=
  p.scheme ++ (if p.slashes then ['/', '/'] else []) ++
    (if p.user.isEmpty then [] else p.user ++ ['@'])

/-- What stands behind the host. -/
def writeBack (p : Parts) : Text :=
  (if p.port.isEmpty then [] else ':' :: p.port) ++ p.path ++ p.query ++ p.fragment

/-- The address of the given parts. -/
def write (p : Parts) : Text :=
  p.writeFront ++ (if p.isBracketed then '[' :: p.host ++ [']'] else p.host) ++ p.writeBack

end Parts

/-! ## Scheme -/

/-- Whether `c` may stand in a scheme. -/
def isSchemeChar (c : Char) : Bool :=
  Text.isAsciiAlphanum c || c == '.' || c == '+' || c == '-' || c == '\u017F' || c == '\u212A' ||
    c == '\u0130' || c == '\u0131'

/-- The scheme that an address starts with, its colon included, and what follows it. -/
def cutScheme (t : Text) : Text × Text :=
  match t.span isSchemeChar with
  | (c :: name, ':' :: rest) => (c :: name ++ [':'], rest)
  | _ => ([], t)

/-- Whether a scheme never goes with a host. -/
def isHostless (scheme : Text) : Bool :=
  scheme = "javascript:".toList

/-- Whether a scheme goes with a host only after two slashes. -/
def isSlashed (scheme : Text) : Bool :=
  ["http:", "https:", "ftp:", "gopher:", "file:"].any (·.toList = scheme)

/-! ## Host -/

/-- Whether `c` ends the part of an address that holds user, host and port. -/
def endsAuthority (c : Char) : Bool :=
  c == '/' || c == '?' || c == '#'

/-- Whether `c` cannot stand in a host. -/
def endsHost (c : Char) : Bool :=
  "%/?;#'\x7b\x7d|\\^\x60<>\" \r\n\t".toList.contains c

/-- The texts before and after the last `c`. -/
def cutAtLast (c : Char) (t : Text) : Option (Text × Text) :=
  match t.reverse.span (· ≠ c) with
  | (after, _ :: before) => some (before.reverse, after.reverse)
  | (_, []) => none

/-- The user in front of the last at sign before the end of the authority, and what follows the
sign. -/
def cutUser (t : Text) : Text × Text :=
  let (authority, rest) := t.span fun c => !endsAuthority c
  match cutAtLast '@' authority with
  | some (user, host) => (user, host ++ rest)
  | none => ([], t)

/-- The host with its port that a text starts with, and what follows: a colon at the end does not
belong to it. -/
def cutHost (t : Text) : Text × Text :=
  let (host, rest) := t.span fun c => !endsHost c
  if Text.endsWith host [':'] then (host.dropLast, ':' :: rest) else (host, rest)

/-- A host without its port, and the port. -/
def cutPort (t : Text) : Text × Text :=
  match cutAtLast ':' t with
  | some (host, port) => if port.all Text.isAsciiDigit then (host, port) else (t, [])
  | none => (t, [])

/-- Whether `c` may stand in a label of a host. -/
def isHostChar (c : Char) : Bool :=
  Text.isAsciiAlphanum c || c == '+' || c == '_' || c == '-'

/-- The length of the longest label that is checked. -/
def longestLabel : Nat := 63

/-- The length of the longest host. -/
def longestHost : Nat := 255

/-- Whether a label has no character that a host cannot hold. Characters beyond ASCII are allowed.
-/
def isLabel (label : Text) : Bool :=
  label.length ≤ longestLabel && label.all fun c => isHostChar c || 0x7F < c.toNat

/-- The start of a label that a host can hold, and what follows it. -/
def cutLabel (label : Text) : Text × Text :=
  let start := (label.takeWhile isHostChar).take longestLabel
  (start, label.drop start.length)

/-- The labels of a host up to the first that holds what a host cannot, of which the start counts;
and the labels after that, the rest of that one first. -/
def checkLabels : List Text → List Text × List Text
  | [] => ([], [])
  | label :: rest =>
    if isLabel label then
      let (good, bad) := checkLabels rest
      (label :: good, bad)
    else
      let (start, tail) := cutLabel label
      ([start], tail :: rest)

/-- Whether a host is an address in brackets. -/
def isBracketed (host : Text) : Bool :=
  host.head? = some '[' && Text.endsWith host [']']

/-- A host that is checked, and what of it belongs to the path. -/
def checkHost (host : Text) : Text × Text :=
  if isBracketed host then
    if longestHost < host.length then ([], []) else (host.drop 1 |>.dropLast, [])
  else
    let (good, bad) := checkLabels (Text.splitAt '.' host)
    let checked := List.intercalate ['.'] good
    (if longestHost < checked.length then [] else checked, List.intercalate ['.'] bad)

/-! ## The whole address -/

/-- The parts in front of the path, and the rest. -/
def cutAuthority (scheme t : Text) : Parts × Text :=
  let slashes := ['/', '/'].isPrefixOf t && !isHostless scheme
  let t := if slashes then t.drop 2 else t
  if !isHostless scheme && (slashes || (!scheme.isEmpty && !isSlashed scheme)) then
    let (user, t) := cutUser t
    let (hostPort, t) := cutHost t
    let (host, port) := cutPort hostPort
    let (host, left) := checkHost host
    ({ scheme, slashes, user, host, port }, left ++ t)
  else ({ scheme, slashes }, t)

/-- The parts of an address. -/
def Parts.read (address : Text) : Parts :=
  let (scheme, t) := cutScheme (Text.strip address)
  let (parts, t) := cutAuthority scheme t
  let (t, fragment) := t.span (· ≠ '#')
  let (path, query) := t.span (· ≠ '?')
  { parts with path, query, fragment }

end MarkTex.Markdown.Address
