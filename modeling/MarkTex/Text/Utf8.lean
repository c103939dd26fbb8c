import MarkTex.Text.Basic

/-!
# Text as bytes

Files hold bytes, and a text is written as its UTF-8 bytes. Bytes are read one at a time: a first
byte tells how many more belong to its character and in which range the next one lies. Reading
either stops at the first bytes that are no character, or puts U+FFFD in their place and goes on
with the byte that did not fit.
-/

namespace MarkTex

/-- The contents of a file. -/
abbrev Bytes := List UInt8

namespace Text

/-- Why bytes are no character. -/
inductive Utf8Reason where
  | badStart
  | badContinuation
  | cutShort
  deriving DecidableEq, Repr

/-- The bytes that are no character: where they start, how many there are, the first of them, and
what is wrong. -/
structure Utf8Fault where
  position : Nat
  count : Nat
  first : Nat
  reason : Utf8Reason
  deriving DecidableEq, Repr

/-- What is wrong, in words. -/
def Utf8Reason.words : Utf8Reason → String
  | badStart => "invalid start byte"
  | badContinuation => "invalid continuation byte"
  | cutShort => "unexpected end of data"

/-- What is wrong with the bytes of a text. -/
def Utf8Fault.message (f : Utf8Fault) : String :=
  let shown := String.ofList (hex 2 f.first)
  let last := f.position + f.count - 1
  let range :=
    if f.count = 1 then s!"byte 0x{shown} in position {f.position}"
    else s!"bytes in position {f.position}-{last}"
  "'utf-8' codec can't decode " ++ range ++ ": " ++ f.reason.words

/-- A character of which some bytes were read: the first byte, how many were read, the bits so far,
how many bytes are still to come, and the range of the next one. -/
structure Pending where
  first : Nat
  taken : Nat
  bits : Nat
  owed : Nat
  low : Nat := 0x80
  high : Nat := 0xBF

/-- What a byte can be at the start of a character. -/
inductive FirstByte where
  | whole (c : Char)
  | part (p : Pending)
  | none

/-- What byte `b` is at the start of a character. -/
def firstByte (b : Nat) : FirstByte :=
  if b < 0x80 then .whole (Char.ofNat b)
  else if b < 0xC2 then .none
  else if b < 0xE0 then .part { first := b, taken := 1, bits := b - 0xC0, owed := 1 }
  else if b < 0xF0 then
    .part {
      first := b, taken := 1, bits := b - 0xE0, owed := 2
      low := if b = 0xE0 then 0xA0 else 0x80
      high := if b = 0xED then 0x9F else 0xBF }
  else if b < 0xF5 then
    .part {
      first := b, taken := 1, bits := b - 0xF0, owed := 3
      low := if b = 0xF0 then 0x90 else 0x80
      high := if b = 0xF4 then 0x8F else 0xBF }
  else .none

/-- A pending character with byte `b`, if that continues it: the character, if the byte is its last,
or what is then pending. -/
def Pending.next (p : Pending) (b : Nat) : Option (Char ⊕ Pending) :=
  if p.low ≤ b && b ≤ p.high then
    let bits := p.bits * 64 + b % 64
    if p.owed = 1 then some (.inl (Char.ofNat bits))
    else some (.inr { first := p.first, taken := p.taken + 1, bits, owed := p.owed - 1 })
  else none

/-- The fault of a pending character that does not go on, where `position` is that of the next
byte. -/
def Pending.fault (p : Pending) (position : Nat) (reason : Utf8Reason) : Utf8Fault where
  position := position - p.taken
  count := p.taken
  first := p.first
  reason := reason

/-- The text of bytes that start at `position`, after those of a pending character. -/
def decodeFrom (position : Nat) (pending : Option Pending) : Bytes → Except Utf8Fault Text
  | [] =>
    match pending with
    | none => .ok []
    | some p => .error (p.fault position .cutShort)
  | b :: rest =>
    match pending with
    | none =>
      match firstByte b.toNat with
      | .whole c => (decodeFrom (position + 1) none rest).map (c :: ·)
      | .part p => decodeFrom (position + 1) (some p) rest
      | .none => .error ⟨position, 1, b.toNat, .badStart⟩
    | some p =>
      match p.next b.toNat with
      | some (.inl c) => (decodeFrom (position + 1) none rest).map (c :: ·)
      | some (.inr q) => decodeFrom (position + 1) (some q) rest
      | none => .error (p.fault position .badContinuation)

/-- The text that bytes hold. -/
def decode (bytes : Bytes) : Except Utf8Fault Text :=
  decodeFrom 0 none bytes

/-- The replacement for bytes that are no character. -/
def replacement : Char := '\uFFFD'

/-- What byte `b` adds to a text at the start of a character, and what is then pending. -/
def lossyFirst (b : Nat) : Text × Option Pending :=
  match firstByte b with
  | .whole c => ([c], none)
  | .part p => ([], some p)
  | .none => ([replacement], none)

/-- What byte `b` adds to a text, and what is then pending. -/
def lossyNext (pending : Option Pending) (b : Nat) : Text × Option Pending :=
  match pending with
  | none => lossyFirst b
  | some p =>
    match p.next b with
    | some (.inl c) => ([c], none)
    | some (.inr q) => ([], some q)
    | none => (replacement :: (lossyFirst b).1, (lossyFirst b).2)

/-- The text of bytes after those of a pending character, with a replacement wherever bytes are no
character. -/
def decodeLossyFrom (pending : Option Pending) : Bytes → Text
  | [] => if pending.isSome then [replacement] else []
  | b :: rest =>
    (lossyNext pending b.toNat).1 ++ decodeLossyFrom (lossyNext pending b.toNat).2 rest

/-- The text of bytes, with a replacement wherever bytes are no character. -/
def decodeLossy (bytes : Bytes) : Text :=
  decodeLossyFrom none bytes

/-- The bytes of a text. -/
def encode (t : Text) : Bytes :=
  (String.ofList t).toUTF8.toList

end Text

end MarkTex
