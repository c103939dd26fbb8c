import MarkTex.Moment
import MarkTex.Number.Numeral
import MarkTex.Text.Quoted
import MarkTex.Text.Utf8

/-!
# Values

The values that a configuration file, an environment variable or an option can hold. Mappings keep
the order in which their keys first came.
-/

namespace MarkTex

/-- A value of a configuration. -/
inductive Value where
  | null
  | bool (b : Bool)
  | int (i : Int)
  | float (x : Float)
  | str (s : String)
  | bytes (content : Bytes)
  | list (items : List Value)
  | map (entries : List (Value × Value))
  | set (members : List Value)
  | pair (first second : Value)
  | moment (m : Moment)
  /-- A list or mapping that is a part of itself, in the place of that part. -/
  | cycle (isMap : Bool)
  deriving Repr, Inhabited

namespace Value

mutual

/-- A value as messages show it, with texts quoted. -/
def shown : Value → String
  | null => "None"
  | bool true => "True"
  | bool false => "False"
  | int i => toString i
  | float x => String.ofList (Number.writeFloat x)
  | str s => quote s
  | bytes content => String.ofList (Text.quotedBytes content)
  | list items => "[" ++ ", ".intercalate (shownItems items) ++ "]"
  | map entries => "\x7b" ++ ", ".intercalate (shownEntries entries) ++ "\x7d"
  | set [] => "set()"
  | set (v :: vs) => "\x7b" ++ ", ".intercalate (v.shown :: shownItems vs) ++ "\x7d"
  | pair a b => "(" ++ a.shown ++ ", " ++ b.shown ++ ")"
  | moment m => m.shown
  | cycle isMap => if isMap then "\x7b...\x7d" else "[...]"

/-- The items of a list as messages show them. -/
def shownItems : List Value → List String
  | [] => []
  | v :: vs => v.shown :: shownItems vs

/-- The entries of a mapping as messages show them. -/
def shownEntries : List (Value × Value) → List String
  | [] => []
  | (k, v) :: rest => (k.shown ++ ": " ++ v.shown) :: shownEntries rest

end

mutual

/-- Whether messages can show a value: the integers in it are not too long. -/
def isShowable : Value → Bool
  | int i => i.natAbs < Nat.pow 10 Number.mostDigits
  | list items => areShowable items
  | map entries => areShowableEntries entries
  | set members => areShowable members
  | pair a b => a.isShowable && b.isShowable
  | _ => true

/-- Whether messages can show all items of a list. -/
def areShowable : List Value → Bool
  | [] => true
  | v :: vs => v.isShowable && areShowable vs

/-- Whether messages can show all entries of a mapping. -/
def areShowableEntries : List (Value × Value) → Bool
  | [] => true
  | (k, v) :: rest => k.isShowable && v.isShowable && areShowableEntries rest

end

/-- What is wrong with a value that messages cannot show. -/
def unshowableMessage : String :=
  let most := Number.mostDigits
  s!"Exceeds the limit ({most} digits) for integer string conversion; use " ++
    "sys.set_int_max_str_digits() to increase the limit"

/-- A value as plain text: a text stands for itself. -/
def plain : Value → String
  | str s => s
  | v => v.shown

/-- The name of a value's type. -/
def typeName : Value → String
  | null => "NoneType"
  | bool _ => "bool"
  | int _ => "int"
  | float _ => "float"
  | str _ => "str"
  | bytes _ => "bytes"
  | list _ => "list"
  | map _ => "dict"
  | set _ => "set"
  | pair .. => "tuple"
  | moment (.day ..) => "date"
  | moment (.time _) => "time"
  | moment (.stamp ..) => "datetime"
  | cycle isMap => if isMap then "dict" else "list"

/-- The name of a value's type after that of the library which holds it, as messages about what the
type does not offer give it. -/
def qualifiedTypeName : Value → String
  | moment m => "datetime." ++ (moment m).typeName
  | v => v.typeName

/-- Whether a value counts as yes: all but null, no, zero and what is empty. -/
def truthy : Value → Bool
  | null => false
  | bool b => b
  | int i => i != 0
  | float x => x != 0.0
  | str s => !s.isEmpty
  | bytes content => !content.isEmpty
  | list items => !items.isEmpty
  | map entries => !entries.isEmpty
  | set members => !members.isEmpty
  | pair .. => true
  | moment _ => true
  | cycle _ => true

/-- The entry of a mapping with the given text as its key. -/
def entry? (key : String) : List (Value × Value) → Option Value
  | [] => none
  | (str k, v) :: rest => if k = key then some v else entry? key rest
  | _ :: rest => entry? key rest

/-! ## Mappings -/

/-- The number that a value stands for among keys, where yes is one and no is zero. -/
def keyNumber? : Value → Option (Int ⊕ Float)
  | bool b => some (.inl (if b then 1 else 0))
  | int i => some (.inl i)
  | float x =>
    if x.isFinite && x == x.floor then some (.inl (Number.truncate x)) else some (.inr x)
  | _ => none

/-- Whether two values are the same key of a mapping: numbers of any kind are if they stand for the
same number, and what is no number is the same as itself. Collections are no keys. -/
def sameKey (a b : Value) : Bool :=
  match a.keyNumber?, b.keyNumber? with
  | some (.inl i), some (.inl j) => i == j
  | some (.inr x), some (.inr y) => x == y || (x.isNaN && y.isNaN)
  | some _, _ => false
  | _, some _ => false
  | none, none =>
    match a, b with
    | null, null => true
    | str s, str t => s == t
    | bytes b, bytes c => b == c
    | moment m, moment n => m.same n
    | _, _ => false

/-- The entries of a mapping with the value of one key set: an entry of the same key keeps its place
and its spelling of the key. -/
def put {α : Type} (key : Value) (value : α) : List (Value × α) → List (Value × α)
  | [] => [(key, value)]
  | (k, v) :: rest => if k.sameKey key then (k, value) :: rest else (k, v) :: put key value rest

end Value

end MarkTex
