import MarkTex.Text.Basic

/-!
# Tokens

A Markdown document is read as a flat list of tokens. A block with contents is an opening token, the
tokens of its contents and a closing token; running text is one `inline` token whose children are
texts, line breaks, and opening and closing markers.

The closing token of a block is found by counting: it is the first one at which as many tokens of
its kind as of the opening kind have passed.
-/

namespace MarkTex.Markdown

/-- The value of an attribute. -/
inductive Attribute where
  | text (t : Text)
  | number (i : Int)
  deriving DecidableEq, Repr

/-- The text of an attribute; zero counts as none. -/
def Attribute.shown : Attribute → Text
  | text t => t
  | number i => if i = 0 then [] else (toString i).toList

/-- One token of a document. -/
structure Token where
  kind : String
  tag : String := ""
  content : Text := []
  info : Text := []
  attributes : List (String × Attribute) := []
  children : Option (List Token) := none
  deriving Repr, Inhabited

namespace Token

/-- The text of the named attribute, empty if the token has none. -/
def attrText (t : Token) (name : String) : Text :=
  ((t.attributes.lookup name).map Attribute.shown).getD []

/-- The children of a token; a token without children has an empty list of them. -/
def inlines (t : Token) : List Token :=
  t.children.getD []

/-- Whether the token closes something. -/
def isClosing (t : Token) : Bool :=
  Text.endsWith t.kind.toList "_close".toList

end Token

/-! ## Closing tokens -/

/-- The kind that closes a given kind: its last five characters make way for `_close`. -/
def closingKind (kind : String) : String :=
  String.ofList (kind.toList.take (kind.length - 5)) ++ "_close"

/-- The number of tokens in front of the one that closes the last of `depth` open blocks, or the
number of all tokens if none does. -/
def tokensToClose (openKind closeKind : String) : Nat → List Token → Nat
  | _, [] => 0
  | depth, t :: rest =>
    if t.kind = openKind then tokensToClose openKind closeKind (depth + 1) rest + 1
    else if t.kind = closeKind then
      if depth ≤ 1 then 0 else tokensToClose openKind closeKind (depth - 1) rest + 1
    else tokensToClose openKind closeKind depth rest + 1

/-- The number of tokens between `t` and the token that closes it. -/
def lengthOf (t : Token) (rest : List Token) : Nat :=
  tokensToClose t.kind (closingKind t.kind) 1 rest

/-- The position of the token that closes the one at `index`, or the number of tokens if there is
no such token. -/
def findClose (tokens : List Token) (index : Nat) : Nat :=
  match tokens.drop index with
  | [] => tokens.length
  | t :: rest => index + 1 + lengthOf t rest

end MarkTex.Markdown
