/-
Labels of outline entries.

A label is a list of tokens, each with a kind for styling.  Blanks are tokens of their own, so the
text of a label is the texts of its tokens one after the other.
-/
import CodeOutline.Json.Basic

namespace CodeOutline

/-- What a token of a label is, for styling. -/
inductive TokenKind where
  | keyword
  | className
  | constructor
  | method
  | param
  | string
  | whitespace
  | plain
  | type
deriving DecidableEq, Repr

namespace TokenKind

/-- All kinds of tokens. -/
def all : List TokenKind :=
  [.keyword, .className, .constructor, .method, .param, .string, .whitespace, .plain, .type]

/-- The name of a kind of tokens. -/
def name : TokenKind → String
  | .keyword => "keyword"
  | .className => "class-name"
  | .constructor => "constructor"
  | .method => "method"
  | .param => "param"
  | .string => "string"
  | .whitespace => "whitespace"
  | .plain => "plain"
  | .type => "type"

/-- The kind of tokens with the given name. -/
def ofName? (s : String) : Option TokenKind := all.find? fun k => k.name = s

/-- The kind of tokens that a JSON value stands for. -/
def ofJson? : Json → Option TokenKind := Json.case? ofName?

theorem ofName?_name (k : TokenKind) : ofName? k.name = some k := by cases k <;> rfl

end TokenKind

/-- A piece of a label. -/
structure Token where
  kind : TokenKind
  value : String
deriving DecidableEq, Repr

namespace Token

def keyword (s : String) : Token := ⟨.keyword, s⟩
def className (s : String) : Token := ⟨.className, s⟩
def method (s : String) : Token := ⟨.method, s⟩
def param (s : String) : Token := ⟨.param, s⟩
def string (s : String) : Token := ⟨.string, s⟩
def plain (s : String) : Token := ⟨.plain, s⟩
def typeName (s : String) : Token := ⟨.type, s⟩

/-- A single blank. -/
def space : Token := ⟨.whitespace, " "⟩

/-- A token as a JSON object. -/
def toJson (t : Token) : Json := .object [("kind", .string t.kind.name), ("value", .string t.value)]

/-- The token that a JSON value stands for: an object with its two fields, or an array of them. -/
def ofJson? : Json → Option Token
  | .object members => do
    let kind ← TokenKind.ofJson? (← Json.lookup "kind" members)
    let value ← (← Json.lookup "value" members).string?
    return ⟨kind, value⟩
  | .array [kind, value] => do return ⟨← TokenKind.ofJson? kind, ← value.string?⟩
  | _ => none

end Token

/-- The label of an entry. -/
abbrev Label := List Token

namespace Label

/-- A keyword and the blank after it. -/
def spaced (word : String) : Label := [.keyword word, .space]

/-- The text of a label. -/
def text (l : Label) : String := String.join (l.map Token.value)

def toJson (l : Label) : Json := .array (l.map Token.toJson)

/-- The label that a JSON value stands for. -/
def ofJson? : Json → Option Label
  | .array items => items.mapM Token.ofJson?
  | _ => none

end Label

end CodeOutline
