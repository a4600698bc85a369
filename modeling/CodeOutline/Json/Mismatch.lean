/-
Why a JSON value does not have the shape that is asked for.

Every cause keeps what is needed to say it; `Mismatch.message` is the one place with the words.
-/
import CodeOutline.Json.Basic
import CodeOutline.Decimal.Shortest
import CodeOutline.Text.Quoted

namespace CodeOutline.Json

/-- What a place in a JSON value is expected to hold. -/
inductive Expectation where
  | sequence
  | location
  | position
  /-- A line or a column: an integer with 32 bits. -/
  | coordinate
deriving DecidableEq, Repr

/-- The words for an expectation. -/
def Expectation.describe : Expectation → String
  | .sequence => "a sequence"
  | .location => "struct SourceLocation"
  | .position => "struct Position"
  | .coordinate => "u32"

/-- The words for a value that stands where another kind of value is expected. -/
def describe : Json → String
  | .null => "null"
  | .bool true => "boolean `true`"
  | .bool false => "boolean `false`"
  | .number (.int i) => "integer `" ++ toString i ++ "`"
  | .number (.float x) => "floating point `" ++ x.text ++ "`"
  | .string s => "string " ++ Text.quoted s
  | .array _ => "sequence"
  | .object _ => "map"

/-- Why a value does not have the shape that is asked for. -/
inductive Mismatch where
  /-- A value of the wrong kind. -/
  | wrongKind (found : Json) (expected : Expectation)
  /-- An integer out of range. -/
  | outOfRange (found : Int) (expected : Expectation)
  /-- A field that has to be there is missing. -/
  | missing (field : String)
  /-- A record of two fields that is written as an array has too few items. -/
  | tooShort (length : Nat) (expected : Expectation)
  /-- A record that is written as an array has too many items. -/
  | tooLong (length : Nat)

/-- The words for a mismatch. -/
def Mismatch.message : Mismatch → String
  | .wrongKind found expected =>
    "invalid type: " ++ found.describe ++ ", expected " ++ expected.describe
  | .outOfRange found expected =>
    "invalid value: integer `" ++ toString found ++ "`, expected " ++ expected.describe
  | .missing field => "missing field `" ++ field ++ "`"
  | .tooShort length expected =>
    "invalid length " ++ toString length ++ ", expected " ++ expected.describe ++ " with 2 elements"
  | .tooLong length => "invalid length " ++ toString length ++ ", expected fewer elements in array"

/-- A field that may be absent: its value has to decode if it is there. -/
def present {α : Type} (key : String) (decode : Json → Except Mismatch α)
    (members : List (String × Json)) : Except Mismatch (Option α) :=
  match lookup key members with
  | none => .ok none
  | some v => (decode v).map some

/-- A field that has to be there. -/
def required {α : Type} (key : String) : Option α → Except Mismatch α
  | some a => .ok a
  | none => .error (.missing key)

/-- A record of two fields that is written as an array.  Items are decoded in order before their
number counts. -/
def pairOfItems {α : Type} (expected : Expectation) (decode : Json → Except Mismatch α) :
    List Json → Except Mismatch (α × α)
  | [] => .error (.tooShort 0 expected)
  | [v] => do
    let _ ← decode v
    .error (.tooShort 1 expected)
  | [v, w] => do return (← decode v, ← decode w)
  | v :: w :: rest => do
    let _ ← decode v
    let _ ← decode w
    .error (.tooLong (rest.length + 2))

/-- A record of two fields.  In an object the fields that are there are decoded in the order of
their keys, in which the second field comes first, and only then a missing one is reported. -/
def decodePair {α β : Type} (first second : String) (expected : Expectation)
    (decode : Json → Except Mismatch α) (make : α → α → β) : Json → Except Mismatch β
  | .object members => do
    let b ← present second decode members
    let a ← present first decode members
    let a ← required first a
    let b ← required second b
    return make a b
  | .array items => do
    let (a, b) ← pairOfItems expected decode items
    return make a b
  | v => .error (.wrongKind v expected)

/-- A value that may also be null. -/
def nullable {α : Type} (decode : Json → Except Mismatch α) : Json → Except Mismatch (Option α)
  | .null => .ok none
  | v => (decode v).map some

end CodeOutline.Json
