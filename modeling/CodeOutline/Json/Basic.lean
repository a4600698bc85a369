/-
JSON values.

The members of an object are a list of keys and values.  Looking up a key finds its first member;
the reader builds objects in which no key occurs twice.
-/
import CodeOutline.Json.Numeral

namespace CodeOutline

/-- A JSON value. -/
inductive Json where
  | null
  | bool (value : Bool)
  | number (value : Number)
  | string (value : String)
  | array (items : List Json)
  | object (members : List (String × Json))
deriving Inhabited

namespace Json

/-- An integer as a JSON value. -/
abbrev int (i : Int) : Json := .number (.int i)

/-- A natural number as a JSON value. -/
abbrev nat (n : Nat) : Json := .number (.int n)

/-- The value of the first member with the given key. -/
def lookup {α : Type} (key : String) : List (String × α) → Option α
  | [] => none
  | (k, v) :: rest => if k = key then some v else lookup key rest

/-- The value under a key, if the value is an object that has it. -/
def field? (key : String) : Json → Option Json
  | .object members => lookup key members
  | _ => none

def string? : Json → Option String
  | .string s => some s
  | _ => none

def bool? : Json → Option Bool
  | .bool b => some b
  | _ => none

def int? : Json → Option Int
  | .number (.int i) => some i
  | _ => none

def array? : Json → Option (List Json)
  | .array items => some items
  | _ => none

/-- A natural number below a bound. -/
def natBelow? (bound : Nat) : Json → Option Nat
  | .number (.int i) => if 0 ≤ i ∧ i < bound then some i.toNat else none
  | _ => none

/-- A case of an enumeration is written as its name, or as an object whose only key is the name and
whose value is null. -/
def case? {α : Type} (ofName : String → Option α) : Json → Option α
  | .string s => ofName s
  | .object [(s, .null)] => ofName s
  | _ => none

mutual

/-- How many containers lie within one another, at most. -/
def depth : Json → Nat
  | .array items => itemsDepth items + 1
  | .object members => membersDepth members + 1
  | _ => 0

/-- The largest depth of some items. -/
def itemsDepth : List Json → Nat
  | [] => 0
  | v :: vs => max (depth v) (itemsDepth vs)

/-- The largest depth of the values of some members. -/
def membersDepth : List (String × Json) → Nat
  | [] => 0
  | (_, v) :: ms => max (depth v) (membersDepth ms)

end

end Json

end CodeOutline
