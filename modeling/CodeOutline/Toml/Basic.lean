/-
TOML tables.

How a table came to be decides who may still add to it.  A table with a header is closed to dotted
keys; a table that a longer header implies may still get a header of its own; a table that dotted
keys made stays open to dotted keys; an inline table is closed.  The functions of this file return
`none` where a table would be defined twice.
-/
import CodeOutline.Json.Basic

namespace CodeOutline

/-- How a table came to be. -/
inductive TableOrigin where
  /-- It has a header of its own. -/
  | header
  /-- It is part of the path in the header of another table. -/
  | implied
  /-- It is part of a dotted key. -/
  | dotted
  /-- It is written in braces. -/
  | inline
deriving DecidableEq, Repr

/-- A TOML value.  Of floats and dates only the kind is kept. -/
inductive Toml where
  | string (value : String)
  | integer (value : Int)
  | float
  | boolean (value : Bool)
  | datetime
  | array (items : List Toml)
  | table (origin : TableOrigin) (entries : List (String × Toml))
  /-- An array of tables with headers: the tables before the last one, backwards, and the last
  one. -/
  | tables (earlier : List (List (String × Toml))) (last : List (String × Toml))
deriving Inhabited

namespace Toml

/-- The keys and values of a table. -/
abbrev Entries := List (String × Toml)

/-- Gives a key a value, in the place that the key has already or at the end. -/
def put (key : String) (v : Toml) : Entries → Entries
  | [] => [(key, v)]
  | (k, w) :: rest => if k = key then (k, v) :: rest else (k, w) :: put key v rest

/-- Adds a value under a dotted key: the keys before the last one, and the last one. -/
def insertDotted : List String → String → Toml → Entries → Option Entries
  | [], key, v, entries =>
    if (Json.lookup key entries).isSome then none else some (put key v entries)
  | k :: ks, key, v, entries =>
    match Json.lookup k entries with
    | none => do return put k (.table .dotted (← insertDotted ks key v [])) entries
    | some (.table .dotted sub) => do
      return put k (.table .dotted (← insertDotted ks key v sub)) entries
    | some (.table .implied sub) =>
      if ks.isEmpty then none
      else do return put k (.table .implied (← insertDotted ks key v sub)) entries
    | some (.tables earlier last) =>
      if ks.isEmpty then none
      else do return put k (.tables earlier (← insertDotted ks key v last)) entries
    | some _ => none

/-- Changes the table at the path of a header.  Tables on the way that are not there yet are
implied. -/
def within (change : Entries → Option Entries) : List String → Entries → Option Entries
  | [], entries => change entries
  | k :: ks, entries =>
    match Json.lookup k entries with
    | none => do return put k (.table .implied (← within change ks [])) entries
    | some (.table .inline _) => none
    | some (.table origin sub) => do return put k (.table origin (← within change ks sub)) entries
    | some (.tables earlier last) => do
      return put k (.tables earlier (← within change ks last)) entries
    | some _ => none

/-- Opens the table with a header. -/
def openTable (key : String) (entries : Entries) : Option Entries :=
  match Json.lookup key entries with
  | none => some (put key (.table .header []) entries)
  | some (.table .implied sub) => some (put key (.table .header sub) entries)
  | some _ => none

/-- Opens the next table of an array of tables. -/
def openItem (key : String) (entries : Entries) : Option Entries :=
  match Json.lookup key entries with
  | none => some (put key (.tables [] []) entries)
  | some (.tables earlier last) => some (put key (.tables (last :: earlier) []) entries)
  | some _ => none

mutual

/-- A TOML value as a JSON value.  A date has fields of its own, none of which anyone asks for. -/
def toJson : Toml → Json
  | .string s => .string s
  | .integer i => .int i
  | .float => .number (.float (Binary64.zero false))
  | .boolean b => .bool b
  | .datetime => .object []
  | .array items => .array (itemsToJson items)
  | .table _ entries => .object (entriesToJson entries)
  | .tables earlier last => .array ((.object (entriesToJson last) :: tablesToJson earlier).reverse)

/-- The items of an array. -/
def itemsToJson : List Toml → List Json
  | [] => []
  | v :: vs => toJson v :: itemsToJson vs

/-- The entries of a table. -/
def entriesToJson : List (String × Toml) → List (String × Json)
  | [] => []
  | (k, v) :: rest => (k, toJson v) :: entriesToJson rest

/-- The tables of an array of tables. -/
def tablesToJson : List (List (String × Toml)) → List Json
  | [] => []
  | t :: ts => .object (entriesToJson t) :: tablesToJson ts

end

end Toml

end CodeOutline
