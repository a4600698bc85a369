/-
JSON texts as they are written.

A document is what a text says before its objects are given a meaning: the members of an object
stand in the order of the text, and a key may occur several times.  `Document.value` gives the
meaning in which the last member with a key counts.

A text can be well-formed and still hold a leaf without a value: a number beyond the range of
doubles, or a string with one half of a surrogate pair.  Such a leaf is `unreadable`, and a key of
that kind is `none`.  They matter only to a reader that skips parts of a text.
-/
import CodeOutline.Json.Basic

namespace CodeOutline.Json

/-- A JSON text, read but not evaluated. -/
inductive Document where
  | null
  | bool (value : Bool)
  | number (value : Number)
  | string (value : String)
  | unreadable
  | array (items : List Document)
  | object (members : List (Option String × Document))

/-- Drops every member that is followed by another one with the same key. -/
def lastOfEach : List (String × Json) → List (String × Json)
  | [] => []
  | (k, v) :: rest => if (lookup k rest).isSome then lastOfEach rest else (k, v) :: lastOfEach rest

/-- Whether no key occurs twice. -/
def distinctKeys : List (String × Json) → Bool
  | [] => true
  | (k, _) :: rest => (lookup k rest).isNone && distinctKeys rest

namespace Document

mutual

/-- The value of a document.  Of several members with one key the last one counts. -/
def value : Document → Json
  | .null => .null
  | .bool b => .bool b
  | .number n => .number n
  | .string s => .string s
  | .unreadable => .null
  | .array items => .array (values items)
  | .object members => .object (lastOfEach (memberValues members))

/-- The values of the items of an array. -/
def values : List Document → List Json
  | [] => []
  | d :: ds => value d :: values ds

/-- The values of the members of an object. -/
def memberValues : List (Option String × Document) → List (String × Json)
  | [] => []
  | (some k, d) :: rest => (k, value d) :: memberValues rest
  | (none, _) :: rest => memberValues rest

end

/-! ### Looking at known fields only

A record that is read straight from a text looks at its own fields and skips all others.  A field
that is given twice is refused, and so is a key that cannot be read. -/

mutual

/-- The value of a document all of whose leaves can be read. -/
def value? : Document → Option Json
  | .null => some .null
  | .bool b => some (.bool b)
  | .number n => some (.number n)
  | .string s => some (.string s)
  | .unreadable => none
  | .array items => (values? items).map .array
  | .object members => (memberValues? members).map .object

/-- The values of items all of whose leaves can be read. -/
def values? : List Document → Option (List Json)
  | [] => some []
  | d :: ds => do return (← value? d) :: (← values? ds)

/-- The values of members all of whose keys and leaves can be read. -/
def memberValues? : List (Option String × Document) → Option (List (String × Json))
  | [] => some []
  | (none, _) :: _ => none
  | (some k, d) :: rest => do return (k, ← value? d) :: (← memberValues? rest)

end

/-- The members whose keys have a reader, each read by its own.  All others are dropped unread. -/
def keep (reader? : String → Option (Document → Option Json)) :
    List (Option String × Document) → Option (List (String × Json))
  | [] => some []
  | (none, _) :: _ => none
  | (some k, d) :: rest => do
    let kept ← keep reader? rest
    match reader? k with
    | some read => return (k, ← read d) :: kept
    | none => return kept

/-- The items of a record that is written as an array, each read by the reader in its place. -/
def readItems : List (Document → Option Json) → List Document → Option (List Json)
  | _, [] => some []
  | [], _ :: _ => none
  | read :: readers, d :: ds => do return (← read d) :: (← readItems readers ds)

/-- A record with the given fields and their readers.  A value that is not a record is read as it
is. -/
def record? (fields : List (String × (Document → Option Json))) : Document → Option Json
  | .object members => do
    let kept ← keep (fun k => lookup k fields) members
    if distinctKeys kept then return .object kept else none
  | .array items => (readItems (fields.map Prod.snd) items).map .array
  | d => d.value?

/-- A list whose items are read by one reader.  A value that is not a list is read as it is. -/
def list? (read : Document → Option Json) : Document → Option Json
  | .array items => (items.mapM read).map .array
  | d => d.value?

end Document

end CodeOutline.Json
