/-
Outlines as JSON values, and back.

An entry is an object with its kind, its tokens, its name if it has one, its two points and its
children.  When it is read, the children may be missing.  All records may also be written as arrays
of their fields, in which the children may be left off.
-/
import CodeOutline.Outline.Basic

namespace CodeOutline

namespace Point

def toJson (p : Point) : Json :=
  .object [("row", .nat p.row.toNat), ("column", .nat p.column.toNat)]

/-- A row or a column. -/
def coordinate? (v : Json) : Option UInt32 := (v.natBelow? UInt32.size).map UInt32.ofNat

/-- The point that a JSON value stands for. -/
def ofJson? : Json → Option Point
  | .object members => do
    let row ← coordinate? (← Json.lookup "row" members)
    let column ← coordinate? (← Json.lookup "column" members)
    return ⟨row, column⟩
  | .array [row, column] => do return ⟨← coordinate? row, ← coordinate? column⟩
  | _ => none

end Point

namespace Entry

/-- The member for a name.  A missing name is left out. -/
def nameMember : Option String → List (String × Json)
  | some name => [("representativeName", .string name)]
  | none => []

/-- Entries as JSON values. -/
def listToJson : List Entry → List Json
  | [] => []
  | ⟨kind, label, name, extent, children⟩ :: rest =>
    .object (("kind", .string kind.name) :: ("tokenizedText", label.toJson) :: nameMember name ++
      [("startPosition", extent.start.toJson), ("endPosition", extent.stop.toJson),
        ("children", .array (listToJson children))]) :: listToJson rest

/-- A name that may be null. -/
def nameOfJson? : Json → Option (Option String)
  | .null => some none
  | .string s => some (some s)
  | _ => none

/-- A name that may be missing or null. -/
def nameOfMembers? (members : List (String × Json)) : Option (Option String) :=
  match Json.lookup "representativeName" members with
  | none => some none
  | some v => nameOfJson? v

mutual

/-- The entry that a JSON value stands for. -/
def ofJson? (v : Json) : Option Entry :=
  match v with
  | .object members => do
    let kind ← EntryKind.ofJson? (← Json.lookup "kind" members)
    let label ← Label.ofJson? (← Json.lookup "tokenizedText" members)
    let name ← nameOfMembers? members
    let start ← Point.ofJson? (← Json.lookup "startPosition" members)
    let stop ← Point.ofJson? (← Json.lookup "endPosition" members)
    let children ← childrenAt members
    return ⟨kind, label, name, ⟨start, stop⟩, children⟩
  | .array (kind :: label :: name :: start :: stop :: rest) => do
    let kind ← EntryKind.ofJson? kind
    let label ← Label.ofJson? label
    let name ← nameOfJson? name
    let start ← Point.ofJson? start
    let stop ← Point.ofJson? stop
    let children ← childrenOfRest rest
    return ⟨kind, label, name, ⟨start, stop⟩, children⟩
  | _ => none
termination_by structural v

/-- The children among the members of an entry: they may be missing. -/
def childrenAt : List (String × Json) → Option (List Entry)
  | [] => some []
  | (k, v) :: rest => if k = "children" then listOfArray? v else childrenAt rest

/-- The children of an entry that is written as an array: they may be left off. -/
def childrenOfRest : List Json → Option (List Entry)
  | [] => some []
  | [v] => listOfArray? v
  | _ :: _ :: _ => none

/-- The entries in an array. -/
def listOfArray? : Json → Option (List Entry)
  | .array items => listOfItems? items
  | _ => none

/-- The entries that the items of an array stand for. -/
def listOfItems? : List Json → Option (List Entry)
  | [] => some []
  | v :: vs => do
    let e ← ofJson? v
    let es ← listOfItems? vs
    return e :: es

end

end Entry

namespace Outline

/-- An outline as the members of a JSON object. -/
def members (o : Outline) : List (String × Json) :=
  [("outlineTrees", .array (Entry.listToJson o.entries))]

def toJson (o : Outline) : Json := .object o.members

/-- The outline that a JSON value stands for. -/
def ofJson? : Json → Option Outline
  | .object members => do return ⟨← Entry.listOfArray? (← Json.lookup "outlineTrees" members)⟩
  | .array [entries] => do return ⟨← Entry.listOfArray? entries⟩
  | _ => none

end Outline

end CodeOutline
