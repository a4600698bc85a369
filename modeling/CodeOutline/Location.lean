/-
Places in a source text.

A syntax tree counts lines from one and columns from zero; an outline counts both from zero.  A
location with a line zero marks code that stands nowhere, so it has no extent.
-/
import CodeOutline.Json.Mismatch

namespace CodeOutline

/-- A place as a syntax tree gives it. -/
structure Position where
  /-- The line, counted from one. -/
  line : UInt32
  /-- The column, counted from zero. -/
  column : UInt32
deriving DecidableEq, Repr

/-- Where the code of a node starts and ends. -/
structure Location where
  start : Position
  stop : Position
deriving DecidableEq, Repr

/-- A place as an outline gives it: both numbers count from zero. -/
structure Point where
  row : UInt32
  column : UInt32
deriving DecidableEq, Repr

/-- Where an entry starts and ends. -/
structure Extent where
  start : Point
  stop : Point
deriving DecidableEq, Repr

/-! ### Extents -/

/-- A location is usable when neither of its lines is zero. -/
def Location.Usable (l : Location) : Prop := l.start.line ≠ 0 ∧ l.stop.line ≠ 0

instance (l : Location) : Decidable l.Usable := inferInstanceAs (Decidable (_ ∧ _))

/-- The point at a position whose line is not zero. -/
def Position.point (p : Position) : Point := ⟨p.line - 1, p.column⟩

/-- The extent of a location, if it is usable. -/
def Location.extent? (l : Location) : Option Extent :=
  if l.Usable then some ⟨l.start.point, l.stop.point⟩ else none

/-- The extent of a location that may be missing. -/
def Extent.ofLocation? (l : Option Location) : Option Extent := l.bind Location.extent?

/-! ### Decoding

Both records are also accepted as arrays of their two fields. -/

/-- A line or a column. -/
def coordinate : Json → Except Json.Mismatch UInt32
  | .number (.int i) =>
    if 0 ≤ i ∧ i < UInt32.size then .ok (UInt32.ofNat i.toNat)
    else .error (.outOfRange i .coordinate)
  | v => .error (.wrongKind v .coordinate)

/-- The position that a JSON value stands for. -/
def Position.ofJson : Json → Except Json.Mismatch Position :=
  Json.decodePair "line" "column" .position coordinate Position.mk

/-- The location that a JSON value stands for. -/
def Location.ofJson : Json → Except Json.Mismatch Location :=
  Json.decodePair "start" "end" .location Position.ofJson Location.mk

/-- A location that may be null. -/
def Location.ofNullable : Json → Except Json.Mismatch (Option Location) :=
  Json.nullable Location.ofJson

/-- The `loc` field of a record: it may be missing or null. -/
def Location.ofMembers (members : List (String × Json)) : Except Json.Mismatch (Option Location) :=
  match Json.lookup "loc" members with
  | none => .ok none
  | some v => Location.ofNullable v

end CodeOutline
