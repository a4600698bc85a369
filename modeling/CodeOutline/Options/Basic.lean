/-
Options of an outline, and their JSON form.

Every field may be missing, and then has its default.  Both records may be written as arrays of
their fields, in which fields at the end may be left off.
-/
import CodeOutline.Keyword

namespace CodeOutline

/-- What an outline shows. -/
structure Options where
  /-- The keywords that labels show. -/
  visibility : Visibility := {}
  /-- Whether labels show the parameters of functions and methods. -/
  showArgs : Bool := true
  /-- How deep classes and specs are followed. -/
  maxDepth : UInt64 := 256
deriving DecidableEq, Repr

namespace Options

/-- The options when nothing is said. -/
def default : Options := {}

/-- Whether labels show a keyword. -/
def shows (o : Options) (k : Keyword) : Bool := o.visibility.shows k

end Options

/-! ### Decoding

Where a record is written as an array with more items than it has fields, the items that are left
over are an error, or they are ignored: `surplus` says which. -/

/-- A field of a record with a default: `find?` is the value that is given for it, if one is. -/
def fieldOr {α : Type} (value : α) (decode : Json → Option α) (find? : Option Json) : Option α :=
  match find? with
  | none => some value
  | some v => decode v

/-- The values that are given for the fields of a record, by their names in an object and by their
order in an array. -/
def recordFields? (surplus : Bool) (names : List String) : Json → Option (String → Option Json)
  | .object members => some fun name => Json.lookup name members
  | .array items =>
    if surplus || items.length ≤ names.length then
      some fun name => Json.lookup name (names.zip items)
    else none
  | _ => none

namespace Visibility

/-- The visibility that a JSON value stands for. -/
def ofJson? (surplus : Bool) (v : Json) : Option Visibility := do
  let fields ← recordFields? surplus (Keyword.all.map Keyword.name) v
  let flag (k : Keyword) : Option Bool := fieldOr false Json.bool? (fields k.name)
  return {
    exportWord := ← flag .exportWord
    defaultWord := ← flag .defaultWord
    constWord := ← flag .constWord
    varWord := ← flag .varWord
    letWord := ← flag .letWord
    classWord := ← flag .classWord
    functionWord := ← flag .functionWord
    typeWord := ← flag .typeWord }

/-- A visibility as a JSON object. -/
def toJson (v : Visibility) : Json := .object (Keyword.all.map fun k => (k.name, .bool (v.shows k)))

end Visibility

namespace Options

/-- The names of the fields. -/
def fieldNames : List String := ["show_keywords", "show_function_args", "max_depth"]

/-- The depth limit: an integer with 64 bits. -/
def depthOfJson? (v : Json) : Option UInt64 := (v.natBelow? UInt64.size).map UInt64.ofNat

/-- The options that a JSON value stands for. -/
def ofJson? (surplus : Bool) (v : Json) : Option Options := do
  let fields ← recordFields? surplus fieldNames v
  let visibility ← fieldOr {} (Visibility.ofJson? surplus) (fields "show_keywords")
  let showArgs ← fieldOr true Json.bool? (fields "show_function_args")
  let maxDepth ← fieldOr 256 depthOfJson? (fields "max_depth")
  return { visibility, showArgs, maxDepth }

/-- Options as a JSON object. -/
def toJson (o : Options) : Json :=
  .object [("show_keywords", o.visibility.toJson), ("show_function_args", .bool o.showArgs),
    ("max_depth", .nat o.maxDepth.toNat)]

end Options

end CodeOutline
