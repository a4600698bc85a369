/-
Outlines: forests of labelled entries.
-/
import CodeOutline.Label
import CodeOutline.Location

namespace CodeOutline

/-- What an entry stands for. -/
inductive EntryKind where
  | file
  | moduleScope
  | namespaceScope
  | package
  | classType
  | method
  | property
  | field
  | constructor
  | enumType
  | interfaceType
  | function
  | variableBinding
  | constantBinding
  | string
  | number
  | boolean
  | array
deriving DecidableEq, Repr

namespace EntryKind

/-- All kinds of entries. -/
def all : List EntryKind :=
  [.file, .moduleScope, .namespaceScope, .package, .classType, .method, .property, .field,
    .constructor, .enumType, .interfaceType, .function, .variableBinding, .constantBinding, .string,
    .number, .boolean, .array]

/-- The name of a kind of entries. -/
def name : EntryKind → String
  | .file => "file"
  | .moduleScope => "module"
  | .namespaceScope => "namespace"
  | .package => "package"
  | .classType => "class"
  | .method => "method"
  | .property => "property"
  | .field => "field"
  | .constructor => "constructor"
  | .enumType => "enum"
  | .interfaceType => "interface"
  | .function => "function"
  | .variableBinding => "variable"
  | .constantBinding => "constant"
  | .string => "string"
  | .number => "number"
  | .boolean => "boolean"
  | .array => "array"

/-- The kind of entries with the given name. -/
def ofName? (s : String) : Option EntryKind := all.find? fun k => k.name = s

/-- The kind of entries that a JSON value stands for. -/
def ofJson? : Json → Option EntryKind := Json.case? ofName?

theorem ofName?_name (k : EntryKind) : ofName? k.name = some k := by cases k <;> rfl

end EntryKind

/-- An entry of an outline, with the entries below it. -/
structure Entry where
  kind : EntryKind
  label : Label
  /-- The name under which the entry is found, if it has one. -/
  name : Option String
  extent : Extent
  children : List Entry

/-- An entry without children. -/
def Entry.leaf (kind : EntryKind) (label : Label) (name : Option String) (extent : Extent) :
    Entry :=
  ⟨kind, label, name, extent, []⟩

/-- The outline of one file. -/
structure Outline where
  entries : List Entry

/-- The blanks before an entry at the given level. -/
def indentation (level : Nat) : String := String.ofList (List.replicate (2 * level) ' ')

/-- The lines of entries at the given level: each entry is followed by the lines of its children,
one level deeper. -/
def Entry.listLines (level : Nat) : List Entry → List String
  | [] => []
  | ⟨_, label, _, _, children⟩ :: rest =>
    (indentation level ++ label.text) :: (listLines (level + 1) children ++ listLines level rest)

namespace Outline

/-- One line for each entry, in the order in which the entries are met from top to bottom. -/
def lines (o : Outline) : List String := Entry.listLines 0 o.entries

/-- The lines of an outline as one text. -/
def text (o : Outline) : String := "\n".intercalate o.lines

end Outline

end CodeOutline
