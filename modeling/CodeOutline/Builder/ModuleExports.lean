/-
Entries for `module.exports = { ... }`.

Such an assignment has one child for every property that has an identifier as its key and a usable
location.
-/
import CodeOutline.Options.Basic
import CodeOutline.Outline.Basic
import CodeOutline.Pattern

namespace CodeOutline

namespace Builder

/-- The label of a list of parameters, or nothing if parameters are not shown. -/
def argsLabel (o : Options) (params : List Node) : Except UnexpectedPattern Label :=
  if o.showArgs then Pattern.paramsLabel params else .ok []

/-- The entry of a method. -/
def methodEntry (o : Options) (name : String) (params : List Node) (extent : Extent) :
    Except UnexpectedPattern Entry := do
  let args ← argsLabel o params
  return .leaf .method (.method name :: args) name extent

end Builder

namespace ModuleExports

/-- Whether an expression is exactly `module.exports`. -/
def isTarget : Node → Bool
  | .member _ object property false =>
    object.name? == some "module" && property.name? == some "exports"
  | _ => false

/-- The properties of the object that is assigned to `module.exports`. -/
def properties? (left right : Node) : Option (List Node) :=
  if isTarget left then
    match right with
    | .objectExpression _ properties => some properties
    | _ => none
  else none

/-- The entry of a property with the given name and extent.  A shorthand `{ a }` is listed like a
method. -/
def memberEntry (o : Options) (name : String) (value : Node) (shorthand : Bool) (extent : Extent) :
    Except UnexpectedPattern Entry :=
  if shorthand then .ok (.leaf .method [.string name] name extent)
  else
    match value.functionValue? with
    | some (params, _) => Builder.methodEntry o name params extent
    | none => .ok (.leaf .field [.string name, .plain ":"] name extent)

/-- The entry of one property, if it has one. -/
def entryOfProperty? (o : Options) : Node → Except UnexpectedPattern (Option Entry)
  | .property loc key value shorthand =>
    match key.name?, Extent.ofLocation? loc with
    | some name, some extent => (memberEntry o name value shorthand extent).map some
    | _, _ => .ok none
  | _ => .ok none

/-- The entries of the properties. -/
def propertyEntries (o : Options) : List Node → Except UnexpectedPattern (List Entry)
  | [] => .ok []
  | n :: rest => do
    let e ← entryOfProperty? o n
    let es ← propertyEntries o rest
    return e.toList ++ es

/-- The entry of an assignment to `module.exports`. -/
def entry (o : Options) (properties : List Node) (extent : Extent) :
    Except UnexpectedPattern Entry := do
  let children ← propertyEntries o properties
  return ⟨.moduleScope, [.plain "module.exports"], none, extent, children⟩

end ModuleExports

end CodeOutline
