/-
From programs to outlines.

The builder walks over the nodes of a program and gives an entry to those that it has a rule for.
It goes into class bodies, into exported declarations and into groups of specs, and every such step
uses up one of a number of levels.  When no level is left, what lies below is dropped with a
warning.  Depths have 64 bits: a greatest depth that is the greatest of these numbers is never
exceeded, so nothing is dropped then.

Nothing but an unexpected pattern ends the walk.  A node without a usable location, a node of
another kind and a class member whose key is not an identifier have no entry.
-/
import CodeOutline.Builder.Log
import CodeOutline.Builder.ModuleExports
import CodeOutline.Node.Height
import CodeOutline.Spec

namespace CodeOutline.Builder

/-! ### Labels and entries of single nodes -/

/-- A keyword and a blank, if the keyword is shown. -/
def shownKeyword (o : Options) (k : Keyword) : Label :=
  if o.shows k then Label.spaced k.name else []

/-- A name, unless it is empty. -/
def properName? (id : Option Identifier) : Option String := (id.map Identifier.name).filter (· ≠ "")

/-- The label of a function without its parameters.  A function without a name always shows its
keyword. -/
def functionLabel (o : Options) : Option String → Label
  | none => [.keyword Keyword.functionWord.name]
  | some name => shownKeyword o .functionWord ++ [.method name]

/-- The entry of a function. -/
def functionEntry (o : Options) (name : Option String) (params : List Node) (extent : Extent) :
    Except UnexpectedPattern Entry := do
  let args ← argsLabel o params
  return .leaf .function (functionLabel o name ++ args) name extent

/-- The label of a class.  A class without a name always shows its keyword. -/
def classLabel (o : Options) : Option String → Label
  | none => [.keyword Keyword.classWord.name]
  | some name => shownKeyword o .classWord ++ [.className name]

/-- The entry of a type alias. -/
def typeAliasEntry (o : Options) (name : String) (extent : Extent) : Entry :=
  .leaf .interfaceType (shownKeyword o .typeWord ++ [.typeName name]) name extent

/-- The kind of entry for a variable declaration. -/
def variableKind : DeclarationKind → EntryKind
  | .constKind => .constantBinding
  | .letKind => .variableBinding
  | .varKind => .variableBinding

/-- The entry of a variable declaration.  Only its first declarator counts. -/
def entryOfVariable? (o : Options) (kind : DeclarationKind) (declarators : List (Declarator Node))
    (extent : Extent) : Except UnexpectedPattern (Option Entry) :=
  match declarators with
  | [] => .ok none
  | d :: _ =>
    match d.init.bind Node.functionValue? with
    | some (params, _) => (functionEntry o (properName? d.id.identifier?) params extent).map some
    | none => do
      let pattern ← Pattern.listLabel [d.id]
      return some
        (.leaf (variableKind kind) (shownKeyword o (.ofDeclaration kind) ++ pattern)
          d.id.name? extent)

/-- What an export puts before the label of its declaration. -/
def exportLabel (o : Options) (isDefault : Bool) : Label :=
  shownKeyword o .exportWord ++ if isDefault then shownKeyword o .defaultWord else []

/-- The entry of an export: the entry of its declaration with the extent of the export. -/
def exportEntry (o : Options) (isDefault : Bool) (extent : Extent) (inner : Entry) : Entry :=
  { inner with label := exportLabel o isDefault ++ inner.label, extent }

/-- Whether an export is a default export. -/
def isDefaultExport : ExportForm → Bool → Bool
  | .named, flag => flag
  | .defaulted, _ => true

/-! ### Specs -/

/-- The label of a spec. -/
def specLabel (s : Spec) : Label := [.method s.callee, .space, .string s.description]

/-- The entry of a spec, given how to find the entries below a group. -/
def specEntry (below : List Node → Logged (List Entry)) (s : Spec) (extent : Extent) :
    Logged Entry := do
  let children ← match s.family with
    | .single => pure []
    | .group => below s.body
  return ⟨.function, specLabel s, some s.description, extent, children⟩

/-- The entry of a call that declares a spec. -/
def entryOfCall? (below : List Node → Logged (List Entry)) (callee : Node) (arguments : List Node)
    (extent : Extent) : Logged (Option Entry) :=
  match Spec.ofCall? callee arguments with
  | some s => some <$> specEntry below s extent
  | none => pure none

/-- The entry of a statement in a group of specs.  Only calls at usable locations have one. -/
def specStatement? (below : List Node → Logged (List Entry)) : Node → Logged (Option Entry)
  | .expressionStatement loc (.call _ callee arguments) =>
    match Extent.ofLocation? loc with
    | some extent => entryOfCall? below callee arguments extent
    | none => pure none
  | _ => pure none

/-- The entries of the statements of a group of specs, with a number of levels left. -/
def specEntries (o : Options) : Nat → List Node → Logged (List Entry)
  | 0, _ => do
    Logged.log (.specsTooDeep o.maxDepth)
    return []
  | levels + 1, body => Logged.filterMap (specStatement? (specEntries o levels)) body

/-! ### The walk -/

/-- The entry of a class member whose key is an identifier; `other` is the event for any other
key. -/
def keyed (key : Node) (other : String → Event) (entry : String → Except UnexpectedPattern Entry) :
    Run (Option Entry) :=
  match key.name? with
  | some name => Run.ofExcept ((entry name).map some)
  | none => do
    Run.log (other key.kindName)
    return none

/-- The entry of a class property.  A property that holds an arrow is listed like a method. -/
def propertyEntry (o : Options) (value : Option Node) (extent : Extent) (name : String) :
    Except UnexpectedPattern Entry :=
  match value with
  | some (.function .arrow _ _ params _) => methodEntry o name params extent
  | _ => .ok (.leaf .property [.param name, .plain ":"] name extent)

/-- The parameters of a method, if its value is a function. -/
def methodParams (value : Node) : List Node :=
  match value.functionValue? with
  | some (params, _) => params
  | none => []

/-- The entry of a node, with a number of levels left. -/
def visit (o : Options) : Nat → Node → Run (Option Entry)
  | 0, node => do
    Run.log (.tooDeep node.kindName o.maxDepth)
    return none
  | levels + 1, node =>
    match node.extent? with
    | none => do
      Run.log (.noLocation node.kindName)
      return none
    | some extent =>
      match node with
      | .function .declaration _ id params _ =>
        Run.ofExcept ((functionEntry o (properName? id) params extent).map some)
      | .function .arrow _ id params _ =>
        Run.ofExcept ((functionEntry o (properName? id) params extent).map some)
      | .classDef _ _ id members => do
        let children ← Run.filterMap (visit o levels) members
        return some ⟨.classType, classLabel o (properName? id), properName? id, extent, children⟩
      | .classProperty _ key value => keyed key .propertyKey (propertyEntry o value extent)
      | .methodDefinition _ key value =>
        keyed key .methodKey fun name => methodEntry o name (methodParams value) extent
      | .exportDeclaration _ _ none _ => pure none
      | .exportDeclaration form _ (some declaration) flag => do
        let inner ← visit o levels declaration
        return inner.map (exportEntry o (isDefaultExport form flag) extent)
      | .expressionStatement _ (.call _ callee arguments) =>
        Run.ofLogged (entryOfCall? (specEntries o levels) callee arguments extent)
      | .expressionStatement _ (.assignment _ left right) =>
        match ModuleExports.properties? left right with
        | some properties => Run.ofExcept ((ModuleExports.entry o properties extent).map some)
        | none => pure none
      | .expressionStatement _ _ => pure none
      | .typeAlias _ _ id => pure (some (typeAliasEntry o id.name extent))
      | .variableDeclaration _ kind declarators =>
        Run.ofExcept (entryOfVariable? o kind declarators extent)
      | node => do
        Run.log (.noRule node.kindName)
        return none

/-- The greatest depth that can be counted.  The next step counts as depth zero again. -/
def lastDepth : UInt64 := 0xFFFFFFFFFFFFFFFF

/-- The number of levels that are left at a depth: one more than the depth may still grow.  If every
depth is allowed, there are as many as are needed. -/
def levelsAt (o : Options) (depth : UInt64) (needed : Nat) : Nat :=
  if o.maxDepth = lastDepth then needed else o.maxDepth.toNat + 1 - depth.toNat

/-- The entry of a node at a depth. -/
def visitOne (o : Options) (depth : UInt64) (node : Node) : Run (Option Entry) :=
  visit o (levelsAt o depth node.height) node

/-- The entries of nodes at a depth. -/
def visitAll (o : Options) (depth : UInt64) (nodes : List Node) : Run (List Entry) :=
  Run.filterMap (visitOne o depth) nodes

/-- The entries of the statements of a group of specs at a depth. -/
def specChildren (o : Options) (depth : UInt64) (body : List Node) : Logged (List Entry) :=
  specEntries o (levelsAt o depth (Node.heightAll body + 1)) body

/-- The outline of a program. -/
def build (o : Options) (p : Program) : Run Outline := do
  return ⟨← visitAll o 0 p.body⟩

end CodeOutline.Builder
