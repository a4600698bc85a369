/-
From JSON to syntax trees.

Decoding a node never fails.  A value without a string as its `type` is an untyped node; a value
whose fields do not fit its type is a node that keeps the type, and the location if that can be
decoded.  So damage stays within the node where it is: what a node holds is decoded by the same rule
and cannot fail either.

The rules for fields are these.  Unknown fields are ignored.  A node that has to be there may be any
value, even null.  A list of nodes may be missing, and is then empty, but it is an array if it is
there.  A flag may be missing, and is then false.  A location, an optional node and an optional
identifier may be missing or null.

Records that are not nodes (identifiers in the place of an `id`, class bodies, declarators) have no
type that is looked at, and may be written as arrays of their fields.

Only the root of a program is strict.  It has to be an object with the type `Program`, and its body
and its location have to be right; everything below it is lenient again.
-/
import CodeOutline.Node.Basic

namespace CodeOutline

/-! ### Fields that hold no nodes -/

/-- The location of a record, or `none` if it is malformed. -/
def locationAt (members : List (String × Json)) : Option (Option Location) :=
  (Location.ofMembers members).toOption

/-- A location in a record that is written as an array. -/
def locationItem (v : Json) : Option (Option Location) := (Location.ofNullable v).toOption

/-- A flag: it may be missing, but it is not null. -/
def flagAt (key : String) (members : List (String × Json)) : Option Bool :=
  match Json.lookup key members with
  | none => some false
  | some v => v.bool?

/-- An identifier as a record of its own. -/
def Identifier.ofJson? : Json → Option Identifier
  | .object members => do
    let loc ← locationAt members
    let name ← (← Json.lookup "name" members).string?
    return ⟨loc, name⟩
  | .array [loc, name] => do return ⟨← locationItem loc, ← name.string?⟩
  | _ => none

/-- An identifier that has to be there. -/
def identifierAt (key : String) (members : List (String × Json)) : Option Identifier := do
  Identifier.ofJson? (← Json.lookup key members)

/-- An identifier that may be missing or null. -/
def optionalIdentifierAt (key : String) (members : List (String × Json)) :
    Option (Option Identifier) :=
  match Json.lookup key members with
  | none => some none
  | some .null => some none
  | some v => (Identifier.ofJson? v).map some

namespace DeclarationKind

/-- The word of a declaration kind. -/
def name : DeclarationKind → String
  | .constKind => "const"
  | .letKind => "let"
  | .varKind => "var"

def ofName? : String → Option DeclarationKind
  | "const" => some .constKind
  | "let" => some .letKind
  | "var" => some .varKind
  | _ => none

/-- The declaration kind that a JSON value stands for. -/
def ofJson? : Json → Option DeclarationKind := Json.case? ofName?

end DeclarationKind

/-- The type of a node, if it is a string. -/
def typeName? (members : List (String × Json)) : Option String :=
  (Json.lookup "type" members).bind Json.string?

/-- The location that a node keeps even if its fields do not fit. -/
def keptLocation (members : List (String × Json)) : Option Location :=
  (Json.lookup "loc" members).bind fun v => (Location.ofJson v).toOption

/-- A node that counts only if the value it comes from is not null. -/
def unlessNull (v : Json) (n : Node) : Option Node :=
  match v with
  | .null => none
  | _ => some n

/-! ### Nodes -/

mutual

/-- The node that a JSON value stands for. -/
def Node.ofJson (v : Json) : Node :=
  match v with
  | .object members =>
    match typeName? members with
    | none => .untyped
    | some type =>
      let node : Option Node :=
        match NodeKind.ofName? type with
        | none => none
        | some .program => do
          return .program (← locationAt members) (← nodesAt "body" members)
        | some (.function form) => do
          return .function form (← locationAt members) (← optionalIdentifierAt "id" members)
            (← nodesAt "params" members) (← nodeAt "body" members)
        | some (.classDef form) => do
          return .classDef form (← locationAt members) (← optionalIdentifierAt "id" members)
            (← classBodyAt "body" members)
        | some .classProperty => do
          return .classProperty (← locationAt members) (← nodeAt "key" members)
            (← optionalNodeAt "value" members)
        | some .methodDefinition => do
          return .methodDefinition (← locationAt members) (← nodeAt "key" members)
            (← nodeAt "value" members)
        | some (.exportDeclaration form) => do
          return .exportDeclaration form (← locationAt members)
            (← optionalNodeAt "declaration" members)
            (← flagAt "default" members)
        | some .expressionStatement => do
          return .expressionStatement (← locationAt members) (← nodeAt "expression" members)
        | some .call => do
          return .call (← locationAt members) (← nodeAt "callee" members)
            (← nodesAt "arguments" members)
        | some .assignment => do
          return .assignment (← locationAt members) (← nodeAt "left" members)
            (← nodeAt "right" members)
        | some .member => do
          return .member (← locationAt members) (← nodeAt "object" members)
            (← nodeAt "property" members)
            (← flagAt "computed" members)
        | some .objectExpression => do
          return .objectExpression (← locationAt members) (← nodesAt "properties" members)
        | some .property => do
          return .property (← locationAt members) (← nodeAt "key" members)
            (← nodeAt "value" members)
            (← flagAt "shorthand" members)
        | some .identifier => do
          let loc ← locationAt members
          let name ← (← Json.lookup "name" members).string?
          return .identifier ⟨loc, name⟩
        | some .objectPattern => do
          return .objectPattern (← locationAt members) (← nodesAt "properties" members)
        | some .arrayPattern => do
          return .arrayPattern (← locationAt members) (← elementsAt "elements" members)
        | some .assignmentPattern => do
          return .assignmentPattern (← locationAt members) (← nodeAt "left" members)
        | some .restElement => do
          return .restElement (← locationAt members) (← nodeAt "argument" members)
        | some .variableDeclaration => do
          let loc ← locationAt members
          let kind ← DeclarationKind.ofJson? (← Json.lookup "kind" members)
          return .variableDeclaration loc kind (← declaratorsAt "declarations" members)
        | some (.typeAlias declared) => do
          return .typeAlias declared (← locationAt members) (← identifierAt "id" members)
        | some .literal => do
          return .literal (← locationAt members) ((Json.lookup "value" members).getD .null)
        | some .block => do
          return .block (← locationAt members) (← nodesAt "body" members)
      node.getD (.other type (keptLocation members))
  | _ => .untyped
termination_by structural v

/-- A node that has to be there, whatever it is. -/
def nodeAt (key : String) : List (String × Json) → Option Node
  | [] => none
  | (k, v) :: rest => if k = key then some (Node.ofJson v) else nodeAt key rest

/-- A node that may be missing or null. -/
def optionalNodeAt (key : String) : List (String × Json) → Option (Option Node)
  | [] => some none
  | (k, v) :: rest =>
    if k = key then some (unlessNull v (Node.ofJson v)) else optionalNodeAt key rest

/-- A list of nodes that may be missing. -/
def nodesAt (key : String) : List (String × Json) → Option (List Node)
  | [] => some []
  | (k, v) :: rest => if k = key then nodesOfArray v else nodesAt key rest

/-- The nodes in an array. -/
def nodesOfArray : Json → Option (List Node)
  | .array items => some (nodesOfItems items)
  | _ => none

/-- The nodes that the items of an array stand for. -/
def nodesOfItems : List Json → List Node
  | [] => []
  | v :: vs => Node.ofJson v :: nodesOfItems vs

/-- The elements of an array pattern; the list may be missing. -/
def elementsAt (key : String) : List (String × Json) → Option (List (Option Node))
  | [] => some []
  | (k, v) :: rest => if k = key then elementsOfArray v else elementsAt key rest

/-- The elements in an array. -/
def elementsOfArray : Json → Option (List (Option Node))
  | .array items => some (elementsOfItems items)
  | _ => none

/-- The elements that the items of an array stand for: null is a hole. -/
def elementsOfItems : List Json → List (Option Node)
  | [] => []
  | v :: vs => unlessNull v (Node.ofJson v) :: elementsOfItems vs

/-- A class body, which has to be there. -/
def classBodyAt (key : String) : List (String × Json) → Option (List Node)
  | [] => none
  | (k, v) :: rest => if k = key then classBodyOf v else classBodyAt key rest

/-- The members in a class body. -/
def classBodyOf : Json → Option (List Node)
  | .object members => nodesAt "body" members
  | .array [] => some []
  | .array [body] => nodesOfArray body
  | _ => none

/-- A list of declarators that may be missing. -/
def declaratorsAt (key : String) : List (String × Json) → Option (List (Declarator Node))
  | [] => some []
  | (k, v) :: rest => if k = key then declaratorsOfArray v else declaratorsAt key rest

/-- The declarators in an array. -/
def declaratorsOfArray : Json → Option (List (Declarator Node))
  | .array items => declaratorsOfItems items
  | _ => none

/-- The declarators that the items of an array stand for.  They are not nodes, so one that does not
fit is felt by the whole declaration. -/
def declaratorsOfItems : List Json → Option (List (Declarator Node))
  | [] => some []
  | v :: vs => do
    let d ← declaratorOf v
    let ds ← declaratorsOfItems vs
    return d :: ds

/-- The declarator that a JSON value stands for. -/
def declaratorOf : Json → Option (Declarator Node)
  | .object members => do
    return ⟨← locationAt members, ← nodeAt "id" members, ← optionalNodeAt "init" members⟩
  | .array [loc, id, init] => do
    return ⟨← locationItem loc, Node.ofJson id, unlessNull init (Node.ofJson init)⟩
  | _ => none

end

/-! ### Programs -/

/-- Why a JSON value is not a program. -/
inductive ProgramFault where
  /-- The root has another type. -/
  | notAProgram (kind : String)
  /-- The root is a program whose body or location is not as it has to be. -/
  | mismatch (cause : Json.Mismatch)

/-- The body of a program: it may be missing. -/
def Program.bodyOfMembers (members : List (String × Json)) : Except Json.Mismatch (List Node) :=
  match Json.lookup "body" members with
  | none => .ok []
  | some (.array items) => .ok (nodesOfItems items)
  | some v => .error (.wrongKind v .sequence)

/-- The program in the fields of a root.  The body is looked at before the location. -/
def Program.ofMembers (members : List (String × Json)) : Except Json.Mismatch Program := do
  let body ← Program.bodyOfMembers members
  let loc ← Location.ofMembers members
  return ⟨loc, body⟩

/-- The program that a JSON value stands for. -/
def Program.ofJson : Json → Except ProgramFault Program
  | .object members =>
    match typeName? members with
    | none => .error (.notAProgram Node.untypedName)
    | some type =>
      if type = NodeKind.program.name then (Program.ofMembers members).mapError .mismatch
      else .error (.notAProgram type)
  | _ => .error (.notAProgram Node.untypedName)

end CodeOutline
