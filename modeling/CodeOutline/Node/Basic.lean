/-
Syntax trees of programs.

A node keeps what an outline can depend on.  A node of a kind that an outline never looks at, or
whose fields do not have the expected shape, keeps its type and its location only.
-/
import CodeOutline.Location

namespace CodeOutline

/-- A name in the source text. -/
structure Identifier where
  loc : Option Location
  name : String
deriving DecidableEq, Repr

/-- How a function is written. -/
inductive FunctionForm where
  | declaration
  | expression
  | arrow
deriving DecidableEq, Repr

/-- How a class is written. -/
inductive ClassForm where
  | declaration
  | expression
deriving DecidableEq, Repr

/-- How an export is written. -/
inductive ExportForm where
  | named
  | defaulted
deriving DecidableEq, Repr

/-- The word that starts a variable declaration. -/
inductive DeclarationKind where
  | constKind
  | letKind
  | varKind
deriving DecidableEq, Repr

/-- One binding of a variable declaration.  The parameter is the type of nodes. -/
structure Declarator (ν : Type) where
  loc : Option Location
  /-- The name or the pattern that is bound. -/
  id : ν
  /-- The initial value. -/
  init : Option ν

/-- A node of a syntax tree. -/
inductive Node where
  | program (loc : Option Location) (body : List Node)
  | function (form : FunctionForm) (loc : Option Location) (id : Option Identifier)
      (params : List Node) (body : Node)
  | classDef (form : ClassForm) (loc : Option Location) (id : Option Identifier)
      (members : List Node)
  | classProperty (loc : Option Location) (key : Node) (value : Option Node)
  | methodDefinition (loc : Option Location) (key : Node) (value : Node)
  /-- The flag says that a named export is a default export after all. -/
  | exportDeclaration (form : ExportForm) (loc : Option Location)
      (declaration : Option Node) (flag : Bool)
  | expressionStatement (loc : Option Location) (expression : Node)
  | call (loc : Option Location) (callee : Node) (arguments : List Node)
  | assignment (loc : Option Location) (left : Node) (right : Node)
  | member (loc : Option Location) (object : Node) (property : Node) (computed : Bool)
  | objectExpression (loc : Option Location) (properties : List Node)
  /-- A member of an object literal or of an object pattern. -/
  | property (loc : Option Location) (key : Node) (value : Node) (shorthand : Bool)
  | identifier (id : Identifier)
  | objectPattern (loc : Option Location) (properties : List Node)
  /-- The pattern `[a, , b]` has a hole. -/
  | arrayPattern (loc : Option Location) (elements : List (Option Node))
  /-- A binding with a default value, which is not kept. -/
  | assignmentPattern (loc : Option Location) (left : Node)
  | restElement (loc : Option Location) (argument : Node)
  | variableDeclaration (loc : Option Location) (kind : DeclarationKind)
      (declarators : List (Declarator Node))
  | typeAlias (declared : Bool) (loc : Option Location) (id : Identifier)
  | literal (loc : Option Location) (value : Json)
  | block (loc : Option Location) (body : List Node)
  /-- Any other node: its type and its location. -/
  | other (kind : String) (loc : Option Location)

/-- The types of nodes that an outline knows. -/
inductive NodeKind where
  | program
  | function (form : FunctionForm)
  | classDef (form : ClassForm)
  | classProperty
  | methodDefinition
  | exportDeclaration (form : ExportForm)
  | expressionStatement
  | call
  | assignment
  | member
  | objectExpression
  | property
  | identifier
  | objectPattern
  | arrayPattern
  | assignmentPattern
  | restElement
  | variableDeclaration
  | typeAlias (declared : Bool)
  | literal
  | block
deriving DecidableEq, Repr

namespace NodeKind

/-- The type as a syntax tree writes it. -/
def name : NodeKind → String
  | .program => "Program"
  | .function .declaration => "FunctionDeclaration"
  | .function .expression => "FunctionExpression"
  | .function .arrow => "ArrowFunctionExpression"
  | .classDef .declaration => "ClassDeclaration"
  | .classDef .expression => "ClassExpression"
  | .classProperty => "ClassProperty"
  | .methodDefinition => "MethodDefinition"
  | .exportDeclaration .named => "ExportNamedDeclaration"
  | .exportDeclaration .defaulted => "ExportDefaultDeclaration"
  | .expressionStatement => "ExpressionStatement"
  | .call => "CallExpression"
  | .assignment => "AssignmentExpression"
  | .member => "MemberExpression"
  | .objectExpression => "ObjectExpression"
  | .property => "Property"
  | .identifier => "Identifier"
  | .objectPattern => "ObjectPattern"
  | .arrayPattern => "ArrayPattern"
  | .assignmentPattern => "AssignmentPattern"
  | .restElement => "RestElement"
  | .variableDeclaration => "VariableDeclaration"
  | .typeAlias false => "TypeAlias"
  | .typeAlias true => "DeclareTypeAlias"
  | .literal => "Literal"
  | .block => "BlockStatement"

/-- The kind with the given type.  One type is an older name for a named export. -/
def ofName? : String → Option NodeKind
  | "Program" => some .program
  | "FunctionDeclaration" => some (.function .declaration)
  | "FunctionExpression" => some (.function .expression)
  | "ArrowFunctionExpression" => some (.function .arrow)
  | "ClassDeclaration" => some (.classDef .declaration)
  | "ClassExpression" => some (.classDef .expression)
  | "ClassProperty" => some .classProperty
  | "MethodDefinition" => some .methodDefinition
  | "ExportDeclaration" => some (.exportDeclaration .named)
  | "ExportNamedDeclaration" => some (.exportDeclaration .named)
  | "ExportDefaultDeclaration" => some (.exportDeclaration .defaulted)
  | "ExpressionStatement" => some .expressionStatement
  | "CallExpression" => some .call
  | "AssignmentExpression" => some .assignment
  | "MemberExpression" => some .member
  | "ObjectExpression" => some .objectExpression
  | "Property" => some .property
  | "Identifier" => some .identifier
  | "ObjectPattern" => some .objectPattern
  | "ArrayPattern" => some .arrayPattern
  | "AssignmentPattern" => some .assignmentPattern
  | "RestElement" => some .restElement
  | "VariableDeclaration" => some .variableDeclaration
  | "TypeAlias" => some (.typeAlias false)
  | "DeclareTypeAlias" => some (.typeAlias true)
  | "Literal" => some .literal
  | "BlockStatement" => some .block
  | _ => none

end NodeKind

namespace Node

/-- The type of a node that has none. -/
def untypedName : String := "<untyped>"

/-- A value that is no node at all. -/
def untyped : Node := .other untypedName none

/-- The type of a node. -/
def kindName : Node → String
  | .program .. => NodeKind.program.name
  | .function form .. => (NodeKind.function form).name
  | .classDef form .. => (NodeKind.classDef form).name
  | .classProperty .. => NodeKind.classProperty.name
  | .methodDefinition .. => NodeKind.methodDefinition.name
  | .exportDeclaration form .. => (NodeKind.exportDeclaration form).name
  | .expressionStatement .. => NodeKind.expressionStatement.name
  | .call .. => NodeKind.call.name
  | .assignment .. => NodeKind.assignment.name
  | .member .. => NodeKind.member.name
  | .objectExpression .. => NodeKind.objectExpression.name
  | .property .. => NodeKind.property.name
  | .identifier .. => NodeKind.identifier.name
  | .objectPattern .. => NodeKind.objectPattern.name
  | .arrayPattern .. => NodeKind.arrayPattern.name
  | .assignmentPattern .. => NodeKind.assignmentPattern.name
  | .restElement .. => NodeKind.restElement.name
  | .variableDeclaration .. => NodeKind.variableDeclaration.name
  | .typeAlias declared .. => (NodeKind.typeAlias declared).name
  | .literal .. => NodeKind.literal.name
  | .block .. => NodeKind.block.name
  | .other kind _ => kind

/-- The location of a node. -/
def loc : Node → Option Location
  | .program loc _ => loc
  | .function _ loc _ _ _ => loc
  | .classDef _ loc _ _ => loc
  | .classProperty loc _ _ => loc
  | .methodDefinition loc _ _ => loc
  | .exportDeclaration _ loc _ _ => loc
  | .expressionStatement loc _ => loc
  | .call loc _ _ => loc
  | .assignment loc _ _ => loc
  | .member loc _ _ _ => loc
  | .objectExpression loc _ => loc
  | .property loc _ _ _ => loc
  | .identifier id => id.loc
  | .objectPattern loc _ => loc
  | .arrayPattern loc _ => loc
  | .assignmentPattern loc _ => loc
  | .restElement loc _ => loc
  | .variableDeclaration loc _ _ => loc
  | .typeAlias _ loc _ => loc
  | .literal loc _ => loc
  | .block loc _ => loc
  | .other _ loc => loc

/-- The extent of a node, if it has a usable location. -/
def extent? (n : Node) : Option Extent := Extent.ofLocation? n.loc

/-- The identifier that a node is. -/
def identifier? : Node → Option Identifier
  | .identifier id => some id
  | _ => none

/-- The name of a node that is an identifier. -/
def name? (n : Node) : Option String := n.identifier?.map Identifier.name

/-- The parameters and the body of a function expression or an arrow.  A function declaration is
neither. -/
def functionValue? : Node → Option (List Node × Node)
  | .function .expression _ _ params body => some (params, body)
  | .function .arrow _ _ params body => some (params, body)
  | _ => none

/-- The text of a string literal. -/
def stringLiteral? : Node → Option String
  | .literal _ (.string s) => some s
  | _ => none

end Node

/-- A whole program. -/
structure Program where
  loc : Option Location
  body : List Node

end CodeOutline
