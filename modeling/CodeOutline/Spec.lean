/-
Calls of test frameworks.

A spec is a call such as `describe('name', () => { ... })`: a known function, a string, and a
function whose body is a block.  Some functions group other specs, and some declare a single one.
-/
import CodeOutline.Node.Basic

namespace CodeOutline

/-- Whether a spec groups others or stands alone. -/
inductive SpecFamily where
  | group
  | single
deriving DecidableEq, Repr

namespace SpecFamily

/-- The functions that group specs. -/
def groupNames : List String :=
  ["describe", "fdescribe", "ddescribe", "xdescribe", "describe.only", "describe.skip", "test.cb",
    "test.serial", "test.todo", "test.failing", "test", "test.concurrent", "test.only", "test.skip",
    "suite", "suite.only", "suite.skip", "xtest", "xtest.concurrent", "xtest.only", "xtest.skip"]

/-- The functions that declare a single spec. -/
def singleNames : List String := ["it", "fit", "iit", "pit", "xit", "it.only", "it.skip"]

/-- The family of a function. -/
def ofName? (name : String) : Option SpecFamily :=
  if name ∈ groupNames then some .group else if name ∈ singleNames then some .single else none

end SpecFamily

/-- The function that a call names: an identifier, or a member of one. -/
def Node.calleeName? : Node → Option String
  | .identifier id => some id.name
  | .member _ owner part false => do return (← owner.name?) ++ "." ++ (← part.name?)
  | _ => none

/-- The statements of a function expression or an arrow whose body is a block. -/
def Node.functionBlock? (n : Node) : Option (List Node) :=
  match n.functionValue? with
  | some (_, .block _ body) => some body
  | _ => none

/-- A call that declares a spec. -/
structure Spec where
  /-- The function that is called. -/
  callee : String
  family : SpecFamily
  description : String
  /-- The statements of the function that is given. -/
  body : List Node

/-- The spec that a call with the given callee and arguments declares. -/
def Spec.ofCall? (callee : Node) (arguments : List Node) : Option Spec := do
  let name ← callee.calleeName?
  let family ← SpecFamily.ofName? name
  let description ← (← arguments[0]?).stringLiteral?
  let body ← (← arguments[1]?).functionBlock?
  return ⟨name, family, description, body⟩

end CodeOutline
