/-
Labels of binding patterns.

A pattern is shown as it would be written, with some parts left out: default values, holes of array
patterns, and the values of the members of object patterns, of which only the keys are shown.
-/
import CodeOutline.Label
import CodeOutline.Node.Basic

namespace CodeOutline

/-- A node of the given type stands where a pattern is expected. -/
structure UnexpectedPattern where
  kind : String
deriving DecidableEq, Repr

/-- The words for an unexpected pattern. -/
def UnexpectedPattern.message (e : UnexpectedPattern) : String :=
  "encountered unexpected argument type " ++ e.kind

namespace Pattern

/-- Labels with a comma and a blank between them. -/
def separated : List Label → Label
  | [] => []
  | [l] => l
  | l :: ls => l ++ .plain "," :: .space :: separated ls

mutual

/-- The label of a pattern. -/
def label : Node → Except UnexpectedPattern Label
  | .identifier id => .ok [.param id.name]
  | .objectPattern _ properties => do
    return .plain "\x7b" :: separated (← memberLabels properties) ++ [.plain "\x7d"]
  | .arrayPattern _ elements => do
    return .plain "[" :: separated (← elementLabels elements) ++ [.plain "]"]
  | .assignmentPattern _ left => label left
  | .restElement _ argument => do
    return .plain "..." :: (← label argument)
  | n => .error ⟨n.kindName⟩

/-- The labels of the members of an object pattern.  A property is shown by its key. -/
def memberLabels : List Node → Except UnexpectedPattern (List Label)
  | [] => .ok []
  | .property _ key _ _ :: rest => do
    let l ← label key
    return l :: (← memberLabels rest)
  | n :: rest => do
    let l ← label n
    return l :: (← memberLabels rest)

/-- The labels of the elements of an array pattern, without its holes. -/
def elementLabels : List (Option Node) → Except UnexpectedPattern (List Label)
  | [] => .ok []
  | none :: rest => elementLabels rest
  | some n :: rest => do
    let l ← label n
    return l :: (← elementLabels rest)

end

/-- The labels of a list of patterns. -/
def labels : List Node → Except UnexpectedPattern (List Label)
  | [] => .ok []
  | n :: rest => do
    let l ← label n
    return l :: (← labels rest)

/-- The label of a list of patterns. -/
def listLabel (patterns : List Node) : Except UnexpectedPattern Label := do
  return separated (← labels patterns)

/-- The label of a list of parameters, in parentheses. -/
def paramsLabel (params : List Node) : Except UnexpectedPattern Label := do
  return .plain "(" :: (← listLabel params) ++ [.plain ")"]

theorem paramsLabel_eq_map (params : List Node) :
    paramsLabel params = (listLabel params).map fun l => .plain "(" :: l ++ [.plain ")"] := by
  unfold paramsLabel
  cases listLabel params <;> rfl

end Pattern

end CodeOutline
