/-
How deep nodes lie inside one another.

Only the places count into which a walk over declarations goes: statements, class members, exported
declarations, and the bodies of functions that are arguments of calls.
-/
import CodeOutline.Node.Basic

namespace CodeOutline.Node

mutual

/-- The greatest number of nodes inside one another, from a node on. -/
def height : Node → Nat
  | .program _ body => heightAll body + 1
  | .function _ _ _ _ body => height body + 1
  | .classDef _ _ _ members => heightAll members + 1
  | .exportDeclaration _ _ (some declaration) _ => height declaration + 1
  | .expressionStatement _ expression => height expression + 1
  | .call _ _ arguments => heightAll arguments + 1
  | .block _ body => heightAll body + 1
  | _ => 1

/-- The greatest number of nodes inside one another, from some nodes on. -/
def heightAll : List Node → Nat
  | [] => 0
  | n :: ns => max (height n) (heightAll ns)

end

/-- A node is inside itself. -/
theorem height_pos (n : Node) : 0 < n.height := by
  unfold height
  split <;> omega

end CodeOutline.Node
