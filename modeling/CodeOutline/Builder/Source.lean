/-
From the text of a syntax tree to an outline.
-/
import CodeOutline.Builder.Basic
import CodeOutline.Json.Reader

namespace CodeOutline

/-- Why a text has no outline. -/
inductive OutlineError where
  /-- The text is not JSON. -/
  | notJson (fault : Json.Fault)
  /-- The root of the syntax tree is not a program, or not a sound one. -/
  | program (fault : ProgramFault)
  /-- A pattern of an unknown type is met. -/
  | pattern (cause : UnexpectedPattern)

namespace OutlineError

/-- What every message about an unsound text starts with. -/
def unsound : String := "invalid AST JSON"

/-- The words for the cause. -/
def message : OutlineError → String
  | .notJson .endOfText => unsound ++ ": the text ends before the value is complete"
  | .notJson .malformed => unsound ++ ": the text is malformed"
  | .program (.notAProgram kind) => "expected a Program at the AST root, found `" ++ kind ++ "`"
  | .program (.mismatch cause) => unsound ++ ": " ++ cause.message
  | .pattern cause => cause.message

end OutlineError

/-- The program in a text. -/
def Program.ofText (text : String) : Except OutlineError Program := do
  let v ← (Json.parse text).mapError .notJson
  (Program.ofJson v).mapError .program

/-- The outline of the program in a text, with the events on the way. -/
def Outline.ofSyntaxTree (o : Options) (text : String) : Logged (Except OutlineError Outline) :=
  match Program.ofText text with
  | .error e => ⟨[], .error e⟩
  | .ok p =>
    let run := Builder.build o p
    ⟨run.events, run.result.mapError .pattern⟩

end CodeOutline
