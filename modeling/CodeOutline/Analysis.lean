/-
Outlines of source texts.

A source text goes to a checker, and the answer is the text of a syntax tree.  The checker is any
function from arguments and an input to an answer; its errors are of any type.
-/
import CodeOutline.Builder.Source

namespace CodeOutline

/-- Why there is no outline. -/
inductive AnalysisError (ε : Type) where
  /-- The checker has no answer. -/
  | checker (cause : ε)
  /-- The syntax tree has no outline. -/
  | outline (cause : OutlineError)

/-- The words for the cause, outermost first, given the words for what a checker says. -/
def AnalysisError.messages {ε : Type} (describe : ε → List String) : AnalysisError ε → List String
  | .checker cause => "Failed to obtain AST from checker" :: describe cause
  | .outline cause => ["Failed to build outline", cause.message]

/-- The command that asks a checker for a syntax tree. -/
def checkerCommand : List String := ["ast"]

/-- The outline of a syntax tree that is at hand. -/
def analyseTree {ε : Type} (o : Options) (text : String) :
    Logged (Except (AnalysisError ε) Outline) :=
  let run := Outline.ofSyntaxTree o text
  ⟨run.events, run.value.mapError .outline⟩

/-- The outline of a source text. -/
def analyseSource {ε : Type} (o : Options) (checker : List String → String → Except ε String)
    (source : String) : Logged (Except (AnalysisError ε) Outline) :=
  match checker checkerCommand source with
  | .error e => ⟨[], .error (.checker e)⟩
  | .ok text =>
    let run := analyseTree o text
    ⟨.received text.utf8ByteSize :: run.events, run.value⟩

end CodeOutline
