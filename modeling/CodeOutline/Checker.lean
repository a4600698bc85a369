/-
Asking a checker for a syntax tree.

The checker is a program that gets a source text on its standard input.  What counts is its exit
code first, then whether it took the whole text, and then what it wrote to its standard output.
-/
import CodeOutline.System
import CodeOutline.Text.Utf8

namespace CodeOutline

/-- A checker: its program. -/
structure Checker where
  program : String := "flow"

/-- Why a checker has no answer. -/
inductive CheckerError where
  /-- The program could not be started. -/
  | notStarted (program : String) (cause : SystemError)
  /-- The program ended badly. -/
  | failed (program : String) (args : List String) (code : Option Nat) (errors : String)
  /-- The program ended well, but did not take its whole input. -/
  | inputRefused
  /-- The answer is not a text. -/
  | notText (fault : Text.Utf8Fault)

/-- An exit code in words. -/
def exitCodeText : Option Nat → String
  | some n => "Some(" ++ toString n ++ ")"
  | none => "None"

/-- The words for the cause, outermost first. -/
def CheckerError.messages : CheckerError → List String
  | .notStarted program cause =>
    ["Failed to execute " ++ program ++ ". Is flow installed?", cause.message]
  | .failed program args code errors =>
    [program ++ " " ++ " ".intercalate args ++ " failed with exit code " ++ exitCodeText code ++
      ": " ++ errors]
  | .inputRefused => ["Failed to write source to checker stdin", SystemError.brokenPipe.message]
  | .notText fault => ["checker output was not valid UTF-8", fault.message]

/-- The answer of a checker, from how its program ended. -/
def Checker.answer (c : Checker) (args : List String) :
    Except SystemError Finished → Except CheckerError String
  | .error cause => .error (.notStarted c.program cause)
  | .ok f =>
    if f.code ≠ some 0 then
      .error (.failed c.program args f.code (Text.trim (Text.Utf8.lossy f.errors)))
    else if f.inputTaken then (Text.Utf8.decode f.output).mapError .notText
    else .error .inputRefused

/-- Asks a checker, whose program is run in a system. -/
def Checker.consult {σ : Type} (c : Checker) (sys : System σ) (s : σ) (args : List String)
    (input : String) : Except CheckerError String × σ :=
  let ended := sys.launch s c.program args input
  (c.answer args ended.1, ended.2)

end CodeOutline
