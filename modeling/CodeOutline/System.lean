/-
The system around a program.

A system is in a state, which holds its files and whatever else programs can change.  What a state
is made of is left open.  A program sees it only through what the system does: files are read,
created and written, and other programs are run.
-/

namespace CodeOutline

/-- Why the system refuses something. -/
inductive SystemError where
  | notFound
  | noDevice
  | badExecutable
  | permissionDenied
  | notDirectory
  | isDirectory
  | noSpace
  | brokenPipe
  | nameTooLong
  /-- The bytes of a file are not a text. -/
  | notText
  /-- A name has a character that no name can have. -/
  | badName
deriving DecidableEq, Repr

/-- The words for a refusal, without its number. -/
def SystemError.reason : SystemError → String
  | .notFound => "No such file or directory"
  | .noDevice => "No such device or address"
  | .badExecutable => "Exec format error"
  | .permissionDenied => "Permission denied"
  | .notDirectory => "Not a directory"
  | .isDirectory => "Is a directory"
  | .noSpace => "No space left on device"
  | .brokenPipe => "Broken pipe"
  | .nameTooLong => "File name too long"
  | .notText => "stream did not contain valid UTF-8"
  | .badName => "nul byte found in provided data"

/-- The number of a refusal, if the system gives it one. -/
def SystemError.number? : SystemError → Option Nat
  | .notFound => some 2
  | .noDevice => some 6
  | .badExecutable => some 8
  | .permissionDenied => some 13
  | .notDirectory => some 20
  | .isDirectory => some 21
  | .noSpace => some 28
  | .brokenPipe => some 32
  | .nameTooLong => some 36
  | .notText => none
  | .badName => none

/-- The words for a refusal. -/
def SystemError.message (e : SystemError) : String :=
  match e.number? with
  | some n => e.reason ++ " (os error " ++ toString n ++ ")"
  | none => e.reason

/-- How a program has ended. -/
structure Finished where
  /-- The exit code.  A program that was killed has none. -/
  code : Option Nat
  /-- What it wrote to its standard output. -/
  output : List UInt8
  /-- What it wrote to its standard error channel. -/
  errors : List UInt8
  /-- Whether the whole input could be handed over. -/
  inputTaken : Bool

/-- What a system does, in states of any type. -/
structure System (σ : Type) where
  /-- The text of the file at a path. -/
  read : σ → String → Except SystemError String
  /-- Opens a path for writing.  A file that is there is emptied, and one that is not there is
  created. -/
  create : σ → String → Except SystemError σ
  /-- Writes a text to a path that has been opened.  If not all of it is taken, there is a cause. -/
  write : σ → String → String → Option SystemError × σ
  /-- Runs a program with arguments and an input, and waits for its end.  It may change the state in
  any way.  Of a program that never ends nothing is said. -/
  launch : σ → String → List String → String → Except SystemError Finished × σ

end CodeOutline
