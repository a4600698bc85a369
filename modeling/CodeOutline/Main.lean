/-
The command line as a program.

The files that the arguments name are read first.  The run itself is a pure function of them.
-/
import CodeOutline.CommandLine.Directory

namespace CodeOutline.CommandLine

/-- The refusal that an error of the system stands for. -/
def refusalOf : IO.Error → SystemError
  | .permissionDenied .. => .permissionDenied
  | .inappropriateType .. => .isDirectory
  | _ => .notFound

/-- The bytes at a path. -/
def readBytes (path : String) : IO (Except SystemError (List UInt8)) := do
  try
    return .ok (← IO.FS.readBinFile path).toList
  catch e => return .error (refusalOf e)

/-- The paths that arguments may name. -/
def mentioned (args : List String) : List String :=
  match Request.ofArguments args with
  | .error _ => []
  | .ok r => r.inputs ++ r.sources ++ r.config.toList ++ r.checker.toList

/-- What has been read from paths. -/
abbrev Contents := List (String × Except SystemError (List UInt8))

/-- The files among the contents.  A checker is one of them. -/
def Contents.files (contents : Contents) : Files :=
  contents.filterMap fun (path, content) =>
    let parts := (path.splitOn "/").filter fun part => part ≠ "" ∧ part ≠ "."
    content.toOption.map fun bytes => ⟨"/".intercalate parts, bytes, true⟩

/-- The system in which nothing but the given contents can be read.  What is written is performed
afterwards, so that nothing is refused here. -/
def snapshot : System Contents where
  read contents path :=
    match contents.lookup path with
    | some (.ok bytes) => (Text.Utf8.decode bytes).mapError fun _ => .notText
    | some (.error e) => .error e
    | none => .error .notFound
  create contents _ := .ok contents
  write contents _ _ := (none, contents)
  launch contents program args input :=
    ((directory.launch contents.files program args input).1, contents)

/-- Performs the outcome of a run, and gives its exit code. -/
def perform (o : Outcome) : IO UInt32 := do
  for e in o.logged do
    IO.eprintln ("ERROR " ++ e.logEntry)
  if let some f := o.failure then
    IO.eprintln ("Error: " ++ f.message)
  IO.print o.stdout
  if let .written path text := o.target then
    try IO.FS.writeFile path text
    catch _ =>
      IO.eprintln ("Error: " ++ (Failure.outputRefused path).message)
      return 1
  return UInt32.ofNat o.exitCode

end CodeOutline.CommandLine

open CodeOutline.CommandLine in
def main (args : List String) : IO UInt32 := do
  let contents ← (mentioned args).mapM fun path => return (path, ← readBytes path)
  perform (run args ⟨snapshot, contents⟩)
