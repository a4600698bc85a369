/-
Command lines in a directory whose files are known.

The directory is a system on which a command line can be tried: its files are a list, and a checker
is a script or a standard program.
-/
import CodeOutline.CommandLine.Run
import CodeOutline.Shell.Program

namespace CodeOutline

/-- A directory as a system. -/
def directory : System Files where
  read := Files.readText
  create files path :=
    match Files.create files path with
    | .ok (.file name) => .ok (Files.put files name [])
    | .ok _ => .ok files
    | .error e => .error e
  write files path text :=
    match Files.create files path with
    | .ok (.file name) => (none, Files.put files name (Text.bytesOf text))
    | .ok (.device .full) => (if text.isEmpty then none else some .noSpace, files)
    | .ok _ => (none, files)
    | .error e => (some e, files)
  launch files program args input :=
    match Shell.launch files program args (Text.bytesOf input) with
    | .ok s => (.ok s.finished, s.files)
    | .error e => (.error e, files)

/-- Asks a checker in a directory. -/
def Checker.ask (c : Checker) (files : Files) (args : List String) (source : String) :
    Except CheckerError String :=
  (c.consult directory files args source).1

namespace CommandLine

/-- A directory in which a command line is tried. -/
def Surroundings.ofFiles (files : Files) : Surroundings := ⟨directory, files⟩

/-- The files after a run. -/
def filesAfter (args : List String) (files : Files) : Files := (execute directory args files).2

/-- All that a run writes to its standard output. -/
def Outcome.output (o : Outcome) (files : Files) : String :=
  match o.target with
  | .written path text =>
    match Files.create files path with
    | .ok (.device .output) => o.stdout ++ text
    | _ => o.stdout
  | _ => o.stdout

end CommandLine

end CodeOutline
