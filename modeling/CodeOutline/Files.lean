/-
Files, as a program sees them from its directory.

A snapshot of a directory is a list of files, whose names may have slashes.  Around it stands the
part of the system that every program can rely on: some directories, some devices, and the standard
programs.  Looking at a path follows its parts one after the other, and all that has something after
it has to be a directory.
-/
import CodeOutline.System
import CodeOutline.Text.Utf8

namespace CodeOutline

/-- A file. -/
structure File where
  /-- The name, from the directory of the program. -/
  name : String
  /-- The bytes. -/
  content : List UInt8
  /-- Whether the file may be run. -/
  executable : Bool := false

/-- The files in a directory. -/
abbrev Files := List File

/-- A device. -/
inductive Device where
  /-- Empty when it is read, and forgets what is written to it. -/
  | null
  /-- Takes nothing that is written to it. -/
  | full
  /-- The terminal, which is not there. -/
  | terminal
  /-- The standard input, output and error channel of the program itself. -/
  | input
  | output
  | errors
deriving DecidableEq, Repr

namespace Files

/-- What a path leads to. -/
inductive Target where
  | file (f : File)
  | directory
  | device (d : Device)
  /-- A standard program. -/
  | program (name : String)

/-- The parts of a place, from the root. -/
abbrev Place := List String

/-- The directory of the program. -/
def workplace : Place := ["tmp", "work"]

/-- Directories that every system has. -/
def systemDirectories : List Place :=
  [[], ["bin"], ["boot"], ["dev"], ["dev", "fd"], ["dev", "pts"], ["dev", "shm"], ["etc"], ["home"],
   ["lib"], ["lib64"], ["media"], ["mnt"], ["opt"], ["proc"], ["proc", "self"],
   ["proc", "self", "fd"], ["root"], ["run"], ["sbin"], ["srv"], ["sys"], ["tmp"], ["usr"],
   ["usr", "bin"], ["usr", "include"], ["usr", "lib"], ["usr", "local"], ["usr", "local", "bin"],
   ["usr", "local", "lib"], ["usr", "sbin"], ["usr", "share"], ["usr", "src"], ["var"],
   ["var", "cache"], ["var", "lib"], ["var", "log"], ["var", "tmp"]]

/-- The device at a place. -/
def deviceAt? : Place → Option Device
  | ["dev", "null"] => some .null
  | ["dev", "full"] => some .full
  | ["dev", "tty"] => some .terminal
  | ["dev", "stdin"] | ["dev", "fd", "0"] | ["proc", "self", "fd", "0"] => some .input
  | ["dev", "stdout"] | ["dev", "fd", "1"] | ["proc", "self", "fd", "1"] => some .output
  | ["dev", "stderr"] | ["dev", "fd", "2"] | ["proc", "self", "fd", "2"] => some .errors
  | _ => none

/-- The programs that every system has. -/
def standardPrograms : List String :=
  ["[", "basename", "bash", "cat", "cut", "dirname", "echo", "env", "expr", "false", "grep", "head",
   "kill", "ls", "printf", "pwd", "rev", "rm", "sed", "seq", "sh", "sleep", "sort", "tail", "tee",
   "test", "touch", "tr", "true", "uniq", "wc"]

/-- The program at a place. -/
def programAt? : Place → Option String
  | ["bin", name] => if name ∈ standardPrograms then some name else none
  | ["usr", "bin", name] => if name ∈ standardPrograms then some name else none
  | _ => none

/-- What stands outside the directory of the program. -/
def systemTarget? (p : Place) : Option Target :=
  match deviceAt? p, programAt? p with
  | some d, _ => some (.device d)
  | none, some name => some (.program name)
  | none, none => if p ∈ systemDirectories then some .directory else none

/-- What has the given name in the directory of the program. -/
def ownTarget? (files : Files) (ps : List String) : Option Target :=
  let name := "/".intercalate ps
  match List.find? (fun f => f.name == name) files with
  | some f => some (.file f)
  | none =>
    if ps.isEmpty || List.any files (fun f => f.name.startsWith (name ++ "/")) then
      some .directory
    else none

/-- The name, from the directory of the program, of a place in it. -/
def ownName? (p : Place) : Option (List String) :=
  if workplace.isPrefixOf p then some (p.drop workplace.length) else none

/-- What stands at a place. -/
def target? (files : Files) (p : Place) : Option Target :=
  match ownName? p with
  | some ps => ownTarget? files ps
  | none => systemTarget? p

/-- The number of bytes that a part of a path may have. -/
def partLimit : Nat := 255

/-- The number of bytes that a path may have. -/
def pathLimit : Nat := 4095

/-- Follows the parts of a path from a place. -/
def follow (files : Files) : Place → Target → List String → Except SystemError (Place × Target)
  | place, target, [] => .ok (place, target)
  | place, .directory, part :: rest =>
    if part = "" ∨ part = "." then follow files place .directory rest
    else if part = ".." then follow files place.dropLast .directory rest
    else if partLimit < part.utf8ByteSize then .error .nameTooLong
    else
      match target? files (place ++ [part]) with
      | some target => follow files (place ++ [part]) target rest
      | none => .error .notFound
  | _, _, _ :: _ => .error .notDirectory

/-- Where the parts of a path start, and the parts. -/
def split (path : String) : Place × List String :=
  let parts := path.splitOn "/"
  if path.startsWith "/" then ([], parts.drop 1) else (workplace, parts)

/-- The place of a path, and what stands there. -/
def locate (files : Files) (path : String) : Except SystemError (Place × Target) :=
  if path.isEmpty then .error .notFound
  else if pathLimit < path.utf8ByteSize then .error .nameTooLong
  else
    let (start, parts) := split path
    follow files start .directory parts

/-- What a path leads to. -/
def resolve (files : Files) (path : String) : Except SystemError Target :=
  (locate files path).map (·.2)

/-- The first bytes of a program, which are not a text. -/
def programBytes : List UInt8 := [127, 69, 76, 70, 2, 1, 1, 0, 255]

/-- The bytes at a path. -/
def read (files : Files) (path : String) : Except SystemError (List UInt8) :=
  match resolve files path with
  | .ok (.file f) => .ok f.content
  | .ok .directory => .error .isDirectory
  | .ok (.device .terminal) => .error .noDevice
  | .ok (.device _) => .ok []
  | .ok (.program _) => .ok programBytes
  | .error e => .error e

/-- The text at a path. -/
def readText (files : Files) (path : String) : Except SystemError String :=
  match read files path with
  | .ok bytes => (Text.Utf8.decode bytes).mapError fun _ => .notText
  | .error e => .error e

/-! ### Writing -/

/-- Where what is written to a path goes. -/
inductive Destination where
  | file (name : String)
  | device (d : Device)
  /-- A file outside the directory of the program. -/
  | elsewhere
deriving DecidableEq, Repr

/-- Where a part of a path leads from a directory, if it is to be written. -/
def enter (files : Files) (place : Place) (part : String) : Except SystemError Destination :=
  if part = "" ∨ part = "." ∨ part = ".." then .error .isDirectory
  else if partLimit < part.utf8ByteSize then .error .nameTooLong
  else
    match target? files (place ++ [part]), ownName? (place ++ [part]) with
    | some .directory, _ => .error .isDirectory
    | some (.device .terminal), _ => .error .noDevice
    | some (.device d), _ => .ok (.device d)
    | _, some ps => .ok (.file ("/".intercalate ps))
    | _, none =>
      if place.head? = some "proc" ∨ place.head? = some "sys" then .error .notFound
      else .ok .elsewhere

/-- Opens a path for writing.  A file that is not there is created, if its directory is there. -/
def create (files : Files) (path : String) : Except SystemError Destination :=
  if path.isEmpty then .error .notFound
  else if pathLimit < path.utf8ByteSize then .error .nameTooLong
  else
    let (start, parts) := split path
    match follow files start .directory parts.dropLast with
    | .error e => .error e
    | .ok (place, .directory) => enter files place (parts.getLastD "")
    | .ok _ => .error .notDirectory

/-- The files after bytes have replaced the content of a file. -/
def put (files : Files) (name : String) (bytes : List UInt8) : Files :=
  match List.find? (fun f => f.name == name) files with
  | some _ => List.map (fun f => if f.name == name then { f with content := bytes } else f) files
  | none => List.append files [⟨name, bytes, false⟩]

/-- The files without one of them. -/
def erase (files : Files) (name : String) : Files := List.filter (fun f => f.name != name) files

end Files

end CodeOutline
