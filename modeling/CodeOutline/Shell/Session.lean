/-
The state of a running script: parameters, channels, files, and what has been read and written.
-/
import CodeOutline.Files
import CodeOutline.Shell.Script

namespace CodeOutline.Shell

/-- Where a channel leads. -/
inductive Handle where
  /-- To bytes that are read. -/
  | reader (id : Nat)
  /-- To bytes that are collected. -/
  | writer (id : Nat)
  /-- To the end of a file. -/
  | file (name : String)
  | nowhere
  /-- To a device that takes nothing. -/
  | full
deriving DecidableEq, Repr

/-- Where a script goes on. -/
inductive Flow where
  | running
  /-- After the end of some loops around it. -/
  | breaking (loops : Nat)
  /-- At the next round of a loop around it. -/
  | continuing (loops : Nat)
  /-- After the end of a function. -/
  | returning
  | ended
  | killed
deriving DecidableEq, Repr

/-- How a script behaves. -/
structure Settings where
  /-- Whether a failure ends it. -/
  stopOnFailure : Bool := false
  /-- Whether parameters have to be set. -/
  requireSet : Bool := false
  /-- Whether file names are no patterns. -/
  plainNames : Bool := false
  /-- Whether commands are shown before they run. -/
  showCommands : Bool := false

/-- The state of a running script. -/
structure Session where
  /-- The files in its directory. -/
  files : Files
  /-- The name of the script. -/
  name : String
  /-- The arguments of the script or of a function. -/
  args : List String := []
  /-- The values of variables. -/
  bindings : List (String × String) := []
  /-- The names of the variables that programs see. -/
  exported : List String := []
  /-- The functions that have been defined. -/
  functions : List (String × Command) := []
  /-- Where the channels lead. -/
  channels : List (Nat × Handle) := [(0, .reader 0), (1, .writer 1), (2, .writer 2)]
  /-- The bytes that can still be read. -/
  unread : List (Nat × List UInt8) := []
  /-- The bytes that have been collected, in parts, last part first. -/
  collected : List (Nat × List (List UInt8)) := [(1, []), (2, [])]
  /-- The number of the next bytes. -/
  nextId : Nat := 3
  /-- The line of the command that runs. -/
  line : Nat := 1
  /-- The number of lines before the function that runs. -/
  linesBefore : Nat := 0
  /-- The status of the last command. -/
  status : Nat := 0
  /-- The status of the last script whose output was used in the words of this command. -/
  outputStatus : Option Nat := none
  flow : Flow := .running
  settings : Settings := {}
  /-- What is to be run at the end. -/
  atExit : Option String := none
  /-- For each function that runs, the values that its own variables hide. -/
  hidden : List (List (String × Option String)) := []
  /-- The number of loops around the command that runs. -/
  loops : Nat := 0
  /-- The start of a complaint in a text that a command has read as a script. -/
  within : String := ""

/-- A computation on a session. -/
abbrev Act := StateM Session

namespace Session

/-- The number by which a script knows itself. -/
def ownNumber : String := "1000"

/-- The characters that divide fields. -/
def separators (s : Session) : String := (s.bindings.lookup "IFS").getD " \t\n"

/-- The text between joined arguments. -/
def joiner (s : Session) : String :=
  match s.separators.toList with
  | c :: _ => c.toString
  | [] => ""

/-- The value of a parameter, if it is set. -/
def value? (s : Session) (name : String) : Option String :=
  if name = "?" then some (toString s.status)
  else if name = "$" then some ownNumber
  else if name = "#" then some (toString s.args.length)
  else if name = "-" then
    let letter (on : Bool) (c : String) : String := if on then c else ""
    some (letter s.settings.requireSet "u" ++ letter s.settings.showCommands "x" ++
      letter s.settings.plainNames "f" ++
      letter s.settings.stopOnFailure "e")
  else if name = "!" then none
  else if name = "@" ∨ name = "*" then
    if s.args.isEmpty then none
    else some ((if name = "*" then s.joiner else " ").intercalate s.args)
  else if name = "LINENO" then some (toString (s.line - s.linesBefore))
  else
    match name.toList with
    | c :: _ =>
      if c.isDigit then
        match name.toNat? with
        | some 0 => some s.name
        | some (n + 1) => s.args[n]?
        | none => none
      else s.bindings.lookup name
    | [] => none

/-- Gives a variable a value. -/
def assign (s : Session) (name value : String) : Session :=
  { s with bindings := (name, value) :: s.bindings.filter fun v => v.1 != name }

def unset (s : Session) (name : String) : Session :=
  { s with bindings := s.bindings.filter fun v => v.1 != name }

/-! ### Channels -/

/-- Where a channel leads. -/
def handle? (s : Session) (channel : Nat) : Option Handle := s.channels.lookup channel

/-- The channels after one of them leads elsewhere, or nowhere at all. -/
def redirect (channels : List (Nat × Handle)) (channel : Nat) (h : Option Handle) :
    List (Nat × Handle) :=
  let others := channels.filter fun c => c.1 != channel
  match h with
  | some h => (channel, h) :: others
  | none => others

/-- The bytes of a file, if it is there. -/
def fileBytes? (s : Session) (name : String) : Option (List UInt8) :=
  (List.find? (fun f => f.name == name) s.files).map (·.content)

/-- Adds bytes that can be read, and says where. -/
def addUnread (s : Session) (bytes : List UInt8) : Session × Handle :=
  ({ s with unread := (s.nextId, bytes) :: s.unread, nextId := s.nextId + 1 }, .reader s.nextId)

/-- Adds a place where bytes are collected, and says which. -/
def addCollector (s : Session) : Session × Nat :=
  ({ s with collected := (s.nextId, []) :: s.collected, nextId := s.nextId + 1 }, s.nextId)

/-- The bytes that have been collected. -/
def collection (s : Session) (id : Nat) : List UInt8 :=
  ((s.collected.lookup id).getD []).reverse.flatten

/-- The session without a place where bytes are collected. -/
def dropCollector (s : Session) (id : Nat) : Session :=
  { s with collected := s.collected.filter fun c => c.1 != id }

/-- Writes bytes where a handle leads, and says whether this is possible. -/
def write (s : Session) (h : Option Handle) (bytes : List UInt8) : Session × Bool :=
  match h with
  | some (.writer id) =>
    ({ s with collected := s.collected.map fun c => if c.1 == id then (id, bytes :: c.2) else c },
      true)
  | some (.file name) =>
    ({ s with files := Files.put s.files name ((s.fileBytes? name).getD [] ++ bytes) }, true)
  | some .nowhere => (s, true)
  | some .full => (s, bytes.isEmpty)
  | some (.reader _) => (s, false)
  | none => (s, false)

end Session

/-! ### Reading and writing -/

/-- Writes a text to a channel, and says whether this is possible. -/
def emit (channel : Nat) (text : String) : Act Bool := fun s =>
  let (s, ok) := s.write (s.handle? channel) (bytesOf text)
  (ok, s)

/-- Writes a text to the standard output. -/
def say (text : String) : Act Unit := do
  let _ ← emit 1 text

/-- Writes a line to the error channel. -/
def complain (text : String) : Act Unit := do
  let _ ← emit 2 (text ++ "\n")

/-- A complaint of the script itself, with its name and the line. -/
def complainHere (text : String) : Act Unit := do
  let s ← get
  complain (s.name ++ ": " ++ toString (s.line - s.linesBefore) ++ ": " ++ text)

/-- A complaint about a command that is no complaint of the command. -/
def complainOf (text : String) : Act Unit := do
  complainHere ((← get).within ++ text)

/-- What can be read from the standard input, if it is open. -/
def available? : Act (Option (List UInt8)) := do
  let s ← get
  match s.handle? 0 with
  | some (.reader id) => return some ((s.unread.lookup id).getD [])
  | some .nowhere => return some []
  | some (.file name) => return some ((s.fileBytes? name).getD [])
  | _ => return none

/-- Leaves bytes of the standard input for later. -/
def leave (rest : List UInt8) : Act Unit := modify fun s =>
  match s.handle? 0 with
  | some (.reader id) =>
    { s with unread := s.unread.map fun u => if u.1 == id then (id, rest) else u }
  | _ => s

/-- Reads all of the standard input. -/
def takeAll : Act (List UInt8) := do
  let bytes ← available?
  leave []
  return bytes.getD []

/-! ### Ends -/

def setStatus (n : Nat) : Act Unit := modify fun s => { s with status := n }

/-- Ends the script with a code. -/
def quit (code : Nat) : Act Unit := modify fun s => { s with status := code % 256, flow := .ended }

/-- Ends the script with a complaint. -/
def fail (text : String) (code : Nat) : Act Unit := do
  complainHere text
  quit code

/-- Ends the script with a complaint about a command that is no complaint of the command. -/
def failOf (text : String) (code : Nat) : Act Unit := do
  complainOf text
  quit code

/-- Whether the script still runs on. -/
def isRunning : Act Bool := do return (← get).flow = .running

/-- Runs something whose parameters, functions and channels are its own.  Only what it reads and
writes is left. -/
def inSubshell (act : Act Unit) : Act Unit := fun s =>
  let (_, t) := act { s with atExit := none }
  let flow := if t.flow = .killed then Flow.killed else .running
  ((), { s with
    files := t.files, unread := t.unread, collected := t.collected, nextId := t.nextId,
      status := t.status % 256, flow })

/-- Runs something with other channels. -/
def withChannels (channels : List (Nat × Handle)) (act : Act Unit) : Act Unit := do
  let before := (← get).channels
  modify fun s => { s with channels }
  act
  modify fun s => { s with channels := before }

/-- The output of something that runs as a script of its own. -/
def capture (act : Act Unit) : Act (List UInt8) := do
  let (s, id) := (← get).addCollector
  set s
  inSubshell do
    modify fun s => { s with channels := Session.redirect s.channels 1 (some (.writer id)) }
    act
  let s ← get
  set (s.dropCollector id)
  return s.collection id

end CodeOutline.Shell
