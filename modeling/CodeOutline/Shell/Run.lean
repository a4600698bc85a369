/-
Running scripts.

Words are expanded, commands run and scripts read in one recursion, since a word may hold a script.
It is bounded by a number that every call lowers, and a script that takes longer is killed.
-/
import CodeOutline.Shell.Arithmetic
import CodeOutline.Shell.Expansion
import CodeOutline.Shell.Utility

namespace CodeOutline.Shell

/-! ### Programs -/

/-- The words of the first line of a file, if the line names an interpreter: its path, and at most
one argument. -/
def interpreterLine? (content : List UInt8) : Option (String × List String) :=
  match content with
  | 35 :: 33 :: rest =>
    let line := (spell rest).toList.takeWhile (· ≠ '\n')
    let line := (((line.dropWhile isBlank).reverse).dropWhile isBlank).reverse
    match line.span fun c => !isBlank c with
    | ([], _) => none
    | (path, arg) =>
      let arg := arg.dropWhile isBlank
      some (String.ofList path, if arg.isEmpty then [] else [String.ofList arg])
  | _ => none

/-- A standard program with its arguments, and the name by which it was called. -/
structure Invocation where
  program : String
  calledAs : String
  args : List String

/-- The standard program behind a path: the program itself, or the interpreter of the file there.
The number bounds the interpreters behind interpreters. -/
def invocation (files : Files) : Nat → String → List String → Except SystemError Invocation
  | 0, _, _ => .error .badExecutable
  | n + 1, path, args =>
    match Files.resolve files (nameOf path) with
    | .error e => .error e
    | .ok (.program name) => .ok ⟨name, path, args⟩
    | .ok .directory => .error .permissionDenied
    | .ok (.device _) => .error .permissionDenied
    | .ok (.file f) =>
      if !f.executable then .error .permissionDenied
      else
        match interpreterLine? f.content with
        | none => .error .badExecutable
        | some (interpreter, flag) => invocation files n interpreter (flag ++ path :: args)

/-- The standard program for a command: a path if it has a slash, and else a name that is looked
up. -/
def findProgram (files : Files) (name : String) (args : List String) :
    Except SystemError Invocation :=
  if name.toList.contains '/' then invocation files 5 name args
  else if name ∈ Files.standardPrograms then .ok ⟨name, name, args⟩
  else if name = "." ∨ name = ".." ∨ name = "" then .error .permissionDenied
  else if Files.partLimit < name.length then .error .nameTooLong
  else .error .notFound

/-! ### Commands of the language -/

/-- The commands whose failures end the script. -/
def specialCommands : List String :=
  ["break", ":", "continue", ".", "eval", "exec", "exit", "export", "readonly", "return", "set",
    "shift", "times", "trap", "unset"]

/-- The other commands that the language has itself. -/
def ownCommands : List String :=
  ["cd", "command", "echo", "false", "kill", "local", "printf", "pwd", "read", "test", "[", "true",
    "type", "umask", "wait", "alias", "getopts", "hash", "jobs", "ulimit", "unalias", "bg", "fg"]

/-- A natural number, if a text is one. -/
def nat? (text : String) : Option Nat :=
  if !text.isEmpty && text.all Char.isDigit then some (leadingNat text.toList).1 else none

/-- The number that an argument gives, or what is wrong with it. -/
def numberArgument (tool : String) (default : Nat) (args : List String) : Act (Option Nat) := do
  match args with
  | [] => return some default
  | a :: _ =>
    match (nat? a).filter (· < Nat.pow 2 31) with
    | some n => return some n
    | none =>
      fail (tool ++ ": Illegal number: " ++ a) 2
      return none

/-- Changes a setting by its letter. -/
def Settings.change (o : Settings) (letter : Char) (on : Bool) : Option Settings :=
  match letter with
  | 'e' => some { o with stopOnFailure := on }
  | 'u' => some { o with requireSet := on }
  | 'f' => some { o with plainNames := on }
  | 'x' => some { o with showCommands := on }
  | 'C' | 'a' | 'b' | 'h' | 'm' | 'n' | 'v' | 'i' | 'I' | 's' | 'l' | 'q' | 'V' | 'E' => some o
  | _ => none

/-- The letter of a setting with a long name. -/
def settingLetter? : String → Option Char
  | "errexit" => some 'e'
  | "nounset" => some 'u'
  | "noglob" => some 'f'
  | "xtrace" => some 'x'
  | "noclobber" => some 'C'
  | "allexport" => some 'a'
  | "notify" => some 'b'
  | "monitor" => some 'm'
  | "verbose" => some 'v'
  | _ => none

/-- Reads the settings in front of arguments: the settings, and the arguments if there are any, or
the letter that is wrong. -/
def readSettings : Nat → Settings → List String → Except String (Settings × Option (List String))
  | 0, o, _ => .ok (o, none)
  | _ + 1, o, [] => .ok (o, none)
  | n + 1, o, a :: rest =>
    match a.toList with
    | ['-', '-'] => .ok (o, some rest)
    | ['-'] => .ok ({ o with showCommands := false }, if rest.isEmpty then none else some rest)
    | sign :: letters =>
      if sign ≠ '-' ∧ sign ≠ '+' then .ok (o, some (a :: rest))
      else
        let change (o : Settings) (c : Char) (wrong : String) : Except String Settings :=
          match o.change c (sign == '-') with
          | some o => .ok o
          | none => .error ("Illegal option " ++ wrong)
        match letters.foldlM (fun ((o, rest) : Settings × List String) c =>
            match c, rest with
            | 'o', name :: rest =>
              (change o
                ((settingLetter? name).getD '?') (sign.toString ++ "o " ++ name)).map (·, rest)
            | 'o', [] => Except.ok (o, [])
            | c, rest => (change o c ("-" ++ c.toString)).map (·, rest)) (o, rest) with
        | .ok (o, rest) => readSettings n o rest
        | .error e => .error e
    | [] => .ok (o, some (a :: rest))

/-- Sets variables that programs see. -/
def exportNames (args : List String) : Act Unit := do
  for a in args do
    if a ≠ "-p" then
      let name := (a.splitOn "=").headD ""
      if !isName name then fail ("export: " ++ a ++ ": bad variable name") 2
      else
        if a.toList.contains '=' then
          modify fun s => s.assign name (a.drop (name.length + 1)).toString
        modify fun s => { s with exported := name :: s.exported.filter (· != name) }

/-- Gives variables values that end with the function. -/
def localNames (args : List String) : Act Unit := do
  if (← get).hidden.isEmpty then fail "local: not in a function" 2
  for a in args do
    let name := (a.splitOn "=").headD ""
    modify fun s =>
      match s.hidden with
      | top :: others => { s with hidden := ((name, s.bindings.lookup name) :: top) :: others }
      | [] => s
    if a.toList.contains '=' then modify fun s => s.assign name (a.drop (name.length + 1)).toString

/-- The line that is read: its characters, of which those after a backslash are quoted unless the
line is raw, whether it ended with a line feed, and the rest. -/
def readLine (raw : Bool) : List Glob.Mark → List UInt8 → List Glob.Mark × Bool × List UInt8
  | acc, [] => (acc.reverse, false, [])
  | acc, 92 :: b :: rest =>
    if raw then
      if b = 10 then ((Char.ofNat 92, false) :: acc |>.reverse, true, rest)
      else readLine raw ((Char.ofNat b.toNat, false) :: (Char.ofNat 92, false) :: acc) rest
    else if b = 10 then readLine raw acc rest
    else readLine raw ((Char.ofNat b.toNat, true) :: acc) rest
  | acc, b :: rest =>
    if b = 10 then (acc.reverse, true, rest)
    else readLine raw ((Char.ofNat b.toNat, false) :: acc) rest

/-- Reads a line into variables. -/
def readInto (args : List String) : Act Nat := do
  let (options, names) := Utility.splitOptions args
  if names.isEmpty then
    complainHere "read: arg count"
    return 2
  else if let some name := names.find? (!isName ·) then
    complainHere ("read: " ++ name ++ ": bad variable name")
    return 2
  else
    match ← available? with
    | none => return 1
    | some bytes =>
      let (line, complete, rest) := readLine (Utility.hasLetter options 'r') [] bytes
      leave rest
      let s ← get
      let values := splitLine s.separators names.length line
      for (name, value) in names.zip (values ++ List.replicate names.length "") do
        modify fun s => s.assign name value
      return if complete then 0 else 1

/-- How a name would be run. -/
def kindOf? (s : Session) (name : String) : Option String :=
  if name ∈ reservedWords then some (name ++ " is a shell keyword")
  else if name ∈ specialCommands then some (name ++ " is a special shell builtin")
  else if (s.functions.lookup name).isSome then some (name ++ " is a shell function")
  else if name ∈ ownCommands then some (name ++ " is a shell builtin")
  else if (findProgram s.files name []).toOption.isSome then
    some (name ++ " is " ++ (if name.toList.contains '/' then name else "/usr/bin/" ++ name))
  else none

/-- What `command -v` prints. -/
def whereIs? (s : Session) (name : String) : Option String :=
  if name ∈ reservedWords ∨ name ∈ specialCommands ∨ name ∈ ownCommands ∨
    (s.functions.lookup name).isSome then some name
  else if (findProgram s.files name []).toOption.isSome then
    some (if name.toList.contains '/' then name else "/usr/bin/" ++ name)
  else none

/-- Shows a command before it runs. -/
def showCommand (words : List String) : Act Unit := do
  if (← get).settings.showCommands then complain ("+ " ++ " ".intercalate words)

/-- Opens the target of a redirection. -/
def opened (s : Session) (channels : List (Nat × Handle)) (op target : String) :
    Except String (Session × Handle) :=
  let reading (e : SystemError) : String :=
    "cannot open " ++ target ++ ": " ++
      (if e = .notFound ∨ e = .notDirectory then "No such file" else e.reason)
  let creating (e : SystemError) : String :=
    "cannot create " ++ target ++ ": " ++
      (if e = .notFound ∨ e = .notDirectory then "Directory nonexistent" else e.reason)
  let same (channel : Nat) : Except String (Session × Handle) :=
    .ok (s, (channels.lookup channel).getD .nowhere)
  if op = "<" ∨ op = "<>" then
    match Files.resolve s.files (nameOf target) with
    | .ok (.device .null) => .ok (s, .nowhere)
    | .ok (.device .input) => same 0
    | .ok .directory => .ok (s, .nowhere)
    | .ok _ =>
      match Files.read s.files (nameOf target) with
      | .ok bytes => .ok (s.addUnread bytes)
      | .error e => .error (reading e)
    | .error e => .error (reading e)
  else
    match Files.create s.files (nameOf target) with
    | .ok (.file name) =>
      let content := if op = ">>" then (s.fileBytes? name).getD [] else []
      .ok ({ s with files := Files.put s.files name content }, .file name)
    | .ok (.device .output) => same 1
    | .ok (.device .errors) => same 2
    | .ok (.device .full) => .ok (s, .full)
    | .ok _ => .ok (s, .nowhere)
    | .error e => .error (creating e)

/-- Whether a step runs after a status. -/
def meets (status : Nat) : Condition → Bool
  | .always => true
  | .onSuccess => status == 0
  | .onFailure => status != 0

/-- Whether the failure of a pipeline may end the script by itself. -/
def endsScript : List Command → Bool
  | [.compound (.subshell _) _ _] => true
  | [.compound _ _ _] => false
  | _ => true

/-- A text without the line feeds at its end. -/
def withoutFinalLines (text : String) : String :=
  String.ofList (text.toList.reverse.dropWhile (· = '\n')).reverse

/-- What an interpreter of scripts is asked to do. -/
inductive Task where
  | text (script name : String) (args : List String)
  | file (path : String) (args : List String)
  | input (args : List String)
  | wrong (reason : String)

/-- Reads the arguments of an interpreter of scripts. -/
def Task.ofArguments (name : String) : Nat → Settings → List String → Settings × Task
  | 0, o, _ => (o, .input [])
  | _ + 1, o, [] => (o, .input [])
  | n + 1, o, a :: rest =>
    match a.toList with
    | '-' :: c :: letters =>
      let letters := c :: letters
      if letters = ['-'] then
        match rest with
        | path :: args => (o, .file path args)
        | [] => (o, .input [])
      else
        match (letters.filter (· ≠ 'c')).foldlM (fun (o : Settings) c =>
            match o.change c true with
            | some o => Except.ok o
            | none => .error ("Illegal option -" ++ c.toString)) o with
        | .error e => (o, .wrong e)
        | .ok o =>
          if letters.contains 'c' then
            match rest with
            | script :: rest => (o, .text script (rest.headD name) rest.tail)
            | [] => (o, .wrong "-c requires an argument")
          else if letters.contains 's' then (o, .input rest)
          else Task.ofArguments name n o rest
    | _ => (o, .file a rest)

/-- Whether a loop goes on with its next round, after a jump has been used up. -/
def goesOn : Act Bool := do
  match (← get).flow with
  | .running => return true
  | .breaking loops =>
    modify fun s => { s with flow := if loops ≤ 1 then .running else .breaking (loops - 1) }
    return false
  | .continuing loops =>
    if loops ≤ 1 then
      modify fun s => { s with flow := .running }
      return true
    else
      modify fun s => { s with flow := .continuing (loops - 1) }
      return false
  | _ => return false

/-- Runs a loop. -/
def inLoop (act : Act Unit) : Act Unit := do
  modify fun s => { s with loops := s.loops + 1 }
  act
  modify fun s => { s with loops := s.loops - 1 }

/-- Runs a text that a command has read as a script. -/
def reading (within : String) (act : Act Unit) : Act Unit := do
  let before := (← get).within
  modify fun s => { s with within, status := 0 }
  act
  modify fun s => { s with within := before }

/-- The names of the signals that a script can wait for. -/
def signals : List String :=
  ["EXIT", "HUP", "INT", "QUIT", "ILL", "TRAP", "ABRT", "BUS", "FPE", "KILL", "USR1", "SEGV",
    "USR2", "PIPE", "ALRM", "TERM", "STKFLT", "CHLD", "CONT", "STOP", "TSTP", "TTIN",
    "TTOU", "URG", "XCPU", "XFSZ", "VTALRM", "PROF", "WINCH", "IO", "PWR", "SYS"]

/-- Whether a text names a signal. -/
def isSignal (text : String) : Bool := text.toUpper ∈ signals || (nat? text).any (· ≤ 64)

/-! ### Words, commands and scripts -/

/-- Ends a script that takes too long. -/
def giveUp : Act Unit := modify fun s => { s with flow := .killed }

mutual

/-- The bits of a word. -/
def expand : Nat → Word → Act (List Bit)
  | 0, _ => do giveUp; return []
  | n + 1, w => do
    let s ← get
    if w = [.quotes, .param "@" "" "" true] ∧ s.args.isEmpty then return []
    else
      let mut bits := []
      for p in w do
        bits := bits ++ (← expandPart n p)
      return bits

/-- The bits of a part. -/
def expandPart : Nat → Part → Act (List Bit)
  | 0, _ => do giveUp; return []
  | n + 1, p => do
    match p with
    | .char c quoted => return [.char c quoted]
    | .quotes => return [.mark]
    | .command script quoted ownLines =>
      let s ← get
      let out ← capture (runText n (if ownLines then 1 else s.line) script)
      modify fun s => { s with outputStatus := some s.status }
      return bitsOf (withoutFinalLines (spell (out.filter (· ≠ 0)))) quoted
    | .arithmetic expr quoted =>
      let text := textOf (← expandText n .document expr)
      let s ← get
      match Arithmetic.evaluate (fun name => Arithmetic.ofValue ((s.value? name).getD "")) text with
      | .ok (v, changes) =>
        for (name, value) in changes.reverse do
          modify fun s => s.assign name (toString value)
        return bitsOf (toString v) quoted
      | .error reason =>
        failOf (if reason.startsWith "Illegal number" then reason
          else "arithmetic expression: " ++ reason ++ ": \"" ++ expr ++ "\"") 2
        return []
    | .param name op operand quoted => expandParam n name op operand quoted

/-- The bits of a text that is read as a word. -/
def expandText : Nat → Mode → String → Act (List Bit)
  | 0, _, _ => do giveUp; return []
  | n + 1, mode, text => do
    match wholeWord mode text with
    | .ok w => expand n w
    | .error reason =>
      failOf reason 2
      return []

/-- The bits of the value of a parameter. -/
def expandParam : Nat → String → String → String → Bool → Act (List Bit)
  | 0, _, _, _, _ => do giveUp; return []
  | n + 1, name, op, operand, quoted => do
    let s ← get
    let found := s.value? name
    let isNull := (found.getD "").isEmpty
    let isAll := name = "@" ∨ name = "*"
    let own : List Bit :=
      if isAll ∧ (!quoted ∨ name = "@") then bitsOfEach s.args quoted
      else bitsOf (found.getD "") quoted
    let other : Act (List Bit) := do
      let bits ← expandText n (if quoted then .quotedOperand else .operand) operand
      return bits.map fun b =>
        match b with
        | .char c false => .loose c
        | b => b
    let trimmed (f : List Glob.Mark → List Char → List Char) : Act (List Bit) := do
      let pattern := marksOf (← expandText n .operand operand)
      return bitsOf (String.ofList (f pattern (found.getD "").toList)) quoted
    if found.isNone ∧ s.settings.requireSet ∧ !isAll ∧
      op ∈ ["", "length", "%", "%%", "#", "##"] then
      failOf (name ++ ": parameter not set") 2
      return []
    else match op with
    | "" => return own
    | "wrong" =>
      failOf "Bad substitution" 2
      return []
    | "length" =>
      return bitsOf (toString (if isAll then s.args.length else (found.getD "").length)) quoted
    | ":-" => if isNull then other else return own
    | "-" => if found.isNone then other else return own
    | ":+" => if isNull then return [] else other
    | "+" => if found.isNone then return [] else other
    | ":=" =>
      if isNull then
        let bits ← other
        modify fun s => s.assign name (textOf bits)
        return bits
      else return own
    | "=" =>
      if found.isNone then
        let bits ← other
        modify fun s => s.assign name (textOf bits)
        return bits
      else return own
    | ":?" =>
      if isNull then
        let text := textOf (← other)
        failOf (name ++ ": " ++ (if text = "" then "parameter not set or null" else text)) 2
        return []
      else return own
    | "?" =>
      if found.isNone then
        let text := textOf (← other)
        failOf (name ++ ": " ++ (if text = "" then "parameter not set" else text)) 2
        return []
      else return own
    | "%" => trimmed fun p cs => trimEnd p false cs
    | "%%" => trimmed fun p cs => trimEnd p true cs
    | "#" => trimmed fun p cs => trimStart p false cs
    | "##" => trimmed fun p cs => trimStart p true cs
    | _ => return own

/-- The fields of words. -/
def expandWords : Nat → List Word → Act (List String)
  | 0, _ => do giveUp; return []
  | n + 1, words => do
    let mut out := []
    for w in words do
      if ← isRunning then
        let bits ← expand n w
        let s ← get
        out := out ++ (fieldsOf s.separators bits).flatMap (namesOf s)
    return out

/-- Performs assignments. -/
def assignAll : Nat → List (String × Word) → Act Unit
  | 0, _ => giveUp
  | n + 1, assignments => do
    for (name, w) in assignments do
      if ← isRunning then
        let value := textOf (← expand n w)
        modify fun s => s.assign name value

/-- The channels after redirections, or what is wrong with one of them. -/
def redirections : Nat → List Redirection → Act (Except String (List (Nat × Handle)))
  | 0, _ => do giveUp; return .error "too deep"
  | n + 1, rs => do
    let mut channels := (← get).channels
    for r in rs do
      if r.op = "<<" then
        let text := textOf (← expand n r.target)
        let (s, h) := (← get).addUnread (bytesOf text)
        set s
        channels := Session.redirect channels r.channel (some h)
      else
        let target := textOf (← expand n r.target)
        if r.op = "<&" ∨ r.op = ">&" then
          if target = "-" then channels := Session.redirect channels r.channel none
          else
            match nat? target with
            | none =>
              return .error (if isName target then "Syntax error: Bad fd number"
                else target ++ ": Bad fd number")
            | some m =>
              match channels.lookup m with
              | some h => channels := Session.redirect channels r.channel (some h)
              | none => return .error (target ++ ": Bad file descriptor")
        else
          match opened (← get) channels r.op target with
          | .ok (s, h) =>
            set s
            channels := Session.redirect channels r.channel (some h)
          | .error e => return .error e
    return .ok channels

/-- Runs the steps of a list.  Under a test, failures do not end the script. -/
def runSteps : Nat → Bool → List Step → Act Unit
  | 0, _, _ => giveUp
  | _ + 1, _, [] => return
  | n + 1, tested, .mk condition negated background commands :: rest => do
    if ← isRunning then
      if meets (← get).status condition then
        let followed := match rest with
          | .mk c _ _ _ :: _ => c ≠ .always
          | [] => false
        let safe := tested || negated || followed
        runPipeline n safe commands
        if ← isRunning then
          let s ← get
          if negated then setStatus (if s.status = 0 then 1 else 0)
          else if s.settings.stopOnFailure ∧ !safe ∧ s.status ≠ 0 ∧ endsScript commands then
            quit s.status
          if background then setStatus 0
      runSteps n tested rest

/-- Runs the commands of a pipeline, each with what the one before it has written. -/
def runPipeline : Nat → Bool → List Command → Act Unit
  | 0, _, _ => giveUp
  | _ + 1, _, [] => return
  | n + 1, tested, [c] => runCommand n tested c
  | n + 1, tested, c :: rest => do
    let bytes ← capture (runCommand n tested c)
    let (s, h) := (← get).addUnread bytes
    set s
    inSubshell do
      modify fun s => { s with channels := Session.redirect s.channels 0 (some h) }
      runPipeline n tested rest

/-- Runs a command. -/
def runCommand : Nat → Bool → Command → Act Unit
  | 0, _, _ => giveUp
  | n + 1, tested, c => do
    match c with
    | .define name body _ =>
      modify fun s =>
        { s with
          functions := (name, body) :: s.functions.filter (fun f => f.1 != name), status := 0 }
    | .compound body rs line =>
      modify fun s => { s with line }
      match ← redirections n rs with
      | .error reason =>
        complainOf reason
        setStatus 2
      | .ok channels => withChannels channels (runCompound n tested body)
    | .simple words rs line =>
      modify fun s => { s with line, outputStatus := none }
      let assignments := (words.takeWhile fun w => (assignment? w).isSome).filterMap assignment?
      let fields ← expandWords n (words.drop assignments.length)
      if ← isRunning then
        modify fun s => { s with line }
        match fields, ← redirections n rs with
        | [], .error reason =>
          complainOf reason
          setStatus 2
        | [], .ok _ =>
          assignAll n assignments
          if ← isRunning then
            showCommand (assignments.map fun (name, w) => name ++ "=" ++ unquoted w)
            setStatus ((← get).outputStatus.getD 0)
        | name :: _, .error reason =>
          complainOf reason
          if name ∈ specialCommands then quit 2 else setStatus 2
        | ["exec"], .ok channels => modify fun s => { s with channels, status := 0 }
        | name :: args, .ok channels =>
          showCommand (name :: args)
          let before ← get
          assignAll n assignments
          if ← isRunning then
            modify fun s => { s with exported := assignments.map (·.1) ++ s.exported }
            withChannels channels (runNamed n tested name args)
            if name ∉ specialCommands then
              for (name, _) in assignments do
                modify fun s =>
                  match before.bindings.lookup name with
                  | some v => s.assign name v
                  | none => s.unset name
            modify fun s =>
              { s with
                exported := if name ∈ ["export", "unset"] then s.exported else before.exported }

/-- Runs a command that is made of commands. -/
def runCompound : Nat → Bool → Compound → Act Unit
  | 0, _, _ => giveUp
  | n + 1, tested, c => do
    match c with
    | .group body => runSteps n tested body
    | .subshell body =>
      inSubshell do
        runSteps n tested body
        finish n
    | .choose branches otherwise => runBranches n tested branches otherwise
    | .loop whileFails test body => inLoop (runLoop n tested whileFails test body 0)
    | .each name words body =>
      let own := (← get).args
      let values ← match words with
        | some ws => expandWords n ws
        | none => pure own
      if values.isEmpty then setStatus 0
      inLoop (runEach n tested name body values)
    | .select subject arms =>
      let text := textOf (← expand n subject)
      runArms n tested text.toList arms

/-- Runs the first branch whose test holds. -/
def runBranches : Nat → Bool → List (List Step × List Step) → List Step → Act Unit
  | 0, _, _, _ => giveUp
  | n + 1, tested, [], otherwise =>
    if otherwise.isEmpty then setStatus 0 else runSteps n tested otherwise
  | n + 1, tested, (test, body) :: rest, otherwise => do
    runSteps n true test
    if ← isRunning then
      if (← get).status = 0 then runSteps n tested body else runBranches n tested rest otherwise

/-- Runs a loop.  The last number is the status of the last round. -/
def runLoop : Nat → Bool → Bool → List Step → List Step → Nat → Act Unit
  | 0, _, _, _, _, _ => giveUp
  | n + 1, tested, whileFails, test, body, last => do
    runSteps n true test
    if ← goesOn then
      if ((← get).status == 0) != whileFails then
        runSteps n tested body
        let status := (← get).status
        if ← goesOn then runLoop n tested whileFails test body status
      else setStatus last

/-- Runs the body of a loop for each value. -/
def runEach : Nat → Bool → String → List Step → List String → Act Unit
  | 0, _, _, _, _ => giveUp
  | _ + 1, _, _, _, [] => return
  | n + 1, tested, name, body, v :: rest => do
    if ← isRunning then
      modify fun s => s.assign name v
      runSteps n tested body
      if ← goesOn then runEach n tested name body rest

/-- Runs the first arm with a pattern for a text. -/
def runArms : Nat → Bool → List Char → List (List Word × List Step) → Act Unit
  | 0, _, _, _ => giveUp
  | _ + 1, _, _, [] => setStatus 0
  | n + 1, tested, text, (patterns, body) :: rest => do
    let mut hit := false
    for p in patterns do
      if !hit then hit := Glob.isMatch (marksOf (← expand n p)) text
    if !hit then runArms n tested text rest
    else if body.isEmpty then setStatus 0
    else runSteps n tested body

/-- Runs a command by its name. -/
def runNamed : Nat → Bool → String → List String → Act Unit
  | 0, _, _, _ => giveUp
  | n + 1, tested, name, args => do
    let s ← get
    if name ∈ specialCommands then runSpecial n name args
    else
      match s.functions.lookup name with
      | some body =>
        let line := s.line
        modify fun s => { s with args, hidden := [] :: s.hidden, linesBefore := 0, loops := 0 }
        runCommand n tested body
        modify fun t =>
          let shown := (t.hidden.headD []).foldl (fun t (name, v) =>
            match v with
            | some v => t.assign name v
            | none => t.unset name) t
          { shown with
            args := s.args, hidden := s.hidden, linesBefore := s.linesBefore, loops := s.loops, line
            flow := if t.flow = .returning then .running else t.flow }
      | none => runOther n name args

/-- Runs a command that is not a function. -/
def runOther : Nat → String → List String → Act Unit
  | 0, _, _ => giveUp
  | n + 1, name, args => do
    let s ← get
    match name with
    | "read" => setStatus (← readInto args)
    | "local" =>
      setStatus 0
      localNames args
    | "cd" =>
      match Files.resolve s.files (nameOf (args.headD "/root")) with
      | .ok .directory => setStatus 0
      | _ =>
        complainHere ("cd: can't cd to " ++ args.headD "")
        setStatus 2
    | "wait" | "umask" | "hash" | "jobs" | "alias" | "unalias" | "ulimit" => setStatus 0
    | "type" =>
      setStatus 0
      for a in args do
        match kindOf? s a with
        | some text => say (text ++ "\n")
        | none =>
          say (a ++ ": not found\n")
          setStatus 127
    | "command" =>
      match args with
      | "-v" :: names =>
        setStatus 0
        for a in names do
          match whereIs? s a with
          | some text => say (text ++ "\n")
          | none => setStatus 127
      | "-V" :: names => runOther n "type" names
      | "-p" :: name :: args =>
        if name ∈ specialCommands then runSpecial n name args else runOther n name args
      | name :: args =>
        if name ∈ specialCommands then runSpecial n name args else runOther n name args
      | [] => setStatus 0
    | _ =>
      match if name ∈ ownCommands then Utility.find? name else none with
      | some run => setStatus (← run args)
      | none => runProgram n name args

/-- Runs a program by its name. -/
def runProgram : Nat → String → List String → Act Unit
  | 0, _, _ => giveUp
  | n + 1, name, args => do
    let s ← get
    match findProgram s.files name args with
    | .ok call => runInvocation n call
    | .error .badExecutable => runInvocation n ⟨"sh", name, name :: args⟩
    | .error .permissionDenied =>
      complainOf (name ++ ": Permission denied")
      setStatus (if name = "" then 127 else 126)
    | .error .nameTooLong =>
      complainOf (name ++ ": File name too long")
      setStatus 126
    | .error _ =>
      complainOf (name ++ ": not found")
      setStatus 127

/-- Runs a standard program. -/
def runInvocation : Nat → Invocation → Act Unit
  | 0, _ => giveUp
  | n + 1, call => do
    match call.program with
    | "sh" | "bash" => runShell n call.calledAs call.args
    | "env" => runEnv n call.args
    | program =>
      match Utility.find? program with
      | some run => setStatus (← run call.args)
      | none => setStatus 127

/-- Runs a program with changed variables. -/
def runEnv : Nat → List String → Act Unit
  | 0, _ => giveUp
  | n + 1, args => do
    match args with
    | [] =>
      let s ← get
      for name in s.exported.reverse do
        if let some v := s.bindings.lookup name then say (name ++ "=" ++ v ++ "\n")
      setStatus 0
    | a :: rest =>
      if a = "-i" ∨ a = "-" ∨ a = "--" then runEnv n rest
      else if a = "-S" then runEnv n (((rest.headD "").splitOn " ").filter (· ≠ "") ++ rest.drop 1)
      else if a.toList.contains '=' then
        let name := (a.splitOn "=").headD ""
        inSubshell do
          modify fun s =>
            let t := s.assign name (a.drop (name.length + 1)).toString
            { t with exported := name :: s.exported }
          runEnv n rest
      else
        let s ← get
        match findProgram s.files a rest with
        | .ok call => runInvocation n call
        | .error .badExecutable => runInvocation n ⟨"sh", a, a :: rest⟩
        | .error e =>
          complain ("env: '" ++ a ++ "': " ++ e.reason)
          setStatus (if e = .notFound ∨ e = .notDirectory then 127 else 126)

/-- Runs an interpreter of scripts. -/
def runShell : Nat → String → List String → Act Unit
  | 0, _, _ => giveUp
  | n + 1, name, args => do
    let s ← get
    let (settings, task) := Task.ofArguments name (args.length + 1) {} args
    let fresh (name : String) (args : List String) (script : String) : Act Unit := inSubshell do
      modify fun s => { s with
        name, args, settings, functions := [], hidden := [], line := 1, linesBefore := 0,
        status := 0, loops := 0, within := ""
        bindings := s.bindings.filter fun v => v.1 ∈ s.exported }
      runText n 1 script
      finish n
    match task with
    | .text script name args => fresh name args script
    | .file path args =>
      match Files.read s.files (nameOf path) with
      | .ok bytes => fresh path args (spell bytes)
      | .error e =>
        complain (name ++ ": 0: cannot open " ++ path ++ ": " ++
          if e = .notFound ∨ e = .notDirectory then "No such file" else e.reason)
        setStatus 2
    | .input args =>
      let script := spell (← takeAll)
      fresh name args script
    | .wrong reason =>
      complain (name ++ ": 0: " ++ reason)
      setStatus 2

/-- Runs what is to be run at the end. -/
def finish : Nat → Act Unit
  | 0 => giveUp
  | n + 1 => do
    let s ← get
    match s.atExit with
    | some script =>
      if s.flow ≠ .killed then
        set { s with atExit := none, flow := .running }
        runText n 1 script
        modify fun t => if t.flow = .ended then t else { t with status := s.status, flow := .ended }
    | none => return

/-- Runs a command whose failure ends the script. -/
def runSpecial : Nat → String → List String → Act Unit
  | 0, _, _ => giveUp
  | n + 1, name, args => do
    let s ← get
    match name with
    | ":" => setStatus 0
    | "exit" =>
      if let some code ← numberArgument "exit" s.status args then quit code
    | "return" =>
      if let some code ← numberArgument "return" s.status args then
        modify fun s =>
          { s with status := code, flow := if s.hidden.isEmpty then .ended else .returning }
    | "break" =>
      if let some loops ← numberArgument "break" 1 args then
        modify fun s =>
          { s with
            status := 0,
            flow := if s.loops = 0 then .running else .breaking (min loops s.loops) }
    | "continue" =>
      if let some loops ← numberArgument "continue" 1 args then
        modify fun s =>
          { s with
            status := 0,
            flow := if s.loops = 0 then .running else .continuing (min loops s.loops) }
    | "shift" =>
      if let some count ← numberArgument "shift" 1 args then
        if s.args.length < count then fail "shift: can't shift that many" 2
        else modify fun s => { s with args := s.args.drop count, status := 0 }
    | "eval" =>
      reading "eval: " (runText n 1 (" ".intercalate args))
    | "." =>
      match args with
      | path :: _ =>
        match Files.read s.files (nameOf path) with
        | .ok bytes =>
          if path.toList.contains '/' then reading (path ++ ": ") (runText n 1 (spell bytes))
          else fail (".: " ++ path ++ ": not found") 2
        | .error _ =>
          if path.toList.contains '/' then fail (".: cannot open " ++ path ++ ": No such file") 2
          else fail (".: " ++ path ++ ": not found") 2
      | [] => setStatus 0
    | "exec" =>
      match args with
      | program :: args =>
        match findProgram s.files program args with
        | .ok call =>
          runInvocation n call
          if (← get).flow ≠ .killed then quit (← get).status
        | .error .badExecutable =>
          runInvocation n ⟨"sh", program, program :: args⟩
          if (← get).flow ≠ .killed then quit (← get).status
        | .error .permissionDenied => fail ("exec: " ++ program ++ ": Permission denied") 126
        | .error _ => fail ("exec: " ++ program ++ ": not found") 127
      | [] => setStatus 0
    | "export" =>
      setStatus 0
      exportNames args
    | "readonly" =>
      setStatus 0
      exportNames args
    | "unset" =>
      for a in args do
        if a = "-f" ∨ a = "-v" then pure ()
        else if args.head? = some "-f" then
          modify fun s => { s with functions := s.functions.filter fun f => f.1 != a }
        else modify fun s => s.unset a
      setStatus 0
    | "set" =>
      match readSettings (args.length + 1) s.settings args with
      | .ok (settings, operands) =>
        modify fun s => { s with settings, args := operands.getD s.args, status := 0 }
      | .error reason => fail ("set: " ++ reason) 2
    | "trap" =>
      match args with
      | first :: others =>
        let (action, names) := if others.isEmpty then ("-", [first]) else (first, others)
        setStatus 0
        for name in names do
          if !isSignal name then
            complain ("trap: " ++ name ++ ": bad trap")
            setStatus 1
          else if name.toUpper = "EXIT" ∨ name = "0" then
            modify fun s =>
              { s with atExit := if action = "-" ∨ action = "" then none else some action }
      | [] => setStatus 0
    | _ => setStatus 0

/-- Runs a script that starts at a line. -/
def runText : Nat → Nat → String → Act Unit
  | 0, _, _ => giveUp
  | n + 1, line, text => runPages n (Pages.ofText line text)

/-- Runs a script line by line. -/
def runPages : Nat → Pages → Act Unit
  | 0, _ => giveUp
  | n + 1, pages => do
    if ← isRunning then
      if !pages.tokens.isEmpty then
        match pages.nextLine with
        | .ok (steps, rest) =>
          runSteps n false steps
          runPages n rest
        | .error fault =>
          modify fun s => { s with line := fault.line, linesBefore := 0 }
          failOf ("Syntax error: " ++ fault.reason) 2

end

/-- The number of steps inside one another after which a script takes too long. -/
def patience : Nat := 100000

end CodeOutline.Shell
