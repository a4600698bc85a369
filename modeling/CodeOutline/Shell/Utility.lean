/-
Programs that scripts can use.

Each one works on its arguments and the channels of the session, and gives a status.
-/
import CodeOutline.Shell.Format
import CodeOutline.Shell.Regex
import CodeOutline.Shell.Session

namespace CodeOutline.Shell.Utility

/-! ### Input -/

/-- The bytes of a file, where a dash is the standard input. -/
def bytesAt (file : String) : Act (Except SystemError (List UInt8)) := do
  if file = "-" then return .ok (← takeAll)
  else
    let s ← get
    match Files.resolve s.files (nameOf file) with
    | .ok (.device .input) => return .ok (← takeAll)
    | _ => return Files.read s.files (nameOf file)

/-- The texts of files, or of the standard input if there are none, with a status.  Files that
cannot be read are complained about. -/
def inputs (trouble : Nat) (describe : String → String → String) (files : List String) :
    Act (List String × Nat) := do
  let mut texts := []
  let mut status := 0
  for file in if files.isEmpty then ["-"] else files do
    match ← bytesAt file with
    | .ok bytes => texts := texts ++ [spell bytes]
    | .error e =>
      complain (describe file e.reason)
      status := trouble
  return (texts, status)

/-- The usual complaint about a file. -/
def plainly (tool : String) (file reason : String) : String :=
  tool ++ ": " ++ file ++ ": " ++ reason

/-- The lines of a text, without their line feeds. -/
def lines (text : String) : List String :=
  let ls := text.splitOn "\n"
  if ls.getLast? = some "" then ls.dropLast else ls

/-- Lines as a text. -/
def unlines (ls : List String) : String := String.join (ls.map (· ++ "\n"))

/-- Splits options off arguments: those that start with a dash and have more, up to two dashes. -/
def splitOptions : List String → List String × List String
  | [] => ([], [])
  | "--" :: rest => ([], rest)
  | a :: rest =>
    if a.startsWith "-" ∧ a ≠ "-" then
      let (options, operands) := splitOptions rest
      (a :: options, operands)
    else ([], a :: rest)

/-- Whether a letter is among options. -/
def hasLetter (options : List String) (c : Char) : Bool :=
  options.any fun o => (o.toList.drop 1).contains c

/-- The value of an option with a letter, given with it or after it, and the other arguments. -/
def splitValue (letter : Char) : List String → Option String × List String
  | [] => (none, [])
  | a :: rest =>
    match a.toList with
    | '-' :: c :: value =>
      if c = letter then
        if value.isEmpty then (some (rest.headD ""), rest.drop 1)
        else (some (String.ofList value), rest)
      else
        let (found, others) := splitValue letter rest
        (found, a :: others)
    | _ =>
      let (found, others) := splitValue letter rest
      (found, a :: others)

/-- The words of a usage error in most programs. -/
def tryHelp (tool : String) : String := "Try '" ++ tool ++ " --help' for more information."

/-! ### Copying -/

def cat (args : List String) : Act Nat := do
  let (options, files) := splitOptions args
  if (← available?).isNone ∧ files.isEmpty then
    complain "cat: -: Bad file descriptor"
    complain "cat: closing standard input: Bad file descriptor"
    return 1
  else
    let mut status := 0
    let mut number := 1
    for file in if files.isEmpty then ["-"] else files do
      match ← bytesAt file with
      | .ok bytes =>
        if hasLetter options 'n' then
          for line in lines (spell bytes) do
            let digits := toString number
            say (String.ofList (List.replicate (6 - digits.length) ' ') ++ digits ++
              "\t" ++ line ++ "\n")
            number := number + 1
        else say (spell bytes)
      | .error e =>
        complain (plainly "cat" file e.reason)
        status := 1
    return status

/-- Writes bytes to a file, or to its end. -/
def store (name : String) (append : Bool) (bytes : List UInt8) : Act (Option SystemError) := do
  let s ← get
  match Files.create s.files (nameOf name) with
  | .error e => return some e
  | .ok (.file own) =>
    let old := if append then (s.fileBytes? own).getD [] else []
    set { s with files := Files.put s.files own (old ++ bytes) }
    return none
  | .ok (.device .output) => do
    say (spell bytes)
    return none
  | .ok _ => return none

def tee (args : List String) : Act Nat := do
  let (options, files) := splitOptions args
  let bytes ← takeAll
  say (spell bytes)
  let mut status := 0
  for file in files do
    if let some e ← store file (hasLetter options 'a') bytes then
      complain (plainly "tee" file e.reason)
      status := 1
  return status

/-! ### Parts of texts -/

/-- The first lines of bytes. -/
def takeLines : Nat → List UInt8 → List UInt8
  | 0, _ => []
  | _ + 1, [] => []
  | n + 1, b :: rest => b :: if b = 10 then takeLines n rest else takeLines (n + 1) rest

/-- The number of bytes that are read at once. -/
def blockSize : Nat := 8192

/-- The old style of giving a number of lines, as the new one. -/
def modernCount (args : List String) : List String :=
  match args with
  | a :: rest =>
    match a.toList with
    | '-' :: c :: digits =>
      if (c :: digits).all Char.isDigit then ("-n" ++ String.ofList (c :: digits)) :: rest else args
    | _ => args
  | [] => []

def head (args : List String) : Act Nat := do
  let (bytesWanted, args) := splitValue 'c' (modernCount args)
  let (linesWanted, files) := splitValue 'n' args
  let part (bytes : List UInt8) : List UInt8 :=
    match bytesWanted, linesWanted with
    | some n, _ => bytes.take (n.toNat?.getD 0)
    | none, some n => takeLines (n.toNat?.getD 0) bytes
    | none, none => takeLines 10 bytes
  if files.isEmpty ∨ files = ["-"] then
    let bytes := (← available?).getD []
    let wanted := part bytes
    let read :=
      if bytesWanted.isSome then wanted.length
      else (wanted.length + blockSize - 1) / blockSize * blockSize
    leave (bytes.drop read)
    say (spell wanted)
    return 0
  else
    let mut status := 0
    for file in files do
      match ← bytesAt file with
      | .ok bytes => say (spell (part bytes))
      | .error e =>
        complain ("head: cannot open '" ++ file ++ "' for reading: " ++ e.reason)
        status := 1
    return status

def tail (args : List String) : Act Nat := do
  let (bytesWanted, args) := splitValue 'c' (modernCount args)
  let (linesWanted, files) := splitValue 'n' args
  let (texts, status) ←
    inputs 1 (fun file reason => "tail: cannot open '" ++ file ++ "' for reading: " ++ reason) files
  for text in texts do
    match bytesWanted with
    | some n =>
      if n.startsWith "+" then
        say (String.ofList (text.toList.drop ((n.drop 1).toString.toNat?.getD 1 - 1)))
      else say (String.ofList (text.toList.drop (text.length - n.toNat?.getD 0)))
    | none =>
      let n := linesWanted.getD "10"
      let ls := lines text
      let kept :=
        if n.startsWith "+" then ls.drop ((n.drop 1).toString.toNat?.getD 1 - 1)
        else ls.drop (ls.length - n.toNat?.getD 0)
      let out := unlines kept
      say (if text.endsWith "\n" ∨ kept.isEmpty then out else (out.dropEnd 1).toString)
  return status

/-- The number of words in a text. -/
def wordCount (text : String) : Nat :=
  (text.toList.splitBy fun a b => a.isWhitespace == b.isWhitespace).countP fun w =>
  (w.head?.map fun c => !c.isWhitespace).getD false

def wc (args : List String) : Act Nat := do
  let (options, files) := splitOptions args
  let (texts, status) ← inputs 1 (plainly "wc") files
  let letters :=
    if options.isEmpty then ['l', 'w', 'c'] else ['l', 'w', 'm', 'c'].filter (hasLetter options)
  for (text, file) in texts.zip (if files.isEmpty then [""] else files) do
    let numbers := letters.map fun c =>
      if c = 'l' then text.toList.count '\n' else if c = 'w' then wordCount text else text.length
    let width :=
      if letters.length = 1 then 1 else if files.isEmpty then 7 else (toString text.length).length
    let shown := numbers.map fun n =>
      let digits := toString n
      String.ofList (List.replicate (width - digits.length) ' ') ++ digits
    say (" ".intercalate shown ++ (if file = "" then "" else " " ++ file) ++ "\n")
  return status

/-! ### Characters -/

/-- The characters of a set. -/
def charSet : Nat → List Char → List Char
  | 0, _ => []
  | _ + 1, [] => []
  | n + 1, '\\' :: rest =>
    let (value, count) := octalRun 3 0 rest
    if 0 < count then octalChar value :: charSet n (rest.drop count)
    else
      match rest with
      | c :: rest => (escapeOf? c).getD c :: charSet n rest
      | [] => ['\\']
  | n + 1, '[' :: ':' :: rest =>
    let (name, after) := rest.span (· ≠ ':')
    match after with
    | ':' :: ']' :: after =>
      ((Glob.classRanges (String.ofList name)).flatMap fun (a, b) =>
        (List.range (b.toNat + 1 - a.toNat)).map fun i => Char.ofNat (a.toNat + i)) ++
          charSet n after
    | _ => '[' :: charSet n (':' :: rest)
  | n + 1, a :: '-' :: b :: rest =>
    ((List.range (b.toNat + 1 - a.toNat)).map fun i => Char.ofNat (a.toNat + i)) ++ charSet n rest
  | n + 1, c :: rest => c :: charSet n rest

/-- A text without repetitions of some characters. -/
def squeeze (set : List Char) : List Char → List Char
  | a :: b :: rest =>
    if a = b ∧ a ∈ set then squeeze set (b :: rest) else a :: squeeze set (b :: rest)
  | cs => cs

def tr (args : List String) : Act Nat := do
  let (options, sets) := splitOptions args
  let text := (spell (← takeAll)).toList
  let setOf (i : Nat) : List Char := let cs := (sets.getD i "").toList; charSet (cs.length + 1) cs
  let first := setOf 0
  let second := setOf 1
  let complement := hasLetter options 'c' || hasLetter options 'C'
  let isIn (c : Char) : Bool := first.contains c != complement
  if sets.isEmpty then
    complain "tr: missing operand"
    complain (tryHelp "tr")
    return 1
  else if hasLetter options 'd' then
    let kept := text.filter fun c => !isIn c
    say (String.ofList (if hasLetter options 's' then squeeze second kept else kept))
    return 0
  else if sets.length = 1 then
    say (String.ofList (squeeze (if complement then text.filter isIn else first) text))
    return 0
  else
    let last := second.getLastD ' '
    let swap (c : Char) : Char :=
      if complement then if isIn c then last else c
      else
        match first.idxOf? c with
        | some i => second.getD i last
        | none => c
    let swapped := text.map swap
    say (String.ofList (if hasLetter options 's' then squeeze second swapped else swapped))
    return 0

def rev (args : List String) : Act Nat := do
  let (texts, status) ← inputs 1 (plainly "rev") args
  for text in texts do
    say (unlines ((lines text).map fun l => String.ofList l.toList.reverse))
  return status

/-! ### Lines -/

/-- The positions in a list such as `1,3-5`. -/
def inList (list : String) (i : Nat) : Bool :=
  (list.splitOn ",").any fun item =>
    match item.splitOn "-" with
    | [n] => n.toNat? == some i
    | [a, b] => a.toNat?.getD 1 ≤ i && (b == "" || i ≤ b.toNat?.getD 0)
    | _ => false

/-- The members of a list whose positions, from one on, are wanted. -/
def atPositions {α : Type} (list : String) (xs : List α) : List α :=
  (xs.zipIdx 1).filterMap fun (x, i) => if inList list i then some x else none

def cut (args : List String) : Act Nat := do
  let (delimiter, args) := splitValue 'd' args
  let (fields, args) := splitValue 'f' args
  let (chars, args) := splitValue 'c' args
  let (bytes, args) := splitValue 'b' args
  let (options, files) := splitOptions args
  let (texts, status) ← inputs 1 (plainly "cut") files
  let d := delimiter.getD "\t"
  for text in texts do
    for line in lines text do
      match fields, chars.or bytes with
      | some list, _ =>
        let parts := line.splitOn d
        if parts.length = 1 then
          if !hasLetter options 's' then say (line ++ "\n")
        else say (d.intercalate (atPositions list parts) ++ "\n")
      | none, some list => say (String.ofList (atPositions list line.toList) ++ "\n")
      | none, none => pure ()
  return status

/-- The number at the start of a line. -/
def lineNumber (line : String) : Int := (integerOf (String.ofList
  ((line.toList.dropWhile Char.isWhitespace).takeWhile fun c => c.isDigit || c == '-'))).1

def sort (args : List String) : Act Nat := do
  let (options, files) := splitOptions args
  let (texts, status) ← inputs 2
      (fun file reason => "sort: cannot read: " ++ file ++ ": " ++ reason) files
  let numeric := hasLetter options 'n'
  let before (a b : String) : Bool :=
    if numeric ∧ lineNumber a ≠ lineNumber b then lineNumber a < lineNumber b else !(b < a)
  let ls := (texts.flatMap lines).mergeSort before
  let ls := if hasLetter options 'r' then ls.reverse else ls
  say (unlines (if hasLetter options 'u' then ls.eraseReps else ls))
  return status

def uniq (args : List String) : Act Nat := do
  let (options, files) := splitOptions args
  let (texts, status) ← inputs 1 (plainly "uniq") (files.take 1)
  let runs := (texts.flatMap lines).splitBy (· == ·)
  for run in runs do
    let line := run.headD ""
    let shown :=
      if hasLetter options 'd' then 1 < run.length
      else if hasLetter options 'u' then run.length = 1 else true
    if shown then
      if hasLetter options 'c' then
        let digits := toString run.length
        say
          (String.ofList (List.replicate (7 - digits.length) ' ') ++ digits ++ " " ++ line ++ "\n")
      else say (line ++ "\n")
  return status

def grep (args : List String) : Act Nat := do
  let (pattern, args) := splitValue 'e' args
  let (options, operands) := splitOptions args
  let (pattern, files) := match pattern with
    | some p => (some p, operands)
    | none => (operands.head?, operands.tail)
  match pattern with
  | none =>
    complain "Usage: grep [OPTION]... PATTERNS [FILE]..."
    complain (tryHelp "grep")
    return 2
  | some pattern =>
    let fold (s : String) : String := if hasLetter options 'i' then s.map Char.toLower else s
    let parsed := Regex.ofText? (hasLetter options 'E') (fold pattern)
    let hits (line : String) : Bool :=
      let line := fold line
      let found :=
        if hasLetter options 'F' then
          if hasLetter options 'x' then line == fold pattern
          else 1 < (line.splitOn (fold pattern)).length || pattern == ""
        else
          match parsed with
          | some alts =>
            match Regex.search alts line.toList with
            | some (start, stop, _) => !hasLetter options 'x' || (start == 0 && stop == line.length)
            | none => false
          | none => false
      found != hasLetter options 'v'
    let (texts, trouble) ← inputs 2 (plainly "grep") files
    let mut found := false
    for (text, file) in texts.zip (if files.isEmpty then [""] else files) do
      let label := if 1 < files.length ∧ !hasLetter options 'h' then file ++ ":" else ""
      let selected := ((lines text).zipIdx 1).filter fun (line, _) => hits line
      found := found || !selected.isEmpty
      if hasLetter options 'q' then pure ()
      else if hasLetter options 'c' then say (label ++ toString selected.length ++ "\n")
      else if hasLetter options 'l' then
        if !selected.isEmpty then say (file ++ "\n")
      else
        for (line, i) in selected do
          say (label ++ (if hasLetter options 'n' then toString i ++ ":" else "") ++ line ++ "\n")
    return if trouble ≠ 0 then (if found ∧ hasLetter options 'q' then 0 else 2)
    else if found then 0 else 1

/-! ### Edited lines -/

/-- Which lines a command for editing is for. -/
inductive Address where
  | number (n : Nat)
  | last
  | matching (alts : List (List Regex))

/-- What a command for editing does. -/
inductive Edit where
  | delete
  | show
  | stop
  | substitute (alts : List (List Regex)) (replacement : List Char)
      (everywhere shown : Bool) (which : Nat)

/-- A command for editing, with the lines it is for. -/
structure EditCommand where
  first : Option Address
  last : Option Address
  negated : Bool
  edit : Edit

/-- The text up to an unescaped delimiter, and the rest after it. -/
def delimited (d : Char) : List Char → List Char → Option (List Char × List Char)
  | _, [] => none
  | acc, '\\' :: c :: rest =>
    if c = d ∧ d ≠ '\\' then delimited d (c :: acc) rest else delimited d (c :: '\\' :: acc) rest
  | acc, c :: rest => if c = d then some (acc.reverse, rest) else delimited d (c :: acc) rest

/-- The address at the start of a text, and the rest. -/
def address? (extended : Bool) (cs : List Char) : Option Address × List Char :=
  match cs with
  | '$' :: rest => (some .last, rest)
  | '/' :: rest =>
    match delimited '/' [] rest with
    | some (text, rest) =>
      match Regex.ofText? extended (String.ofList text) with
      | some alts => (some (.matching alts), rest)
      | none => (none, cs)
    | none => (none, cs)
  | c :: _ =>
    if c.isDigit then
      let (n, rest) := leadingNat cs
      (some (.number n), rest)
    else (none, cs)
  | [] => (none, cs)

/-- The command for editing that a text stands for. -/
def editCommand? (extended : Bool) (text : List Char) : Option EditCommand :=
  let (first, rest) := address? extended (text.dropWhile Char.isWhitespace)
  let (last, rest) := match rest with
    | ',' :: rest => address? extended rest
    | rest => (none, rest)
  let rest := rest.dropWhile isBlank
  let (negated, rest) := match rest with
    | '!' :: rest => (true, rest.dropWhile isBlank)
    | rest => (false, rest)
  let simple (e : Edit) (rest : List Char) : Option EditCommand :=
    if rest.all Char.isWhitespace then some ⟨first, last, negated, e⟩ else none
  match rest with
  | 'd' :: rest => simple .delete rest
  | 'p' :: rest => simple .show rest
  | 'q' :: rest => simple .stop rest
  | 's' :: d :: rest => do
    let (pattern, rest) ← delimited d [] rest
    let (replacement, flags) ← delimited d [] rest
    let flags := flags.filter fun c => !c.isWhitespace
    let alts ← Regex.ofText? extended (String.ofList pattern)
    if flags.all fun c => c == 'g' || c == 'p' || c.isDigit then
      some ⟨first, last, negated, .substitute alts replacement (flags.contains 'g')
        (flags.contains 'p')
        (max 1 (leadingNat (flags.filter Char.isDigit)).1)⟩
    else none
  | _ => none

/-- What stands in the place of a match. -/
def replaced (text : List Char) (start stop : Nat) (caps : Regex.Captures) : List Char → List Char
  | [] => []
  | '&' :: rest => Regex.slice text start stop ++ replaced text start stop caps rest
  | '\\' :: c :: rest =>
    let part :=
      if c = '0' then Regex.slice text start stop
      else if c.isDigit then
        match caps.lookup (c.toNat - '0'.toNat) with
        | some (a, b) => Regex.slice text a b
        | none => []
      else [if c = 'n' then '\n' else if c = 't' then '\t' else c]
    part ++ replaced text start stop caps rest
  | c :: rest => c :: replaced text start stop caps rest

/-- Replaces matches from a place on, from the one with the given number on.  The first number
bounds the steps. -/
def substitute (alts : List (List Regex)) (text replacement : List Char) (everywhere : Bool) :
    Nat → Nat → Nat → Option (List Char)
  | 0, _, place => some (text.drop place)
  | n + 1, which, place => do
    let (start, stop, caps) ← Regex.searchFrom alts text place (text.drop place)
    let here :=
      if which ≤ 1 then replaced text start stop caps replacement else Regex.slice text start stop
    let before := Regex.slice text place start
    let next := if start = stop then stop + 1 else stop
    let skipped := Regex.slice text stop next
    if which ≤ 1 ∧ !everywhere then some (before ++ here ++ text.drop stop)
    else if text.length < next then if which ≤ 1 then some (before ++ here) else none
    else
      match substitute alts text replacement everywhere n (which - 1) next with
      | some after => some (before ++ here ++ skipped ++ after)
      | none => if which ≤ 1 then some (before ++ here ++ skipped ++ text.drop next) else none

/-- Whether an address is for a line. -/
def Address.covers (a : Address) (number : Nat) (isLast : Bool) (line : List Char) : Bool :=
  match a with
  | .number n => n == number
  | .last => isLast
  | .matching alts => (Regex.search alts line).isSome

/-- Whether a command is for a line, and whether its range goes on. -/
def EditCommand.covers (c : EditCommand) (isOpen : Bool) (number : Nat) (isLast : Bool)
    (line : List Char) : Bool × Bool :=
  match c.first, c.last with
  | none, _ => (true, false)
  | some a, none => (a.covers number isLast line, false)
  | some a, some b =>
    if isOpen then
      match b with
      | .number n => (number ≤ n, number < n)
      | b => (true, !b.covers number isLast line)
    else if a.covers number isLast line then
      match b with
      | .number n => (true, number < n)
      | _ => (true, true)
    else (false, false)

/-- What editing a line has come to. -/
structure Edited where
  line : List Char
  out : String := ""
  deleted : Bool := false
  stopped : Bool := false

def sed (args : List String) : Act Nat := do
  let (script, args) := splitValue 'e' args
  let (options, operands) := splitOptions args
  let extended := hasLetter options 'E' || hasLetter options 'r'
  let (script, files) := match script with
    | some s => (s, operands)
    | none => (operands.headD "", operands.tail)
  let texts := (script.splitOn "\n").flatMap (·.splitOn ";")
  match (texts.filter fun t => !t.all Char.isWhitespace).mapM fun t =>
    editCommand? extended t.toList with
  | none =>
    complain "sed: -e expression #1, char 1: unknown command"
    return 1
  | some commands =>
    let (inputs, status) ← inputs 2
        (fun file reason => "sed: can't read " ++ file ++ ": " ++ reason) files
    let ls := inputs.flatMap lines
    let whole := (inputs.getLast?.map fun t => t.endsWith "\n" || t.isEmpty).getD true
    let mut opened := commands.map fun _ => false
    let mut stopped := false
    for (line, number) in ls.zipIdx 1 do
      if !stopped then
        let isLast := number = ls.length
        let mut e : Edited := { line := line.toList }
        let mut ranges := []
        for (c, isOpen) in commands.zip opened do
          if e.deleted || e.stopped then ranges := ranges ++ [isOpen]
          else
            let (covers, goesOn) := c.covers isOpen number isLast e.line
            ranges := ranges ++ [goesOn]
            if covers != c.negated then
              match c.edit with
              | .delete => e := { e with deleted := true }
              | .show => e := { e with out := e.out ++ String.ofList e.line ++ "\n" }
              | .stop => e := { e with stopped := true }
              | .substitute alts replacement everywhere shown which =>
                match substitute alts e.line replacement everywhere (e.line.length + 2) which 0 with
                | some new =>
                  e := { e with
                    line := new,
                    out := e.out ++ (if shown then String.ofList new ++ "\n" else "") }
                | none => pure ()
        opened := ranges
        stopped := e.stopped
        let ending := if isLast ∧ !whole then "" else "\n"
        say (e.out ++
          if e.deleted ∨ hasLetter options 'n' then "" else String.ofList e.line ++ ending)
    return status

/-! ### Numbers and names -/

def seq (args : List String) : Act Nat := do
  let numbers := args.map fun a => (integerOf a).1
  let (first, step, last) := match numbers with
    | [l] => ((1 : Int), (1 : Int), l)
    | [f, l] => (f, 1, l)
    | [f, s, l] => (f, s, l)
    | _ => (1, 1, 0)
  let count := if step = 0 then 0 else ((last - first) / step + 1).toNat
  say (unlines ((List.range count).map fun (i : Nat) => toString (first + step * (i : Int))))
  return 0

/-- The last part of a path. -/
def lastPart (path : String) : String :=
  match (path.splitOn "/").filter (· ≠ "") with
  | [] => if path.startsWith "/" then "/" else ""
  | parts => parts.getLastD ""

def basename (args : List String) : Act Nat := do
  match args with
  | path :: rest =>
    let name := lastPart path
    let ending := rest.headD ""
    say ((if ending ≠ "" ∧ name ≠ ending ∧ name.endsWith ending then
      (name.dropEnd ending.length).toString else name) ++ "\n")
    return 0
  | [] =>
    complain "basename: missing operand"
    complain (tryHelp "basename")
    return 1

def dirname (args : List String) : Act Nat := do
  match args with
  | path :: _ =>
    let parts := (path.splitOn "/").filter (· ≠ "")
    let start := if path.startsWith "/" then "/" else ""
    say ((if parts.length ≤ 1 then (if start = "" then "." else start)
      else start ++ "/".intercalate parts.dropLast) ++ "\n")
    return 0
  | [] =>
    complain "dirname: missing operand"
    complain (tryHelp "dirname")
    return 1

/-- The names of the files in the directory, in order. -/
def ownNames (s : Session) : List String :=
  ((s.files.map fun f => spellName ((f.name.splitOn "/").headD "")).mergeSort
    fun a b => !(b < a)).eraseReps

def ls (args : List String) : Act Nat := do
  let (_, names) := splitOptions args
  let s ← get
  let mut status := 0
  if names.isEmpty ∨ names = ["."] then
    say (unlines ((ownNames s).filter fun n => !n.startsWith "."))
  else
    for name in names do
      match Files.resolve s.files (nameOf name) with
      | .ok .directory => pure ()
      | .ok _ => say (name ++ "\n")
      | .error e =>
        complain ("ls: cannot access '" ++ name ++ "': " ++ e.reason)
        status := 2
  return status

def rm (args : List String) : Act Nat := do
  let (options, names) := splitOptions args
  let mut status := 0
  for name in names do
    let s ← get
    match Files.locate s.files (nameOf name) with
    | .ok (_, .file f) => set { s with files := Files.erase s.files f.name }
    | .ok _ =>
      complain ("rm: cannot remove '" ++ name ++ "': Is a directory")
      status := 1
    | .error e =>
      if !hasLetter options 'f' then
        complain ("rm: cannot remove '" ++ name ++ "': " ++ e.reason)
        status := 1
  return status

def touch (args : List String) : Act Nat := do
  let mut status := 0
  for name in args do
    if let some e ← store name true [] then
      complain ("touch: cannot touch '" ++ name ++ "': " ++ e.reason)
      status := 1
  return status

/-! ### Conditions -/

/-- A whole number. -/
def int? (arg : String) : Option Int :=
  let (n, whole) := integerOf (Text.trim arg)
  let digits := (Text.trim arg).toList.filter Char.isDigit
  if whole ∧ !digits.isEmpty ∧
    (Text.trim arg).toList.all (fun c => c.isDigit || c == '-' || c == '+') then
    some (if n < 0 ∨ (Text.trim arg).startsWith "-" then -(leadingNat digits).1
    else (leadingNat digits).1)
  else none

/-- Whether a condition on one text holds, if there is such a condition. -/
def unaryTest? (s : Session) (op a : String) : Option Bool :=
  let target := (Files.resolve s.files (nameOf a)).toOption
  match op with
  | "-z" => some (a == "")
  | "-n" => some (a != "")
  | "-e" => some target.isSome
  | "-r" => some target.isSome
  | "-w" => some target.isSome
  | "-L" => some false
  | "-h" => some false
  | "-p" => some false
  | "-t" => some false
  | "-f" => some (target matches some (.file _) | some (.program _))
  | "-d" => some (target matches some .directory)
  | "-c" => some (target matches some (.device _))
  | "-s" =>
    match target with
    | some (.file f) => some !f.content.isEmpty
    | some (.device _) => some false
    | some _ => some true
    | none => some false
  | "-x" =>
    match target with
    | some (.file f) => some f.executable
    | some (.device _) => some false
    | some _ => some true
    | none => some false
  | _ => none

/-- The operators between two texts. -/
def binaryOperators : List String :=
  ["=", "!=", "-eq", "-ne", "-lt", "-le", "-gt", "-ge", "<", ">", "-nt", "-ot", "-ef"]

/-- Whether a condition on two texts holds, or what is wrong with it. -/
def binaryTest (a op b : String) : Except String Bool :=
  let compare (r : Int → Int → Bool) : Except String Bool :=
    match int? a, int? b with
    | some x, some y => .ok (r x y)
    | none, _ => .error ("Illegal number: " ++ a)
    | _, none => .error ("Illegal number: " ++ b)
  match op with
  | "=" => .ok (a == b)
  | "!=" => .ok (a != b)
  | "<" => .ok (a < b)
  | ">" => .ok (b < a)
  | "-eq" => compare (· == ·)
  | "-ne" => compare (· != ·)
  | "-lt" => compare (· < ·)
  | "-le" => compare (· ≤ ·)
  | "-gt" => compare (· > ·)
  | "-ge" => compare (· ≥ ·)
  | _ => .ok false

/-- What a condition comes to, and the arguments after it. -/
abbrev Tested := Except String (Bool × List String)

mutual

/-- Conditions of which one holds. -/
def orTest (s : Session) : Nat → List String → Tested
  | 0, _ => .error "argument expected"
  | _ + 1, [] => .ok (false, [])
  | n + 1, args => do
    let (a, rest) ← andTest s n args
    match rest with
    | "-o" :: rest =>
      let (b, rest) ← orTest s n rest
      return (a || b, rest)
    | rest => return (a, rest)

/-- Conditions that hold together. -/
def andTest (s : Session) : Nat → List String → Tested
  | 0, _ => .error "argument expected"
  | _ + 1, [] => .ok (false, [])
  | n + 1, args => do
    let (a, rest) ← notTest s n args
    match rest with
    | "-a" :: rest =>
      let (b, rest) ← andTest s n rest
      return (a && b, rest)
    | rest => return (a, rest)

/-- A condition that may be negated. -/
def notTest (s : Session) : Nat → List String → Tested
  | 0, _ => .error "argument expected"
  | n + 1, args =>
    match args with
    | [] => .ok (false, [])
    | [a] => .ok (a ≠ "", [])
    | a :: op :: rest =>
      if op ∈ binaryOperators ∧ !(rest.isEmpty ∧ (unaryTest? s a op).isSome) ∧
        !(rest.isEmpty ∧ a = "!") then
        match rest with
        | [] => .error (op ++ ": argument expected")
        | b :: rest => do return (← binaryTest a op b, rest)
      else if a = "!" then do
        let (b, rest) ← notTest s n (op :: rest)
        return (!b, rest)
      else if a = "(" then do
        let (b, rest) ← orTest s n (op :: rest)
        match rest with
        | ")" :: rest => return (b, rest)
        | _ => .error "closing paren expected"
      else
        match unaryTest? s a op with
        | some b => .ok (b, rest)
        | none => .ok (a ≠ "", op :: rest)

end

/-- The status of a condition. -/
def test (tool : String) (args : List String) : Act Nat := do
  let s ← get
  let complainOf (text : String) : Act Nat := do
    complainHere (tool ++ ": " ++ text)
    return 2
  if args.isEmpty then return 1
  else
    match orTest s (4 * args.length + 8) args with
    | .ok (b, []) => return if b then 0 else 1
    | .ok (_, rest) =>
      complainOf (args.getD (args.length - rest.length - 1) "" ++ ": unexpected operator")
    | .error reason => complainOf reason

def bracket (args : List String) : Act Nat := do
  if args.getLast? = some "]" then test "[" args.dropLast
  else
    complainHere "[: missing ]"
    return 2

/-- The value of an expression on numbers and texts. -/
def expr (args : List String) : Act Nat := do
  let finish (text : String) : Act Nat := do
    say (text ++ "\n")
    return if text = "" ∨ text = "0" then 1 else 0
  let ofBool (b : Bool) : String := if b then "1" else "0"
  match args with
  | [a] => finish a
  | ["length", a] => finish (toString a.length)
  | [a, op, b] =>
    match int? a, int? b with
    | some x, some y =>
      match op with
      | "+" => finish (toString (x + y))
      | "-" => finish (toString (x - y))
      | "*" => finish (toString (x * y))
      | "/" =>
        if y = 0 then
          complain "expr: division by zero"
          return 2
        else finish (toString (x.tdiv y))
      | "%" =>
        if y = 0 then
          complain "expr: division by zero"
          return 2
        else finish (toString (x.tmod y))
      | "=" => finish (ofBool (x == y))
      | "!=" => finish (ofBool (x != y))
      | "<" => finish (ofBool (x < y))
      | "<=" => finish (ofBool (x ≤ y))
      | ">" => finish (ofBool (x > y))
      | ">=" => finish (ofBool (x ≥ y))
      | _ =>
        complain "expr: syntax error"
        return 2
    | _, _ =>
      match op with
      | "=" => finish (ofBool (a == b))
      | "!=" => finish (ofBool (a != b))
      | ":" =>
        match Regex.ofText? false b with
        | some alts =>
          match Regex.search alts a.toList with
          | some (0, stop, caps) =>
            match caps.lookup 1 with
            | some (x, y) => finish (String.ofList (Regex.slice a.toList x y))
            | none => finish (toString stop)
          | _ => finish "0"
        | none => return 2
      | _ =>
        complain "expr: non-integer argument"
        return 2
  | _ =>
    complain "expr: syntax error"
    return 2

/-- Ends the script when it sends itself a signal. -/
def kill (args : List String) : Act Nat := do
  let complainOf (text : String) (status : Nat) : Act Nat := do
    complainHere ("kill: " ++ text)
    return status
  let (silent, targets) := match args with
    | "-s" :: signal :: rest => (signal == "0", rest)
    | a :: rest => if a.startsWith "-" then (a == "-0", rest) else (false, args)
    | [] => (false, [])
  match targets with
  | [] =>
    complainOf
      "Usage: kill [-s sigspec | -signum | -sigspec] [pid | job]... or\nkill -l [exitstatus]" 2
  | target :: _ =>
    if target = Session.ownNumber then
      if !silent then modify fun s => { s with flow := .killed }
      return 0
    else if target.all Char.isDigit then complainOf "No such process\n" 1
    else complainOf ("Illegal number: " ++ target) 2

/-! ### Printing -/

/-- Writes a text, and complains if this is not possible. -/
def sayOrComplain (tool text : String) : Act Nat := do
  if ← emit 1 text then return 0
  else
    complainHere (tool ++ ": " ++ tool ++ ": I/O error")
    return 1

def printfCommand (args : List String) : Act Nat := do
  match args with
  | [] =>
    complainHere "printf: usage: printf format [arg ...]"
    return 2
  | "--" :: format :: rest => print format rest
  | format :: rest =>
    match format.toList with
    | '-' :: c :: _ =>
      complainHere ("printf: Illegal option -" ++ c.toString)
      return 2
    | _ => print format rest
where
  /-- Prints arguments by a format. -/
  print (format : String) (args : List String) : Act Nat := do
    let p := printf format args
    let status ← sayOrComplain "printf" (String.ofList p.out)
    for c in p.complaints do
      complainHere ("printf: " ++ c)
    return if p.complaints.isEmpty then status else if p.stop then 2 else 1

/-- The program with a name, if it needs no other ones. -/
def find? (name : String) : Option (List String → Act Nat) :=
  match name with
  | "cat" => some cat
  | "tee" => some tee
  | "head" => some head
  | "tail" => some tail
  | "wc" => some wc
  | "tr" => some tr
  | "rev" => some rev
  | "cut" => some cut
  | "sort" => some sort
  | "uniq" => some uniq
  | "grep" => some grep
  | "sed" => some sed
  | "seq" => some seq
  | "basename" => some basename
  | "dirname" => some dirname
  | "ls" => some ls
  | "rm" => some rm
  | "touch" => some touch
  | "expr" => some expr
  | "kill" => some kill
  | "echo" => some fun args => sayOrComplain "echo" (echo args)
  | "printf" => some printfCommand
  | "test" => some (test "test")
  | "[" => some bracket
  | "true" => some fun _ => return 0
  | "false" => some fun _ => return 1
  | "sleep" => some fun _ => return 0
  | "pwd" => some fun _ => do
    say ("/" ++ "/".intercalate Files.workplace ++ "\n")
    return 0
  | _ => none

end CodeOutline.Shell.Utility
