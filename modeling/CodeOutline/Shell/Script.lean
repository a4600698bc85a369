/-
Scripts of the command language.

Reading a script has two passes.  The first one gives words, operators and documents; what is wrong
with the text of a word becomes a unit of its own, so that all before it can be used.  The second
one gives steps, one line at a time.
-/
import CodeOutline.Shell.Word

namespace CodeOutline.Shell

/-! ### Units -/

/-- A unit of a script. -/
inductive Lexeme where
  | word (w : Word)
  | operator (op : String)
  /-- A redirection of a channel, to be followed by its target. -/
  | redirection (channel : Option Nat) (op : String)
  /-- The document with a number. -/
  | here (id : Nat)
  | newline
  /-- Something that is wrong. -/
  | fault (reason : String)
deriving DecidableEq, Repr

/-- A unit with its line. -/
structure Token where
  lexeme : Lexeme
  line : Nat

/-- A document that is announced: its number, the line that ends it, whether tabs at the start of
its lines are dropped, and whether it has substitutions. -/
structure Announced where
  id : Nat
  ending : String
  dropTabs : Bool
  literal : Bool

/-- What has been read: the units, last first, and the documents. -/
structure Scan where
  tokens : List Token := []
  line : Nat := 1
  announced : List Announced := []
  documents : List (Nat × Word) := []

namespace Scan

def push (s : Scan) (l : Lexeme) : Scan := { s with tokens := ⟨l, s.line⟩ :: s.tokens }

/-- The number of line feeds between two ends of a text. -/
def linesBetween (before after : List Char) : Nat :=
  (before.take (before.length - after.length)).count '\n'

/-- The lines of a document up to its end, and the rest. -/
def documentLines (a : Announced) : Nat → List String → List Char → List String × List Char
  | 0, acc, cs => (acc.reverse, cs)
  | _ + 1, acc, [] => (acc.reverse, [])
  | n + 1, acc, cs =>
    let (line, rest) := cs.span (· ≠ '\n')
    let line := if a.dropTabs then line.dropWhile (· = '\t') else line
    if String.ofList line = a.ending then (acc.reverse, rest.drop 1)
    else
      documentLines a n ((String.ofList line ++ String.ofList (rest.take 1)) :: acc) (rest.drop 1)

/-- Reads the documents that have been announced. -/
def readDocuments (s : Scan) (cs : List Char) : Scan × List Char :=
  s.announced.reverse.foldl (fun (s, cs) a =>
    let (lines, rest) := documentLines a (cs.length + 1) [] cs
    let text := String.join lines
    let word : Word :=
      if a.literal then text.toList.map fun c => Part.char c true
      else (wholeWord .document text).toOption.getD []
    ({ s with documents := (a.id, word) :: s.documents, line := s.line + linesBetween cs rest },
      rest))
    ({ s with announced := [] }, cs)

/-- The operators, longer ones before shorter ones. -/
def operators : List String :=
  ["<<-", "<<", "<&", "<>", "<", ">>", ">&", ">|", ">", "&&", "&", "||", "|", ";;", ";", "(", ")"]

/-- Reads an operator. -/
def readOperator (s : Scan) (channel : Option Nat) (op : String) (rest : List Char) :
    Scan × List Char :=
  if op = "<<" ∨ op = "<<-" then
    let s := s.push (.redirection channel "<<")
    match splitWord (rest.dropWhile isBlank) with
    | .error reason => (s.push (.fault reason), [])
    | .ok ([], rest) => (s, rest)
    | .ok (w, rest) =>
      let id := s.tokens.length
      let a : Announced := ⟨id, unquoted w, op == "<<-", hasQuotes w⟩
      ({ s.push (.here id) with announced := a :: s.announced }, rest)
  else if op.startsWith "<" ∨ op.startsWith ">" then (s.push (.redirection channel op), rest)
  else (s.push (.operator op), rest)

/-- The operator at the start of a text. -/
def operatorAt? (cs : List Char) : Option String :=
  operators.find? fun op => op.toList.isPrefixOf cs

/-- The channel that digits name right before a redirection, and the rest. -/
def channel (cs : List Char) : Option Nat × List Char :=
  match cs.span Char.isDigit with
  | ([], _) => (none, cs)
  | (digits, c :: rest) =>
    if c = '<' ∨ c = '>' then
      (some (digits.foldl (fun n d => n * 10 + (d.toNat - '0'.toNat)) 0), c :: rest)
    else (none, cs)
  | _ => (none, cs)

/-- Reads units.  The number bounds the steps. -/
def run : Nat → Scan → List Char → Scan
  | 0, s, _ => s
  | _ + 1, s, [] => s
  | n + 1, s, c :: rest =>
    if isBlank c then run n s rest
    else if c = '\n' then
      let (s, rest) := ({ s with line := s.line + 1 }.push .newline).readDocuments rest
      run n s rest
    else if c = '#' then run n s (rest.dropWhile (· ≠ '\n'))
    else if c = '\\' ∧ rest.head? = some '\n' then run n { s with line := s.line + 1 } (rest.drop 1)
    else
      let (number, cs) := channel (c :: rest)
      match operatorAt? cs with
      | some op =>
        let (s, rest) := s.readOperator number op (cs.drop op.length)
        run n s rest
      | none =>
        match splitWord (c :: rest) with
        | .error reason => { s with line := s.line + rest.count '\n' }.push (.fault reason)
        | .ok (w, after) =>
          run n { s.push (.word w) with line := s.line + linesBetween (c :: rest) after } after

end Scan

/-! ### Commands -/

/-- When a step runs. -/
inductive Condition where
  | always
  | onSuccess
  | onFailure
deriving DecidableEq, Repr

/-- A redirection of a channel. -/
structure Redirection where
  channel : Nat
  op : String
  target : Word
deriving DecidableEq, Repr

mutual

/-- A command with its line in the script. -/
inductive Command where
  | simple (words : List Word) (redirections : List Redirection) (line : Nat)
  | compound (body : Compound) (redirections : List Redirection) (line : Nat)
  | define (name : String) (body : Command) (line : Nat)

/-- A command that is made of commands. -/
inductive Compound where
  | group (body : List Step)
  | subshell (body : List Step)
  | choose (branches : List (List Step × List Step)) (otherwise : List Step)
  | loop (whileFails : Bool) (test body : List Step)
  | each (name : String) (words : Option (List Word)) (body : List Step)
  | select (subject : Word) (arms : List (List Word × List Step))

/-- A pipeline with the condition under which it runs. -/
inductive Step where
  | mk (condition : Condition) (negated background : Bool) (commands : List Command)

end

/-! ### Grammar -/

/-- Words that have a meaning of their own at the start of a command. -/
def reservedWords : List String :=
  ["!", "case", "do", "done", "elif", "else", "esac", "fi", "for", "if", "in", "then",
    "until", "while", (Char.ofNat 123).toString, (Char.ofNat 125).toString]

/-- The reserved word that a unit is. -/
def reserved? : Lexeme → Option String
  | .word w => (literal? w).filter (· ∈ reservedWords)
  | _ => none

/-- A unit in the words of a complaint. -/
def Lexeme.shown : Lexeme → String
  | .word w =>
    match reserved? (.word w) with
    | some s => "\"" ++ s ++ "\""
    | none => "word"
  | .operator op => "\"" ++ op ++ "\""
  | .redirection .. => "redirection"
  | .here _ => "word"
  | .newline => "newline"
  | .fault reason => reason

/-- A place where a script is wrong. -/
structure SyntaxFault where
  reason : String
  line : Nat

/-- A reader of units. -/
abbrev Grammar (α : Type) := List Token → Except SyntaxFault (α × List Token)

namespace Grammar

/-- The fault of a unit that does not fit, with what would have fitted. -/
def unexpected (expecting : Option String) : List Token → SyntaxFault
  | [] => ⟨"end of file unexpected" ++ expectation expecting, 0⟩
  | ⟨.fault reason, line⟩ :: _ => ⟨reason, line⟩
  | ⟨l, line⟩ :: _ => ⟨l.shown ++ " unexpected" ++ expectation expecting, line⟩
where
  /-- The words for what would have fitted. -/
  expectation : Option String → String
    | some e => " (expecting \"" ++ e ++ "\")"
    | none => ""

def skipNewlines (ts : List Token) : List Token := ts.dropWhile fun t => t.lexeme == .newline

/-- Whether a reserved word comes next. -/
def atReserved (word : String) : List Token → Bool
  | t :: _ => reserved? t.lexeme == some word
  | [] => false

/-- Reads a reserved word. -/
def expectWord (word : String) (ts : List Token) : Except SyntaxFault (List Token) :=
  if atReserved word ts then .ok (ts.drop 1) else .error (unexpected (some word) ts)

def openBrace : String := (Char.ofNat 123).toString

def closeBrace : String := (Char.ofNat 125).toString

/-- The words that end a list of steps. -/
def closers : List String := ["then", "do", "done", "fi", "else", "elif", "esac", closeBrace]

/-- Whether a list of steps ends here. -/
def atEnd : List Token → Bool
  | [] => true
  | t :: _ =>
    match t.lexeme with
    | .operator op => op == ")" || op == ";;"
    | l => (reserved? l).any (· ∈ closers)

/-- Reads a redirection, if there is one. -/
def redirection? (documents : List (Nat × Word)) :
    List Token → Except SyntaxFault (Option Redirection × List Token)
  | ⟨.redirection channel op, _⟩ :: rest =>
    let standard := if op.startsWith "<" then 0 else 1
    match rest with
    | ⟨.here id, _⟩ :: rest =>
      .ok (some ⟨channel.getD standard, op, (documents.lookup id).getD []⟩, rest)
    | ⟨.word w, line⟩ :: rest =>
      let isChannel (name : String) : Bool := name.all Char.isDigit || name == "-"
      if (op = "<&" ∨ op = ">&") ∧ (literal? w).any (!isChannel ·) then
        .error ⟨"Bad fd number", match rest with
          | ⟨.newline, next⟩ :: _ => next
          | _ => line⟩
      else .ok (some ⟨channel.getD standard, op, w⟩, rest)
    | ts => .error (unexpected none ts)
  | ts => .ok (none, ts)

/-- Reads redirections. -/
def redirections (documents : List (Nat × Word)) :
    Nat → List Redirection → Grammar (List Redirection)
  | 0, acc, ts => .ok (acc.reverse, ts)
  | n + 1, acc, ts => do
    match ← redirection? documents ts with
    | (some r, rest) => redirections documents n (r :: acc) rest
    | (none, rest) => return (acc.reverse, rest)

/-- Reads the words and redirections of a simple command. -/
def simple (documents : List (Nat × Word)) :
    Nat → List Word → List Redirection → Grammar (List Word × List Redirection)
  | 0, ws, rs, ts => .ok ((ws.reverse, rs.reverse), ts)
  | n + 1, ws, rs, ts => do
    match ts with
    | ⟨.word w, _⟩ :: rest => simple documents n (w :: ws) rs rest
    | ⟨.fault reason, line⟩ :: _ => .error ⟨reason, line⟩
    | _ =>
      match ← redirection? documents ts with
      | (some r, rest) => simple documents n ws (r :: rs) rest
      | (none, rest) => return ((ws.reverse, rs.reverse), rest)

/-- Reads words up to the end of a line. -/
def wordsOfLine : List Word → List Token → List Word × List Token
  | ws, ⟨.word w, _⟩ :: rest => wordsOfLine (w :: ws) rest
  | ws, ts => (ws.reverse, ts)

/-- Skips a semicolon or line feeds. -/
def skipSeparator : List Token → List Token
  | ⟨.operator ";", _⟩ :: rest => skipNewlines rest
  | ts => skipNewlines ts

/-- Reads the patterns of an arm. -/
def patterns : Nat → List Word → Grammar (List Word)
  | 0, _, ts => .error (unexpected none ts)
  | n + 1, ws, ts =>
    match ts with
    | ⟨.word w, _⟩ :: ⟨.operator "|", _⟩ :: rest => patterns n (w :: ws) rest
    | ⟨.word w, _⟩ :: ⟨.operator ")", _⟩ :: rest => .ok ((w :: ws).reverse, rest)
    | ⟨.fault reason, line⟩ :: _ => .error ⟨reason, line⟩
    | ts => .error (unexpected (some ")") (ts.drop 1))

mutual

/-- Reads steps up to the end of a list. -/
def steps (documents : List (Nat × Word)) : Nat → Condition → List Step → Grammar (List Step)
  | 0, _, _, ts => .error (unexpected none ts)
  | n + 1, condition, acc, ts => do
    let ts := skipNewlines ts
    if atEnd ts ∧ condition = .always then return (acc.reverse, ts)
    else
      let (acc, next, ts) ← stepAnd documents n condition acc ts
      match next with
      | some c => steps documents n c acc ts
      | none => return (acc.reverse, ts)

/-- Reads a pipeline and the operator after it, which gives the condition of the next one. -/
def stepAnd (documents : List (Nat × Word)) :
    Nat → Condition → List Step → List Token →
      Except SyntaxFault (List Step × Option Condition × List Token)
  | 0, _, _, ts => .error (unexpected none ts)
  | n + 1, condition, acc, ts => do
    let negated := atReserved "!" ts
    let (commands, rest) ← pipeline documents n [] (if negated then ts.drop 1 else ts)
    let step (background : Bool) := Step.mk condition negated background commands :: acc
    match rest with
    | ⟨.operator "&&", _⟩ :: rest => return (step false, some .onSuccess, skipNewlines rest)
    | ⟨.operator "||", _⟩ :: rest => return (step false, some .onFailure, skipNewlines rest)
    | ⟨.operator ";", _⟩ :: rest => return (step false, some .always, rest)
    | ⟨.operator "&", _⟩ :: rest => return (step true, some .always, rest)
    | ⟨.newline, _⟩ :: _ => return (step false, some .always, rest)
    | _ => return (step false, none, rest)

/-- Reads the commands of a pipeline. -/
def pipeline (documents : List (Nat × Word)) : Nat → List Command → Grammar (List Command)
  | 0, _, ts => .error (unexpected none ts)
  | n + 1, acc, ts => do
    let (c, rest) ← command documents n ts
    match rest with
    | ⟨.operator "|", _⟩ :: rest => pipeline documents n (c :: acc) (skipNewlines rest)
    | _ => return ((c :: acc).reverse, rest)

/-- Reads steps and the word that closes them. -/
def block (documents : List (Nat × Word)) : Nat → String → Grammar (List Step)
  | 0, _, ts => .error (unexpected none ts)
  | n + 1, closer, ts => do
    let (body, rest) ← steps documents n .always [] ts
    if body.isEmpty ∧ !rest.isEmpty then .error (unexpected none rest)
    else return (body, ← expectWord closer rest)

/-- Reads the branches of a condition after its first word. -/
def branches (documents : List (Nat × Word)) :
    Nat → List (List Step × List Step) → Grammar (List (List Step × List Step) × List Step)
  | 0, _, ts => .error (unexpected none ts)
  | n + 1, acc, ts => do
    let (test, rest) ← block documents n "then" ts
    let (body, rest) ← steps documents n .always [] rest
    if body.isEmpty ∧ !rest.isEmpty then .error (unexpected none rest)
    else
      let acc := (test, body) :: acc
      if atReserved "elif" rest then branches documents n acc (rest.drop 1)
      else if atReserved "else" rest then
        let (otherwise, rest) ← block documents n "fi" (rest.drop 1)
        return ((acc.reverse, otherwise), rest)
      else return ((acc.reverse, []), ← expectWord "fi" rest)

/-- Reads the arms of a selection. -/
def arms (documents : List (Nat × Word)) :
    Nat → List (List Word × List Step) → Grammar (List (List Word × List Step))
  | 0, _, ts => .error (unexpected none ts)
  | n + 1, acc, ts => do
    let ts := skipNewlines ts
    if atReserved "esac" ts then return (acc.reverse, ts.drop 1)
    else
      let ts := match ts with
        | ⟨.operator "(", _⟩ :: rest => rest
        | ts => ts
      let (ws, rest) ← patterns (ts.length + 1) [] ts
      let (body, rest) ← steps documents n .always [] rest
      match rest with
      | ⟨.operator ";;", _⟩ :: rest => arms documents n ((ws, body) :: acc) rest
      | _ =>
        if atReserved "esac" rest then return (((ws, body) :: acc).reverse, rest.drop 1)
        else .error (unexpected (some ";;") rest)

/-- Reads a command. -/
def command (documents : List (Nat × Word)) : Nat → Grammar Command
  | 0, ts => .error (unexpected none ts)
  | n + 1, ts => do
    let line := (ts.head?.map Token.line).getD 0
    let finish (body : Compound) (rest : List Token) : Except SyntaxFault (Command × List Token) :=
      do
      let (rs, rest) ← redirections documents (rest.length + 1) [] rest
      return (.compound body rs line, rest)
    match ts with
    | [] => .error (unexpected none ts)
    | ⟨.operator "(", _⟩ :: rest =>
      let (body, rest) ← steps documents n .always [] rest
      match rest with
      | ⟨.operator ")", _⟩ :: after =>
        if body.isEmpty then .error (unexpected none rest) else finish (.subshell body) after
      | _ => .error (unexpected (some ")") rest)
    | ⟨l, _⟩ :: rest =>
      match reserved? l with
      | some "if" =>
        let ((bs, otherwise), rest) ← branches documents n [] rest
        finish (.choose bs otherwise) rest
      | some "while" =>
        let (test, rest) ← block documents n "do" rest
        let (body, rest) ← block documents n "done" rest
        finish (.loop false test body) rest
      | some "until" =>
        let (test, rest) ← block documents n "do" rest
        let (body, rest) ← block documents n "done" rest
        finish (.loop true test body) rest
      | some "for" =>
        match rest with
        | ⟨.word w, _⟩ :: rest =>
          match literal? w with
          | none => .error ⟨"Bad for loop variable", line⟩
          | some name =>
            if !isName name then .error ⟨"Bad for loop variable", line⟩
            else
              let rest := skipNewlines rest
              let (words, rest) :=
                if atReserved "in" rest then
                  let (ws, rest) := wordsOfLine [] (rest.drop 1)
                  (some ws, rest)
                else (none, rest)
              let rest ← expectWord "do" (skipSeparator rest)
              let (body, rest) ← block documents n "done" rest
              finish (.each name words body) rest
        | ts => .error ⟨"Bad for loop variable", (ts.head?.map Token.line).getD line⟩
      | some "case" =>
        match rest with
        | ⟨.word w, _⟩ :: rest =>
          let rest ← expectWord "in" (skipNewlines rest)
          let (as, rest) ← arms documents n [] rest
          finish (.select w as) rest
        | ts =>
          let fault := unexpected none ts
          .error
            (if ts matches ⟨.fault _, _⟩ :: _ then fault
            else { fault with reason := fault.reason ++ " (expecting word)" })
      | some word =>
        if word = openBrace then
          let (body, rest) ← block documents n closeBrace rest
          finish (.group body) rest
        else .error (unexpected none ts)
      | none =>
        match l with
        | .operator _ | .newline | .fault _ => .error (unexpected none ts)
        | _ =>
          if let .word w := l then
            if let (⟨.operator "(", _⟩ :: rest, none) := (rest, assignment? w) then
              match rest, (literal? w).getD "" with
              | ⟨.operator ")", _⟩ :: rest, name =>
                if !isName name then .error ⟨"Bad function name", line⟩
                else
                  let (body, rest) ← command documents n (skipNewlines rest)
                  return (.define name body line, rest)
              | _, _ => .error (unexpected (some ")") rest)
          let ((ws, rs), rest) ← simple documents (ts.length + 1) [] [] ts
          return (.simple ws rs line, rest)

end

/-- Reads the steps of a line. -/
def line (documents : List (Nat × Word)) : Nat → Condition → List Step → Grammar (List Step)
  | 0, _, _, ts => .error (unexpected none ts)
  | n + 1, condition, acc, ts => do
    match ts, condition with
    | ⟨.newline, _⟩ :: rest, .always => return (acc.reverse, rest)
    | [], .always => return (acc.reverse, [])
    | ts, _ =>
      let (acc, next, rest) ← stepAnd documents n condition acc ts
      match next, rest with
      | some c, _ => line documents n c acc rest
      | none, [] => return (acc.reverse, [])
      | none, rest => .error (unexpected none rest)

end Grammar

/-- A script that is being read: its units, its documents, and its last line. -/
structure Pages where
  tokens : List Token
  documents : List (Nat × Word)
  lastLine : Nat

/-- The units of a text that starts at a line. -/
def Pages.ofText (line : Nat) (text : String) : Pages :=
  let s := Scan.run (text.length + 1) { line } text.toList
  ⟨s.tokens.reverse, s.documents, s.line⟩

/-- The steps of the next line, and what comes after it. -/
def Pages.nextLine (p : Pages) : Except SyntaxFault (List Step × Pages) :=
  match Grammar.line p.documents (4 * p.tokens.length + 16) .always [] p.tokens with
  | .ok (steps, rest) => .ok (steps, { p with tokens := rest })
  | .error f => .error (if f.line = 0 then { f with line := p.lastLine } else f)

end CodeOutline.Shell
