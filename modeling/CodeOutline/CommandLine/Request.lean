/-
What the arguments of a command line ask for.

Arguments are read from left to right, and the first one that is wrong, or that asks for help or for
the version, decides.  A switch is a long name after two dashes or a letter after one.  Letters may
stand together; the first one that takes a value takes the rest of its argument.  A value that is an
argument of its own does not look like a switch.
-/
import CodeOutline.Checker
import CodeOutline.Keyword
import CodeOutline.Options.Basic
import CodeOutline.Report

namespace CodeOutline.CommandLine

/-- What a report looks like. -/
inductive Style where
  | json
  | text
deriving DecidableEq, Repr

namespace Style

/-- All styles. -/
def all : List Style := [.json, .text]

def name : Style → String
  | .json => "json"
  | .text => "text"

/-- The style of a name. -/
def ofName? (s : String) : Option Style := all.find? fun style => style.name = s

theorem ofName?_name (style : Style) : ofName? style.name = some style := by cases style <;> rfl

end Style

/-- What a command line asks for. -/
structure Request where
  /-- The files that hold syntax trees. -/
  inputs : List String := []
  /-- The files that hold source texts. -/
  sources : List String := []
  checker : Option String := none
  output : Option String := none
  style : Option Style := none
  pretty : Bool := false
  config : Option String := none
  keywords : List Keyword := []
  allKeywords : Bool := false
  noArgs : Bool := false
  maxDepth : Option UInt64 := none
  verbose : Bool := false
deriving DecidableEq, Repr

/-- Why there is no request. -/
inductive Interruption where
  /-- The arguments are wrong. -/
  | usage
  | help
  | version
deriving DecidableEq, Repr

/-- A switch with a value. -/
inductive Setting where
  | input
  | source
  | checker
  | output
  | style
  | config
  | keyword
  | maxDepth
deriving DecidableEq, Repr

/-- A switch without a value. -/
inductive Flag where
  | pretty
  | allKeywords
  | noArgs
  | verbose
deriving DecidableEq, Repr

inductive Switch where
  | setting (s : Setting)
  | flag (f : Flag)
  | help
  | version
deriving DecidableEq, Repr

/-- The long name. -/
def Setting.name : Setting → String
  | .input => "input"
  | .source => "source"
  | .checker => "flow-bin"
  | .output => "output"
  | .style => "format"
  | .config => "config"
  | .keyword => "show-keyword"
  | .maxDepth => "max-depth"

/-- The long name. -/
def Flag.name : Flag → String
  | .pretty => "pretty"
  | .allKeywords => "all-keywords"
  | .noArgs => "no-args"
  | .verbose => "verbose"

namespace Switch

/-- All switches, in the order in which they are listed. -/
def all : List Switch :=
  [.setting .input, .setting .source, .setting .checker, .setting .output, .setting .style,
    .flag .pretty, .setting .config, .setting .keyword, .flag .allKeywords, .flag .noArgs,
    .setting .maxDepth, .flag .verbose, .help, .version]

/-- The long name. -/
def name : Switch → String
  | .setting s => s.name
  | .flag f => f.name
  | .help => "help"
  | .version => "version"

/-- The letter, if there is one. -/
def letter? : Switch → Option Char
  | .setting .input => some 'i'
  | .setting .source => some 's'
  | .setting .output => some 'o'
  | .setting .style => some 'f'
  | .setting .config => some 'c'
  | .flag .verbose => some 'v'
  | .help => some 'h'
  | .version => some 'V'
  | _ => none

/-- The switch with a long name. -/
def ofName? (s : String) : Option Switch := all.find? fun switch => switch.name = s

/-- The switch with a letter. -/
def ofLetter? (c : Char) : Option Switch := all.find? fun switch => switch.letter? = some c

theorem ofName?_name (switch : Switch) : ofName? switch.name = some switch := by
  rcases switch with s | f | _ | _
  · cases s <;> rfl
  · cases f <;> rfl
  · rfl
  · rfl

end Switch

/-- The number that decimal digits after an optional plus sign stand for, if it fits 64 bits. -/
def depth? (text : String) : Option UInt64 :=
  let digits := match text.toList with
    | '+' :: ds => ds
    | ds => ds
  let n := digits.foldl (fun n c => n * 10 + (c.toNat - '0'.toNat)) 0
  if digits.isEmpty || !digits.all Char.isDigit || UInt64.size ≤ n then none
  else some (UInt64.ofNat n)

namespace Request

/-- A path, which has at least one character. -/
def path (text : String) : Except Interruption String :=
  if text.isEmpty then .error .usage else .ok text

/-- A value that is there, or else a wrong argument. -/
def require {α : Type} : Option α → Except Interruption α
  | some a => .ok a
  | none => .error .usage

/-- A setting that may be made once. -/
def once {α : Type} (old : Option α) (new : Except Interruption α) :
    Except Interruption (Option α) :=
  match old with
  | some _ => .error .usage
  | none => new.map some

/-- The request with a setting. -/
def set (r : Request) (s : Setting) (value : String) : Except Interruption Request := do
  match s with
  | .input => return { r with inputs := r.inputs ++ [← path value] }
  | .source => return { r with sources := r.sources ++ [← path value] }
  | .checker => return { r with checker := ← once r.checker (path value) }
  | .output => return { r with output := ← once r.output (path value) }
  | .style => return { r with style := ← once r.style (require (Style.ofName? value)) }
  | .config => return { r with config := ← once r.config (path value) }
  | .keyword => return { r with keywords := r.keywords ++ [← require (Keyword.ofName? value)] }
  | .maxDepth => return { r with maxDepth := ← once r.maxDepth (require (depth? value)) }

/-- A flag that may be raised once. -/
def raiseOnce (old : Bool) : Except Interruption Bool := if old then .error .usage else .ok true

/-- The request with a flag. -/
def raise (r : Request) (f : Flag) : Except Interruption Request := do
  match f with
  | .pretty => return { r with pretty := ← raiseOnce r.pretty }
  | .allKeywords => return { r with allKeywords := ← raiseOnce r.allKeywords }
  | .noArgs => return { r with noArgs := ← raiseOnce r.noArgs }
  | .verbose => return { r with verbose := ← raiseOnce r.verbose }

end Request

/-! ### Arguments -/

/-- What has been read: the request so far, the setting whose value comes next, and whether switches
have ended. -/
structure Reading where
  request : Request := {}
  awaited : Option Setting := none
  ended : Bool := false

namespace Reading

/-- Reads letters that stand together. -/
def letters (r : Request) : List Char → Except Interruption Reading
  | [] => .ok { request := r }
  | c :: rest =>
    match Switch.ofLetter? c with
    | none => .error .usage
    | some .help => .error .help
    | some .version => .error .version
    | some (.flag f) =>
      match r.raise f with
      | .error e => .error e
      | .ok r => letters r rest
    | some (.setting s) =>
      match rest with
      | [] => .ok { request := r, awaited := some s }
      | '=' :: value => (r.set s (String.ofList value)).map fun r => { request := r }
      | value => (r.set s (String.ofList value)).map fun r => { request := r }

/-- Reads a long name, with a value after an equals sign if there is one. -/
def long (r : Request) (text : List Char) : Except Interruption Reading :=
  let (name, rest) := text.span (· ≠ '=')
  match Switch.ofName? (String.ofList name), rest with
  | none, _ => .error .usage
  | some .help, [] => .error .help
  | some .version, [] => .error .version
  | some (.flag f), [] => (r.raise f).map fun r => { request := r }
  | some (.setting s), [] => .ok { request := r, awaited := some s }
  | some (.setting s), _ :: value => (r.set s (String.ofList value)).map fun r => { request := r }
  | some _, _ :: _ => .error .usage

/-- Reads an argument. -/
def step (a : Reading) (arg : String) : Except Interruption Reading :=
  if a.ended then .error .usage
  else
    match a.awaited, arg.toList with
    | some _, '-' :: _ :: _ => .error .usage
    | some s, _ => (a.request.set s arg).map fun r => { request := r }
    | none, ['-', '-'] => .ok { a with ended := true }
    | none, '-' :: '-' :: text => long a.request text
    | none, '-' :: c :: rest => letters a.request (c :: rest)
    | none, _ => .error .usage

end Reading

/-- The request that arguments make. -/
def Request.ofArguments (args : List String) : Except Interruption Request := do
  let last ← args.foldlM Reading.step {}
  if last.awaited.isSome then .error .usage else return last.request

end CodeOutline.CommandLine
