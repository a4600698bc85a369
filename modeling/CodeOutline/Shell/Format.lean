/-
Escapes and formats in the arguments of commands that print.
-/
import CodeOutline.Shell.Word

namespace CodeOutline.Shell

/-- The character that a backslash and a letter stand for. -/
def escapeOf? : Char → Option Char
  | 'a' => some (Char.ofNat 7)
  | 'b' => some (Char.ofNat 8)
  | 'f' => some (Char.ofNat 12)
  | 'n' => some '\n'
  | 'r' => some '\r'
  | 't' => some '\t'
  | 'v' => some (Char.ofNat 11)
  | '\\' => some '\\'
  | _ => none

/-- An octal digit. -/
def octal? (c : Char) : Option Nat := if '0' ≤ c ∧ c ≤ '7' then some (c.toNat - '0'.toNat) else none

/-- Up to a number of octal digits in front of a text: their value, and how many there are. -/
def octalRun : Nat → Nat → List Char → Nat × Nat
  | 0, value, _ => (value, 0)
  | n + 1, value, cs =>
    match cs with
    | [] => (value, 0)
    | c :: rest =>
      match octal? c with
      | some d =>
        let (total, count) := octalRun n (value * 8 + d) rest
        (total, count + 1)
      | none => (value, 0)

/-- The character with an octal number. -/
def octalChar (value : Nat) : Char := Char.ofNat (value % 256)

/-! ### Echo -/

/-- What an argument prints in which backslashes start escapes, and whether the output ends there.
The first number counts the characters that belong to an escape before them. -/
def unescape : Nat → List Char → List Char × Bool
  | _, [] => ([], false)
  | skip + 1, _ :: rest => unescape skip rest
  | 0, '\\' :: rest =>
    match rest with
    | 'c' :: _ => ([], true)
    | '0' :: digits =>
      let (value, count) := octalRun 3 0 digits
      let (out, stop) := unescape (count + 1) rest
      (octalChar value :: out, stop)
    | c :: _ =>
      match escapeOf? c with
      | some b =>
        let (out, stop) := unescape 1 rest
        (b :: out, stop)
      | none =>
        let (out, stop) := unescape 0 rest
        ('\\' :: out, stop)
    | [] => (['\\'], false)
  | 0, c :: rest =>
    let (out, stop) := unescape 0 rest
    (c :: out, stop)

/-- What `echo` prints. -/
def echo : List String → String
  | "-n" :: args => String.ofList (unescape 0 (" ".intercalate args).toList).1
  | args =>
    let (out, stop) := unescape 0 (" ".intercalate args).toList
    String.ofList (if stop then out else out ++ ['\n'])

/-! ### Formats -/

/-- A directive of a format: its flags, its least width, its precision, and its letter. -/
structure Directive where
  left : Bool
  zero : Bool
  plus : Bool
  space : Bool
  alternate : Bool
  width : Nat
  precision : Option Nat
  letter : Char

/-- The natural number with the digits at the start of a text, and the rest. -/
def leadingNat (cs : List Char) : Nat × List Char :=
  let (digits, rest) := cs.span Char.isDigit
  (digits.foldl (fun n c => n * 10 + (c.toNat - '0'.toNat)) 0, rest)

/-- The directive at the start of a text, and the number of its characters. -/
def directive? (cs : List Char) : Option (Directive × Nat) :=
  let (flags, rest) := cs.span fun c => c == '-' || c == '0' || c == '+' || c == ' ' || c == '#'
  let (width, rest) := leadingNat rest
  let (precision, rest) := match rest with
    | '.' :: rest =>
      let (p, rest) := leadingNat rest
      (some p, rest)
    | rest => (none, rest)
  match rest with
  | [] => none
  | letter :: rest =>
    some
      (⟨flags.contains '-', flags.contains '0', flags.contains '+', flags.contains ' ',
        flags.contains '#', width, precision, letter⟩, cs.length - rest.length)

/-- Fills a text up to the width of a directive. -/
def Directive.pad (d : Directive) (text : List Char) : List Char :=
  let fill := List.replicate (d.width - text.length) ' '
  if d.left then text ++ fill else fill ++ text

/-- A number with a sign as a directive wants it. -/
def Directive.number (d : Directive) (sign digits : List Char) : List Char :=
  let digits := List.replicate (d.precision.getD 1 - digits.length) '0' ++ digits
  let digits :=
    if d.zero ∧ !d.left ∧ d.precision.isNone then
      List.replicate (d.width - sign.length - digits.length) '0' ++ digits
    else digits
  d.pad (sign ++ digits)

/-- The integer that an argument stands for, and whether all of it does. -/
def integerOf (arg : String) : Int × Bool :=
  let cs := arg.toList.dropWhile Char.isWhitespace
  match cs with
  | ['\'', c] => ((c.toNat : Int), true)
  | ['"', c] => ((c.toNat : Int), true)
  | cs =>
    let (negative, cs) := match cs with
      | '-' :: rest => (true, rest)
      | '+' :: rest => (false, rest)
      | rest => (false, rest)
    let (base, digits) := match cs with
      | '0' :: 'x' :: rest => (16, rest)
      | '0' :: 'X' :: rest => (16, rest)
      | '0' :: rest => (8, '0' :: rest)
      | rest => (10, rest)
    let value (c : Char) : Option Nat :=
      (if c.isDigit then some (c.toNat - '0'.toNat)
      else if 'a' ≤ c.toLower ∧ c.toLower ≤ 'f' then some (c.toLower.toNat - 'a'.toNat + 10)
      else none).filter (· < base)
    let (used, rest) := digits.span fun c => (value c).isSome
    let n := used.foldl (fun n c => n * base + (value c).getD 0) 0
    (if negative then -(n : Int) else n, rest.isEmpty && !used.isEmpty)

/-- What a directive prints for an argument, and whether the output ends there. -/
def Directive.print (d : Directive) (arg : String) : List Char × Bool :=
  let cut (cs : List Char) : List Char := match d.precision with
    | some p => cs.take p
    | none => cs
  let unsigned (base : Nat) (mark : String) : List Char :=
    let n := (integerOf arg).1 % UInt64.size
    d.number (if d.alternate ∧ n ≠ 0 then mark.toList else []) (Nat.toDigits base n.toNat)
  match d.letter with
  | 's' => (d.pad (cut arg.toList), false)
  | 'b' =>
    let (out, stop) := unescape 0 arg.toList
    (d.pad (cut out), stop)
  | 'c' => (d.pad (arg.toList.take 1), false)
  | 'd' | 'i' =>
    let n := (integerOf arg).1
    let sign := if n < 0 then ['-'] else if d.plus then ['+'] else if d.space then [' '] else []
    (d.number sign (Nat.toDigits 10 n.natAbs), false)
  | 'u' => (unsigned 10 "", false)
  | 'o' => (unsigned 8 "0", false)
  | 'x' => (unsigned 16 "0x", false)
  | 'X' => ((unsigned 16 "0x").map Char.toUpper, false)
  | _ => ([], false)

/-- The letters of directives. -/
def directiveLetters : List Char := ['s', 'b', 'c', 'd', 'i', 'u', 'o', 'x', 'X']

/-- Whether a directive wants a number. -/
def Directive.isNumeric (d : Directive) : Bool := d.letter ∈ ['d', 'i', 'u', 'o', 'x', 'X']

/-- What printing with a format has come to. -/
structure Printed where
  out : List Char
  rest : List String
  /-- Arguments that are no numbers, with what is wrong with each. -/
  complaints : List String := []
  stop : Bool := false

/-- What comes before something that is printed. -/
def Printed.after (p : Printed) (cs : List Char) : Printed := { p with out := cs ++ p.out }

/-- The complaint about an argument that should be a number. -/
def numberComplaint? (arg : String) : Option String :=
  let (_, whole) := integerOf arg
  if whole then none
  else
    match (arg.toList.dropWhile Char.isWhitespace).head? with
    | none => none
    | some c =>
      if c.isDigit || c == '-' && arg.length > 1 then some (arg ++ ": not completely converted")
      else some (arg ++ ": expected numeric value")

/-- One use of a format.  The first number counts the characters that belong to an escape before
them. -/
def formatOnce : Nat → List Char → List String → Printed
  | _, [], args => { out := [], rest := args }
  | skip + 1, _ :: rest, args => formatOnce skip rest args
  | 0, '\\' :: rest, args =>
    match rest with
    | [] => { out := ['\\'], rest := args }
    | 'c' :: _ => { out := [], rest := args, stop := true }
    | c :: _ =>
      let (value, count) := octalRun 3 0 rest
      if 0 < count then (formatOnce count rest args).after [octalChar value]
      else
        match escapeOf? c with
        | some b => (formatOnce 1 rest args).after [b]
        | none => (formatOnce 0 rest args).after ['\\']
  | 0, '%' :: rest, args =>
    match rest with
    | '%' :: _ => (formatOnce 1 rest args).after ['%']
    | _ =>
      match directive? rest with
      | none => { out := ['%'], rest := args }
      | some (d, count) =>
        if d.letter ∈ directiveLetters then
          let arg := args.headD ""
          let (out, stop) := d.print arg
          if stop then { out, rest := args.tail, stop := true }
          else
            let p := (formatOnce count rest args.tail).after out
            if d.isNumeric then
              { p with complaints := (numberComplaint? arg).toList ++ p.complaints }
            else p
        else
          { out := [], rest := args,
            complaints := ["%" ++ String.ofList (rest.take count) ++ ": invalid directive"],
            stop := true }
  | 0, c :: rest, args => (formatOnce 0 rest args).after [c]

/-- A format that is used again while it takes arguments and there are some left. -/
def formatAll : Nat → List Char → List String → Printed
  | 0, _, args => { out := [], rest := args }
  | n + 1, format, args =>
    let p := formatOnce 0 format args
    if p.stop || p.rest.isEmpty || p.rest.length = args.length then p
    else
      let q := (formatAll n format p.rest).after p.out
      { q with complaints := p.complaints ++ q.complaints }

/-- What `printf` prints. -/
def printf (format : String) (args : List String) : Printed :=
  formatAll (args.length + 1) format.toList args

end CodeOutline.Shell
