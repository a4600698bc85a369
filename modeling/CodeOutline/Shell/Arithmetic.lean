/-
Arithmetic expressions.

Numbers have 64 bits.  An expression may read variables and change them.  Operators bind as in most
languages; both sides of a logical operator are evaluated.
-/
import CodeOutline.Shell.Word

namespace CodeOutline.Shell.Arithmetic

/-- A unit of an expression. -/
inductive Lexeme where
  | number (n : Int)
  | name (s : String)
  | op (s : String)
deriving DecidableEq

/-- The operators, longer ones before shorter ones. -/
def operators : List String :=
  ["<<=", ">>=", "<<", ">>", "<=", ">=", "==", "!=", "&&", "||", "+=", "-=", "*=", "/=", "%=", "&=",
    "|=", "^=", "+", "-", "*", "/", "%", "<", ">", "=", "!", "~", "&", "|", "^", "?", ":", "(",
    ")", ","]

/-- A digit of a base below 17. -/
def digit? (base : Nat) (c : Char) : Option Nat :=
  let value :=
    if c.isDigit then some (c.toNat - '0'.toNat)
    else if 'a' ≤ c ∧ c ≤ 'f' then some (c.toNat - 'a'.toNat + 10)
    else if 'A' ≤ c ∧ c ≤ 'F' then some (c.toNat - 'A'.toNat + 10)
    else none
  value.filter (· < base)

/-- The number with digits of a base. -/
def ofDigits? (base : Nat) (cs : List Char) : Option Int :=
  (cs.foldlM (fun (n : Nat) c => (digit? base c).map (n * base + ·)) 0).map Int.ofNat

/-- The number that a word stands for. -/
def number? (cs : List Char) : Option Int :=
  match cs with
  | '0' :: 'x' :: rest => ofDigits? 16 rest
  | '0' :: 'X' :: rest => ofDigits? 16 rest
  | '0' :: rest => ofDigits? 8 rest
  | [] => none
  | cs => ofDigits? 10 cs

/-- The number that the value of a variable stands for: a sign and a number between blanks, or
nothing. -/
def ofValue (text : String) : Except String Int :=
  let cs := text.toList.dropWhile isBlank
  let cs := (cs.reverse.dropWhile isBlank).reverse
  let found := match cs with
    | [] => some 0
    | '-' :: rest => (number? rest).map (- ·)
    | '+' :: rest => number? rest
    | cs => number? cs
  match found.filter fun n => -(Nat.pow 2 63 : Int) ≤ n ∧ n < Nat.pow 2 63 with
  | some n => .ok n
  | none => .error ("Illegal number: " ++ text)

/-- The units of an expression.  The number bounds the steps. -/
def lexemes? : Nat → List Char → Option (List Lexeme)
  | 0, _ => none
  | _ + 1, [] => some []
  | n + 1, c :: rest =>
    if isBlank c || c == '\n' then lexemes? n rest
    else if isNameChar c then do
      let (word, after) := (c :: rest).span isNameChar
      let l ← if isLetter c then some (Lexeme.name (String.ofList word))
      else (number? word).map .number
      return l :: (← lexemes? n after)
    else do
      let op ← operators.find? fun op => op.toList.isPrefixOf (c :: rest)
      return .op op :: (← lexemes? n ((c :: rest).drop op.length))

/-- A number with 64 bits. -/
def wrap (n : Int) : Int := n.bmod UInt64.size

/-- The variables as an expression sees them. -/
structure Store where
  value : String → Except String Int
  changes : List (String × Int) := []

def Store.get (s : Store) (name : String) : Except String Int :=
  match s.changes.lookup name with
  | some n => .ok n
  | none => s.value name

def Store.set (s : Store) (name : String) (n : Int) : Store :=
  { s with changes := (name, n) :: s.changes }

/-- A truth value as a number. -/
def ofBool (b : Bool) : Int := if b then 1 else 0

/-- The level of a binary operator; a higher one binds tighter. -/
def level? : String → Option Nat
  | "||" => some 1
  | "&&" => some 2
  | "|" => some 3
  | "^" => some 4
  | "&" => some 5
  | "==" => some 6
  | "!=" => some 6
  | "<" => some 7
  | "<=" => some 7
  | ">" => some 7
  | ">=" => some 7
  | "<<" => some 8
  | ">>" => some 8
  | "+" => some 9
  | "-" => some 9
  | "*" => some 10
  | "/" => some 10
  | "%" => some 10
  | _ => none

/-- The lowest 64 bits as a natural number. -/
def bits (n : Int) : Nat := (n % UInt64.size).toNat

/-- The value of a binary operator. -/
def apply (op : String) (a b : Int) : Except String Int :=
  match op with
  | "||" => .ok (ofBool (a != 0 || b != 0))
  | "&&" => .ok (ofBool (a != 0 && b != 0))
  | "|" => .ok (wrap (bits a ||| bits b : Nat))
  | "^" => .ok (wrap (bits a ^^^ bits b : Nat))
  | "&" => .ok (wrap (bits a &&& bits b : Nat))
  | "==" => .ok (ofBool (a == b))
  | "!=" => .ok (ofBool (a != b))
  | "<" => .ok (ofBool (a < b))
  | "<=" => .ok (ofBool (a ≤ b))
  | ">" => .ok (ofBool (a > b))
  | ">=" => .ok (ofBool (a ≥ b))
  | "<<" => .ok (wrap (a * Nat.pow 2 (bits b % 64)))
  | ">>" => .ok (a / Nat.pow 2 (bits b % 64))
  | "+" => .ok (wrap (a + b))
  | "-" => .ok (wrap (a - b))
  | "*" => .ok (wrap (a * b))
  | "/" => if b = 0 then .error "division by zero" else .ok (wrap (a.tdiv b))
  | "%" => if b = 0 then .error "division by zero" else .ok (a.tmod b)
  | _ => .error "expecting EOF"

/-- A value, the variables after it, and the units after it. -/
abbrev Answer := Except String (Int × Store × List Lexeme)

mutual

/-- An expression with assignments. -/
def assignment : Nat → Store → List Lexeme → Answer
  | 0, _, _ => .error "expecting primary"
  | n + 1, s, ls =>
    match ls with
    | .name x :: .op "=" :: rest => do
      let (v, s, rest) ← assignment n s rest
      return (v, s.set x v, rest)
    | .name x :: .op op :: rest =>
      if op.length > 1 ∧ op.endsWith "=" ∧ (level? op).isNone then do
        let (v, s, rest) ← assignment n s rest
        let v ← apply (op.dropEnd 1).toString (← s.get x) v
        return (v, s.set x v, rest)
      else choice n s ls
    | ls => choice n s ls

/-- An expression with a choice between two. -/
def choice : Nat → Store → List Lexeme → Answer
  | 0, _, _ => .error "expecting primary"
  | n + 1, s, ls => do
    let (v, s, rest) ← binary n 1 s ls
    match rest with
    | .op "?" :: rest =>
      let (a, s, rest) ← assignment n s rest
      match rest with
      | .op ":" :: rest =>
        let (b, s, rest) ← choice n s rest
        return (if v != 0 then a else b, s, rest)
      | _ => .error "expecting ':'"
    | rest => return (v, s, rest)

/-- An expression of binary operators from a level on. -/
def binary : Nat → Nat → Store → List Lexeme → Answer
  | 0, _, _, _ => .error "expecting primary"
  | n + 1, lowest, s, ls => do
    let (v, s, rest) ← unary n s ls
    operands n lowest v s rest

/-- The binary operators after a value, from a level on. -/
def operands : Nat → Nat → Int → Store → List Lexeme → Answer
  | 0, _, _, _, _ => .error "expecting primary"
  | n + 1, lowest, v, s, ls =>
    match ls with
    | .op op :: rest =>
      match level? op with
      | some level =>
        if lowest ≤ level then do
          let (w, s, rest) ← binary n (level + 1) s rest
          let u ← apply op v w
          operands n lowest u s rest
        else return (v, s, ls)
      | none => return (v, s, ls)
    | ls => return (v, s, ls)

/-- A number, a variable, an expression in parentheses, or a sign before one of these. -/
def unary : Nat → Store → List Lexeme → Answer
  | 0, _, _ => .error "expecting primary"
  | n + 1, s, ls =>
    match ls with
    | .number v :: rest => return (min v (Nat.pow 2 63 - 1), s, rest)
    | .name x :: rest => do return (← s.get x, s, rest)
    | .op "(" :: rest => do
      let (v, s, rest) ← assignment n s rest
      match rest with
      | .op ")" :: rest => return (v, s, rest)
      | _ => .error "expecting ')'"
    | .op "-" :: rest => do
      let (v, s, rest) ← unary n s rest
      return (wrap (-v), s, rest)
    | .op "+" :: rest => unary n s rest
    | .op "!" :: rest => do
      let (v, s, rest) ← unary n s rest
      return (ofBool (v == 0), s, rest)
    | .op "~" :: rest => do
      let (v, s, rest) ← unary n s rest
      return (-v - 1, s, rest)
    | _ => .error "expecting primary"

end

/-- The value of an expression, and the variables that it changes, last change first. -/
def evaluate (value : String → Except String Int) (text : String) :
    Except String (Int × List (String × Int)) := do
  match lexemes? (text.length + 1) text.toList with
  | none => .error "expecting EOF"
  | some [] => return (0, [])
  | some ls =>
    match ← assignment (16 * ls.length + 16) { value } ls with
    | (v, s, []) => return (v, s.changes)
    | (_, _, _ :: _) => .error "expecting EOF"

end CodeOutline.Shell.Arithmetic
