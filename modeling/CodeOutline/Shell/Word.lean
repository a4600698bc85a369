/-
Words of the command language.

Scripts are made of bytes, and each character of a script stands for a byte.  A word is a list of
parts: characters, values of parameters, and outputs of commands.  What stands inside a substitution
is kept as text and read when the word is used.
-/
import CodeOutline.Text.Utf8

namespace CodeOutline.Shell

/-! ### Bytes -/

/-- Bytes as a text in which each character stands for a byte. -/
def spell (bytes : List UInt8) : String := String.ofList (bytes.map fun b => Char.ofNat b.toNat)

/-- The bytes that a text stands for. -/
def bytesOf (s : String) : List UInt8 := s.toList.map fun c => UInt8.ofNat c.toNat

/-- A name from outside as a text in which each character stands for a byte. -/
def spellName (s : String) : String := spell (Text.bytesOf s)

/-- The name from outside that a text stands for. -/
def nameOf (s : String) : String := Text.Utf8.lossy (bytesOf s)

/-! ### Parts -/

/-- A part of a word. -/
inductive Part where
  | char (c : Char) (quoted : Bool)
  /-- A pair of quotes, which makes a word even when nothing stands between them. -/
  | quotes
  /-- The value of a parameter, changed by an operator with an operand. -/
  | param (name op operand : String) (quoted : Bool)
  /-- The output of a script, whose lines may be counted on their own. -/
  | command (script : String) (quoted ownLines : Bool)
  /-- The value of an arithmetic expression. -/
  | arithmetic (expr : String) (quoted : Bool)
deriving DecidableEq, Repr

abbrev Word := List Part

def isBlank (c : Char) : Bool := c == ' ' || c == '\t'

def isLetter (c : Char) : Bool := c.isAlpha || c == '_'

def isNameChar (c : Char) : Bool := isLetter c || c.isDigit

/-- Whether a text is the name of a variable. -/
def isName (s : String) : Bool :=
  match s.toList with
  | c :: rest => isLetter c && rest.all isNameChar
  | [] => false

/-- The opening quote of an output of a script in the old style. -/
def isBackquote (c : Char) : Bool := c.toNat == 96

def isOpenBrace (c : Char) : Bool := c.toNat == 123

def isCloseBrace (c : Char) : Bool := c.toNat == 125

/-- The parameters that have a sign for a name. -/
def isSpecial (c : Char) : Bool :=
  c.isDigit || c == '?' || c == '$' || c == '#' || c == '@' || c == '*' || c == '!' || c == '-'

/-- The characters that end a word. -/
def isMeta (c : Char) : Bool :=
  isBlank c || c == '\n' || c == ';' || c == '&' || c == '|' || c == '<' || c == '>' ||
    c == '(' || c == ')'

/-- The characters that a backslash in double quotes protects. -/
def isProtected (c : Char) : Bool := c == '$' || c == '"' || c == '\\' || isBackquote c

/-! ### Substitutions -/

/-- Where a search for a closing bracket is. -/
inductive Quoting where
  | none
  | escape
  | single
  | double
  | doubleEscape

/-- The text up to the bracket that closes, and the rest after it. -/
def enclosed (opens closes : Char → Bool) :
    Quoting → Nat → List Char → List Char → Option (List Char × List Char)
  | _, _, _, [] => none
  | .none, depth, acc, c :: rest =>
    if closes c then
      match depth with
      | 0 => some (acc.reverse, rest)
      | d + 1 => enclosed opens closes .none d (c :: acc) rest
    else if opens c then enclosed opens closes .none (depth + 1) (c :: acc) rest
    else
      let quoting : Quoting :=
        if c = '\\' then .escape else if c = '\'' then .single
        else if c = '"' then .double else .none
      enclosed opens closes quoting depth (c :: acc) rest
  | .escape, depth, acc, c :: rest => enclosed opens closes .none depth (c :: acc) rest
  | .single, depth, acc, c :: rest =>
    enclosed opens closes (if c = '\'' then .none else .single) depth (c :: acc) rest
  | .double, depth, acc, c :: rest =>
    enclosed opens closes (if c = '"' then .none else if c = '\\' then .doubleEscape else .double)
      depth (c :: acc) rest
  | .doubleEscape, depth, acc, c :: rest => enclosed opens closes .double depth (c :: acc) rest

/-- The text up to the closing backquote, without the backslashes that protect characters in it, and
the rest. -/
def backquoted : Bool → List Char → List Char → Option (List Char × List Char)
  | _, _, [] => none
  | true, acc, c :: rest =>
    backquoted false
      (if c = '$' ∨ c = '\\' ∨ isBackquote c then c :: acc else c :: '\\' :: acc) rest
  | false, acc, c :: rest =>
    if isBackquote c then some (acc.reverse, rest)
    else if c = '\\' then backquoted true acc rest
    else backquoted false (c :: acc) rest

/-- The operators on parameters, longer ones before shorter ones. -/
def paramOperators : List String :=
  [":-", ":=", ":?", ":+", "-", "=", "?", "+", "%%", "%", "##", "#"]

/-- The name at the start of a text, and the rest. -/
def splitName (cs : List Char) : List Char × List Char :=
  match cs with
  | c :: rest =>
    if isLetter c then cs.span isNameChar
    else if c.isDigit then cs.span Char.isDigit
    else if isSpecial c then ([c], rest)
    else ([], cs)
  | [] => ([], [])

/-- The part that stands for the text between braces. -/
def bracedPart? (cs : List Char) (quoted : Bool) : Option Part :=
  let lengthOf := match cs with
    | '#' :: rest =>
      match splitName rest with
      | (_ :: _, []) => some (String.ofList rest)
      | _ => none
    | _ => none
  match lengthOf with
  | some name => some (.param name "length" "" quoted)
  | none =>
    match splitName cs with
    | ([], _) => none
    | (name, []) => some (.param (String.ofList name) "" "" quoted)
    | (name, rest) =>
      match paramOperators.find? fun op => op.toList.isPrefixOf rest with
      | some op =>
        some (.param (String.ofList name) op (String.ofList (rest.drop op.length)) quoted)
      | none => none

/-- The part that stands for the text between parentheses after a dollar sign. -/
def parenthesized (cs : List Char) (quoted : Bool) : Part :=
  match cs, cs.getLast? with
  | '(' :: rest, some ')' => .arithmetic (String.ofList rest.dropLast) quoted
  | _, _ => .command (String.ofList cs) quoted false

/-- The part after a dollar sign, and the rest. -/
def dollar (quoted : Bool) (cs : List Char) : Except String (Part × List Char) :=
  match cs with
  | [] => .ok (.char '$' quoted, [])
  | c :: rest =>
    if c = '(' then
      match enclosed (· == '(') (· == ')') .none 0 [] rest with
      | some (text, rest) => .ok (parenthesized text quoted, rest)
      | none =>
        .error
          (if rest.head? = some '(' then "Missing '))'"
          else "end of file unexpected (expecting \")\")")
    else if isOpenBrace c then
      match enclosed isOpenBrace isCloseBrace .none 0 [] rest with
      | some (text, rest) =>
        .ok ((bracedPart? text quoted).getD (.param "" "wrong" "" quoted), rest)
      | none => .error ("Missing '" ++ (Char.ofNat 125).toString ++ "'")
    else if isLetter c then
      let (name, rest) := cs.span isNameChar
      .ok (.param (String.ofList name) "" "" quoted, rest)
    else if isSpecial c then .ok (.param c.toString "" "" quoted, rest)
    else .ok (.char '$' quoted, cs)

/-- The part after a backquote, and the rest. -/
def oldStyle (quoted : Bool) (cs : List Char) : Except String (Part × List Char) :=
  match backquoted false [] cs with
  | some (text, rest) => .ok (.command (String.ofList text) quoted true, rest)
  | none => .error "EOF in backquote substitution"

/-! ### Words -/

/-- How characters are read. -/
inductive Mode where
  /-- As a word of a script, up to a character that ends it. -/
  | plain
  /-- As a word without an end. -/
  | operand
  /-- Between double quotes, inside one of the two. -/
  | double (inOperand : Bool)
  /-- As a word without an end inside double quotes, in which further double quotes are dropped. -/
  | quotedOperand
  /-- As the text of a document, in which quotes mean nothing. -/
  | document
deriving DecidableEq

/-- Reads parts: those before the end, backwards, and the rest.  The number bounds the steps. -/
def parts : Nat → Mode → List Part → List Char → Except String (List Part × List Char)
  | 0, _, acc, cs => .ok (acc, cs)
  | _ + 1, .double _, _, [] => .error "Unterminated quoted string"
  | _ + 1, _, acc, [] => .ok (acc, [])
  | n + 1, mode, acc, c :: rest =>
    let quoted := mode ≠ .plain ∧ mode ≠ .operand
    if mode = .plain ∧ isMeta c then .ok (acc, c :: rest)
    else if c = '$' then do
      let (p, rest) ← dollar quoted rest
      parts n mode (p :: acc) rest
    else if isBackquote c then do
      let (p, rest) ← oldStyle quoted rest
      parts n mode (p :: acc) rest
    else if c = '\\' then
      match rest with
      | [] => parts n mode (.char '\\' quoted :: acc) []
      | '\n' :: rest => parts n mode acc rest
      | d :: rest =>
        if quoted ∧ (!isProtected d ∨ (mode = .document ∧ d = '"')) then
          parts n mode (.char d true :: .char '\\' true :: acc) rest
        else parts n mode (.char d true :: acc) rest
    else
      match mode with
      | .document => parts n mode (.char c true :: acc) rest
      | .quotedOperand => parts n mode (if c = '"' then acc else .char c true :: acc) rest
      | .double inOperand =>
        if c = '"' then parts n (if inOperand then .operand else .plain) acc rest
        else parts n mode (.char c true :: acc) rest
      | _ =>
        if c = '"' then parts n (.double (mode == .operand)) (.quotes :: acc) rest
        else if c = '\'' then
          match rest.span (· ≠ '\'') with
          | (_, []) => .error "Unterminated quoted string"
          | (text, _ :: rest) =>
            parts n mode ((text.map fun c => Part.char c true).reverse ++ .quotes :: acc) rest
        else parts n mode (.char c false :: acc) rest

/-- The word at the start of a text, and the rest. -/
def splitWord (cs : List Char) : Except String (Word × List Char) := do
  let (acc, rest) ← parts (2 * cs.length + 1) .plain [] cs
  return (acc.reverse, rest)

/-- The word that a whole text stands for. -/
def wholeWord (mode : Mode) (text : String) : Except String Word := do
  let (acc, _) ← parts (2 * text.length + 1) mode [] text.toList
  return acc.reverse

/-- The text of a word without quotes or substitutions, if it is one. -/
def literal? (w : Word) : Option String :=
  (w.mapM fun (p : Part) =>
    match p with
    | .char c false => some c
    | _ => none).map String.ofList

/-- The characters of a word as they are written, without quotes. -/
def unquoted (w : Word) : String :=
  String.ofList (w.filterMap fun
    | .char c _ => some c
    | _ => none)

/-- The name and the value of a word that is an assignment. -/
def assignment? (w : Word) : Option (String × Word) :=
  let letters := w.takeWhile fun p =>
    match p with
    | .char c false => isNameChar c
    | _ => false
  match w.drop letters.length with
  | .char '=' false :: rest =>
    let name := unquoted letters
    if isName name then some (name, rest) else none
  | _ => none

/-- Whether a part of a word is quoted. -/
def hasQuotes (w : Word) : Bool :=
  w.any fun
    | .char _ quoted => quoted
    | .quotes => true
    | _ => false

end CodeOutline.Shell
