/-
Reading JSON texts.

The reader is a machine with a stack that takes one character at a time.  The stack holds the
containers that are still open, and the mode says what may come next.  A text is malformed at the
first character for which the machine has no move, and it ends too early if the machine is not in a
final mode after the last character.  So the first fault of a text decides, and nesting is bounded
by nothing but the text.

The grammar is strict: blanks are space, tab, line feed and carriage return; there are no comments,
no trailing commas, no leading zeros and no plus signs; a string holds no character below U+0020.

A strict reader refuses a leaf without a value as malformed.  A lax reader keeps it as
`Document.unreadable`.
-/
import CodeOutline.Json.Document

namespace CodeOutline.Json

/-- Why a text is not JSON. -/
inductive Fault where
  /-- The text ended before the value was complete. -/
  | endOfText
  /-- Some character, or some leaf, is not as it has to be. -/
  | malformed
deriving DecidableEq, Repr

namespace Reader

/-- The characters that may stand between the parts of a text. -/
def isBlank (c : Char) : Bool := c == ' ' || c == '\t' || c == '\n' || c == '\r'

/-- The value of a decimal digit. -/
def digit? (c : Char) : Option Nat :=
  if '0' ≤ c ∧ c ≤ '9' then some (c.toNat - '0'.toNat) else none

/-- The value of a hexadecimal digit. -/
def hexDigit? (c : Char) : Option Nat :=
  if '0' ≤ c ∧ c ≤ '9' then some (c.toNat - '0'.toNat)
  else if 'a' ≤ c ∧ c ≤ 'f' then some (c.toNat - 'a'.toNat + 10)
  else if 'A' ≤ c ∧ c ≤ 'F' then some (c.toNat - 'A'.toNat + 10)
  else none

/-! ### Numbers -/

/-- The part of a numeral that has just been read. -/
inductive NumeralPart where
  | sign
  | zero
  | whole
  | point
  | fraction
  | mark
  | markSign
  | power
deriving DecidableEq, Repr

/-- A numeral of which a part has been read.  Digits are kept last first. -/
structure PartialNumeral where
  part : NumeralPart
  negative : Bool := false
  whole : List Nat := []
  fraction : Option (List Nat) := none
  power : Option (Bool × List Nat) := none
deriving DecidableEq, Repr

/-- What a character does to a numeral. -/
inductive NumeralMove where
  /-- It belongs to the numeral. -/
  | extend (n : PartialNumeral)
  /-- The numeral is complete without it. -/
  | close
  /-- Neither. -/
  | refuse

namespace PartialNumeral

/-- Whether the numeral may end here. -/
def isComplete (n : PartialNumeral) : Bool :=
  match n.part with
  | .zero | .whole | .fraction | .power => true
  | .sign | .point | .mark | .markSign => false

/-- The numeral that has been read. -/
def numeral (n : PartialNumeral) : Numeral :=
  ⟨n.negative, n.whole.reverse, n.fraction.map List.reverse,
    n.power.map fun (s, ds) => (s, ds.reverse)⟩

/-- The parts that may follow the digits before the decimal point. -/
def afterWhole (n : PartialNumeral) (c : Char) : NumeralMove :=
  if c = '.' then .extend { n with part := .point, fraction := some [] }
  else if c = 'e' ∨ c = 'E' then .extend { n with part := .mark, power := some (false, []) }
  else .close

/-- A numeral with one more digit in its power of ten. -/
def pushPower (n : PartialNumeral) (d : Nat) : PartialNumeral :=
  { n with part := .power, power := n.power.map fun (s, ds) => (s, d :: ds) }

/-- What the next character does to the numeral. -/
def move (n : PartialNumeral) (c : Char) : NumeralMove :=
  match n.part, digit? c with
  | .sign, some 0 => .extend { n with part := .zero, whole := [0] }
  | .sign, some d => .extend { n with part := .whole, whole := [d] }
  | .sign, none => .refuse
  | .zero, some _ => .refuse
  | .zero, none => n.afterWhole c
  | .whole, some d => .extend { n with whole := d :: n.whole }
  | .whole, none => n.afterWhole c
  | .point, some d => .extend { n with part := .fraction, fraction := some [d] }
  | .point, none => .refuse
  | .fraction, some d => .extend { n with fraction := n.fraction.map (d :: ·) }
  | .fraction, none =>
    if c = 'e' ∨ c = 'E' then .extend { n with part := .mark, power := some (false, []) }
    else .close
  | .mark, some d => .extend (n.pushPower d)
  | .mark, none =>
    if c = '+' then .extend { n with part := .markSign }
    else if c = '-' then .extend { n with part := .markSign, power := some (true, []) }
    else .refuse
  | .markSign, some d => .extend (n.pushPower d)
  | .markSign, none => .refuse
  | .power, some d => .extend (n.pushPower d)
  | .power, none => .close

end PartialNumeral

/-! ### Strings -/

/-- Where in a string the machine stands. -/
inductive StringPart where
  | plain
  /-- After a backslash. -/
  | escape
  /-- After a backslash and a `u`: the value of the digits so far (`none` after something else), and
  the number of bytes read. -/
  | hex (value : Option Nat) (bytes : Nat)
deriving DecidableEq, Repr

/-- A string of which a part has been read.  Characters are kept last first. -/
structure PartialString where
  part : StringPart := .plain
  chars : List Char := []
  /-- The first half of a surrogate pair, if the second one has to follow. -/
  high : Option Nat := none
  /-- Whether all escapes so far denote characters. -/
  intact : Bool := true
deriving DecidableEq, Repr

/-- What a character does to a string. -/
inductive StringMove where
  | extend (s : PartialString)
  /-- It is the closing quote. -/
  | close (s : PartialString)
  | refuse

namespace PartialString

/-- The text that has been read, if all its escapes denote characters. -/
def text? (s : PartialString) : Option String :=
  if s.intact then some (String.ofList s.chars.reverse) else none

/-- A string with one more character. -/
def push (s : PartialString) (c : Char) : PartialString :=
  { s with part := .plain, chars := c :: s.chars }

/-- A string that has an escape without a meaning.  A strict reader goes no further. -/
def damage (strict : Bool) (s : PartialString) (next : PartialString → StringMove) : StringMove :=
  if strict then .refuse else next { s with high := none, intact := false }

/-- A string after an escape with four hexadecimal digits.  Two halves of a surrogate pair make one
character. -/
def pushUnit (strict : Bool) (s : PartialString) (u : Nat) : StringMove :=
  let s := { s with part := .plain }
  match s.high with
  | some h =>
    if 0xDC00 ≤ u ∧ u < 0xE000 then
      .extend
        ({ s with high := none }.push (Char.ofNat (0x10000 + (h - 0xD800) * 0x400 + (u - 0xDC00))))
    else s.damage strict .extend
  | none =>
    if 0xD800 ≤ u ∧ u < 0xDC00 then .extend { s with high := some u }
    else if 0xDC00 ≤ u ∧ u < 0xE000 then s.damage strict .extend
    else .extend (s.push (Char.ofNat u))

/-- The next character outside of an escape. -/
def movePlain (s : PartialString) (c : Char) : StringMove :=
  if c = '"' then .close s
  else if c = '\\' then .extend { s with part := .escape }
  else if c < ' ' then .refuse
  else .extend (s.push c)

/-- The character that a one-letter escape stands for. -/
def escaped? (c : Char) : Option Char :=
  match c with
  | '"' => some '"'
  | '\\' => some '\\'
  | '/' => some '/'
  | 'b' => some '\x08'
  | 'f' => some '\x0c'
  | 'n' => some '\n'
  | 'r' => some '\r'
  | 't' => some '\t'
  | _ => none

/-- The character after a backslash. -/
def moveEscape (s : PartialString) (c : Char) : StringMove :=
  if c = 'u' then .extend { s with part := .hex (some 0) 0 }
  else
    match escaped? c with
    | some d => .extend (s.push d)
    | none => .refuse

/-- What the next character does to the string.

The four bytes after `\u` are looked at together: a text that ends among them ends too early,
whatever they are. -/
def move (strict : Bool) (s : PartialString) (c : Char) : StringMove :=
  match s.part with
  | .plain =>
    if s.high.isSome ∧ c ≠ '\\' then s.damage strict (·.movePlain c) else s.movePlain c
  | .escape =>
    if s.high.isSome ∧ c ≠ 'u' then s.damage strict (·.moveEscape c) else s.moveEscape c
  | .hex value bytes =>
    let value := do return (← value) * 16 + (← hexDigit? c)
    let bytes := bytes + c.utf8Size
    if bytes < 4 then .extend { s with part := .hex value bytes }
    else
      match value with
      | some u => s.pushUnit strict u
      | none => .refuse

end PartialString

/-! ### The machine -/

/-- A container that waits for the value that is being read.  What it holds already is kept last
first. -/
inductive Frame where
  | array (items : List Document)
  | object (members : List (Option String × Document)) (key : Option String)

/-- What may come next. -/
inductive Mode where
  /-- A value. -/
  | value
  /-- After `[`: a value or `]`. -/
  | firstItem
  /-- After an item: a comma or `]`. -/
  | afterItem (items : List Document)
  /-- After an opening brace: a key or the closing brace. -/
  | firstKey
  /-- After a comma in an object: a key. -/
  | nextKey (members : List (Option String × Document))
  /-- Inside a key. -/
  | key (members : List (Option String × Document)) (text : PartialString)
  /-- After a key: a colon. -/
  | colon (members : List (Option String × Document)) (key : Option String)
  /-- After a member: a comma or the closing brace. -/
  | afterMember (members : List (Option String × Document))
  /-- Inside `null`, `true` or `false`: the letters that are still to come. -/
  | word (letters : List Char) (value : Document)
  | number (numeral : PartialNumeral)
  | string (text : PartialString)
  /-- After the value of the whole text: nothing but blanks. -/
  | done (value : Document)

/-- A state of the machine: the open containers, innermost first, and the mode. -/
structure State where
  stack : List Frame
  mode : Mode

/-- The state before the first character. -/
def start : State := ⟨[], .value⟩

/-- The state after a value has been read. -/
def complete (stack : List Frame) (value : Document) : State :=
  match stack with
  | [] => ⟨[], .done value⟩
  | .array items :: rest => ⟨rest, .afterItem (value :: items)⟩
  | .object members key :: rest => ⟨rest, .afterMember ((key, value) :: members)⟩

/-- The leaf for a string that has been read. -/
def stringLeaf : Option String → Document
  | some s => .string s
  | none => .unreadable

/-- The state after a numeral that is complete. -/
def completeNumber (strict : Bool) (stack : List Frame) (n : PartialNumeral) : Except Fault State :=
  match n.numeral.value with
  | some v => .ok (complete stack (.number v))
  | none => if strict then .error .malformed else .ok (complete stack .unreadable)

/-- The state after the first character of a value. -/
def beginValue (stack : List Frame) (c : Char) : Except Fault State :=
  match c with
  | '[' => .ok ⟨stack, .firstItem⟩
  | '\x7b' => .ok ⟨stack, .firstKey⟩
  | '"' => .ok ⟨stack, .string {}⟩
  | 'n' => .ok ⟨stack, .word ['u', 'l', 'l'] .null⟩
  | 't' => .ok ⟨stack, .word ['r', 'u', 'e'] (.bool true)⟩
  | 'f' => .ok ⟨stack, .word ['a', 'l', 's', 'e'] (.bool false)⟩
  | '-' => .ok ⟨stack, .number { part := .sign, negative := true }⟩
  | c =>
    match PartialNumeral.move { part := .sign } c with
    | .extend n => .ok ⟨stack, .number n⟩
    | _ => .error .malformed

/-- The move on a character that does not belong to a leaf. -/
def stepBetween (stack : List Frame) (mode : Mode) (c : Char) : Except Fault State :=
  if isBlank c then .ok ⟨stack, mode⟩
  else
    match mode with
    | .value => beginValue stack c
    | .firstItem =>
      if c = ']' then .ok (complete stack (.array [])) else beginValue (.array [] :: stack) c
    | .afterItem items =>
      if c = ',' then .ok ⟨.array items :: stack, .value⟩
      else if c = ']' then .ok (complete stack (.array items.reverse))
      else .error .malformed
    | .firstKey =>
      if c = '\x7d' then .ok (complete stack (.object []))
      else if c = '"' then .ok ⟨stack, .key [] {}⟩
      else .error .malformed
    | .nextKey members => if c = '"' then .ok ⟨stack, .key members {}⟩ else .error .malformed
    | .colon members key =>
      if c = ':' then .ok ⟨.object members key :: stack, .value⟩ else .error .malformed
    | .afterMember members =>
      if c = ',' then .ok ⟨stack, .nextKey members⟩
      else if c = '\x7d' then .ok (complete stack (.object members.reverse))
      else .error .malformed
    | _ => .error .malformed

/-- The move on one character. -/
def step (strict : Bool) (state : State) (c : Char) : Except Fault State :=
  match state with
  | ⟨stack, .word letters value⟩ =>
    match letters with
    | [l] => if c = l then .ok (complete stack value) else .error .malformed
    | l :: rest => if c = l then .ok ⟨stack, .word rest value⟩ else .error .malformed
    | [] => .error .malformed
  | ⟨stack, .number n⟩ =>
    match n.move c with
    | .extend n => .ok ⟨stack, .number n⟩
    | .close => do
      let ⟨stack, mode⟩ ← completeNumber strict stack n
      stepBetween stack mode c
    | .refuse => .error .malformed
  | ⟨stack, .string s⟩ =>
    match s.move strict c with
    | .extend s => .ok ⟨stack, .string s⟩
    | .close s => .ok (complete stack (stringLeaf s.text?))
    | .refuse => .error .malformed
  | ⟨stack, .key members s⟩ =>
    match s.move strict c with
    | .extend s => .ok ⟨stack, .key members s⟩
    | .close s => .ok ⟨stack, .colon members s.text?⟩
    | .refuse => .error .malformed
  | ⟨stack, mode⟩ => stepBetween stack mode c

/-- The document, if the machine may stop in this state. -/
def finish (strict : Bool) : State → Except Fault Document
  | ⟨stack, .number n⟩ =>
    if n.isComplete then do
      match ← completeNumber strict stack n with
      | ⟨_, .done d⟩ => .ok d
      | _ => .error .endOfText
    else .error .endOfText
  | ⟨_, .done d⟩ => .ok d
  | _ => .error .endOfText

/-- Runs the machine over characters. -/
def run (strict : Bool) (state : State) (text : List Char) : Except Fault State :=
  text.foldlM (step strict) state

end Reader

/-- Reads a text. -/
def Document.read (strict : Bool) (text : String) : Except Fault Document := do
  Reader.finish strict (← Reader.run strict Reader.start text.toList)

/-- Reads a text, checking its grammar only: leaves without a value are kept as unreadable. -/
def Document.readLax (text : String) : Except Fault Document := Document.read false text

/-- The value of a JSON text. -/
def parse (text : String) : Except Fault Json :=
  (Document.read true text).map Document.value

end CodeOutline.Json
