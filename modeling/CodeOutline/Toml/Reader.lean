/-
Reading TOML texts.

A text is a sequence of lines: headers, keys with values, comments and blank lines.  Values may be
nested, but not deeper than `nestingLimit`, and a key may not have that many parts.  Loops are
bounded by the length of the text that is left, since every round reads at least one character.
-/
import CodeOutline.Toml.Scalar
import CodeOutline.Toml.Text

namespace CodeOutline.Toml

/-- Values are nested less deep than this, and keys have fewer parts. -/
def nestingLimit : Nat := 80

/-! ### Keys -/

/-- The characters of a key without quotes. -/
def isBareChar (c : Char) : Bool := c.isAlphanum || c == '-' || c == '_'

/-- Reads one part of a key. -/
def keyPart? (cs : List Char) : Option (String × List Char) :=
  match cs with
  | '"' :: rest => basicString (rest.length + 1) [] rest
  | '\'' :: rest => literalString rest
  | cs =>
    match cs.takeWhile isBareChar with
    | [] => none
    | body => some (String.ofList body, cs.dropWhile isBareChar)

/-- Reads the parts of a key, with dots and blanks between them. -/
def keyParts? : Nat → List Char → Option (List String × List Char)
  | 0, _ => none
  | n + 1, cs => do
    let (part, rest) ← keyPart? (skipBlanks cs)
    match skipBlanks rest with
    | '.' :: rest =>
      let (parts, rest) ← keyParts? n rest
      return (part :: parts, rest)
    | rest => return ([part], rest)

/-- Reads a key: the parts before the last one, the last one, and the rest of the text. -/
def key? (cs : List Char) : Option (List String × String × List Char) := do
  let (parts, rest) ← keyParts? (nestingLimit - 1) cs
  return (parts.dropLast, ← parts.getLast?, rest)

/-! ### Values -/

/-- Reads the items of an array after the opening bracket or a comma. -/
def items? (value : List Char → Option (Toml × List Char)) :
    Nat → List Char → Option (List Toml × List Char)
  | 0, _ => none
  | n + 1, cs => do
    match ← skipGaps false cs with
    | ']' :: rest => return ([], rest)
    | cs =>
      let (v, rest) ← value cs
      match ← skipGaps false rest with
      | ',' :: rest =>
        let (vs, rest) ← items? value n rest
        return (v :: vs, rest)
      | ']' :: rest => return ([v], rest)
      | _ => none

/-- Reads the entries of an inline table after the opening brace or a comma, adding them to those
before. -/
def inlineEntries? (value : List Char → Option (Toml × List Char)) :
    Nat → Entries → List Char → Option (Entries × List Char)
  | 0, _, _ => none
  | n + 1, entries, cs => do
    let (path, key, rest) ← key? cs
    match rest with
    | '=' :: rest =>
      let (v, rest) ← value (skipBlanks rest)
      let entries ← insertDotted path key v entries
      match skipBlanks rest with
      | ',' :: rest => inlineEntries? value n entries rest
      | '\x7d' :: rest => return (entries, rest)
      | _ => none
    | _ => none

/-- Reads a value, with a number of levels left for nesting. -/
def value? : Nat → List Char → Option (Toml × List Char)
  | 0, _ => none
  | levels + 1, cs =>
    match cs with
    | '[' :: rest => do
      if levels = 0 then none
      let (items, rest) ← items? (value? levels) (rest.length + 1) rest
      return (.array items, rest)
    | '\x7b' :: rest => do
      if levels = 0 then none
      match skipBlanks rest with
      | '\x7d' :: rest => return (.table .inline [], rest)
      | rest =>
        let (entries, rest) ← inlineEntries? (value? levels) (rest.length + 1) [] rest
        return (.table .inline entries, rest)
    | '"' :: _ => (anyString? cs).map fun (s, rest) => (.string s, rest)
    | '\'' :: _ => (anyString? cs).map fun (s, rest) => (.string s, rest)
    | cs => do
      let (w, rest) := word cs
      return (← scalar? w, rest)

/-! ### Lines -/

/-- What has been read: the tables, and the path of the table that keys are added to. -/
structure State where
  root : Entries
  path : List String

/-- Reads a key with its value. -/
def keyValue? (state : State) (cs : List Char) : Option (State × List Char) := do
  let (path, key, rest) ← key? cs
  match rest with
  | '=' :: rest =>
    let (v, rest) ← value? nestingLimit (skipBlanks rest)
    let root ← within (insertDotted path key v) state.path state.root
    return ({ state with root }, ← statementEnd? rest)
  | _ => none

/-- Reads the header of a table after its bracket. -/
def header? (state : State) (cs : List Char) : Option (State × List Char) := do
  let (path, key, rest) ← key? cs
  match rest with
  | ']' :: rest =>
    let root ← within (openTable key) path state.root
    return (⟨root, path ++ [key]⟩, ← statementEnd? rest)
  | _ => none

/-- Reads the header of a table in an array of tables after its two brackets. -/
def itemHeader? (state : State) (cs : List Char) : Option (State × List Char) := do
  let (path, key, rest) ← key? cs
  match rest with
  | ']' :: ']' :: rest =>
    let root ← within (openItem key) path state.root
    return (⟨root, path ++ [key]⟩, ← statementEnd? rest)
  | _ => none

/-- Reads lines to the end of the text. -/
def lines? : Nat → State → List Char → Option State
  | 0, _, _ => none
  | n + 1, state, cs =>
    match skipBlanks cs with
    | [] => some state
    | '[' :: '[' :: rest => do
      let (state, rest) ← itemHeader? state rest
      lines? n state rest
    | '[' :: rest => do
      let (state, rest) ← header? state rest
      lines? n state rest
    | c :: rest =>
      if c = '#' ∨ c = '\n' ∨ c = '\r' then do
        lines? n state (← statementEnd? (c :: rest))
      else do
        let (state, rest) ← keyValue? state (c :: rest)
        lines? n state rest

/-- Drops the mark that may stand before a text. -/
def dropMark : List Char → List Char
  | '\ufeff' :: rest => rest
  | cs => cs

/-- The table that a TOML text stands for. -/
def parse? (text : String) : Option Entries := do
  let cs := dropMark text.toList
  return (← lines? (cs.length + 1) ⟨[], []⟩ cs).root

end CodeOutline.Toml
