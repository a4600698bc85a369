/-
From the parts of a word to fields.

Expanding a word gives bits: characters, of which some may divide fields, and marks between fields.
Fields with unquoted pattern characters stand for the names of files, if there are such files.
-/
import CodeOutline.Shell.Glob
import CodeOutline.Shell.Session

namespace CodeOutline.Shell

/-- A bit of an expanded word. -/
inductive Bit where
  | char (c : Char) (quoted : Bool)
  /-- A character of a value, which divides fields if it is a separator. -/
  | loose (c : Char)
  /-- The border between two fields. -/
  | border
  /-- Makes a field even when nothing follows. -/
  | mark
deriving DecidableEq

/-- A value as bits. -/
def bitsOf (text : String) (quoted : Bool) : List Bit :=
  text.toList.map fun c => if quoted then .char c true else .loose c

/-- Several values as bits, a field each. -/
def bitsOfEach (texts : List String) (quoted : Bool) : List Bit :=
  (texts.map fun t => if quoted then .mark :: bitsOf t true else bitsOf t false).intersperse
    [.border] |>.flatten

/-- Bits as one text. -/
def textOf (bits : List Bit) : String :=
  String.ofList (bits.filterMap fun b =>
    match b with
    | .char c _ => some c
    | .loose c => some c
    | .border => some ' '
    | .mark => none)

/-- Bits as the marks of a pattern. -/
def marksOf (bits : List Bit) : List Glob.Mark :=
  bits.filterMap fun b =>
    match b with
    | .char c quoted => some (c, quoted)
    | .loose c => some (c, false)
    | .border => some (' ', true)
    | .mark => none

/-! ### Fields -/

/-- Fields that are being put together: those that are complete, last first, and the one that is
not, backwards. -/
structure Fields where
  complete : List (List Glob.Mark) := []
  current : Option (List Glob.Mark) := none

namespace Fields

def add (f : Fields) (m : Glob.Mark) : Fields := { f with current := some (m :: f.current.getD []) }

def close (f : Fields) : Fields :=
  match f.current with
  | some ms => ⟨ms.reverse :: f.complete, none⟩
  | none => f

/-- Adds a bit, given the separators. -/
def step (separators : String) (f : Fields) (b : Bit) : Fields :=
  match b with
  | .char c quoted => f.add (c, quoted)
  | .mark => { f with current := some (f.current.getD []) }
  | .border => f.close
  | .loose c =>
    if separators.toList.contains c then
      if c = ' ' ∨ c = '\t' ∨ c = '\n' then f.close
      else { f with current := some (f.current.getD []) }.close
    else f.add (c, false)

end Fields

/-- The fields of bits. -/
def fieldsOf (separators : String) (bits : List Bit) : List (List Glob.Mark) :=
  (bits.foldl (Fields.step separators) {}).close.complete.reverse

/-- The texts that a field stands for: the files that it is a pattern for, or else itself. -/
def namesOf (s : Session) (field : List Glob.Mark) : List String :=
  let text := String.ofList (field.map (·.1))
  if s.settings.plainNames || !Glob.isPattern field || text.toList.contains '/' then [text]
  else
    let names :=
      (s.files.map fun f => spellName ((f.name.splitOn "/").headD "")).mergeSort fun a b => !(b < a)
    let hits := names.eraseReps.filter fun n =>
      Glob.isMatch field n.toList && (!n.startsWith "." || text.startsWith ".")
    if hits.isEmpty then [text] else hits

/-! ### Values -/

/-- A value without the part at its start that a pattern stands for. -/
def trimStart (pattern : List Glob.Mark) (longest : Bool) (cs : List Char) : List Char :=
  let cuts := List.range (cs.length + 1)
  let cuts := if longest then cuts.reverse else cuts
  match cuts.find? fun n => Glob.isMatch pattern (cs.take n) with
  | some n => cs.drop n
  | none => cs

/-- A value without the part at its end that a pattern stands for. -/
def trimEnd (pattern : List Glob.Mark) (longest : Bool) (cs : List Char) : List Char :=
  let cuts := List.range (cs.length + 1)
  let cuts := if longest then cuts else cuts.reverse
  match cuts.find? fun n => Glob.isMatch pattern (cs.drop n) with
  | some n => cs.take n
  | none => cs

/-- The words that a line stands for when it is read into some variables: one each, and the rest in
the last. -/
def splitLine (separators : String) : Nat → List Glob.Mark → List String
  | 0, _ => []
  | n + 1, ms =>
    let isSeparator (m : Glob.Mark) : Bool := !m.2 && separators.toList.contains m.1
    let isBlankSeparator (m : Glob.Mark) : Bool :=
      isSeparator m && (m.1 == ' ' || m.1 == '\t' || m.1 == '\n')
    let ms := ms.dropWhile isBlankSeparator
    let plain (ms : List Glob.Mark) : String := String.ofList (ms.map (·.1))
    match n with
    | 0 => [plain (ms.reverse.dropWhile isBlankSeparator).reverse]
    | n + 1 =>
      let (first, rest) := ms.span fun m => !isSeparator m
      let rest := rest.dropWhile isBlankSeparator
      let rest := match rest with
        | m :: after => if isSeparator m then after else rest
        | [] => []
      plain first :: splitLine separators (n + 1) rest

end CodeOutline.Shell
