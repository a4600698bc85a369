/-
The grammar of JSON texts, and the reader.

The grammar is that of the standard.  Its rules are relations `Rule t x r`: the text `t` starts with
something that the rule describes and that stands for `x`, and the rest of the text is `r`.  So the
rules say what a text means as well as whether it is well-formed, and they do so without the machine
that reads texts.  An object stands for its members in the order of the text, and a number for its
numeral, so the grammar leaves open what repeated keys mean and how a numeral is rounded.

The reader reads every text of the grammar as what it stands for (`read_of_text`).  Its machine has
a state for every place in the grammar, and each rule has a lemma that says from which state to
which one the machine goes.  A number is the only part of a text that does not show its own end, so
the lemmas for values ask for a rest that ends a number.
-/
import CodeOutline.Json.Reader
import Mathlib.Tactic.Lemma

namespace CodeOutline.Json

namespace Grammar

/-! ### Blanks and numbers -/

/-- Any number of blanks. -/
inductive Blanks : List Char → List Char → Prop where
  | nil {r : List Char} : Blanks r r
  | cons {c : Char} {t r : List Char} (hc : c ∈ [' ', '\t', '\n', '\r']) (h : Blanks t r) :
      Blanks (c :: t) r

/-- One or more decimal digits. -/
inductive Digits : List Char → List Nat → List Char → Prop where
  | last {d : Nat} {r : List Char} (hd : d < 10) : Digits (d.digitChar :: r) [d] r
  | cons {d : Nat} {t r : List Char} {ds : List Nat} (hd : d < 10) (h : Digits t ds r) :
      Digits (d.digitChar :: t) (d :: ds) r

/-- The digits before the decimal point: a zero alone, or digits that do not start with a zero. -/
inductive Whole : List Char → List Nat → List Char → Prop where
  | zero {r : List Char} : Whole ('0' :: r) [0] r
  | digits {d : Nat} {t r : List Char} {ds : List Nat} (hd : d ≠ 0) (h : Digits t (d :: ds) r) :
      Whole t (d :: ds) r

/-- The decimal point and the digits after it, if they are there. -/
inductive Fraction : List Char → Option (List Nat) → List Char → Prop where
  | absent {r : List Char} : Fraction r none r
  | present {t r : List Char} {ds : List Nat} (h : Digits t ds r) : Fraction ('.' :: t) (some ds) r

/-- The power of ten, if it is there: whether it is negative, and its digits. -/
inductive Power : List Char → Option (Bool × List Nat) → List Char → Prop where
  | absent {r : List Char} : Power r none r
  | unsigned {e : Char} {t r : List Char} {ds : List Nat} (he : e = 'e' ∨ e = 'E')
      (h : Digits t ds r) : Power (e :: t) (some (false, ds)) r
  | plus {e : Char} {t r : List Char} {ds : List Nat} (he : e = 'e' ∨ e = 'E') (h : Digits t ds r) :
      Power (e :: '+' :: t) (some (false, ds)) r
  | minus {e : Char} {t r : List Char} {ds : List Nat} (he : e = 'e' ∨ e = 'E')
      (h : Digits t ds r) : Power (e :: '-' :: t) (some (true, ds)) r

/-- A number without its sign. -/
inductive Unsigned (negative : Bool) : List Char → Numeral → List Char → Prop where
  | intro {t t₁ t₂ r : List Char} {whole : List Nat} {fraction : Option (List Nat)}
      {power : Option (Bool × List Nat)} (hwhole : Whole t whole t₁)
      (hfraction : Fraction t₁ fraction t₂) (hpower : Power t₂ power r) :
      Unsigned negative t ⟨negative, whole, fraction, power⟩ r

/-- A number. -/
inductive Signed : List Char → Numeral → List Char → Prop where
  | plain {t r : List Char} {n : Numeral} (h : Unsigned false t n r) : Signed t n r
  | minus {t r : List Char} {n : Numeral} (h : Unsigned true t n r) : Signed ('-' :: t) n r

lemma Unsigned.exists_digit {negative : Bool} {t r : List Char} {n : Numeral}
    (h : Unsigned negative t n r) : ∃ d < 10, ∃ t', t = d.digitChar :: t' := by
  obtain ⟨hwhole, -, -⟩ := h
  cases hwhole with
  | zero => exact ⟨0, by decide, _, rfl⟩
  | digits _ h => cases h <;> exact ⟨_, ‹_›, _, rfl⟩

/-! ### Strings -/

/-- The letters that may follow a backslash, and the characters that they stand for. -/
def escapes : List (Char × Char) :=
  [('"', '"'), ('\\', '\\'), ('/', '/'), ('b', '\x08'), ('f', '\x0c'), ('n', '\n'),
    ('r', '\r'), ('t', '\t')]

/-- The hexadecimal digits and their values. -/
def hexDigits : List (Char × Nat) := "0123456789abcdef".toList.zipIdx ++ "ABCDEF".toList.zipIdx 10

/-- A backslash, the letter `u` and four hexadecimal digits. -/
inductive CodeUnit : List Char → Nat → List Char → Prop where
  | intro {a b c d : Char} {i j k l : Nat} {r : List Char} (ha : (a, i) ∈ hexDigits)
      (hb : (b, j) ∈ hexDigits) (hc : (c, k) ∈ hexDigits) (hd : (d, l) ∈ hexDigits) :
      CodeUnit ('\\' :: 'u' :: a :: b :: c :: d :: r) (((i * 16 + j) * 16 + k) * 16 + l) r

/-- The characters of a string and the closing quote.  Two halves of a surrogate pair stand for one
character, and one half alone stands for none. -/
inductive Chars : List Char → List Char → List Char → Prop where
  | close {r : List Char} : Chars ('"' :: r) [] r
  | plain {c : Char} {t r cs : List Char} (hc : ' ' ≤ c) (hquote : c ≠ '"') (hbackslash : c ≠ '\\')
      (h : Chars t cs r) : Chars (c :: t) (c :: cs) r
  | escape {e c : Char} {t r cs : List Char} (he : (e, c) ∈ escapes) (h : Chars t cs r) :
      Chars ('\\' :: e :: t) (c :: cs) r
  | unit {u : Nat} {t t₁ r cs : List Char} (hu : CodeUnit t u t₁) (hrange : u < 0xD800 ∨ 0xE000 ≤ u)
      (h : Chars t₁ cs r) : Chars t (Char.ofNat u :: cs) r
  | pair {u v : Nat} {t t₁ t₂ r cs : List Char} (hu : CodeUnit t u t₁)
      (hhigh : 0xD800 ≤ u ∧ u < 0xDC00) (hv : CodeUnit t₁ v t₂) (hlow : 0xDC00 ≤ v ∧ v < 0xE000)
      (h : Chars t₂ cs r) :
      Chars t (Char.ofNat (0x10000 + (u - 0xD800) * 0x400 + (v - 0xDC00)) :: cs) r

/-- A string. -/
inductive Quoted : List Char → String → List Char → Prop where
  | intro {t r cs : List Char} (h : Chars t cs r) : Quoted ('"' :: t) (String.ofList cs) r

/-! ### Values -/

mutual

/-- A value. -/
inductive Value : List Char → Document → List Char → Prop where
  | null {r : List Char} : Value ('n' :: 'u' :: 'l' :: 'l' :: r) .null r
  | true {r : List Char} : Value ('t' :: 'r' :: 'u' :: 'e' :: r) (.bool true) r
  | false {r : List Char} : Value ('f' :: 'a' :: 'l' :: 's' :: 'e' :: r) (.bool false) r
  | number {t r : List Char} {n : Numeral} {v : Number} (h : Signed t n r) (hv : n.value = some v) :
      Value t (.number v) r
  | string {t r : List Char} {s : String} (h : Quoted t s r) : Value t (.string s) r
  | emptyArray {t r : List Char} (h : Blanks t (']' :: r)) : Value ('[' :: t) (.array []) r
  | array {t r : List Char} {ds : List Document} (h : Items t ds (']' :: r)) :
      Value ('[' :: t) (.array ds) r
  | emptyObject {t r : List Char} (h : Blanks t ('\x7d' :: r)) : Value ('\x7b' :: t) (.object []) r
  | object {t r : List Char} {ms : List (Option String × Document)}
      (h : Members t ms ('\x7d' :: r)) : Value ('\x7b' :: t) (.object ms) r

/-- A value with blanks around it. -/
inductive Padded : List Char → Document → List Char → Prop where
  | intro {t t₁ t₂ r : List Char} {d : Document} (hbefore : Blanks t t₁) (h : Value t₁ d t₂)
      (hafter : Blanks t₂ r) : Padded t d r

/-- One or more values with commas between them. -/
inductive Items : List Char → List Document → List Char → Prop where
  | last {t r : List Char} {d : Document} (h : Padded t d r) : Items t [d] r
  | cons {t t₁ r : List Char} {d : Document} {ds : List Document} (h : Padded t d (',' :: t₁))
      (hrest : Items t₁ ds r) : Items t (d :: ds) r

/-- A key, a colon and a value, with blanks around all three. -/
inductive Member : List Char → Option String × Document → List Char → Prop where
  | intro {t t₁ t₂ t₃ r : List Char} {k : String} {d : Document} (hbefore : Blanks t t₁)
      (hkey : Quoted t₁ k t₂) (hcolon : Blanks t₂ (':' :: t₃)) (h : Padded t₃ d r) :
      Member t (some k, d) r

/-- One or more members with commas between them. -/
inductive Members : List Char → List (Option String × Document) → List Char → Prop where
  | last {t r : List Char} {m : Option String × Document} (h : Member t m r) : Members t [m] r
  | cons {t t₁ r : List Char} {m : Option String × Document} {ms : List (Option String × Document)}
      (h : Member t m (',' :: t₁)) (hrest : Members t₁ ms r) : Members t (m :: ms) r

end

/-- A value starts with neither a blank nor a closing bracket. -/
lemma Value.exists_head {t r : List Char} {d : Document} (h : Value t d r) :
    ∃ c t', t = c :: t' ∧ Reader.isBlank c = Bool.false ∧ c ≠ ']' := by
  cases h with
  | number h _ =>
    cases h with
    | plain h =>
      obtain ⟨d, hd, t', rfl⟩ := h.exists_digit
      refine ⟨_, t', rfl, ?_⟩
      clear h
      revert d
      decide
    | minus => exact ⟨_, _, rfl, by decide⟩
  | string h =>
    obtain ⟨⟩ := h
    exact ⟨_, _, rfl, by decide⟩
  | _ => exact ⟨_, _, rfl, by decide⟩

lemma Items.exists_padded {t r : List Char} {ds : List Document} (h : Items t ds r) :
    ∃ d r', Padded t d r' := by
  cases h with
  | last h => exact ⟨_, _, h⟩
  | cons h _ => exact ⟨_, _, h⟩

lemma Members.exists_member {t r : List Char} {ms : List (Option String × Document)}
    (h : Members t ms r) : ∃ m r', Member t m r' := by
  cases h with
  | last h => exact ⟨_, _, h⟩
  | cons h _ => exact ⟨_, _, h⟩

/-- A whole text is one value with blanks around it. -/
def Text (t : List Char) (d : Document) : Prop := Padded t d []

end Grammar

open Grammar

namespace Reader

variable {strict : Bool} {stack : List Frame}

/-! ### Reading on from a state -/

/-- The document that is read from a state on. -/
def readFrom (strict : Bool) (state : State) (text : List Char) : Except Fault Document := do
  finish strict (← run strict state text)

lemma readFrom_of_step {state state' : State} {c : Char} (h : step strict state c = .ok state')
    (t : List Char) : readFrom strict state (c :: t) = readFrom strict state' t := by
  simp only [readFrom, run, List.foldlM_cons, h]
  rfl

/-- States from which the next character leads to the same place read the same. -/
lemma readFrom_congr {state state' : State} {c : Char}
    (h : step strict state c = step strict state' c) (t : List Char) :
    readFrom strict state (c :: t) = readFrom strict state' (c :: t) := by
  simp only [readFrom, run, List.foldlM_cons, h]

/-- Blanks are skipped wherever no leaf is being read. -/
lemma readFrom_blanks {mode : Mode} {t r : List Char} (h : Blanks t r)
    (hmode : ∀ c, step strict ⟨stack, mode⟩ c = stepBetween stack mode c) :
    readFrom strict ⟨stack, mode⟩ t = readFrom strict ⟨stack, mode⟩ r := by
  induction h with
  | nil => rfl
  | @cons c t r hc _ ih =>
    have hblank : isBlank c = true := by
      simp only [List.mem_cons, List.not_mem_nil, or_false] at hc
      rcases hc with rfl | rfl | rfl | rfl <;> rfl
    have hstep : step strict ⟨stack, mode⟩ c = .ok ⟨stack, mode⟩ := by
      rw [hmode]
      exact if_pos hblank
    rw [readFrom_of_step hstep, ih]

/-- After a value no leaf is being read. -/
lemma step_complete (stack : List Frame) (d : Document) (c : Char) :
    step strict (complete stack d) c =
      stepBetween (complete stack d).stack (complete stack d).mode c := by
  cases stack with
  | nil => rfl
  | cons frame _ => cases frame <;> rfl

/-- The rest of a text ends a number: it is empty or starts with a blank, a comma or a closing
bracket. -/
def EndsNumber (r : List Char) : Prop :=
  ∀ c t, r = c :: t → c ∈ [' ', '\t', '\n', '\r', ',', ']', '\x7d']

lemma EndsNumber.of_mem {c : Char} {t : List Char}
    (hc : c ∈ [' ', '\t', '\n', '\r', ',', ']', '\x7d']) : EndsNumber (c :: t) := by
  rintro _ _ ⟨⟩
  exact hc

lemma EndsNumber.of_blanks {t r : List Char} (h : Blanks t r) (hr : EndsNumber r) :
    EndsNumber t := by
  cases h with
  | nil => exact hr
  | cons hc _ => exact .of_mem (List.mem_append_left [',', ']', '\x7d'] hc)

/-! ### Numbers -/

lemma digit?_digitChar {d : Nat} (hd : d < 10) : digit? d.digitChar = some d := by
  revert d
  decide

/-- A complete numeral does not go on with a character that ends a number. -/
lemma move_eq_close {n : PartialNumeral} {c : Char} (hn : n.isComplete = true)
    (hc : c ∈ [' ', '\t', '\n', '\r', ',', ']', '\x7d']) : n.move c = .close := by
  obtain ⟨hdigit, hpoint⟩ : digit? c = none ∧ c ≠ '.' ∧ c ≠ 'e' ∧ c ≠ 'E' := by
    simp only [List.mem_cons, List.not_mem_nil, or_false] at hc
    rcases hc with rfl | rfl | rfl | rfl | rfl | rfl | rfl <;> decide
  have hafter : n.afterWhole c = .close := by simp [PartialNumeral.afterWhole, hpoint]
  obtain ⟨part, negative, whole, fraction, power⟩ := n
  cases part with
  | zero => simpa only [PartialNumeral.move, hdigit] using hafter
  | whole => simpa only [PartialNumeral.move, hdigit] using hafter
  | fraction => simp [PartialNumeral.move, hdigit, hpoint]
  | power => simp [PartialNumeral.move, hdigit]
  | _ => cases hn

/-- A complete numeral is read as its value, once the number has ended. -/
lemma readFrom_completeNumber {n : PartialNumeral} {v : Number} {r : List Char}
    (hn : n.isComplete = true) (hv : n.numeral.value = some v) (hr : EndsNumber r) :
    readFrom strict ⟨stack, .number n⟩ r = readFrom strict (complete stack (.number v)) r := by
  have hcomplete : completeNumber strict stack n = .ok (complete stack (.number v)) := by
    rw [completeNumber, hv]
  cases r with
  | nil =>
    show finish strict ⟨stack, .number n⟩ = finish strict (complete stack (.number v))
    simp only [finish, hn, if_true, hcomplete]
    cases stack with
    | nil => rfl
    | cons frame _ => cases frame <;> rfl
  | cons c t =>
    refine readFrom_congr ?_ t
    rw [step_complete]
    simp only [step, move_eq_close hn (hr c t rfl), hcomplete]
    rfl

lemma readFrom_of_move {n n' : PartialNumeral} {c : Char} (h : n.move c = .extend n')
    (t : List Char) :
    readFrom strict ⟨stack, .number n⟩ (c :: t) = readFrom strict ⟨stack, .number n'⟩ t :=
  readFrom_of_step (by simp only [step, h]) t

lemma reverse_cons_append {α : Type} (a : α) (as bs : List α) :
    (a :: as).reverse ++ bs = as.reverse ++ a :: bs := by
  simp

/-- Digits are kept last first, by numerals `f ds` that differ in the digits `ds` of one part only.
The numeral before the first digit may be another one. -/
lemma readFrom_digits {n : PartialNumeral} (f : List Nat → PartialNumeral) (acc : List Nat)
    {t r : List Char} {ds : List Nat} (h : Digits t ds r)
    (hfirst : ∀ d ∈ ds.head?, d < 10 → n.move d.digitChar = .extend (f (d :: acc)))
    (hnext : ∀ acc d, d < 10 → (f acc).move d.digitChar = .extend (f (d :: acc))) :
    readFrom strict ⟨stack, .number n⟩ t =
      readFrom strict ⟨stack, .number (f (ds.reverse ++ acc))⟩ r := by
  induction h generalizing n acc with
  | last hd => exact readFrom_of_move (hfirst _ rfl hd) _
  | @cons d t r ds hd _ ih =>
    have hrest := ih (d :: acc) fun d' _ => hnext (d :: acc) d'
    rw [readFrom_of_move (hfirst d rfl hd), hrest, reverse_cons_append]

variable (strict stack) in
lemma readFrom_whole (negative : Bool) {t r : List Char} {ds : List Nat} (h : Whole t ds r) :
    ∃ part ∈ [NumeralPart.zero, .whole],
      readFrom strict ⟨stack, .number { part := .sign, negative }⟩ t =
      readFrom strict ⟨stack, .number { part, negative, whole := ds.reverse }⟩ r := by
  cases h with
  | zero => exact ⟨.zero, by decide, readFrom_of_move rfl _⟩
  | @digits d _ _ ds hd h =>
    refine ⟨.whole, by decide, ?_⟩
    have hfirst : ∀ d' ∈ (d :: ds).head?, d' < 10 →
        PartialNumeral.move { part := .sign, negative } d'.digitChar =
        .extend { part := .whole, negative, whole := [d'] } := by
      rintro d' ⟨⟩ hlt
      simp only [PartialNumeral.move, digit?_digitChar hlt]
    rw [readFrom_digits (fun acc => { part := .whole, negative, whole := acc }) [] h hfirst,
      List.append_nil]
    intro acc d hd
    simp only [PartialNumeral.move, digit?_digitChar hd]

variable (strict stack) in
lemma readFrom_fraction (negative : Bool) (whole : List Nat) {part : NumeralPart} {t r : List Char}
    {ds : Option (List Nat)} (h : Fraction t ds r) (hpart : part ∈ [NumeralPart.zero, .whole]) :
    ∃ part' ∈ [NumeralPart.zero, .whole, .fraction],
      readFrom strict ⟨stack, .number { part, negative, whole }⟩ t =
        readFrom strict
          ⟨stack, .number { part := part', negative, whole, fraction := ds.map List.reverse }⟩
            r := by
  cases h with
  | absent => exact ⟨part, List.mem_append_left [_] hpart, rfl⟩
  | @present t r ds h =>
    refine ⟨.fraction, by decide, ?_⟩
    have hpoint : PartialNumeral.move { part, negative, whole } '.' =
        .extend { part := .point, negative, whole, fraction := some [] } := by
      simp only [List.mem_cons, List.not_mem_nil, or_false] at hpart
      rcases hpart with rfl | rfl <;> rfl
    rw [readFrom_of_move hpoint,
      readFrom_digits (fun acc => { part := .fraction, negative, whole, fraction := some acc })
        [] h]
    · simp only [List.append_nil, Option.map_some]
    · intro d _ hd
      simp only [PartialNumeral.move, digit?_digitChar hd]
    · intro acc d hd
      simp only [PartialNumeral.move, digit?_digitChar hd, Option.map_some]

/-- The digits of a power of ten. -/
lemma readFrom_powerDigits {n : PartialNumeral} {negative : Bool} {t r : List Char} {ds : List Nat}
    (h : Digits t ds r) (hpart : n.part = .mark ∨ n.part = .markSign)
    (hpower : n.power = some (negative, [])) :
    readFrom strict ⟨stack, .number n⟩ t =
      readFrom strict
        ⟨stack, .number { n with part := .power, power := some (negative, ds.reverse) }⟩ r := by
  rw [readFrom_digits (fun acc => { n with part := .power, power := some (negative, acc) }) [] h,
    List.append_nil]
  · intro d _ hd
    rcases hpart with hpart | hpart <;>
      simp only [PartialNumeral.move, hpart, digit?_digitChar hd, PartialNumeral.pushPower, hpower,
        Option.map_some]
  · intro acc d hd
    simp only [PartialNumeral.move, digit?_digitChar hd, PartialNumeral.pushPower, Option.map_some]

variable (strict stack) in
lemma readFrom_power (negative : Bool) (whole : List Nat) (fraction : Option (List Nat))
    {part : NumeralPart} {t r : List Char} {p : Option (Bool × List Nat)} (h : Power t p r)
    (hpart : part ∈ [NumeralPart.zero, .whole, .fraction]) :
    ∃ part' ∈ [NumeralPart.zero, .whole, .fraction, .power],
      readFrom strict ⟨stack, .number { part, negative, whole, fraction }⟩ t =
        readFrom strict
          ⟨stack, .number ⟨part', negative, whole, fraction, p.map fun (s, ds) => (s, ds.reverse)⟩⟩
            r := by
  have hmark : ∀ e, e = 'e' ∨ e = 'E' → PartialNumeral.move { part, negative, whole, fraction } e =
      .extend { part := .mark, negative, whole, fraction, power := some (false, []) } := by
    simp only [List.mem_cons, List.not_mem_nil, or_false] at hpart
    rintro e (rfl | rfl) <;> rcases hpart with rfl | rfl | rfl <;> rfl
  cases h with
  | absent => exact ⟨part, List.mem_append_left [_] hpart, rfl⟩
  | unsigned he h =>
    refine ⟨.power, by decide, ?_⟩
    rw [readFrom_of_move (hmark _ he), readFrom_powerDigits h (.inl rfl) rfl, Option.map_some]
  | plus he h =>
    refine ⟨.power, by decide, ?_⟩
    rw [readFrom_of_move (hmark _ he), readFrom_of_move rfl, readFrom_powerDigits h (.inr rfl) rfl,
      Option.map_some]
  | minus he h =>
    refine ⟨.power, by decide, ?_⟩
    rw [readFrom_of_move (hmark _ he), readFrom_of_move rfl, readFrom_powerDigits h (.inr rfl) rfl,
      Option.map_some]

/-- The digits of all parts come back in the order of the text. -/
lemma numeral_reverse (part : NumeralPart) (negative : Bool) (whole : List Nat)
    (fraction : Option (List Nat)) (power : Option (Bool × List Nat)) :
    PartialNumeral.numeral ⟨part, negative, whole.reverse, fraction.map List.reverse,
      power.map fun (s, ds) => (s, ds.reverse)⟩ = ⟨negative, whole, fraction, power⟩ := by
  rcases fraction with _ | fraction <;> rcases power with _ | ⟨s, ds⟩ <;>
    simp [PartialNumeral.numeral]

/-- A number is read from after its sign. -/
lemma readFrom_unsigned {negative : Bool} {t r : List Char} {n : Numeral} {v : Number}
    (h : Unsigned negative t n r) (hv : n.value = some v) (hr : EndsNumber r) :
    readFrom strict ⟨stack, .number { part := .sign, negative }⟩ t =
      readFrom strict (complete stack (.number v)) r := by
  obtain ⟨hwhole, hfraction, hpower⟩ := h
  obtain ⟨part₁, hpart₁, h₁⟩ := readFrom_whole strict stack negative hwhole
  obtain ⟨part₂, hpart₂, h₂⟩ := readFrom_fraction strict stack negative _ hfraction hpart₁
  obtain ⟨part₃, hpart₃, h₃⟩ := readFrom_power strict stack negative _ _ hpower hpart₂
  rw [h₁, h₂, h₃]
  refine readFrom_completeNumber ?_ (by rw [numeral_reverse, hv]) hr
  simp only [List.mem_cons, List.not_mem_nil, or_false] at hpart₃
  rcases hpart₃ with rfl | rfl | rfl | rfl <;> rfl

lemma readFrom_number {t r : List Char} {n : Numeral} {v : Number} (h : Signed t n r)
    (hv : n.value = some v) (hr : EndsNumber r) :
    readFrom strict ⟨stack, .value⟩ t = readFrom strict (complete stack (.number v)) r := by
  cases h with
  | plain h =>
    obtain ⟨d, hd, t', rfl⟩ := h.exists_digit
    rw [← readFrom_unsigned h hv hr]
    -- a digit that starts a value does what it does to a numeral without digits
    refine readFrom_congr ?_ t'
    have : d = 0 ∨ d = 1 ∨ d = 2 ∨ d = 3 ∨ d = 4 ∨ d = 5 ∨ d = 6 ∨ d = 7 ∨ d = 8 ∨ d = 9 := by omega
    rcases this with rfl | rfl | rfl | rfl | rfl | rfl | rfl | rfl | rfl | rfl <;> rfl
  | minus h => rw [← readFrom_unsigned h hv hr, readFrom_of_step rfl]

/-! ### Strings -/

lemma hexDigit?_of_mem {p : Char × Nat} (h : p ∈ hexDigits) :
    hexDigit? p.1 = some p.2 ∧ p.1.utf8Size = 1 := by
  revert p
  decide

lemma escaped?_of_mem {p : Char × Char} (h : p ∈ escapes) :
    p.1 ≠ 'u' ∧ PartialString.escaped? p.1 = some p.2 := by
  simp only [escapes, List.mem_cons, List.not_mem_nil, or_false] at h
  rcases h with rfl | rfl | rfl | rfl | rfl | rfl | rfl | rfl <;> decide

/-- A place where a string is read: `host` are the states inside the string and `closed` are the
states after it. -/
def Hosts (strict : Bool) (host closed : PartialString → State) : Prop :=
  ∀ s c, step strict (host s) c =
    match s.move strict c with
    | .extend s => .ok (host s)
    | .close s => .ok (closed s)
    | .refuse => .error .malformed

variable {host closed : PartialString → State}

lemma Hosts.readFrom_of_move (hhost : Hosts strict host closed) {s s' : PartialString} {c : Char}
    (h : s.move strict c = .extend s') (t : List Char) :
    readFrom strict (host s) (c :: t) = readFrom strict (host s') t :=
  readFrom_of_step (by rw [hhost, h]) t

/-- Among the digits of a code unit, every digit but the last is only counted in. -/
lemma Hosts.readFrom_hexDigit (hhost : Hosts strict host closed) {s : PartialString} {c : Char}
    {i u bytes : Nat} (hs : s.part = .hex (some u) bytes) (hc : (c, i) ∈ hexDigits)
    (hbytes : bytes < 3) (t : List Char) :
    readFrom strict (host s) (c :: t) =
      readFrom strict (host { s with part := .hex (some (u * 16 + i)) (bytes + 1) }) t := by
  refine hhost.readFrom_of_move ?_ t
  obtain ⟨hvalue, hsize⟩ := hexDigit?_of_mem hc
  simp only [PartialString.move, hs, hvalue, hsize]
  exact if_pos (by omega)

/-- A code unit is read as a whole, whatever it does to the string. -/
lemma Hosts.readFrom_codeUnit (hhost : Hosts strict host closed) {s s' : PartialString} {u : Nat}
    {t r : List Char} (h : CodeUnit t u r) (hs : s.part = .plain)
    (hunit : s.pushUnit strict u = .extend s') :
    readFrom strict (host s) t = readFrom strict (host s') r := by
  obtain ⟨part, chars, high, intact⟩ := s
  cases hs
  obtain ⟨ha, hb, hc, hd⟩ := h
  have hbackslash : PartialString.move strict ⟨.plain, chars, high, intact⟩ '\\' =
      .extend ⟨.escape, chars, high, intact⟩ := by
    simp [PartialString.move, PartialString.movePlain]
  have hletter : PartialString.move strict ⟨.escape, chars, high, intact⟩ 'u' =
      .extend ⟨.hex (some 0) 0, chars, high, intact⟩ := by
    simp [PartialString.move, PartialString.moveEscape]
  rw [hhost.readFrom_of_move hbackslash, hhost.readFrom_of_move hletter,
    hhost.readFrom_hexDigit rfl ha (by decide), hhost.readFrom_hexDigit rfl hb (by decide),
      hhost.readFrom_hexDigit rfl hc (by decide)]
  refine hhost.readFrom_of_move ?_ _
  obtain ⟨hvalue, hsize⟩ := hexDigit?_of_mem hd
  simp only [Nat.zero_mul, Nat.zero_add] at hunit ⊢
  simp only [PartialString.move, hvalue, hsize]
  exact hunit

/-- The characters of a string are kept last first, up to its closing quote. -/
lemma Hosts.readFrom_chars (hhost : Hosts strict host closed) {t r cs : List Char}
    (h : Chars t cs r) (acc : List Char) :
    readFrom strict (host { chars := acc }) t =
      readFrom strict (closed { chars := cs.reverse ++ acc }) r := by
  induction h generalizing acc with
  | close => exact readFrom_of_step (hhost _ _) _
  | @plain c t r cs hc hquote hbackslash _ ih =>
    have hmove : PartialString.move strict { chars := acc } c = .extend { chars := c :: acc } := by
      have hlt : ¬ c < ' ' := Char.not_lt.mpr hc
      simp [PartialString.move, PartialString.movePlain, PartialString.push, hquote,
        hbackslash, hlt]
    rw [hhost.readFrom_of_move hmove, ih, reverse_cons_append]
  | @escape e c t r cs he _ ih =>
    have hmove : PartialString.move strict { part := .escape, chars := acc } e =
        .extend { chars := c :: acc } := by
      obtain ⟨hne, hvalue⟩ := escaped?_of_mem he
      simp only at hne hvalue
      simp [PartialString.move, PartialString.moveEscape, PartialString.push, hne, hvalue]
    rw [hhost.readFrom_of_move rfl, hhost.readFrom_of_move hmove, ih, reverse_cons_append]
  | @unit u t t₁ r cs hu hrange _ ih =>
    have hunit : PartialString.pushUnit strict { chars := acc } u =
        .extend { chars := Char.ofNat u :: acc } := by
      have hhigh : ¬ (0xD800 ≤ u ∧ u < 0xDC00) := by omega
      have hlow : ¬ (0xDC00 ≤ u ∧ u < 0xE000) := by omega
      simp only [PartialString.pushUnit, hhigh, hlow, if_false, PartialString.push]
    rw [hhost.readFrom_codeUnit hu rfl hunit, ih, reverse_cons_append]
  | @pair u v t t₁ t₂ r cs hu hhigh hv hlow _ ih =>
    -- the first half waits for the second one, which makes the character
    have hfirst : PartialString.pushUnit strict { chars := acc } u =
        .extend { chars := acc, high := some u } := by
      simp only [PartialString.pushUnit, hhigh, and_self, if_true]
    have hsecond : PartialString.pushUnit strict { chars := acc, high := some u } v =
        .extend { chars := Char.ofNat (0x10000 + (u - 0xD800) * 0x400 + (v - 0xDC00)) :: acc } := by
      simp only [PartialString.pushUnit, hlow, and_self, if_true, PartialString.push]
    rw [hhost.readFrom_codeUnit hu rfl hfirst, hhost.readFrom_codeUnit hv rfl hsecond, ih,
      reverse_cons_append]

lemma Hosts.readFrom_quoted (hhost : Hosts strict host closed) {t r : List Char} {cs : List Char}
    (h : Chars t cs r) :
    ∃ s : PartialString, s.text? = some (String.ofList cs) ∧
      readFrom strict (host {}) t = readFrom strict (closed s) r :=
  ⟨_, by simp [PartialString.text?], hhost.readFrom_chars h []⟩

/-! ### Values -/

/-- The letters of a word that are still to come. -/
lemma readFrom_word (d : Document) (r : List Char) (letter : Char) (letters : List Char) :
    readFrom strict ⟨stack, .word (letter :: letters) d⟩ (letter :: letters ++ r) =
      readFrom strict (complete stack d) r := by
  induction letters generalizing letter with
  | nil => exact readFrom_of_step (by simp [step]) r
  | cons next letters ih =>
    have hstep : step strict ⟨stack, .word (letter :: next :: letters) d⟩ letter =
        .ok ⟨stack, .word (next :: letters) d⟩ := by simp [step]
    rw [List.cons_append, readFrom_of_step hstep, ih]

lemma readFrom_string {t r : List Char} {s : String} (h : Quoted t s r) :
    readFrom strict ⟨stack, .value⟩ t = readFrom strict (complete stack (.string s)) r := by
  obtain ⟨h⟩ := h
  have hhost : Hosts strict (fun s => ⟨stack, .string s⟩)
      (fun s => complete stack (stringLeaf s.text?)) :=
    fun _ _ => rfl
  obtain ⟨s, hs, hread⟩ := hhost.readFrom_quoted h
  rw [readFrom_of_step rfl, hread, hs, stringLeaf]

lemma readFrom_key {t r : List Char} {k : String} (h : Quoted t k r)
    (members : List (Option String × Document)) :
    readFrom strict ⟨stack, .nextKey members⟩ t =
      readFrom strict ⟨stack, .colon members (some k)⟩ r := by
  obtain ⟨h⟩ := h
  have hhost : Hosts strict (fun s => ⟨stack, .key members s⟩)
      (fun s => ⟨stack, .colon members s.text?⟩) :=
    fun _ _ => rfl
  obtain ⟨s, hs, hread⟩ := hhost.readFrom_quoted h
  rw [readFrom_of_step rfl, hread, hs]

/-- After an opening bracket a value is read as it is after a comma. -/
lemma readFrom_firstItem {t r : List Char} {ds : List Document} (h : Items t ds r) :
    readFrom strict ⟨stack, .firstItem⟩ t = readFrom strict ⟨.array [] :: stack, .value⟩ t := by
  obtain ⟨d, r', ⟨hblanks, hvalue, -⟩⟩ := h.exists_padded
  obtain ⟨c, t', rfl, hblank, hc⟩ := hvalue.exists_head
  rw [readFrom_blanks hblanks fun _ => rfl, readFrom_blanks hblanks fun _ => rfl]
  refine readFrom_congr ?_ t'
  simp [step, stepBetween, hblank, hc]

/-- After an opening brace a key is read as it is after a comma. -/
lemma readFrom_firstKey {t r : List Char} {ms : List (Option String × Document)}
    (h : Members t ms r) :
    readFrom strict ⟨stack, .firstKey⟩ t = readFrom strict ⟨stack, .nextKey []⟩ t := by
  obtain ⟨m, r', ⟨hblanks, ⟨_⟩, -, -⟩⟩ := h.exists_member
  rw [readFrom_blanks hblanks fun _ => rfl, readFrom_blanks hblanks fun _ => rfl]
  exact readFrom_congr rfl _

-- One lemma for each rule, by recursion on the derivation.  The containers around the value are on
-- the stack, so the lemmas are for every stack, and those for lists are for every number of items
-- before them.
mutual

lemma readFrom_value {stack : List Frame} {t r : List Char} {d : Document} (hr : EndsNumber r) :
    Value t d r → readFrom strict ⟨stack, .value⟩ t = readFrom strict (complete stack d) r
  | .null => by rw [readFrom_of_step rfl]; exact readFrom_word .null r 'u' ['l', 'l']
  | .true => by rw [readFrom_of_step rfl]; exact readFrom_word (.bool true) r 'r' ['u', 'e']
  | .false => by rw [readFrom_of_step rfl]; exact readFrom_word (.bool false) r 'a' ['l', 's', 'e']
  | .number h hv => readFrom_number h hv hr
  | .string h => readFrom_string h
  | .emptyArray h => by
    rw [readFrom_of_step rfl, readFrom_blanks h fun _ => rfl, readFrom_of_step rfl]
  | .array h => by
    rw [readFrom_of_step rfl, readFrom_firstItem h, readFrom_items (.of_mem (by decide)) [] h,
      readFrom_of_step rfl, List.append_nil, List.reverse_reverse]
  | .emptyObject h => by
    rw [readFrom_of_step rfl, readFrom_blanks h fun _ => rfl, readFrom_of_step rfl]
  | .object h => by
    rw [readFrom_of_step rfl, readFrom_firstKey h, readFrom_members (.of_mem (by decide)) [] h,
      readFrom_of_step rfl, List.append_nil, List.reverse_reverse]

lemma readFrom_padded {stack : List Frame} {t r : List Char} {d : Document} (hr : EndsNumber r) :
    Padded t d r → readFrom strict ⟨stack, .value⟩ t = readFrom strict (complete stack d) r
  | .intro hbefore h hafter => by
    rw [readFrom_blanks hbefore fun _ => rfl, readFrom_value (hr.of_blanks hafter) h]
    exact readFrom_blanks hafter (step_complete stack d)

lemma readFrom_items {stack : List Frame} {t r : List Char} {ds : List Document} (hr : EndsNumber r)
    (items : List Document) : Items t ds r →
    readFrom strict ⟨.array items :: stack, .value⟩ t =
      readFrom strict ⟨stack, .afterItem (ds.reverse ++ items)⟩ r
  | .last h => readFrom_padded hr h
  | @Items.cons _ _ _ d ds h hrest => by
    rw [readFrom_padded (.of_mem (by decide)) h, complete, readFrom_of_step rfl,
      readFrom_items hr (d :: items) hrest, reverse_cons_append]

lemma readFrom_member {stack : List Frame} {t r : List Char} {m : Option String × Document}
    (hr : EndsNumber r) (members : List (Option String × Document)) : Member t m r →
    readFrom strict ⟨stack, .nextKey members⟩ t =
      readFrom strict ⟨stack, .afterMember (m :: members)⟩ r
  | .intro hbefore hkey hcolon h => by
    rw [readFrom_blanks hbefore fun _ => rfl, readFrom_key hkey,
      readFrom_blanks hcolon fun _ => rfl, readFrom_of_step rfl, readFrom_padded hr h, complete]

lemma readFrom_members {stack : List Frame} {t r : List Char} {ms : List (Option String × Document)}
    (hr : EndsNumber r) (members : List (Option String × Document)) : Members t ms r →
    readFrom strict ⟨stack, .nextKey members⟩ t =
      readFrom strict ⟨stack, .afterMember (ms.reverse ++ members)⟩ r
  | .last h => readFrom_member hr members h
  | @Members.cons _ _ _ m ms h hrest => by
    rw [readFrom_member (.of_mem (by decide)) members h, readFrom_of_step rfl,
      readFrom_members hr (m :: members) hrest, reverse_cons_append]

end

end Reader

/-- The reader reads every text of the grammar as what it stands for. -/
theorem Document.read_of_text {strict : Bool} {text : String} {d : Document}
    (h : Text text.toList d) : Document.read strict text = .ok d :=
  Reader.readFrom_padded (by rintro _ _ ⟨⟩) h

end CodeOutline.Json
