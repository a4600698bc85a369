/-
Printed values are texts of the grammar, and reading them gives the values back.

A value is exact if its numbers are integers with 64 bits and no object in it has a key twice.  In
either layout the text of an exact value follows the grammar and stands for the value
(`text_print`), so the reader gives the value back (`parse_print`).  The compact text of an exact
value has no line feeds.
-/
import CodeOutline.Json.Printer
import CodeOutline.Proofs.JsonGrammar

namespace CodeOutline.Json

open Grammar

/-! ### Values without doubles -/

/-- The numbers in a value are integers with 64 bits, with or without a sign, and no key occurs
twice in an object. -/
inductive Exact : Json → Prop where
  | null : Exact .null
  | bool (b : Bool) : Exact (.bool b)
  | nat {n : Nat} (hn : n < UInt64.size) : Exact (.nat n)
  | negative {n : Nat} (hn : n < Nat.pow 2 63) : Exact (.int (.negSucc n))
  | string (s : String) : Exact (.string s)
  | array {items : List Json} (h : ∀ v ∈ items, Exact v) : Exact (.array items)
  | object {members : List (String × Json)} (hkeys : distinctKeys members = true)
      (h : ∀ m ∈ members, Exact m.2) : Exact (.object members)

mutual

/-- The document that says the same as a value. -/
def document : Json → Document
  | .null => .null
  | .bool b => .bool b
  | .number n => .number n
  | .string s => .string s
  | .array items => .array (documents items)
  | .object members => .object (memberDocuments members)

/-- The documents of items. -/
def documents : List Json → List Document
  | [] => []
  | v :: vs => document v :: documents vs

/-- The documents of members. -/
def memberDocuments : List (String × Json) → List (Option String × Document)
  | [] => []
  | (k, v) :: ms => (some k, document v) :: memberDocuments ms

end

lemma lastOfEach_of_distinctKeys {members : List (String × Json)}
    (h : distinctKeys members = true) : lastOfEach members = members := by
  induction members with
  | nil => rfl
  | cons m ms ih =>
    obtain ⟨k, v⟩ := m
    rw [distinctKeys, Bool.and_eq_true, Option.isNone_iff_eq_none] at h
    rw [lastOfEach, h.1, ih h.2]
    rfl

lemma values_documents {items : List Json} (h : ∀ v ∈ items, v.document.value = v) :
    Document.values (documents items) = items := by
  induction items with
  | nil => rfl
  | cons v vs ih =>
    rw [List.forall_mem_cons] at h
    rw [documents, Document.values, h.1, ih h.2]

lemma memberValues_memberDocuments {members : List (String × Json)}
    (h : ∀ m ∈ members, m.2.document.value = m.2) :
    Document.memberValues (memberDocuments members) = members := by
  induction members with
  | nil => rfl
  | cons m ms ih =>
    rw [List.forall_mem_cons] at h
    rw [memberDocuments, Document.memberValues, h.1, ih h.2]

/-- The document of an exact value has this value. -/
lemma value_document {v : Json} (hv : Exact v) : v.document.value = v := by
  induction hv with
  | array _ ih => rw [document, Document.value, values_documents ih]
  | object hkeys _ ih =>
    rw [document, Document.value, memberValues_memberDocuments ih, lastOfEach_of_distinctKeys hkeys]
  | _ => rfl

/-! ### Numbers -/

lemma digits_concat {t r r' : List Char} {ds : List Nat} {d : Nat}
    (h : Digits t ds r') (hd : d < 10) (hr : r' = d.digitChar :: r) : Digits t (ds ++ [d]) r := by
  induction h with
  | last hd' => exact .cons hd' (hr ▸ .last hd)
  | cons hd' _ ih => exact .cons hd' (ih hr)

/-- The decimal digits of a positive number. -/
lemma exists_digits_toDigits {n : Nat} (hn : 0 < n) (r : List Char) :
    ∃ d ds, d ≠ 0 ∧ Digits (Nat.toDigits 10 n ++ r) (d :: ds) r ∧
      Numeral.ofDigits (d :: ds) = n := by
  induction n using Nat.strongRecOn generalizing r with
  | ind n ih =>
    by_cases hlt : n < 10
    · refine ⟨n, [], by omega, ?_, ?_⟩
      · rw [Nat.toDigits_of_lt_base hlt]
        exact .last hlt
      · simp [Numeral.ofDigits]
    · -- the digits of `n / 10` end where the last digit starts
      obtain ⟨d, ds, hd, hdigits, hvalue⟩ :=
        ih (n / 10) (by omega) (by omega) ((n % 10).digitChar :: r)
      refine ⟨d, ds ++ [n % 10], hd, ?_, ?_⟩
      · rw [Nat.toDigits_of_base_le (by decide) (by omega), List.append_assoc]
        exact digits_concat hdigits (by omega) rfl
      · rw [Numeral.ofDigits] at hvalue ⊢
        rw [← List.cons_append, List.foldl_append, hvalue]
        show n / 10 * 10 + n % 10 = n
        omega

lemma exists_whole_toDigits (n : Nat) (r : List Char) :
    ∃ ds, Whole (Nat.toDigits 10 n ++ r) ds r ∧ Numeral.ofDigits ds = n := by
  rcases Nat.eq_zero_or_pos n with rfl | hn
  · exact ⟨[0], .zero, rfl⟩
  · obtain ⟨d, ds, hd, hdigits, hvalue⟩ := exists_digits_toDigits hn r
    exact ⟨d :: ds, .digits hd hdigits, hvalue⟩

/-- Further digits only make a number larger. -/
lemma le_foldl_digits (s : Nat) (ds : List Nat) : s ≤ ds.foldl (fun n d => n * 10 + d) s := by
  induction ds generalizing s with
  | nil => exact Nat.le_refl s
  | cons d ds ih => exact Nat.le_trans (by omega) (ih (s * 10 + d))

lemma absorb_of_lt {s : Nat} {ds : List Nat}
    (h : ds.foldl (fun n d => n * 10 + d) s < UInt64.size) :
    Numeral.absorb s ds = (ds.foldl (fun n d => n * 10 + d) s, []) := by
  induction ds generalizing s with
  | nil => rfl
  | cons d ds ih =>
    rw [List.foldl_cons] at h ⊢
    have hlt : s * 10 + d < UInt64.size := Nat.lt_of_le_of_lt (le_foldl_digits (s * 10 + d) ds) h
    rw [Numeral.absorb, if_pos hlt, ih h]

/-- The digits of an integer with 64 bits are kept as they are. -/
lemma exists_whole_absorb {n : Nat} (hn : n < UInt64.size) (r : List Char) :
    ∃ ds, Whole (Nat.toDigits 10 n ++ r) ds r ∧ Numeral.absorb 0 ds = (n, []) := by
  obtain ⟨ds, hwhole, hvalue⟩ := exists_whole_toDigits n r
  refine ⟨ds, hwhole, ?_⟩
  rw [absorb_of_lt, ← Numeral.ofDigits, hvalue]
  rwa [← Numeral.ofDigits, hvalue]

lemma value_writeNumber_nat {n : Nat} (hn : n < UInt64.size) (r : List Char) :
    Value (writeNumber (.int n) r) (.number (.int n)) r := by
  obtain ⟨ds, hwhole, habsorb⟩ := exists_whole_absorb hn r
  refine .number (.plain (.intro hwhole .absent .absent)) ?_
  simp [Numeral.value, habsorb]

lemma value_writeNumber_negative {n : Nat} (hn : n < Nat.pow 2 63) (r : List Char) :
    Value (writeNumber (.int (.negSucc n)) r) (.number (.int (.negSucc n))) r := by
  obtain ⟨ds, hwhole, habsorb⟩ :=
    exists_whole_absorb (n := n + 1) (Nat.lt_of_le_of_lt hn (by decide)) r
  refine .number (.minus (.intro hwhole .absent .absent)) ?_
  have hrange : 0 < n + 1 ∧ n + 1 ≤ Nat.pow 2 63 := ⟨Nat.succ_pos n, hn⟩
  simp only [Numeral.value, habsorb, if_true, if_pos hrange]
  rfl

/-! ### Strings -/

lemma hexDigit_mem {n : Nat} (hn : n < 16) : (hexDigit n, n) ∈ hexDigits := by
  revert n
  decide

/-- A control character is written as a code unit. -/
lemma codeUnit_of_lt {c : Char} (hc : c < ' ') (r : List Char) :
    CodeUnit ('\\' :: 'u' :: '0' :: '0' :: hexDigit (c.toNat / 16) :: hexDigit (c.toNat % 16) :: r)
      c.toNat r := by
  have hlt : c.toNat < 32 := hc
  have h :=
    CodeUnit.intro (r := r) (hexDigit_mem (n := 0) (by decide)) (hexDigit_mem (n := 0) (by decide))
    (hexDigit_mem (n := c.toNat / 16) (by omega)) (hexDigit_mem (n := c.toNat % 16) (by omega))
  rwa [show ((0 * 16 + 0) * 16 + c.toNat / 16) * 16 + c.toNat % 16 = c.toNat by omega] at h

/-- Every character is written as a character of a string. -/
lemma chars_escape (c : Char) {t r cs : List Char} (h : Chars t cs r) :
    Chars (escape c ++ t) (c :: cs) r := by
  unfold escape
  split
  case h_8 _ hquote hbackslash _ _ _ _ _ =>
    split
    case isTrue hc =>
      have hunit := codeUnit_of_lt hc t
      have hlt : c.toNat < 32 := hc
      have := Chars.unit hunit (.inl (by omega)) h
      rwa [Char.ofNat_toNat] at this
    case isFalse hc => exact .plain (Char.not_lt.mp hc) hquote hbackslash h
  all_goals exact .escape (by decide) h

lemma quoted_writeString (s : String) (r : List Char) : Quoted (writeString s r) s r := by
  have hchars : ∀ cs : List Char,
      Chars (cs.foldr (fun c text => escape c ++ text) ('"' :: r)) cs r := by
    intro cs
    induction cs with
    | nil => exact .close
    | cons c cs ih => exact chars_escape c ih
  have h := Quoted.intro (hchars s.toList)
  rwa [String.ofList_toList] at h

/-! ### Containers -/

lemma blanks_lineBreak (layout : Layout) (level : Nat) (r : List Char) :
    Blanks (layout.lineBreak level ++ r) r := by
  cases layout with
  | compact => exact .nil
  | pretty =>
    refine .cons (by decide) ?_
    generalize 2 * level = n
    induction n with
    | zero => exact .nil
    | succ n ih => exact .cons (by decide) ih

/-- A colon is followed by blanks. -/
lemma exists_colon_append (layout : Layout) (r : List Char) :
    ∃ t, layout.colon ++ r = ':' :: t ∧ Blanks t r := by
  cases layout with
  | compact => exact ⟨r, rfl, .nil⟩
  | pretty => exact ⟨' ' :: r, rfl, .cons (by decide) .nil⟩

variable {layout : Layout} {level : Nat}

lemma items_write {v : Json} {vs : List Json} {r : List Char}
    (h : ∀ w ∈ v :: vs, ∀ level r, Value (write layout level w r) w.document r) :
    Items
      (layout.lineBreak (level + 1) ++ write layout (level + 1) v (writeItems layout level vs r))
      (documents (v :: vs)) (']' :: r) := by
  induction vs generalizing v with
  | nil =>
    have hvalue := h v List.mem_cons_self (level + 1) (writeItems layout level [] r)
    exact .last
      (.intro (blanks_lineBreak layout (level + 1) _) hvalue
        (blanks_lineBreak layout level (']' :: r)))
  | cons w ws ih =>
    rw [List.forall_mem_cons] at h
    have hvalue := h.1 (level + 1) (writeItems layout level (w :: ws) r)
    exact .cons (.intro (blanks_lineBreak layout (level + 1) _) hvalue .nil) (ih h.2)

lemma member_write {k : String} {v : Json} {t r : List Char}
    (h : Value (write layout (level + 1) v t) v.document t) (hr : Blanks t r) :
    Member
      (layout.lineBreak (level + 1) ++ writeString k (layout.colon ++ write layout (level + 1) v t))
      (some k, v.document) r := by
  obtain ⟨t', ht', hblanks⟩ := exists_colon_append layout (write layout (level + 1) v t)
  have hkey := quoted_writeString k (layout.colon ++ write layout (level + 1) v t)
  exact .intro (blanks_lineBreak layout (level + 1) _) hkey (ht' ▸ .nil) (.intro hblanks h hr)

lemma members_write {m : String × Json} {ms : List (String × Json)} {r : List Char}
    (h : ∀ m' ∈ m :: ms, ∀ level r, Value (write layout level m'.2 r) m'.2.document r) :
    Members (layout.lineBreak (level + 1) ++
        writeString m.1
          (layout.colon ++ write layout (level + 1) m.2 (writeMembers layout level ms r)))
      (memberDocuments (m :: ms)) ('\x7d' :: r) := by
  induction ms generalizing m with
  | nil =>
    have hvalue := h m List.mem_cons_self (level + 1) (writeMembers layout level [] r)
    exact .last (member_write hvalue (blanks_lineBreak layout level ('\x7d' :: r)))
  | cons m' ms ih =>
    rw [List.forall_mem_cons] at h
    have hvalue := h.1 (level + 1) (writeMembers layout level (m' :: ms) r)
    exact .cons (member_write hvalue .nil) (ih h.2)

/-- An exact value is written as a value of the grammar that says the same. -/
lemma value_write {v : Json} (hv : Exact v) (level : Nat) (r : List Char) :
    Value (write layout level v r) v.document r := by
  induction hv generalizing level r with
  | null => exact .null
  | bool b => cases b with
    | false => exact .false
    | true => exact .true
  | nat hn => exact value_writeNumber_nat hn r
  | negative hn => exact value_writeNumber_negative hn r
  | string s => exact .string (quoted_writeString s r)
  | @array items _ ih => cases items with
    | nil => exact .emptyArray .nil
    | cons v vs => exact .array (items_write ih)
  | @object members _ _ ih => cases members with
    | nil => exact .emptyObject .nil
    | cons m ms => exact .object (members_write ih)

/-! ### Texts -/

lemma writeString_append (k : String) (r s : List Char) :
    writeString k (r ++ s) = writeString k r ++ s := by
  have hchars : ∀ cs : List Char, cs.foldr (fun c text => escape c ++ text) ('"' :: (r ++ s)) =
      cs.foldr (fun c text => escape c ++ text) ('"' :: r) ++ s := by
    intro cs
    induction cs with
    | nil => rfl
    | cons c cs ih => rw [List.foldr_cons, List.foldr_cons, ih, List.append_assoc]
  rw [writeString, writeString, hchars, List.cons_append]

mutual

/-- A value is written in front of a text and leaves the text as it is. -/
lemma write_append : ∀ (level : Nat) (v : Json) (r s : List Char),
    write layout level v (r ++ s) = write layout level v r ++ s
  | _, .null, _, _ => rfl
  | _, .bool true, _, _ => rfl
  | _, .bool false, _, _ => rfl
  | _, .number (.int (.ofNat _)), _, _ => by simp [write, writeNumber]
  | _, .number (.int (.negSucc _)), _, _ => by simp [write, writeNumber]
  | _, .number (.float _), _, _ => by simp [write, writeNumber]
  | _, .string k, r, s => writeString_append k r s
  | _, .array [], _, _ => rfl
  | level, .array (v :: vs), r, s => by
    simp [write, writeItems_append level vs r s, write_append (level + 1) v]
  | _, .object [], _, _ => rfl
  | level, .object ((k, v) :: ms), r, s => by
    simp [write, writeMembers_append level ms r s, write_append (level + 1) v, ← writeString_append]

lemma writeItems_append : ∀ (level : Nat) (vs : List Json) (r s : List Char),
    writeItems layout level vs (r ++ s) = writeItems layout level vs r ++ s
  | _, [], _, _ => by simp [writeItems]
  | level, v :: vs, r, s => by
    simp [writeItems, writeItems_append level vs r s, write_append (level + 1) v]

lemma writeMembers_append : ∀ (level : Nat) (ms : List (String × Json)) (r s : List Char),
    writeMembers layout level ms (r ++ s) = writeMembers layout level ms r ++ s
  | _, [], _, _ => by simp [writeMembers]
  | level, (k, v) :: ms, r, s => by
    simp [writeMembers, writeMembers_append level ms r s, write_append (level + 1) v,
      ← writeString_append]

end

/-- The text of an exact value is a text of the grammar that says the same. -/
theorem text_print {v : Json} (hv : Exact v) : Text (print layout v).toList v.document := by
  rw [print, String.toList_ofList]
  exact .intro .nil (value_write hv 0 []) .nil

/-- A line feed after the text of a value does not count. -/
theorem text_print_lf {v : Json} (hv : Exact v) :
    Text (print layout v ++ "\n").toList v.document := by
  have htext : (print layout v ++ "\n").toList = write layout 0 v ['\n'] := by
    rw [String.toList_append, print, String.toList_ofList]
    exact (write_append 0 v [] ['\n']).symm
  rw [htext]
  exact .intro .nil (value_write hv 0 ['\n']) (.cons (by decide) .nil)

theorem parse_print {v : Json} (hv : Exact v) : parse (print layout v) = .ok v := by
  rw [parse, Document.read_of_text (text_print hv)]
  exact congrArg Except.ok (value_document hv)

/-! ### Line feeds -/

lemma lf_notMem_escape (c : Char) : '\n' ∉ escape c := by
  unfold escape
  split
  case h_8 _ _ _ _ _ hc _ _ =>
    split
    case isTrue hlt =>
      have hdigit : ∀ n < 16, '\n' ≠ hexDigit n := by decide
      have hc : c.toNat < 32 := hlt
      simp [hdigit (c.toNat / 16) (by omega), hdigit (c.toNat % 16) (by omega)]
    case isFalse => simpa using Ne.symm hc
  all_goals decide

lemma lf_notMem_writeString (s : String) {r : List Char} (hr : '\n' ∉ r) :
    '\n' ∉ writeString s r := by
  have hchars : ∀ cs : List Char, '\n' ∉ cs.foldr (fun c text => escape c ++ text) ('"' :: r) := by
    intro cs
    induction cs with
    | nil => simpa using hr
    | cons c cs ih => simpa [lf_notMem_escape c] using ih
  simpa [writeString] using hchars s.toList

lemma lf_notMem_toDigits (n : Nat) : '\n' ∉ Nat.toDigits 10 n :=
  fun h => absurd (Nat.isDigit_of_mem_toDigits (by decide) (by decide) h) (by decide)

lemma lf_notMem_writeItems {vs : List Json} {r : List Char} (hr : '\n' ∉ r)
    (h : ∀ v ∈ vs, ∀ level r, '\n' ∉ r → '\n' ∉ write .compact level v r) :
    '\n' ∉ writeItems .compact level vs r := by
  induction vs with
  | nil => simpa [writeItems, Layout.lineBreak] using hr
  | cons v vs ih =>
    rw [List.forall_mem_cons] at h
    simpa [writeItems, Layout.lineBreak] using h.1 (level + 1) _ (ih h.2)

lemma lf_notMem_writeMembers {ms : List (String × Json)} {r : List Char} (hr : '\n' ∉ r)
    (h : ∀ m ∈ ms, ∀ level r, '\n' ∉ r → '\n' ∉ write .compact level m.2 r) :
    '\n' ∉ writeMembers .compact level ms r := by
  induction ms with
  | nil => simpa [writeMembers, Layout.lineBreak] using hr
  | cons m ms ih =>
    rw [List.forall_mem_cons] at h
    have hvalue := h.1 (level + 1) _ (ih h.2)
    simpa [writeMembers, Layout.lineBreak] using
      lf_notMem_writeString m.1 (r := Layout.compact.colon ++ _)
        (by simpa [Layout.colon] using hvalue)

/-- The compact text of an exact value is one line. -/
lemma lf_notMem_write_compact {v : Json} (hv : Exact v) (level : Nat) {r : List Char}
    (hr : '\n' ∉ r) : '\n' ∉ write .compact level v r := by
  induction hv generalizing level r with
  | null => simpa [write, writeWord] using hr
  | bool b => cases b <;> simpa [write, writeWord] using hr
  | @nat n _ => simpa [write, writeNumber] using ⟨lf_notMem_toDigits n, hr⟩
  | @negative n _ => simpa [write, writeNumber] using ⟨lf_notMem_toDigits (n + 1), hr⟩
  | string s => exact lf_notMem_writeString s hr
  | @array items _ ih => cases items with
    | nil => simpa [write] using hr
    | cons v vs =>
      -- an array is written as its items are, but for the first character
      have hitems : '\n' ∉ writeItems .compact level (v :: vs) r := lf_notMem_writeItems hr ih
      simpa [write, writeItems] using hitems
  | @object members _ _ ih => cases members with
    | nil => simpa [write] using hr
    | cons m ms =>
      have hmembers : '\n' ∉ writeMembers .compact level (m :: ms) r := lf_notMem_writeMembers hr ih
      simpa [write, writeMembers] using hmembers

end CodeOutline.Json
