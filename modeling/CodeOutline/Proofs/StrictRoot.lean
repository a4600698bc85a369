/-
What the root of a syntax tree has to be.

Decoding is strict at the root and nowhere else.  This file says what strict means, without decoding
anything:

* `Location.WrittenAs` are the JSON values that stand for a location, and `Location.GivenBy` says
which location a field gives, if it is missing or null or holds a location;

* `Program.BodyGivenBy` says which statements a field gives: none if it is missing, and one for
every item of an array, whatever the item is.

A value is a program exactly if its type is `Program` and both fields give something.  Otherwise its
type is to blame, or one of the fields is.  So the errors of an outline come from three places that
exclude one another: the text is not JSON, the root is not sound, or the outline of a program that
has been decoded meets an unexpected pattern (`root_alone_is_strict`).
-/
import CodeOutline.Builder.Source
import CodeOutline.Proofs.Decoding
import CodeOutline.Proofs.Runs

namespace CodeOutline

/-! ### Steps that may fail -/

lemma bind_eq_ok_iff {ε α β : Type} {x : Except ε α} {f : α → Except ε β} {b : β} :
    x >>= f = .ok b ↔ ∃ a, x = .ok a ∧ f a = .ok b := by
  constructor
  · exact exists_ok_of_bind
  · rintro ⟨a, rfl, h⟩
    exact h

lemma map_eq_ok_iff {ε α β : Type} {x : Except ε α} {f : α → β} {b : β} :
    x.map f = .ok b ↔ ∃ a, x = .ok a ∧ f a = b := by
  cases x <;> simp [Except.map]

lemma mapError_eq_ok_iff {ε ε' α : Type} {x : Except ε α} {f : ε → ε'} {a : α} :
    x.mapError f = .ok a ↔ x = .ok a := by
  cases x with
  | error e => exact ⟨nofun, nofun⟩
  | ok b =>
    exact ⟨fun h => congrArg Except.ok (Except.ok.inj h),
      fun h => congrArg Except.ok (Except.ok.inj h)⟩

namespace Json

variable {α β : Type} {decode : Json → Except Mismatch α}

/-! ### Records of two fields -/

/-- A value that stands for a record of two fields: an object that has both of them, or an array of
the two. -/
inductive PairOf (first second : String) (P Q : Json → Prop) : Json → Prop where
  | object {members : List (String × Json)} {v w : Json}
      (hv : lookup first members = some v) (hP : P v) (hw : lookup second members = some w)
      (hQ : Q w) : PairOf first second P Q (.object members)
  | array {v w : Json} (hP : P v) (hQ : Q w) : PairOf first second P Q (.array [v, w])

lemma required_eq_ok_iff {key : String} {x : Option α} {a : α} :
    required key x = .ok a ↔ x = some a := by
  cases x <;> simp [required]

lemma present_eq_ok_some_iff {key : String} {members : List (String × Json)} {a : α} :
    present key decode members = .ok (some a) ↔ ∃ v, lookup key members = some v ∧
      decode v = .ok a := by
  unfold present
  cases lookup key members with
  | none => simp
  | some v => simp [map_eq_ok_iff]

/-- Two fields of an object: both have to be there and to decode. -/
lemma bothFields_eq_ok_iff {first second : String} {members : List (String × Json)}
    {make : α → α → β} {r : β} :
    (do
      let b ← present second decode members
      let a ← present first decode members
      let a ← required first a
      let b ← required second b
      return make a b : Except Mismatch β) = .ok r ↔
    ∃ a b, make a b = r ∧ (∃ v, lookup first members = some v ∧ decode v = .ok a) ∧
      ∃ w, lookup second members = some w ∧ decode w = .ok b := by
  simp only [bind_eq_ok_iff, required_eq_ok_iff]
  constructor
  · rintro ⟨_, hsecond, _, hfirst, a, rfl, b, rfl, h⟩
    exact ⟨a, b, Except.ok.inj h, present_eq_ok_some_iff.1 hfirst, present_eq_ok_some_iff.1 hsecond⟩
  · rintro ⟨a, b, rfl, hfirst, hsecond⟩
    exact ⟨_, present_eq_ok_some_iff.2 hsecond, _, present_eq_ok_some_iff.2 hfirst, a,
      rfl, b, rfl, rfl⟩

/-- Two fields in an array: there are exactly two items, and both have to decode. -/
lemma pairOfItems_eq_ok_iff {expected : Expectation} {items : List Json} {a b : α} :
    pairOfItems expected decode items = .ok (a, b) ↔
      ∃ v w, items = [v, w] ∧ decode v = .ok a ∧ decode w = .ok b := by
  constructor
  · intro h
    match items with
    | [] => cases h
    | [v] =>
      obtain ⟨_, _, h⟩ := bind_eq_ok_iff.1 h
      cases h
    | [v, w] =>
      obtain ⟨a', ha, h⟩ := bind_eq_ok_iff.1 h
      obtain ⟨b', hb, h⟩ := bind_eq_ok_iff.1 h
      obtain ⟨rfl, rfl⟩ := Prod.mk.inj (Except.ok.inj h)
      exact ⟨v, w, rfl, ha, hb⟩
    | v :: w :: x :: rest =>
      obtain ⟨_, _, h⟩ := bind_eq_ok_iff.1 h
      obtain ⟨_, _, h⟩ := bind_eq_ok_iff.1 h
      cases h
  · rintro ⟨v, w, rfl, ha, hb⟩
    rw [pairOfItems, ha, hb]
    rfl

/-- A record of two fields is decoded exactly from the values that stand for it, if that is so for
its fields. -/
lemma decodePair_eq_ok_iff {first second : String} {expected : Expectation} {make : α → α → β}
    {P : α → Json → Prop} (hdecode : ∀ a v, decode v = .ok a ↔ P a v) {v : Json} {r : β} :
    decodePair first second expected decode make v = .ok r ↔
      ∃ a b, make a b = r ∧ PairOf first second (P a) (P b) v := by
  constructor
  · intro h
    cases v with
    | object members =>
      obtain ⟨a, b, hr, ⟨v, hv, ha⟩, w, hw, hb⟩ := bothFields_eq_ok_iff.1 h
      exact ⟨a, b, hr, .object hv ((hdecode a v).1 ha) hw ((hdecode b w).1 hb)⟩
    | array items =>
      obtain ⟨⟨a, b⟩, hitems, hr⟩ := bind_eq_ok_iff.1 h
      obtain ⟨v, w, rfl, ha, hb⟩ := pairOfItems_eq_ok_iff.1 hitems
      exact ⟨a, b, Except.ok.inj hr, .array ((hdecode a v).1 ha) ((hdecode b w).1 hb)⟩
    | _ => cases h
  · rintro ⟨a, b, hr, hpair⟩
    cases hpair with
    | object hv ha hw hb =>
      exact bothFields_eq_ok_iff.2
        ⟨a, b, hr, ⟨_, hv, (hdecode a _).2 ha⟩, _, hw, (hdecode b _).2 hb⟩
    | array ha hb =>
      refine bind_eq_ok_iff.2 ⟨(a, b), ?_, congrArg Except.ok hr⟩
      exact pairOfItems_eq_ok_iff.2 ⟨_, _, rfl, (hdecode a _).2 ha, (hdecode b _).2 hb⟩

lemma nullable_eq_ok_iff {v : Json} {x : Option α} :
    nullable decode v = .ok x ↔ (v = .null ∧ none = x) ∨
      (v ≠ .null ∧ ∃ a, decode v = .ok a ∧ some a = x) := by
  cases v with
  | null => simp [nullable]
  | _ => simp [nullable, map_eq_ok_iff]

end Json

/-! ### Locations -/

/-- The JSON values that stand for a position. -/
def Position.WrittenAs (p : Position) : Json → Prop :=
  Json.PairOf "line" "column" (· = .nat p.line.toNat) (· = .nat p.column.toNat)

/-- The JSON values that stand for a location. -/
def Location.WrittenAs (l : Location) : Json → Prop :=
  Json.PairOf "start" "end" l.start.WrittenAs l.stop.WrittenAs

/-- A coordinate is an integer with 32 bits. -/
lemma coordinate_eq_ok_iff {v : Json} {n : UInt32} : coordinate v = .ok n ↔ v = .nat n.toNat := by
  constructor
  · intro h
    unfold coordinate at h
    split at h
    · next i =>
      split at h
      · next hrange =>
        obtain rfl := Except.ok.inj h
        have hsize : i.toNat < UInt32.size := by omega
        rw [UInt32.toNat_ofNat_of_lt' hsize]
        exact congrArg Json.int (Int.toNat_of_nonneg hrange.1).symm
      · cases h
    · cases h
  · rintro rfl
    have hrange : (0 : Int) ≤ n.toNat ∧ (n.toNat : Int) < UInt32.size := by
      have := n.toNat_lt_size
      omega
    rw [coordinate, if_pos hrange, Int.toNat_natCast, UInt32.ofNat_toNat]

lemma Position.ofJson_eq_ok_iff {v : Json} {p : Position} :
    Position.ofJson v = .ok p ↔ p.WrittenAs v := by
  rw [Position.ofJson, Json.decodePair_eq_ok_iff fun n v => coordinate_eq_ok_iff (v := v) (n := n)]
  constructor
  · rintro ⟨line, column, rfl, h⟩
    exact h
  · intro h
    exact ⟨p.line, p.column, rfl, h⟩

/-- A location is decoded exactly from the values that stand for it. -/
lemma Location.ofJson_eq_ok_iff {v : Json} {l : Location} :
    Location.ofJson v = .ok l ↔ l.WrittenAs v := by
  rw [Location.ofJson, Json.decodePair_eq_ok_iff fun p v => Position.ofJson_eq_ok_iff
    (v := v) (p := p)]
  constructor
  · rintro ⟨start, stop, rfl, h⟩
    exact h
  · intro h
    exact ⟨l.start, l.stop, rfl, h⟩

/-- A field gives a location: it holds one, or it gives none because it is missing or null. -/
inductive Location.GivenBy : Option Json → Option Location → Prop where
  | missing : GivenBy none none
  | null : GivenBy (some .null) none
  | written {v : Json} {l : Location} (h : l.WrittenAs v) : GivenBy (some v) (some l)

lemma Location.ne_null_of_writtenAs {l : Location} {v : Json} (h : l.WrittenAs v) : v ≠ .null := by
  rintro rfl
  cases h

lemma Location.ofMembers_eq_ok_iff {members : List (String × Json)} {loc : Option Location} :
    Location.ofMembers members = .ok loc ↔ Location.GivenBy (Json.lookup "loc" members) loc := by
  unfold Location.ofMembers
  cases Json.lookup "loc" members with
  | none =>
    constructor
    · intro h
      obtain rfl := Except.ok.inj h
      exact .missing
    · rintro ⟨⟩
      rfl
  | some v =>
    refine Json.nullable_eq_ok_iff.trans ⟨?_, ?_⟩
    · rintro (⟨rfl, rfl⟩ | ⟨-, l, hl, rfl⟩)
      · exact .null
      · exact .written (Location.ofJson_eq_ok_iff.1 hl)
    · rintro (_ | _ | ⟨hl⟩)
      · exact .inl ⟨rfl, rfl⟩
      · exact .inr ⟨Location.ne_null_of_writtenAs hl, _, Location.ofJson_eq_ok_iff.2 hl, rfl⟩

/-! ### Programs -/

/-- A field gives the statements of a program: none if it is missing, and one for each item of an
array. -/
inductive Program.BodyGivenBy : Option Json → List Node → Prop where
  | missing : BodyGivenBy none []
  | items (vs : List Json) : BodyGivenBy (some (.array vs)) (vs.map Node.ofJson)

lemma Program.bodyOfMembers_eq_ok_iff_given {members : List (String × Json)} {body : List Node} :
    Program.bodyOfMembers members = .ok body ↔
      Program.BodyGivenBy (Json.lookup "body" members) body := by
  unfold Program.bodyOfMembers
  cases Json.lookup "body" members with
  | none =>
    constructor
    · intro h
      obtain rfl := Except.ok.inj h
      exact .missing
    · rintro ⟨⟩
      rfl
  | some v =>
    constructor
    · intro h
      cases v with
      | array vs =>
        obtain rfl := Except.ok.inj h
        rw [nodesOfItems_eq_map]
        exact .items vs
      | _ => cases h
    · rintro (_ | ⟨vs⟩)
      simp only [nodesOfItems_eq_map]

/-- A value is an object with the given type. -/
def Json.HasType (v : Json) (type : String) : Prop := v.field? "type" = some (.string type)

lemma Json.HasType.unique {v : Json} {type type' : String} (h : v.HasType type)
    (h' : v.HasType type') : type = type' := by
  have hsame : some (Json.string type) = some (.string type') := h.symm.trans h'
  exact Json.string.inj (Option.some.inj hsame)

lemma Json.HasType.exists_object {v : Json} {type : String} (h : v.HasType type) :
    ∃ members, v = .object members := by
  cases v with
  | object members => exact ⟨members, rfl⟩
  | _ => cases h

lemma typeName?_eq_some_iff {members : List (String × Json)} {type : String} :
    typeName? members = some type ↔ (Json.object members).HasType type := by
  simp only [typeName?, Json.HasType, Json.field?]
  cases Json.lookup "type" members with
  | none => simp
  | some v => cases v <;> simp [Json.string?]

lemma typeName?_eq_none {members : List (String × Json)}
    (h : ∀ type, ¬ (Json.object members).HasType type) : typeName? members = none := by
  cases htype : typeName? members with
  | none => rfl
  | some type => exact (h type (typeName?_eq_some_iff.1 htype)).elim

/-- A value is the root of a program: it has the right type, and its fields give the location and
the statements. -/
structure Program.HasRoot (p : Program) (v : Json) : Prop where
  type_eq : v.HasType "Program"
  loc_given : Location.GivenBy (v.field? "loc") p.loc
  body_given : Program.BodyGivenBy (v.field? "body") p.body

namespace Program

/-- The fields of a program are decoded exactly if they give something. -/
lemma ofMembers_eq_ok_iff_given {members : List (String × Json)} {p : Program} :
    ofMembers members = .ok p ↔
      Location.GivenBy (Json.lookup "loc" members) p.loc ∧
        BodyGivenBy (Json.lookup "body" members) p.body := by
  rw [← Location.ofMembers_eq_ok_iff, ← bodyOfMembers_eq_ok_iff_given, ofMembers, bind_eq_ok_iff]
  constructor
  · rintro ⟨body, hbody, h⟩
    obtain ⟨loc, hloc, h⟩ := bind_eq_ok_iff.1 h
    obtain rfl := Except.ok.inj h
    exact ⟨hloc, hbody⟩
  · rintro ⟨hloc, hbody⟩
    exact ⟨p.body, hbody, bind_eq_ok_iff.2 ⟨p.loc, hloc, rfl⟩⟩

lemma ofJson_of_hasType {members : List (String × Json)}
    (h : (Json.object members).HasType "Program") :
    ofJson (.object members) = (ofMembers members).mapError .mismatch := by
  have htype := typeName?_eq_some_iff.2 h
  simp only [ofJson, htype]
  exact if_pos rfl

lemma ofJson_of_hasType_ne {v : Json} {type : String} (h : v.HasType type)
    (hne : type ≠ "Program") : ofJson v = .error (.notAProgram type) := by
  obtain ⟨members, rfl⟩ := h.exists_object
  have htype := typeName?_eq_some_iff.2 h
  simp only [ofJson, htype]
  exact if_neg hne

lemma ofJson_of_untyped {v : Json} (h : ∀ type, ¬ v.HasType type) :
    ofJson v = .error (.notAProgram "<untyped>") := by
  cases v with
  | object members =>
    simp only [ofJson, typeName?_eq_none h]
    rfl
  | _ => rfl

/-- There are three kinds of roots, by their types. -/
lemma hasType_cases (v : Json) :
    v.HasType "Program" ∨ (∃ type, v.HasType type ∧ type ≠ "Program") ∨
      ∀ type, ¬ v.HasType type := by
  by_cases htyped : ∃ type, v.HasType type
  · obtain ⟨type, htype⟩ := htyped
    by_cases hprogram : type = "Program"
    · exact .inl (hprogram ▸ htype)
    · exact .inr (.inl ⟨type, htype, hprogram⟩)
  · exact .inr (.inr fun type htype => htyped ⟨type, htype⟩)

lemma ofJson_eq_ok_iff_hasRoot {v : Json} {p : Program} : ofJson v = .ok p ↔ p.HasRoot v := by
  rcases hasType_cases v with hprogram | ⟨type, htype, hne⟩ | huntyped
  · obtain ⟨members, rfl⟩ := hprogram.exists_object
    rw [ofJson_of_hasType hprogram, mapError_eq_ok_iff, ofMembers_eq_ok_iff_given]
    constructor
    · rintro ⟨hloc, hbody⟩
      exact ⟨hprogram, hloc, hbody⟩
    · rintro ⟨-, hloc, hbody⟩
      exact ⟨hloc, hbody⟩
  · rw [ofJson_of_hasType_ne htype hne]
    exact ⟨nofun, fun h => (hne (htype.unique h.type_eq)).elim⟩
  · rw [ofJson_of_untyped huntyped]
    exact ⟨nofun, fun h => (huntyped _ h.type_eq).elim⟩

/-- A root is blamed for its type exactly if that is not the one of programs. -/
lemma ofJson_eq_notAProgram_iff {v : Json} {kind : String} :
    ofJson v = .error (.notAProgram kind) ↔
      (v.HasType kind ∧ kind ≠ "Program") ∨ ((∀ type, ¬ v.HasType type) ∧ kind = "<untyped>") := by
  rcases hasType_cases v with hprogram | ⟨type, htype, hne⟩ | huntyped
  · obtain ⟨members, rfl⟩ := hprogram.exists_object
    rw [ofJson_of_hasType hprogram]
    constructor
    · cases ofMembers members <;> exact nofun
    · rintro (⟨hkind, hne⟩ | ⟨huntyped, -⟩)
      · exact (hne (hkind.unique hprogram)).elim
      · exact (huntyped _ hprogram).elim
  · rw [ofJson_of_hasType_ne htype hne]
    constructor
    · intro h
      obtain rfl : type = kind := by simpa using h
      exact .inl ⟨htype, hne⟩
    · rintro (⟨hkind, -⟩ | ⟨huntyped, -⟩)
      · rw [htype.unique hkind]
      · exact (huntyped _ htype).elim
  · rw [ofJson_of_untyped huntyped]
    constructor
    · intro h
      obtain rfl : "<untyped>" = kind := by simpa using h
      exact .inr ⟨huntyped, rfl⟩
    · rintro (⟨hkind, -⟩ | ⟨-, rfl⟩)
      · exact (huntyped _ hkind).elim
      · rfl

/-- A root with the right type is blamed for a field exactly if it is no program. -/
lemma exists_mismatch_iff {v : Json} :
    (∃ cause, ofJson v = .error (.mismatch cause)) ↔ v.HasType "Program" ∧ ∀ p : Program,
      ¬ p.HasRoot v := by
  constructor
  · rintro ⟨cause, h⟩
    refine ⟨?_, fun p hroot => ?_⟩
    · rcases hasType_cases v with hprogram | ⟨type, htype, hne⟩ | huntyped
      · exact hprogram
      · rw [ofJson_of_hasType_ne htype hne] at h
        cases h
      · rw [ofJson_of_untyped huntyped] at h
        cases h
    · rw [ofJson_eq_ok_iff_hasRoot.2 hroot] at h
      cases h
  · rintro ⟨hprogram, hnone⟩
    cases h : ofJson v with
    | ok p => exact (hnone p (ofJson_eq_ok_iff_hasRoot.1 h)).elim
    | error fault =>
      cases fault with
      | mismatch cause => exact ⟨cause, rfl⟩
      | notAProgram kind =>
        -- the type is the right one, so it cannot be blamed
        rcases ofJson_eq_notAProgram_iff.1 h with ⟨hkind, hne⟩ | ⟨huntyped, -⟩
        · exact (hne (hkind.unique hprogram)).elim
        · exact (huntyped _ hprogram).elim

end Program

/-! ### Outlines -/

/-- An outline goes through three stages, and its error is that of the first stage that fails. -/
lemma Outline.ofSyntaxTree_cases (o : Options) (text : String) :
    (∃ fault, Json.parse text = .error fault ∧
      (ofSyntaxTree o text).value = .error (.notJson fault)) ∨
    (∃ v fault, Json.parse text = .ok v ∧ Program.ofJson v = .error fault ∧
      (ofSyntaxTree o text).value = .error (.program fault)) ∨
    (∃ v p cause, Json.parse text = .ok v ∧ Program.ofJson v = .ok p ∧
      (Builder.build o p).result = .error cause ∧
      (ofSyntaxTree o text).value = .error (.pattern cause)) ∨
    ∃ v p outline, Json.parse text = .ok v ∧ Program.ofJson v = .ok p ∧
      (Builder.build o p).result = .ok outline ∧
      (ofSyntaxTree o text).value = .ok outline := by
  cases hparse : Json.parse text with
  | error fault =>
    have htext : Program.ofText text = .error (.notJson fault) := by
      rw [Program.ofText, hparse]
      rfl
    exact .inl ⟨fault, rfl, by rw [ofSyntaxTree, htext]⟩
  | ok v =>
    have htext : Program.ofText text = (Program.ofJson v).mapError .program := by
      rw [Program.ofText, hparse]
      rfl
    cases hprogram : Program.ofJson v with
    | error fault =>
      rw [hprogram] at htext
      refine .inr (.inl ⟨v, fault, rfl, hprogram, ?_⟩)
      rw [ofSyntaxTree, htext]
      rfl
    | ok p =>
      rw [hprogram] at htext
      have hvalue : (ofSyntaxTree o text).value = (Builder.build o p).result.mapError .pattern := by
        rw [ofSyntaxTree, htext]
        rfl
      refine .inr (.inr ?_)
      cases hresult : (Builder.build o p).result with
      | error cause =>
        rw [hresult] at hvalue
        exact .inl ⟨v, p, cause, rfl, hprogram, hresult, hvalue⟩
      | ok outline =>
        rw [hresult] at hvalue
        exact .inr ⟨v, p, outline, rfl, hprogram, hresult, hvalue⟩

/-- **Only the root is strict.**  A value is a program exactly if it has the type `Program`, its
location is missing, null or sound, and its body is missing or an array, whatever the items are:
they become the statements one by one.  If not, the root is blamed for its type if that is another
one or none, and for a field otherwise.

For an outline this means that there are three kinds of errors, with one origin each: a text that is
not JSON, a root that is no program, and an unexpected pattern in a program that has been
decoded. -/
theorem root_alone_is_strict :
    (∀ v : Json,
      (∀ p, Program.ofJson v = .ok p ↔ p.HasRoot v) ∧
      (∀ kind, Program.ofJson v = .error (.notAProgram kind) ↔
        (v.HasType kind ∧ kind ≠ "Program") ∨ ((∀ type, ¬ v.HasType type) ∧ kind = "<untyped>")) ∧
      ((∃ cause, Program.ofJson v = .error (.mismatch cause)) ↔
        v.HasType "Program" ∧ ∀ p : Program, ¬ p.HasRoot v)) ∧
    ∀ (o : Options) (text : String),
      (∀ fault, (Outline.ofSyntaxTree o text).value = .error (.notJson fault) ↔
        Json.parse text = .error fault) ∧
      (∀ fault, (Outline.ofSyntaxTree o text).value = .error (.program fault) ↔
        ∃ v, Json.parse text = .ok v ∧ Program.ofJson v = .error fault) ∧
      ∀ cause, (Outline.ofSyntaxTree o text).value = .error (.pattern cause) ↔
        ∃ v p, Json.parse text = .ok v ∧ Program.ofJson v = .ok p ∧
          (Builder.build o p).result = .error cause := by
  constructor
  · intro v
    exact ⟨fun p => Program.ofJson_eq_ok_iff_hasRoot, fun kind => Program.ofJson_eq_notAProgram_iff,
      Program.exists_mismatch_iff⟩
  · intro o text
    rcases Outline.ofSyntaxTree_cases o text with
      ⟨fault, hparse, hvalue⟩ | ⟨v, fault, hparse, hprogram, hvalue⟩ |
      ⟨v, p, cause, hparse, hprogram, hresult, hvalue⟩ |
      ⟨v, p, outline, hparse, hprogram, hresult, hvalue⟩
    · simp [hvalue, hparse]
    · simp [hvalue, hparse, hprogram]
    · simp [hvalue, hparse, hprogram, hresult]
    · simp [hvalue, hparse, hprogram, hresult]

end CodeOutline
