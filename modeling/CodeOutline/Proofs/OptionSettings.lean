/-
Where options come from.

Options are read from an object in which every field may be missing, and then changed by the
switches of a command line.  Reading puts the values that are given over the defaults, at both
levels: a field of the options that is missing has its default, and so has a keyword that is missing
among the keywords (`Options.ofJson?_eq_some_iff`).  It fails just if a value that is given does not
have the type of its field (`Options.exists_givenBy_iff`).  What is written for other keys does not
matter.

After any number of settings a keyword has the value of its last one, or the value it had before if
there is none (`shows_setAll_of_last`, `shows_setAll_of_notMem`).  Since switches only set keywords
to be shown, neither their order nor their number matters.
-/
import CodeOutline.CommandLine.Run
import CodeOutline.Options.Reading
import CodeOutline.Proofs.ReportRoundTrip

namespace CodeOutline

/-! ### Fields with defaults -/

/-- The value of a field with a default: it is what a given value stands for, or the default if
nothing is given. -/
inductive FieldIs {α : Type} (fallback : α) (StandsFor : Json → α → Prop) :
    Option Json → α → Prop where
  | missing : FieldIs fallback StandsFor none fallback
  | given {v : Json} {a : α} (h : StandsFor v a) : FieldIs fallback StandsFor (some v) a

section Fields

variable {α : Type} {fallback : α} {StandsFor : Json → α → Prop} {decode : Json → Option α}
  {given : Option Json}

lemma fieldOr_eq_some_iff (hdecode : ∀ v a, decode v = some a ↔ StandsFor v a) {a : α} :
    fieldOr fallback decode given = some a ↔ FieldIs fallback StandsFor given a := by
  cases given with
  | none =>
    constructor
    · intro h
      obtain rfl := Option.some.inj h
      exact .missing
    · rintro ⟨⟩
      rfl
  | some v =>
    constructor
    · intro h
      exact .given ((hdecode v a).1 h)
    · rintro ⟨⟩
      next h => exact (hdecode v a).2 h

variable (fallback StandsFor)

/-- A field has a value if what is given for it stands for one. -/
lemma exists_fieldIs_iff :
    (∃ a, FieldIs fallback StandsFor given a) ↔ ∀ v, given = some v → ∃ a, StandsFor v a := by
  constructor
  · rintro ⟨a, ha⟩ v rfl
    cases ha with
    | given h => exact ⟨a, h⟩
  · intro h
    cases given with
    | none => exact ⟨fallback, .missing⟩
    | some v =>
      obtain ⟨a, ha⟩ := h v rfl
      exact ⟨a, .given ha⟩

end Fields

/-- A boolean. -/
def Json.IsFlag (v : Json) (b : Bool) : Prop := v = .bool b

/-- A number with 64 bits. -/
def Json.IsDepth (v : Json) (depth : UInt64) : Prop := v = .nat depth.toNat

lemma Json.bool?_eq_some_iff (v : Json) (b : Bool) : v.bool? = some b ↔ v.IsFlag b := by
  cases v <;> simp [Json.bool?, Json.IsFlag]

lemma Json.natBelow?_eq_some_iff {bound n : Nat} {v : Json} :
    v.natBelow? bound = some n ↔ n < bound ∧ v = .nat n := by
  constructor
  · intro h
    unfold Json.natBelow? at h
    split at h
    · next i =>
      split at h
      · next hi =>
        obtain rfl := Option.some.inj h
        refine ⟨by omega, ?_⟩
        rw [Json.nat, Int.toNat_of_nonneg hi.1]
      · cases h
    · cases h
  · rintro ⟨hn, rfl⟩
    have hrange : 0 ≤ (n : Int) ∧ (n : Int) < bound := by omega
    rw [Json.natBelow?, if_pos hrange, Int.toNat_natCast]

lemma depthOfJson?_eq_some_iff (v : Json) (depth : UInt64) :
    Options.depthOfJson? v = some depth ↔ v.IsDepth depth := by
  rw [Options.depthOfJson?, Option.map_eq_some_iff]
  constructor
  · rintro ⟨n, hn, rfl⟩
    obtain ⟨hlt, rfl⟩ := Json.natBelow?_eq_some_iff.1 hn
    rw [Json.IsDepth, UInt64.toNat_ofNat_of_lt' hlt]
  · rintro rfl
    exact ⟨depth.toNat, Json.natBelow?_eq_some_iff.2 ⟨depth.toNat_lt_size, rfl⟩, UInt64.ofNat_toNat⟩

/-! ### Keywords -/

/-- A value that stands for a visibility: an object or an array of flags.  The flags of an array are
those of the keywords in order, and flags at the end may be left off. -/
inductive Visibility.WrittenAs (surplus : Bool) : Json → Visibility → Prop where
  | object {members : List (String × Json)} {v : Visibility}
      (h : ∀ k : Keyword, FieldIs false Json.IsFlag (Json.lookup k.name members) (v.shows k)) :
      WrittenAs surplus (.object members) v
  | array {items : List Json} {v : Visibility}
      (hlength : surplus = false → items.length ≤ Keyword.all.length)
      (h : ∀ (i : Nat) (k : Keyword), Keyword.all[i]? = some k →
        FieldIs false Json.IsFlag items[i]? (v.shows k)) :
      WrittenAs surplus (.array items) v

/-- An object or an array of booleans in the places of the keywords. -/
inductive Json.HoldsFlags (surplus : Bool) : Json → Prop where
  | object {members : List (String × Json)}
      (h : ∀ (k : Keyword) (w : Json), Json.lookup k.name members = some w → ∃ b, w = .bool b) :
      HoldsFlags surplus (.object members)
  | array {items : List Json} (hlength : surplus = false → items.length ≤ Keyword.all.length)
      (h : ∀ (i : Nat) (w : Json), i < Keyword.all.length → items[i]? = some w → ∃ b, w = .bool b) :
      HoldsFlags surplus (.array items)

/-- Looking up a name finds the item in its place. -/
lemma Json.lookup_zip {names : List String} (hnames : names.Nodup) {i : Nat} {name : String}
    (h : names[i]? = some name) (items : List Json) :
    Json.lookup name (names.zip items) = items[i]? := by
  induction names generalizing i items with
  | nil => cases h
  | cons first names ih =>
    obtain ⟨hfirst, hnames⟩ := List.nodup_cons.1 hnames
    cases items with
    | nil => rfl
    | cons item items =>
      cases i with
      | zero =>
        obtain rfl := Option.some.inj h
        rw [List.zip_cons_cons, Json.lookup, if_pos rfl]
        rfl
      | succ i =>
        have hmem : name ∈ names := List.mem_of_getElem? h
        have hne : first ≠ name := by
          rintro rfl
          exact hfirst hmem
        rw [List.zip_cons_cons, Json.lookup, if_neg hne]
        exact ih hnames h items

lemma nodup_keywordNames : (Keyword.all.map Keyword.name).Nodup := by decide

/-- The item for a keyword is found in the place of the keyword. -/
lemma lookup_keyword_zip (items : List Json) {i : Nat} {k : Keyword}
    (hk : Keyword.all[i]? = some k) :
    Json.lookup k.name ((Keyword.all.map Keyword.name).zip items) = items[i]? := by
  refine Json.lookup_zip nodup_keywordNames ?_ items
  rw [List.getElem?_map, hk, Option.map_some]

namespace Visibility

lemma ofJson?_of_recordFields? {surplus : Bool} {v : Json} {fields : String → Option Json}
    (h : recordFields? surplus (Keyword.all.map Keyword.name) v = some fields) {w : Visibility} :
    ofJson? surplus v = some w ↔
      ∀ k : Keyword, FieldIs false Json.IsFlag (fields k.name) (w.shows k) := by
  simp only [← fieldOr_eq_some_iff Json.bool?_eq_some_iff, ofJson?, h, Option.bind_eq_bind,
    Option.bind_some, Option.bind_eq_some_iff, Option.pure_def, Option.some.injEq]
  constructor
  · rintro ⟨b₁, h₁, b₂, h₂, b₃, h₃, b₄, h₄, b₅, h₅, b₆, h₆, b₇, h₇, b₈, h₈, rfl⟩ k
    cases k <;> assumption
  · intro hflags
    exact ⟨_, hflags .exportWord, _, hflags .defaultWord, _, hflags .constWord, _, hflags .varWord,
      _, hflags .letWord, _, hflags .classWord, _, hflags .functionWord, _, hflags .typeWord, rfl⟩

/-- Decoding a visibility puts the flags that are given over hidden keywords. -/
lemma ofJson?_eq_some_iff (surplus : Bool) (v : Json) (w : Visibility) :
    ofJson? surplus v = some w ↔ w.WrittenAs surplus v := by
  cases v with
  | object members =>
    rw [ofJson?_of_recordFields? rfl]
    constructor
    · intro h
      exact .object h
    · rintro ⟨h⟩
      exact h
  | array items =>
    by_cases hlength : surplus = false → items.length ≤ Keyword.all.length
    · have hfields : recordFields? surplus (Keyword.all.map Keyword.name) (.array items) =
          some fun name => Json.lookup name ((Keyword.all.map Keyword.name).zip items) := by
        refine if_pos ?_
        cases surplus with
        | true => rfl
        | false => simpa using hlength rfl
      rw [ofJson?_of_recordFields? hfields]
      constructor
      · intro h
        refine .array hlength fun i k hk => ?_
        rw [← lookup_keyword_zip items hk]
        exact h k
      · rintro (_ | ⟨-, h⟩) k
        obtain ⟨i, hk⟩ := List.mem_iff_getElem?.1 k.mem_all
        rw [lookup_keyword_zip items hk]
        exact h i k hk
    · -- there are too many items, and that is an error
      obtain ⟨rfl, hlt⟩ := Classical.not_imp.1 hlength
      have hfields : recordFields? false (Keyword.all.map Keyword.name) (.array items) = .none := by
        refine if_neg ?_
        simpa using hlt
      have hnone : ofJson? false (.array items) = .none := by
        rw [ofJson?, hfields]
        rfl
      rw [hnone]
      constructor
      · intro h
        cases h
      · rintro (_ | ⟨hle, -⟩)
        exact absurd (hle rfl) hlt
  | _ => exact ⟨nofun, nofun⟩

/-- A value stands for a visibility if it holds flags. -/
lemma exists_writtenAs_iff {surplus : Bool} {v : Json} :
    (∃ w, WrittenAs surplus v w) ↔ v.HoldsFlags surplus := by
  constructor
  · rintro ⟨w, h | ⟨hlength, h⟩⟩
    · exact .object fun k => (exists_fieldIs_iff _ _).1 ⟨_, h k⟩
    · refine .array hlength fun i u hi hu => ?_
      exact (exists_fieldIs_iff _ _).1 ⟨_, h i _ (List.getElem?_eq_getElem hi)⟩ u hu
  · intro h
    cases h with
    | object h =>
      choose flags hflags using fun k => (exists_fieldIs_iff false Json.IsFlag).2 (h k)
      refine ⟨ofFlags flags, .object fun k => ?_⟩
      rw [shows_ofFlags]
      exact hflags k
    | @array items hlength h =>
      have hitem : ∀ (k : Keyword) (u : Json),
          Json.lookup k.name ((Keyword.all.map Keyword.name).zip items) = some u →
            ∃ b, u.IsFlag b := by
        intro k u hu
        obtain ⟨i, hk⟩ := List.mem_iff_getElem?.1 k.mem_all
        obtain ⟨hi, -⟩ := List.getElem?_eq_some_iff.1 hk
        rw [lookup_keyword_zip items hk] at hu
        exact h i u hi hu
      choose flags hflags using fun k => (exists_fieldIs_iff false Json.IsFlag).2 (hitem k)
      refine ⟨ofFlags flags, .array hlength fun i k hk => ?_⟩
      rw [shows_ofFlags, ← lookup_keyword_zip items hk]
      exact hflags k

end Visibility

/-! ### Options -/

namespace Options

/-- What an object says about options: the fields that it gives, over the defaults. -/
structure GivenBy (surplus : Bool) (members : List (String × Json)) (o : Options) : Prop where
  visibility : FieldIs Visibility.none (Visibility.WrittenAs surplus)
    (Json.lookup "show_keywords" members) o.visibility
  showArgs : FieldIs true Json.IsFlag (Json.lookup "show_function_args" members) o.showArgs
  maxDepth : FieldIs 256 Json.IsDepth (Json.lookup "max_depth" members) o.maxDepth

/-- The values that an object gives for the fields of options have the types of these fields. -/
structure WellTyped (surplus : Bool) (members : List (String × Json)) : Prop where
  visibility : ∀ v, Json.lookup "show_keywords" members = some v → v.HoldsFlags surplus
  showArgs : ∀ v, Json.lookup "show_function_args" members = some v → ∃ b, v = .bool b
  maxDepth : ∀ v, Json.lookup "max_depth" members = some v → ∃ n, n < UInt64.size ∧ v = .nat n

variable {surplus : Bool} {members : List (String × Json)}

/-- Decoding options puts the fields that are given over the defaults. -/
lemma ofJson?_eq_some_iff {o : Options} :
    ofJson? surplus (.object members) = some o ↔ o.GivenBy surplus members := by
  have hfields : recordFields? surplus fieldNames (.object members) =
      some (Json.lookup · members) := rfl
  simp only [ofJson?, hfields, Option.bind_eq_bind, Option.bind_some, Option.bind_eq_some_iff,
    Option.pure_def, Option.some.injEq,
    fieldOr_eq_some_iff (Visibility.ofJson?_eq_some_iff surplus),
    fieldOr_eq_some_iff Json.bool?_eq_some_iff, fieldOr_eq_some_iff depthOfJson?_eq_some_iff]
  constructor
  · rintro ⟨visibility, hvisibility, showArgs, hshowArgs, maxDepth, hmaxDepth, rfl⟩
    exact ⟨hvisibility, hshowArgs, hmaxDepth⟩
  · rintro ⟨hvisibility, hshowArgs, hmaxDepth⟩
    exact ⟨_, hvisibility, _, hshowArgs, _, hmaxDepth, rfl⟩

lemma exists_isDepth_iff {v : Json} :
    (∃ depth, v.IsDepth depth) ↔ ∃ n, n < UInt64.size ∧ v = .nat n := by
  constructor
  · rintro ⟨depth, rfl⟩
    exact ⟨depth.toNat, depth.toNat_lt_size, rfl⟩
  · rintro ⟨n, hn, rfl⟩
    exact ⟨UInt64.ofNat n, by rw [Json.IsDepth, UInt64.toNat_ofNat_of_lt' hn]⟩

/-- An object says something about options if what it gives has the right types. -/
lemma exists_givenBy_iff :
    (∃ o : Options, o.GivenBy surplus members) ↔ WellTyped surplus members := by
  constructor
  · rintro ⟨o, hvisibility, hshowArgs, hmaxDepth⟩
    refine ⟨fun v hv => ?_, (exists_fieldIs_iff _ _).1 ⟨_, hshowArgs⟩, fun v hv => ?_⟩
    · exact Visibility.exists_writtenAs_iff.1 ((exists_fieldIs_iff _ _).1 ⟨_, hvisibility⟩ v hv)
    · exact exists_isDepth_iff.1 ((exists_fieldIs_iff _ _).1 ⟨_, hmaxDepth⟩ v hv)
  · rintro ⟨hvisibility, hshowArgs, hmaxDepth⟩
    obtain ⟨visibility, hvisibility⟩ := (exists_fieldIs_iff Visibility.none _).2 fun v hv =>
      Visibility.exists_writtenAs_iff.2 (hvisibility v hv)
    obtain ⟨showArgs, hshowArgs⟩ := (exists_fieldIs_iff true Json.IsFlag).2 hshowArgs
    obtain ⟨maxDepth, hmaxDepth⟩ := (exists_fieldIs_iff (256 : UInt64) Json.IsDepth).2 fun v hv =>
      exists_isDepth_iff.2 (hmaxDepth v hv)
    exact ⟨⟨visibility, showArgs, maxDepth⟩, hvisibility, hshowArgs, hmaxDepth⟩

end Options

/-! ### Other keys -/

/-- Two values for the keywords that may differ in what they give for other keys. -/
inductive Visibility.SameKnown : Json → Json → Prop where
  | same (v : Json) : SameKnown v v
  | object {members members' : List (String × Json)}
      (h : ∀ k : Keyword, Json.lookup k.name members = Json.lookup k.name members') :
      SameKnown (.object members) (.object members')

/-- Two objects that give the same for the fields of options, up to other keys at both levels. -/
structure Options.SameKnown (members members' : List (String × Json)) : Prop where
  visibility : Option.Rel Visibility.SameKnown (Json.lookup "show_keywords" members)
    (Json.lookup "show_keywords" members')
  showArgs : Json.lookup "show_function_args" members = Json.lookup "show_function_args" members'
  maxDepth : Json.lookup "max_depth" members = Json.lookup "max_depth" members'

lemma Visibility.ofJson?_congr {v v' : Json} (h : SameKnown v v') (surplus : Bool) :
    ofJson? surplus v = ofJson? surplus v' := by
  cases h with
  | same => rfl
  | object h =>
    ext w
    simp only [ofJson?_of_recordFields?
      (show recordFields? surplus _ (.object _) = some _ from rfl), h]

/-- What is written for other keys does not matter. -/
lemma Options.ofJson?_congr {members members' : List (String × Json)}
    (h : SameKnown members members') (surplus : Bool) :
    ofJson? surplus (.object members) = ofJson? surplus (.object members') := by
  have hvisibility : fieldOr {} (Visibility.ofJson? surplus) (Json.lookup "show_keywords" members) =
      fieldOr {} (Visibility.ofJson? surplus) (Json.lookup "show_keywords" members') := by
    obtain ⟨hrel, -, -⟩ := h
    generalize Json.lookup "show_keywords" members = given at hrel ⊢
    generalize Json.lookup "show_keywords" members' = given' at hrel ⊢
    cases hrel with
    | none => rfl
    | some hv => exact Visibility.ofJson?_congr hv surplus
  have hfields : ∀ members, recordFields? surplus fieldNames (.object members) =
      some (Json.lookup · members) :=
    fun _ => rfl
  simp only [ofJson?, hfields, Option.bind_eq_bind, Option.bind_some, hvisibility,
    h.showArgs, h.maxDepth]

/-! ### Writing and reading -/

lemma Visibility.writtenAs_toJson (surplus : Bool) (v : Visibility) :
    v.WrittenAs surplus v.toJson := by
  refine .object fun k => ?_
  have hlookup : Json.lookup k.name (Keyword.all.map fun k => (k.name, Json.bool (v.shows k))) =
      some (.bool (v.shows k)) := by
    cases k <;> rfl
  rw [hlookup]
  exact .given rfl

namespace Options

lemma ofJson?_toJson (surplus : Bool) (o : Options) : ofJson? surplus o.toJson = some o :=
  ofJson?_eq_some_iff.2 ⟨.given (o.visibility.writtenAs_toJson surplus), .given rfl, .given rfl⟩

lemma exact_toJson (o : Options) : Json.Exact o.toJson := by
  have hvisibility : Json.Exact o.visibility.toJson :=
    .object rfl (List.forall_mem_map.2 fun k _ => .bool _)
  refine .object rfl (List.forall_mem_cons.2 ⟨hvisibility, List.forall_mem_cons.2 ⟨.bool _, ?_⟩⟩)
  exact List.forall_mem_singleton.2 (.nat o.maxDepth.toNat_lt_size)

lemma read?_toJson (o : Options) : read? o.toJson.document = some o.toJson := by
  have hvisibility : Visibility.read? o.visibility.toJson.document = some o.visibility.toJson := by
    refine Json.record?_document (List.forall_mem_map.2 fun k _ => ?_) rfl rfl
    cases k <;> exact Json.value?_document _
  refine Json.record?_document
    (List.forall_mem_cons.2 ⟨hvisibility, List.forall_mem_cons.2 ⟨?_, ?_⟩⟩) rfl rfl
  · exact Json.value?_document _
  · exact List.forall_mem_singleton.2 (Json.value?_document _)

/-- Options can be read back from their text, in either layout. -/
lemma ofText?_print (layout : Json.Layout) (o : Options) :
    ofText? (o.toJson.print layout) = some o := by
  have htext : (Json.Document.readLax (o.toJson.print layout)).toOption =
      some o.toJson.document := by
    rw [Json.Document.readLax, Json.Document.read_of_text (Json.text_print o.exact_toJson)]
    rfl
  rw [ofText?, htext, Option.bind_eq_bind, Option.bind_some, read?_toJson, Option.bind_eq_bind,
    Option.bind_some, ofJson?_toJson]

end Options

/-! ### Settings -/

namespace Visibility

/-- Shows or hides keywords, one after the other. -/
def setAll (v : Visibility) (settings : List (Keyword × Bool)) : Visibility :=
  settings.foldl (fun v s => v.set s.1 s.2) v

lemma setAll_append (v : Visibility) (settings settings' : List (Keyword × Bool)) :
    v.setAll (settings ++ settings') = (v.setAll settings).setAll settings' := List.foldl_append

/-- A keyword that is not set stays as it was. -/
lemma shows_setAll_of_notMem {settings : List (Keyword × Bool)} {k : Keyword}
    (h : ∀ b, (k, b) ∉ settings) (v : Visibility) : (v.setAll settings).shows k = v.shows k := by
  induction settings generalizing v with
  | nil => rfl
  | cons s settings ih =>
    obtain ⟨k', b'⟩ := s
    have hne : k ≠ k' := by
      rintro rfl
      exact h b' (by simp)
    have hrest : ∀ b, (k, b) ∉ settings := fun b hb => h b (by simp [hb])
    calc (v.setAll ((k', b') :: settings)).shows k
        = (v.set k' b').shows k := ih hrest (v.set k' b')
      _ = v.shows k := by rw [shows_set, if_neg hne]

/-- A keyword has the value of its last setting. -/
lemma shows_setAll_of_last (before : List (Keyword × Bool)) {after : List (Keyword × Bool)}
    {k : Keyword} (b : Bool) (h : ∀ b', (k, b') ∉ after) (v : Visibility) :
    (v.setAll (before ++ (k, b) :: after)).shows k = b := by
  have hlast : (v.setAll before).setAll ((k, b) :: after) =
      ((v.setAll before).set k b).setAll after := rfl
  rw [setAll_append, hlast, shows_setAll_of_notMem h, shows_set, if_pos rfl]

/-- If keywords are only set to be shown, then those are shown that are set and those that were
shown before. -/
lemma shows_setAll_shown (v : Visibility) (ks : List Keyword) (k : Keyword) :
    (v.setAll (ks.map (·, true))).shows k = true ↔ k ∈ ks ∨ v.shows k = true := by
  induction ks generalizing v with
  | nil => simp [setAll]
  | cons k' ks ih =>
    have hstep : v.setAll ((k' :: ks).map (·, true)) = (v.set k' true).setAll (ks.map (·, true)) :=
      rfl
    rw [hstep, ih, shows_set, List.mem_cons]
    by_cases hk : k = k'
    · simp [hk]
    · simp [hk]

/-- Showing every keyword is setting each of them to be shown. -/
lemma all_eq_setAll (v : Visibility) : all = v.setAll (Keyword.all.map (·, true)) := by
  refine ext_shows fun k => ?_
  rw [shows_all, (v.shows_setAll_shown Keyword.all k).2 (.inl k.mem_all)]

end Visibility

namespace CommandLine.Request

/-- The keywords that the switches of a request set, in order.  A switch for all keywords comes
first. -/
def keywordSettings (r : Request) : List (Keyword × Bool) :=
  ((if r.allKeywords then Keyword.all else []) ++ r.keywords).map (·, true)

/-- A request asks for a keyword, by its own switch or by the switch for all keywords. -/
def AsksFor (r : Request) (k : Keyword) : Prop := r.allKeywords = true ∨ k ∈ r.keywords

lemma foldl_set_keywords (ks : List Keyword) (o : Options) :
    ks.foldl (fun o k => { o with visibility := o.visibility.set k true }) o =
      { o with visibility := o.visibility.setAll (ks.map (·, true)) } := by
  induction ks generalizing o with
  | nil => rfl
  | cons k ks ih =>
    rw [List.foldl_cons, ih]
    rfl

/-- The options of a request: its keywords are set, parameters are hidden if it says so, and the
depth is replaced if it gives one. -/
lemma adjust_eq (r : Request) (o : Options) :
    r.adjust o = ⟨o.visibility.setAll r.keywordSettings, o.showArgs && !r.noArgs,
      r.maxDepth.getD o.maxDepth⟩ := by
  have hall : (if r.allKeywords then { o with visibility := Visibility.all } else o) =
      { o with
        visibility :=
          o.visibility.setAll ((if r.allKeywords then Keyword.all else []).map (·, true)) } := by
    cases r.allKeywords with
    | false => rfl
    | true => rw [if_pos rfl, if_pos rfl, Visibility.all_eq_setAll o.visibility]
  unfold adjust
  simp only [hall, foldl_set_keywords, keywordSettings, List.map_append, Visibility.setAll_append]
  cases r.noArgs <;> cases r.maxDepth <;> simp

/-- A keyword is shown if the request asks for it or if it was shown before. -/
lemma shows_adjust_iff (r : Request) (o : Options) (k : Keyword) :
    (r.adjust o).shows k = true ↔ r.AsksFor k ∨ o.shows k = true := by
  rw [adjust_eq, Options.shows, Options.shows, keywordSettings, Visibility.shows_setAll_shown,
    List.mem_append, AsksFor]
  cases r.allKeywords with
  | false => simp
  | true => simp [k.mem_all]

/-- The options of a request only depend on its configuration, on the keywords that it asks for, and
on what it says about parameters and depth. -/
lemma options_congr {r r' : Request} (hconfig : r.config = r'.config)
    (hkeywords : ∀ k, r.AsksFor k ↔ r'.AsksFor k) (hargs : r.noArgs = r'.noArgs)
    (hdepth : r.maxDepth = r'.maxDepth) (read : String → Except SystemError String) :
    r.options read = r'.options read := by
  have hadjust : r.adjust = r'.adjust := by
    funext o
    have hshows : (r.adjust o).visibility = (r'.adjust o).visibility := by
      refine Visibility.ext_shows fun k => ?_
      rw [Bool.eq_iff_iff]
      exact (r.shows_adjust_iff o k).trans
        ((or_congr_left (hkeywords k)).trans (r'.shows_adjust_iff o k).symm)
    rw [adjust_eq, adjust_eq] at hshows ⊢
    rw [hargs, hdepth, show o.visibility.setAll r.keywordSettings = _ from hshows]
  have hconfigured : r.configured read = r'.configured read := by
    rw [configured, configured, hconfig]
  rw [options, options, hconfigured, hadjust]

/-- The options in the configuration of a request.  They are the defaults if it names no file, and
otherwise what the entries of the file give. -/
inductive ConfiguredBy (r : Request) (read : String → Except SystemError String) :
    Options → Prop where
  | defaults (hconfig : r.config = none) : ConfiguredBy r read ⟨{}, true, 256⟩
  | file {path text : String} {entries : Toml.Entries} {o : Options}
      (hconfig : r.config = some path) (hread : read path = .ok text)
      (hparse : Toml.parse? text = some entries)
      (hgiven : o.GivenBy true (Toml.entriesToJson entries)) : ConfiguredBy r read o

lemma ofConfig?_eq_some_iff {text : String} {o : Options} :
    Options.ofConfig? text = some o ↔
      ∃ entries, Toml.parse? text = some entries ∧ o.GivenBy true (Toml.entriesToJson entries) := by
  simp only [Options.ofConfig?, Option.bind_eq_bind, Option.bind_eq_some_iff,
    Options.ofJson?_eq_some_iff]

lemma configured_eq_ok_iff {r : Request} {read : String → Except SystemError String} {o : Options} :
    r.configured read = .ok o ↔ r.ConfiguredBy read o := by
  constructor
  · intro h
    unfold configured at h
    split at h
    · next hconfig =>
      cases h
      exact .defaults hconfig
    · next path hconfig =>
      split at h
      · cases h
      · next text hread =>
        split at h
        · next o' ho =>
          cases h
          obtain ⟨entries, hparse, hgiven⟩ := ofConfig?_eq_some_iff.1 ho
          exact .file hconfig hread hparse hgiven
        · cases h
  · intro h
    cases h with
    | defaults hconfig =>
      simp only [configured, hconfig]
      rfl
    | file hconfig hread hparse hgiven =>
      have ho := ofConfig?_eq_some_iff.2 ⟨_, hparse, hgiven⟩
      simp only [configured, hconfig, hread, ho]

/-- **Options are read over their defaults, and switches only add keywords.**

Decoding an object succeeds just if the values that it gives for the fields of options have the
right types.  Then the fields that are given have their values, and all others have their defaults,
also among the keywords.  What is given for other keys does not matter, and options that are written
can be read back, as a value and as a text.

After any settings of keywords, a keyword has the value of its last setting, or its old value if it
is not set.  The configuration of a request gives options in the same way, or the defaults.  The
switches of the request make settings, so they show the keywords that are asked for and those that
the configuration shows already; how often and in which order they are given does not matter. -/
theorem options_decode_and_combine :
    (∀ (surplus : Bool) (members : List (String × Json)),
      ((∃ o, Options.ofJson? surplus (.object members) = some o) ↔
        Options.WellTyped surplus members) ∧
        ∀ o, Options.ofJson? surplus (.object members) = some o ↔ o.GivenBy surplus members) ∧
      (∀ (surplus : Bool) (members members' : List (String × Json)),
        Options.SameKnown members members' →
        Options.ofJson? surplus (.object members) = Options.ofJson? surplus (.object members')) ∧
      (∀ o : Options, (∀ surplus, Options.ofJson? surplus o.toJson = some o) ∧
        ∀ layout, Options.ofText? (o.toJson.print layout) = some o) ∧
      (∀ (v : Visibility) (settings : List (Keyword × Bool)) (k : Keyword),
        (∀ before b after, settings = before ++ (k, b) :: after → (∀ b', (k, b') ∉ after) →
          (v.setAll settings).shows k = b) ∧
        ((∀ b, (k, b) ∉ settings) → (v.setAll settings).shows k = v.shows k)) ∧
      (∀ (r : Request) (read : String → Except SystemError String) (o : Options),
        r.configured read = .ok o ↔ r.ConfiguredBy read o) ∧
      (∀ (r : Request) (read : String → Except SystemError String) (o : Options),
        r.configured read = .ok o →
        ∃ o', r.options read = .ok o' ∧ o'.visibility = o.visibility.setAll r.keywordSettings ∧
          (∀ k, o'.shows k = true ↔ r.AsksFor k ∨ o.shows k = true) ∧
          o'.showArgs = (o.showArgs && !r.noArgs) ∧
          o'.maxDepth = r.maxDepth.getD o.maxDepth) ∧
      ∀ (r r' : Request) (read : String → Except SystemError String), r.config = r'.config →
        (∀ k, r.AsksFor k ↔ r'.AsksFor k) → r.noArgs = r'.noArgs → r.maxDepth = r'.maxDepth →
        r.options read = r'.options read := by
  refine ⟨fun surplus members => ⟨?_, fun o => Options.ofJson?_eq_some_iff⟩, ?_, ?_, ?_,
    fun r read o => configured_eq_ok_iff, ?_, ?_⟩
  · rw [← Options.exists_givenBy_iff]
    exact exists_congr fun o => Options.ofJson?_eq_some_iff
  · intro surplus members members' h
    exact Options.ofJson?_congr h surplus
  · intro o
    exact ⟨fun surplus => Options.ofJson?_toJson surplus o,
      fun layout => Options.ofText?_print layout o⟩
  · intro v settings k
    refine ⟨?_, fun h => Visibility.shows_setAll_of_notMem h v⟩
    rintro before b after rfl h
    exact Visibility.shows_setAll_of_last before b h v
  · intro r read o h
    refine ⟨r.adjust o, by rw [options, h]; rfl, ?_, r.shows_adjust_iff o, ?_, ?_⟩
    · rw [adjust_eq]
    · rw [adjust_eq]
    · rw [adjust_eq]
  · intro r r' read hconfig hkeywords hargs hdepth
    exact options_congr hconfig hkeywords hargs hdepth read

/-- Two keywords are given, in a value and in the text of a configuration, and a third one by
switches that are repeated and in another order.  Other keys at both levels change nothing, and a
setting is overruled by the next one for the same keyword. -/
theorem partial_options_with_switches :
    let members : List (String × Json) :=
      [("show_keywords", .object [("const", .bool true), ("type", .bool true)]),
        ("max_depth", .nat 7)]
    let members' : List (String × Json) :=
      [("theme", .string "dark"), ("max_depth", .nat 7),
        ("show_keywords", .object [("type", .bool true), ("async", .null), ("const", .bool true)])]
    let o : Options := ⟨{ constWord := true, typeWord := true }, true, 7⟩
    let text := "max_depth = 7\n[show_keywords]\ntype = true\nconst = true\n"
    let r : Request :=
      { config := some "a.toml", keywords := [.typeWord, .exportWord, .typeWord], noArgs := true }
    let r' : Request :=
      { config := some "a.toml", keywords := [.exportWord, .typeWord], noArgs := true }
    let settings : List (Keyword × Bool) :=
      [(.letWord, true), (.constWord, false), (.letWord, false)]
    o.GivenBy false members ∧ Options.ofJson? false (.object members) = some o ∧
      Options.ofJson? false (.object members') = some o ∧
      (o.visibility.setAll settings).shows .letWord = false ∧
      (o.visibility.setAll settings).shows .typeWord = true ∧
      ∀ read : String → Except SystemError String, r.options read = r'.options read ∧
        (read "a.toml" = .ok text → r.ConfiguredBy read o ∧
          ∃ o', r.options read = .ok o' ∧ o'.shows .exportWord = true ∧ o'.shows .constWord = true ∧
            o'.shows .letWord = false ∧ o'.showArgs = false ∧ o'.maxDepth = 7) := by
  intro members members' o text r r' settings
  obtain ⟨hdecode, hknown, -, hset, hconfigured, hoptions, hsame⟩ := options_decode_and_combine
  have hvisibility :
      o.visibility.WrittenAs false (.object [("const", .bool true), ("type", .bool true)]) := by
    refine .object fun k => ?_
    cases k with
    | constWord => exact .given rfl
    | typeWord => exact .given rfl
    | _ => exact .missing
  have hgiven : o.GivenBy false members := ⟨.given hvisibility, .missing, .given rfl⟩
  have hmembers : Options.ofJson? false (.object members) = some o :=
    ((hdecode false members).2 o).2 hgiven
  have hother : Options.SameKnown members members' :=
    ⟨.some (.object fun k => by cases k <;> rfl), rfl, rfl⟩
  have htext : Options.ofConfig? text = some o := by decide +kernel
  refine ⟨hgiven, hmembers, (hknown false members members' hother).symm.trans hmembers, ?_, ?_,
    fun read => ⟨?_, fun hread => ?_⟩⟩
  · exact (hset _ _ .letWord).1 [(.letWord, true), (.constWord, false)] false [] rfl (by simp)
  · exact (hset _ _ .typeWord).2 (by decide)
  · exact hsame r r' read rfl (fun k => by cases k <;> simp [AsksFor, r, r']) rfl rfl
  · have hconfig : r.configured read = .ok o := by simp only [configured, r, hread, htext]
    obtain ⟨o', ho', -, hshows, hargs, hdepth⟩ := hoptions r read o hconfig
    have hlet : o'.shows .letWord = false := by
      rw [← Bool.not_eq_true, hshows]
      simp [AsksFor, r, o, Options.shows, Visibility.shows]
    exact ⟨(hconfigured r read o).1 hconfig, o', ho',
      (hshows .exportWord).2 (.inl (.inr (by decide))), (hshows .constWord).2 (.inr rfl), hlet,
        hargs, hdepth⟩

end CommandLine.Request

end CodeOutline
