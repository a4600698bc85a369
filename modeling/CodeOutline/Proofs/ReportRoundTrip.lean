/-
A report as JSON gives every outline back.

The text of a report is one JSON text and a line feed, in either layout, and both layouts stand for
the same value.  An outline can be decoded from its part of this value.  It can also be read
straight from the document, where fields that an outline does not have are skipped; for this the
limit on nesting has to be large enough (`Outline.IsReadFrom`).
-/
import CodeOutline.Outline.Reading
import CodeOutline.Proofs.JsonPrinting
import CodeOutline.Report
import Mathlib.Data.List.Forall2

namespace CodeOutline

/-! ### Reading the document of a value -/

namespace Json

mutual

lemma value?_document : ∀ v : Json, v.document.value? = some v
  | .null => rfl
  | .bool _ => rfl
  | .number _ => rfl
  | .string _ => rfl
  | .array items => by rw [document, Document.value?, values?_documents items, Option.map_some]
  | .object members => by
    rw [document, Document.value?, memberValues?_memberDocuments members, Option.map_some]

lemma values?_documents : ∀ vs : List Json, Document.values? (documents vs) = some vs
  | [] => rfl
  | v :: vs => by
    rw [documents, Document.values?, value?_document v, values?_documents vs]
    rfl

lemma memberValues?_memberDocuments :
    ∀ ms : List (String × Json), Document.memberValues? (memberDocuments ms) = some ms
  | [] => rfl
  | (k, v) :: ms => by
    rw [memberDocuments, Document.memberValues?, value?_document v,
      memberValues?_memberDocuments ms]
    rfl

end

/-- A reader gives a value back from its document.  Without a reader nothing has to be given
back. -/
def GivenBackBy (v : Json) : Option (Document → Option Json) → Prop
  | some read => read v.document = some v
  | none => True

/-- The members with a reader are kept, if each reader gives back its member. -/
lemma keep_memberDocuments {reader? : String → Option (Document → Option Json)}
    {ms : List (String × Json)} (h : ∀ m ∈ ms, GivenBackBy m.2 (reader? m.1)) :
    Document.keep reader? (memberDocuments ms) =
      some (ms.filter fun m => (reader? m.1).isSome) := by
  induction ms with
  | nil => rfl
  | cons m ms ih =>
    obtain ⟨k, v⟩ := m
    obtain ⟨hm, hms⟩ := List.forall_mem_cons.mp h
    rw [memberDocuments, Document.keep, ih hms, List.filter_cons]
    dsimp only at hm ⊢
    cases hread : reader? k with
    | none => rfl
    | some read =>
      have hv : read v.document = some v := by rwa [hread] at hm
      simp [hv]

lemma list?_document {read : Document → Option Json} {items : List Json}
    (h : ∀ v ∈ items, read v.document = some v) :
    Document.list? read (document (.array items)) = some (.array items) := by
  have hitems : (documents items).mapM read = some items := by
    induction items with
    | nil => rfl
    | cons v vs ih =>
      rw [List.forall_mem_cons] at h
      rw [documents, List.mapM_cons, h.1, ih h.2]
      rfl
  rw [document, Document.list?, hitems, Option.map_some]

lemma record?_document {fields : List (String × (Document → Option Json))}
    {ms kept : List (String × Json)} (h : ∀ m ∈ ms, GivenBackBy m.2 (lookup m.1 fields))
    (hkept : ms.filter (fun m => (lookup m.1 fields).isSome) = kept)
    (hkeys : distinctKeys kept = true) :
    Document.record? fields (document (.object ms)) = some (.object kept) := by
  rw [document, Document.record?, keep_memberDocuments h, hkept]
  simp [hkeys]

/-! ### Nesting -/

lemma depth_array (items : List Json) : (Json.array items).depth = itemsDepth items + 1 := by
  rw [depth]

lemma depth_object (members : List (String × Json)) :
    (Json.object members).depth = membersDepth members + 1 := by
  rw [depth]

lemma depth_le_itemsDepth {v : Json} {vs : List Json} (hv : v ∈ vs) : v.depth ≤ itemsDepth vs := by
  induction vs with
  | nil => cases hv
  | cons w vs ih =>
    rw [itemsDepth]
    rcases List.mem_cons.mp hv with rfl | hv
    · exact Nat.le_max_left _ _
    · exact Nat.le_trans (ih hv) (Nat.le_max_right _ _)

lemma depth_le_membersDepth {m : String × Json} {ms : List (String × Json)} (hm : m ∈ ms) :
    m.2.depth ≤ membersDepth ms := by
  induction ms with
  | nil => cases hm
  | cons m' ms ih =>
    rw [membersDepth]
    rcases List.mem_cons.mp hm with rfl | hm
    · exact Nat.le_max_left _ _
    · exact Nat.le_trans (ih hm) (Nat.le_max_right _ _)

end Json

open Json (Exact)

/-! ### Points and labels -/

lemma Point.exact_toJson (p : Point) : Exact p.toJson := by
  have hlt : ∀ x : UInt32, x.toNat < UInt64.size := fun x => Nat.lt_trans x.toNat_lt (by decide)
  refine .object rfl (List.forall_mem_cons.mpr ⟨.nat (hlt _), ?_⟩)
  exact List.forall_mem_singleton.mpr (.nat (hlt _))

lemma Point.read?_toJson (p : Point) : Point.read? p.toJson.document = some p.toJson := by
  refine Json.record?_document (List.forall_mem_cons.mpr ⟨Json.value?_document _, ?_⟩) rfl rfl
  exact List.forall_mem_singleton.mpr (Json.value?_document _)

lemma Point.coordinate?_nat (x : UInt32) : Point.coordinate? (.nat x.toNat) = some x := by
  have hrange : 0 ≤ (x.toNat : Int) ∧ (x.toNat : Int) < (UInt32.size : Nat) :=
    ⟨Int.natCast_nonneg _, Int.ofNat_lt.mpr x.toNat_lt_size⟩
  rw [Point.coordinate?, Json.natBelow?, if_pos hrange, Option.map_some, Int.toNat_natCast,
    UInt32.ofNat_toNat]

lemma Point.ofJson?_object {members : List (String × Json)} {v w : Json} {row column : UInt32}
    (hv : Json.lookup "row" members = some v) (hw : Json.lookup "column" members = some w)
    (hrow : Point.coordinate? v = some row) (hcolumn : Point.coordinate? w = some column) :
    Point.ofJson? (.object members) = some ⟨row, column⟩ := by
  simp [Point.ofJson?, hv, hw, hrow, hcolumn]

lemma Point.ofJson?_toJson (p : Point) : Point.ofJson? p.toJson = some p :=
  Point.ofJson?_object rfl rfl (Point.coordinate?_nat p.row) (Point.coordinate?_nat p.column)

lemma Token.exact_toJson (t : Token) : Exact t.toJson := by
  refine .object rfl (List.forall_mem_cons.mpr ⟨.string _, ?_⟩)
  exact List.forall_mem_singleton.mpr (.string _)

lemma Token.read?_toJson (t : Token) : Token.read? t.toJson.document = some t.toJson := by
  refine Json.record?_document (List.forall_mem_cons.mpr ⟨Json.value?_document _, ?_⟩) rfl rfl
  exact List.forall_mem_singleton.mpr (Json.value?_document _)

lemma Token.ofJson?_toJson (t : Token) : Token.ofJson? t.toJson = some t := by
  simp [Token.toJson, Token.ofJson?, Json.lookup, TokenKind.ofJson?, Json.case?,
    TokenKind.ofName?_name, Json.string?]

lemma Label.exact_toJson (l : Label) : Exact (Label.toJson l) :=
  .array (List.forall_mem_map.mpr fun t _ => t.exact_toJson)

lemma Label.read?_toJson (l : Label) :
    Json.Document.list? Token.read? (Label.toJson l).document = some (Label.toJson l) :=
  Json.list?_document (List.forall_mem_map.mpr fun t _ => t.read?_toJson)

lemma Label.ofJson?_toJson (l : Label) : Label.ofJson? (Label.toJson l) = some l := by
  rw [Label.toJson, Label.ofJson?]
  induction l with
  | nil => rfl
  | cons t l ih =>
    rw [List.map_cons, List.mapM_cons, t.ofJson?_toJson, ih]
    rfl

/-! ### Entries -/

namespace Entry

/-- The members of the object for an entry. -/
def members (e : Entry) : List (String × Json) :=
  ("kind", .string e.kind.name) :: ("tokenizedText", Label.toJson e.label) :: nameMember e.name ++
    [("startPosition", e.extent.start.toJson), ("endPosition", e.extent.stop.toJson),
      ("children", .array (listToJson e.children))]

lemma listToJson_eq_map (es : List Entry) : listToJson es = es.map fun e => .object e.members := by
  induction es with
  | nil => rw [listToJson, List.map_nil]
  | cons e es ih =>
    obtain ⟨kind, label, name, extent, children⟩ := e
    rw [listToJson, List.map_cons, ih, members]

/-- What holds of the values of all members of an entry. -/
lemma forall_mem_members {e : Entry} {P : String × Json → Prop}
    (hkind : P ("kind", .string e.kind.name)) (hlabel : P ("tokenizedText", Label.toJson e.label))
    (hname : ∀ name, e.name = some name → P ("representativeName", .string name))
    (hstart : P ("startPosition", e.extent.start.toJson))
    (hstop : P ("endPosition", e.extent.stop.toJson))
    (hchildren : P ("children", .array (listToJson e.children))) : ∀ m ∈ e.members, P m := by
  intro m hm
  simp only [members, List.cons_append, List.mem_cons, List.mem_append, List.not_mem_nil,
    or_false] at hm
  rcases hm with rfl | rfl | hm | rfl | rfl | rfl
  · exact hkind
  · exact hlabel
  · cases hname' : e.name with
    | none =>
      rw [hname'] at hm
      cases hm
    | some name =>
      rw [hname'] at hm
      rw [List.mem_singleton.mp hm]
      exact hname name hname'
  · exact hstart
  · exact hstop
  · exact hchildren

lemma distinctKeys_members (e : Entry) : Json.distinctKeys e.members = true := by
  obtain ⟨kind, label, name, extent, children⟩ := e
  cases name <;> rfl

lemma exact_members {e : Entry} (h : ∀ v ∈ listToJson e.children, Exact v) :
    Exact (.object e.members) :=
  .object e.distinctKeys_members
    (forall_mem_members (.string _) (Label.exact_toJson _) (fun _ _ => .string _)
    (Point.exact_toJson _) (Point.exact_toJson _) (.array h))

lemma exact_listToJson : ∀ es : List Entry, ∀ v ∈ listToJson es, Exact v
  | [], v, hv => by
    rw [listToJson] at hv
    cases hv
  | ⟨kind, label, name, extent, children⟩ :: rest, v, hv => by
    have hentry : Exact (.object (members ⟨kind, label, name, extent, children⟩)) :=
      exact_members (exact_listToJson children)
    have hrest := exact_listToJson rest
    rw [listToJson_eq_map] at hv hrest
    rcases List.mem_cons.mp hv with rfl | hv
    · exact hentry
    · exact hrest v hv

/-- An entry is read from its document to as many levels as its value has. -/
lemma read?_members {levels : Nat} {e : Entry} (h : (Json.object e.members).depth ≤ levels) :
    Entry.read? levels (Json.object e.members).document = some (.object e.members) := by
  induction levels generalizing e with
  | zero => cases h
  | succ levels ih =>
    rw [Entry.read?]
    refine Json.record?_document ?_ ?_ e.distinctKeys_members
    · refine forall_mem_members (Json.value?_document _) (Label.read?_toJson _)
        (fun _ _ => Json.value?_document _)
        (Point.read?_toJson _) (Point.read?_toJson _) ?_
      -- a child lies two brackets deeper than its parent, and one level is enough for that
      have hmem : ("children", Json.array (listToJson e.children)) ∈ e.members := by simp [members]
      have hdepth := Json.depth_le_membersDepth hmem
      refine Json.list?_document fun v hv => ?_
      have hle := Json.depth_le_itemsDepth hv
      rw [listToJson_eq_map, List.mem_map] at hv
      obtain ⟨child, -, rfl⟩ := hv
      rw [Json.depth_object] at h
      rw [Json.depth_array] at hdepth
      exact ih (by omega)
    · rw [List.filter_eq_self]
      exact forall_mem_members rfl rfl (fun _ _ => rfl) rfl rfl rfl

lemma ofJson?_object {members : List (String × Json)} {e : Entry} {kind label start stop : Json}
    (hkind : Json.lookup "kind" members = some kind)
    (hlabel : Json.lookup "tokenizedText" members = some label)
    (hstart : Json.lookup "startPosition" members = some start)
    (hstop : Json.lookup "endPosition" members = some stop)
    (hkind' : EntryKind.ofJson? kind = some e.kind) (hlabel' : Label.ofJson? label = some e.label)
    (hname : nameOfMembers? members = some e.name)
    (hstart' : Point.ofJson? start = some e.extent.start)
    (hstop' : Point.ofJson? stop = some e.extent.stop)
    (hchildren : childrenAt members = some e.children) :
    Entry.ofJson? (.object members) = some e := by
  obtain ⟨kind', label', name', ⟨start', stop'⟩, children'⟩ := e
  simp [Entry.ofJson?, hkind, hlabel, hname, hstart, hstop, hkind', hlabel', hstart',
    hstop', hchildren]

lemma ofJson?_members {e : Entry} (h : listOfItems? (listToJson e.children) = some e.children) :
    Entry.ofJson? (.object e.members) = some e := by
  obtain ⟨kind, label, name, extent, children⟩ := e
  have hkind : EntryKind.ofJson? (.string kind.name) = some kind := kind.ofName?_name
  have hlabel := Label.ofJson?_toJson label
  have hstart := extent.start.ofJson?_toJson
  have hstop := extent.stop.ofJson?_toJson
  cases name with
  | none => exact ofJson?_object rfl rfl rfl rfl hkind hlabel rfl hstart hstop h
  | some name => exact ofJson?_object rfl rfl rfl rfl hkind hlabel rfl hstart hstop h

lemma listOfItems?_listToJson : ∀ es : List Entry, listOfItems? (listToJson es) = some es
  | [] => by rw [listToJson, listOfItems?]
  | ⟨kind, label, name, extent, children⟩ :: rest => by
    have hentry : Entry.ofJson? (.object (members ⟨kind, label, name, extent, children⟩)) =
        some ⟨kind, label, name, extent, children⟩ :=
          ofJson?_members (listOfItems?_listToJson children)
    have hrest := listOfItems?_listToJson rest
    rw [listToJson_eq_map] at hrest ⊢
    rw [List.map_cons, listOfItems?, hentry, hrest]
    rfl

end Entry

/-! ### Outlines -/

namespace Outline

/-- A value stands for an outline.  The outline can be decoded from the value, and it can be read
from the document of the value by every reader whose limit on nesting does not get in the way. -/
def IsReadFrom (o : Outline) (v : Json) : Prop :=
  ofJson? v = some o ∧ ∀ limit, v.depth ≤ limit → ofDocument? limit v.document = some o

lemma exact_entries (o : Outline) : Exact (.array (Entry.listToJson o.entries)) :=
  .array (Entry.exact_listToJson o.entries)

lemma ofJson?_toJson (o : Outline) : ofJson? o.toJson = some o := by
  have hentries : Entry.listOfArray? (.array (Entry.listToJson o.entries)) = some o.entries := by
    rw [Entry.listOfArray?, Entry.listOfItems?_listToJson]
  simp [toJson, members, ofJson?, Json.lookup, hentries]

lemma depth_toJson (o : Outline) :
    o.toJson.depth = Json.itemsDepth (Entry.listToJson o.entries) + 2 := by
  simp [toJson, members, Json.depth_object, Json.membersDepth, Json.depth_array]

/-- The entries of an outline are read from their document to as many levels as they have. -/
lemma list?_entries {o : Outline} {levels : Nat} (h : o.toJson.depth ≤ levels) :
    Json.Document.list? (Entry.read? levels) (Json.array (Entry.listToJson o.entries)).document =
      some (.array (Entry.listToJson o.entries)) := by
  refine Json.list?_document fun v hv => ?_
  have hle := Json.depth_le_itemsDepth hv
  rw [Entry.listToJson_eq_map, List.mem_map] at hv
  obtain ⟨e, -, rfl⟩ := hv
  rw [depth_toJson] at h
  exact Entry.read?_members (by omega)

/-- An outline is read from an object with its members.  Members before them are skipped. -/
lemma isReadFrom_object (o : Outline) (extra : List (String × Json))
    (h : ∀ m ∈ extra, m.1 ≠ "outlineTrees") : o.IsReadFrom (.object (extra ++ o.members)) := by
  have hlookup : Json.lookup "outlineTrees" (extra ++ o.members) =
      Json.lookup "outlineTrees" o.members := by
    induction extra with
    | nil => rfl
    | cons m extra ih =>
      obtain ⟨hm, hextra⟩ := List.forall_mem_cons.mp h
      rw [List.cons_append, Json.lookup, if_neg hm, ih hextra]
  refine ⟨by rw [← ofJson?_toJson o, toJson, ofJson?, ofJson?, hlookup], fun limit hlimit => ?_⟩
  have hdepth : o.toJson.depth ≤ limit := by
    have hmem : ("outlineTrees", Json.array (Entry.listToJson o.entries)) ∈ extra ++ o.members := by
      simp [members]
    have hle := Json.depth_le_membersDepth hmem
    rw [Json.depth_array] at hle
    rw [Json.depth_object] at hlimit
    rw [depth_toJson]
    omega
  have hskip : ∀ m ∈ extra,
      Json.lookup m.1 [("outlineTrees", Json.Document.list? (Entry.read? limit))] = none := by
    intro m hm
    rw [Json.lookup, if_neg (h m hm).symm, Json.lookup]
  have hread : read? limit (Json.object (extra ++ o.members)).document = some o.toJson := by
    refine Json.record?_document (List.forall_mem_append.mpr ⟨fun m hm => ?_, ?_⟩) ?_ rfl
    · rw [hskip m hm]
      trivial
    · exact List.forall_mem_singleton.mpr (list?_entries hdepth)
    · rw [List.filter_append, List.filter_eq_nil_iff.mpr fun m hm => by simp [hskip m hm],
        List.nil_append]
      rfl
  simp [ofDocument?, hread, hdepth, ofJson?_toJson]

end Outline

/-! ### Reports -/

namespace Report

lemma exact_toJson (files : List FileOutline) : Exact (toJson files) := by
  have hfile : ∀ f : FileOutline, Exact (fileToJson f) := fun f =>
    .object rfl
      (List.forall_mem_cons.mpr ⟨.string _, List.forall_mem_singleton.mpr f.outline.exact_entries⟩)
  unfold toJson
  split
  · next f => exact .object rfl (List.forall_mem_singleton.mpr f.outline.exact_entries)
  · exact .array (List.forall_mem_map.mpr fun f _ => hfile f)

lemma toJson_of_length_ne {files : List FileOutline} (h : files.length ≠ 1) :
    toJson files = .array (files.map fileToJson) := by
  unfold toJson
  split
  · exact absurd rfl h
  · rfl

/-- A report as JSON is one JSON text and a line feed.  Both layouts stand for one value `v`, and
every outline can be read from its part of `v`.  The compact text has no other line feed. -/
theorem render_json_lossless (files : List FileOutline) :
    ∃ v : Json,
      (∀ layout, ∃ text : String, render (.json layout) files = text ++ "\n" ∧
        Json.Grammar.Text text.toList v.document ∧ Json.parse text = .ok v ∧
        (layout = .compact → '\n' ∉ text.toList)) ∧
      (∀ f, files = [f] →
        (∃ trees, v = .object [("outlineTrees", trees)]) ∧ f.outline.IsReadFrom v ∧
        ∀ layout limit, v.depth ≤ limit →
          Outline.ofTextWithin? limit (render (.json layout) files) = some f.outline) ∧
      (files.length ≠ 1 →
        ∃ items, v = .array items ∧
          List.Forall₂ (fun f item =>
            (∃ trees, item = .object [("path", .string f.path), ("outlineTrees", trees)]) ∧
            f.outline.IsReadFrom item) files items) := by
  have hexact := exact_toJson files
  refine ⟨toJson files, fun layout => ?_, ?_, fun hlength => ?_⟩
  · refine ⟨_, rfl, Json.text_print hexact, Json.parse_print hexact, ?_⟩
    rintro rfl
    rw [Json.print, String.toList_ofList]
    exact Json.lf_notMem_write_compact hexact 0 List.not_mem_nil
  · rintro f rfl
    have hread : f.outline.IsReadFrom f.outline.toJson := f.outline.isReadFrom_object [] (by simp)
    refine ⟨⟨_, rfl⟩, hread, fun layout limit hlimit => ?_⟩
    have htext : Json.Document.readLax (render (.json layout) [f]) =
        .ok f.outline.toJson.document :=
      Json.Document.read_of_text (Json.text_print_lf hexact)
    rw [Outline.ofTextWithin?, htext]
    exact hread.2 limit hlimit
  · refine ⟨_, toJson_of_length_ne hlength,
      List.forall₂_map_right_iff.mpr (List.forall₂_same.mpr fun f _ => ?_)⟩
    exact ⟨⟨_, rfl⟩, f.outline.isReadFrom_object [("path", .string f.path)] (by simp)⟩

end Report

end CodeOutline
