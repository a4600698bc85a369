/-
What decoding keeps of every node.

A value becomes a node in one of two ways: its fields fit its type, and the node holds what they
give, or they do not, and the node holds the type and the location only.  The location is decoded on
both ways, each time by other rules: a field that does not fit makes the first way fail, and counts
as no location on the second one.  The two ways agree (`keptLocation_of_locationAt`).  So a node
always has the location and the type of its value, and whether its fields fit shows in neither
(`decoding_keeps_kind_and_location`).

There is one exception.  An older type for exports is replaced by the newer one, but only if the
fields fit.
-/
import CodeOutline.Proofs.StrictRoot

namespace CodeOutline

/-! ### Locations -/

lemma keptLocation_eq_some_iff {members : List (String × Json)} {l : Location} :
    keptLocation members = some l ↔ ∃ u, Json.lookup "loc" members = some u ∧
      Location.ofJson u = .ok l := by
  rw [keptLocation, Option.bind_eq_some_iff]
  refine exists_congr fun u => and_congr_right fun _ => ?_
  cases Location.ofJson u <;> simp [Except.toOption]

/-- A location that is decoded with the other fields is the one that is kept without them. -/
lemma keptLocation_of_locationAt {members : List (String × Json)} {loc : Option Location}
    (h : locationAt members = some loc) : keptLocation members = loc := by
  have hgiven := Location.ofMembers_eq_ok_iff.1 (locationAt_eq_some_iff.1 h)
  generalize hlookup : Json.lookup "loc" members = field at hgiven
  cases hgiven with
  | missing => rw [keptLocation, hlookup, Option.bind_none]
  | null =>
    rw [keptLocation, hlookup, Option.bind_some]
    rfl
  | written hl => exact keptLocation_eq_some_iff.2 ⟨_, hlookup, Location.ofJson_eq_ok_iff.2 hl⟩

/-- Every kind of node has the location that its fields give. -/
lemma Node.locationAt_of_ofKind? {kind : NodeKind} {members : List (String × Json)} {n : Node}
    (h : Node.ofKind? kind members = some n) : locationAt members = some n.loc := by
  -- each kind reads its location first
  cases kind <;>
    simp only [Node.ofKind?, Option.bind_eq_bind, Option.bind_eq_some_iff, Option.pure_def,
      Option.some.injEq] at h
  all_goals
    obtain ⟨loc, hloc, h⟩ := h
    rw [hloc]
    repeat obtain ⟨_, _, h⟩ := h
    rfl

/-! ### Kinds -/

lemma Node.kindName_of_kind? {n : Node} {kind : NodeKind} (h : n.kind? = some kind) :
    n.kindName = kind.name := by
  cases n with
  | other kind loc => cases h
  | _ =>
    obtain rfl := Option.some.inj h
    rfl

/-- A kind is found under its own name, and named exports are also found under an older one. -/
lemma NodeKind.name_of_ofName? {type : String} {kind : NodeKind}
    (h : NodeKind.ofName? type = some kind) :
    kind.name = type ∨ (type = "ExportDeclaration" ∧ kind = .exportDeclaration .named) := by
  unfold NodeKind.ofName? at h
  split at h <;> cases h
  any_goals exact .inl rfl
  exact .inr ⟨rfl, rfl⟩

/-! ### Two ways to become a node -/

/-- The fields of a typed value fit one kind that its type names, or it keeps its type and its
location. -/
lemma Node.ofJson_cases {members : List (String × Json)} {type : String}
    (htype : typeName? members = some type) :
    (∃ kind, NodeKind.ofName? type = some kind ∧
      Node.ofKind? kind members = some (Node.ofJson (.object members))) ∨
    ((NodeKind.ofName? type).bind (fun kind => Node.ofKind? kind members) = none ∧
      Node.ofJson (.object members) = .other type (keptLocation members)) := by
  have hjson := Node.ofJson_object members
  simp only [htype] at hjson
  cases hnode : (NodeKind.ofName? type).bind fun kind => Node.ofKind? kind members with
  | none => exact .inr ⟨rfl, by rw [hjson, hnode, Option.getD_none]⟩
  | some n =>
    obtain ⟨kind, hkind, hfields⟩ := Option.bind_eq_some_iff.1 hnode
    rw [hnode, Option.getD_some] at hjson
    exact .inl ⟨kind, hkind, by rw [hjson, hfields]⟩

/-- The location of a node is the one that its value keeps in any case. -/
lemma Node.loc_ofJson {v : Json} {type : String} (htype : v.HasType type) :
    ∃ members, v = .object members ∧ (Node.ofJson v).loc = keptLocation members := by
  obtain ⟨members, rfl⟩ := htype.exists_object
  refine ⟨members, rfl, ?_⟩
  rcases Node.ofJson_cases (typeName?_eq_some_iff.2 htype) with ⟨kind, -, hnode⟩ | ⟨-, hother⟩
  · exact (keptLocation_of_locationAt (Node.locationAt_of_ofKind? hnode)).symm
  · rw [hother, Node.loc]

/-- A typed value becomes a node with the same type, except for exports with the older type. -/
lemma Node.kindName_ofJson {v : Json} {type : String} (htype : v.HasType type)
    (hne : type ≠ "ExportDeclaration") : (Node.ofJson v).kindName = type := by
  obtain ⟨members, rfl⟩ := htype.exists_object
  rcases Node.ofJson_cases (typeName?_eq_some_iff.2 htype) with ⟨kind, hkind, hnode⟩ | ⟨-, hother⟩
  · rw [Node.kindName_of_kind? (Node.kind?_of_ofKind? hnode)]
    rcases NodeKind.name_of_ofName? hkind with hname | ⟨hold, -⟩
    · exact hname
    · exact (hne hold).elim
  · rw [hother, Node.kindName]

lemma Node.ofJson_untyped {v : Json} (h : ∀ type, ¬ v.HasType type) : Node.ofJson v = .untyped := by
  cases v with
  | object members => simp only [Node.ofJson_object, typeName?_eq_none h]
  | _ => rfl

/-! ### Exports with the older type -/

/-- The fields of an export fit: it may export anything, its location is missing, null or sound, and
its flag is missing or a truth value. -/
def ExportFieldsFit (v : Json) : Prop :=
  (∃ loc, Location.GivenBy (v.field? "loc") loc) ∧
    (v.field? "default" = none ∨ ∃ b, v.field? "default" = some (.bool b))

lemma exists_flagAt_iff {key : String} {members : List (String × Json)} :
    (∃ flag, flagAt key members = some flag) ↔
      Json.lookup key members = none ∨ ∃ b, Json.lookup key members = some (.bool b) := by
  unfold flagAt
  cases Json.lookup key members with
  | none => simp
  | some v => cases v <;> simp [Json.bool?]

lemma exists_ofKind?_export_iff (form : ExportForm) {members : List (String × Json)} :
    (∃ n, Node.ofKind? (.exportDeclaration form) members = some n) ↔
      ExportFieldsFit (.object members) := by
  have hloc : (∃ loc, locationAt members = some loc) ↔
      ∃ loc, Location.GivenBy ((Json.object members).field? "loc") loc :=
    exists_congr fun loc => locationAt_eq_some_iff.trans Location.ofMembers_eq_ok_iff
  have hflag : (∃ flag, flagAt "default" members = some flag) ↔
      (Json.object members).field? "default" = none ∨
        ∃ b, (Json.object members).field? "default" = some (.bool b) :=
    exists_flagAt_iff
  rw [ExportFieldsFit, ← hloc, ← hflag]
  -- what is exported always decodes
  simp only [Node.ofKind?, optionalNodeAt_eq_lookup, Option.bind_eq_bind, Option.bind_some,
    Option.bind_eq_some_iff, Option.pure_def, Option.some.injEq]
  constructor
  · rintro ⟨n, loc, hloc, flag, hflag, -⟩
    exact ⟨⟨loc, hloc⟩, flag, hflag⟩
  · rintro ⟨⟨loc, hloc⟩, flag, hflag⟩
    exact ⟨_, loc, hloc, flag, hflag, rfl⟩

/-- An export with the older type becomes a named export if its fields fit, and keeps the older type
otherwise. -/
lemma Node.kindName_ofJson_olderExport {v : Json} (htype : v.HasType "ExportDeclaration") :
    (ExportFieldsFit v ∧ (Node.ofJson v).kindName = "ExportNamedDeclaration") ∨
      (¬ ExportFieldsFit v ∧ (Node.ofJson v).kindName = "ExportDeclaration") := by
  obtain ⟨members, rfl⟩ := htype.exists_object
  rcases Node.ofJson_cases (typeName?_eq_some_iff.2 htype)
    with ⟨kind, hkind, hnode⟩ | ⟨hnone, hother⟩
  · obtain rfl : NodeKind.exportDeclaration .named = kind := Option.some.inj hkind
    refine .inl ⟨(exists_ofKind?_export_iff .named).1 ⟨_, hnode⟩, ?_⟩
    rw [Node.kindName_of_kind? (Node.kind?_of_ofKind? hnode)]
    rfl
  · refine .inr ⟨fun hfit => ?_, by rw [hother, Node.kindName]⟩
    obtain ⟨n, hn⟩ := (exists_ofKind?_export_iff .named).2 hfit
    have hsome : Node.ofKind? (.exportDeclaration .named) members = none := hnone
    rw [hn] at hsome
    cases hsome

/-- **Decoding keeps types and locations.**  The node of a typed value has the location of the value
if that is sound, and none if it is missing, null or malformed.  It has the type of the value, and
only for exports with the older type it depends on the fields whether they get the newer one.  A
value without a type has neither a type nor a location.

So a value whose fields do not fit has the location that it would have if they did: it only depends
on one field. -/
theorem decoding_keeps_kind_and_location (v : Json) :
    (∀ type, v.HasType type →
      (∀ l, (Node.ofJson v).loc = some l ↔ ∃ u, v.field? "loc" = some u ∧
        Location.ofJson u = .ok l) ∧
      (type ≠ "ExportDeclaration" → (Node.ofJson v).kindName = type) ∧
      (type = "ExportDeclaration" →
        ((Node.ofJson v).kindName = "ExportNamedDeclaration" ↔ ExportFieldsFit v) ∧
        ((Node.ofJson v).kindName = "ExportDeclaration" ↔ ¬ ExportFieldsFit v))) ∧
    ((∀ type, ¬ v.HasType type) → (Node.ofJson v).kindName = "<untyped>" ∧
      (Node.ofJson v).loc = none) ∧
    ∀ w type type', v.HasType type → w.HasType type' → v.field? "loc" = w.field? "loc" →
      (Node.ofJson v).loc = (Node.ofJson w).loc := by
  refine ⟨fun type htype => ⟨fun l => ?_, Node.kindName_ofJson htype, ?_⟩, fun huntyped => ?_, ?_⟩
  · obtain ⟨members, rfl, hloc⟩ := Node.loc_ofJson htype
    rw [hloc]
    exact keptLocation_eq_some_iff
  · rintro rfl
    rcases Node.kindName_ofJson_olderExport htype with ⟨hfit, hname⟩ | ⟨hfit, hname⟩
    · rw [hname]
      exact ⟨⟨fun _ => hfit, fun _ => rfl⟩, ⟨fun h => absurd h (by decide), fun h => absurd hfit h⟩⟩
    · rw [hname]
      exact ⟨⟨fun h => absurd h (by decide), fun h => absurd h hfit⟩, ⟨fun _ => hfit, fun _ => rfl⟩⟩
  · rw [Node.ofJson_untyped huntyped]
    exact ⟨rfl, rfl⟩
  · intro w type type' hv hw hfield
    obtain ⟨members, rfl, hloc⟩ := Node.loc_ofJson hv
    obtain ⟨members', rfl, hloc'⟩ := Node.loc_ofJson hw
    rw [hloc, hloc']
    exact congrArg (·.bind fun u => (Location.ofJson u).toOption) hfield

/-- An export with the older type and a number for its flag keeps the type, and it has the location
of the same export with a truth value, which gets the newer type. -/
theorem misfit_keeps_older_type :
    let loc : Json := .array [.array [.nat 1, .nat 0], .array [.nat 1, .nat 5]]
    let exported (flag : Json) : Json :=
      .object [("type", .string "ExportDeclaration"), ("loc", loc), ("default", flag)]
    (Node.ofJson (exported (.nat 1))).kindName = "ExportDeclaration" ∧
      (Node.ofJson (exported (.bool true))).kindName = "ExportNamedDeclaration" ∧
      (Node.ofJson (exported (.nat 1))).loc = some ⟨⟨1, 0⟩, ⟨1, 5⟩⟩ ∧
      (Node.ofJson (exported (.nat 1))).loc = (Node.ofJson (exported (.bool true))).loc := by
  intro loc exported
  have htype (flag : Json) : (exported flag).HasType "ExportDeclaration" := rfl
  have hwritten : Location.WrittenAs ⟨⟨1, 0⟩, ⟨1, 5⟩⟩ loc :=
    .array (.array rfl rfl) (.array rfl rfl)
  have hmisfit : ¬ ExportFieldsFit (exported (.nat 1)) := by
    rintro ⟨-, hmissing | ⟨b, hflag⟩⟩
    · cases hmissing
    · cases hflag
  have hfit : ExportFieldsFit (exported (.bool true)) := ⟨⟨_, .written hwritten⟩, .inr ⟨true, rfl⟩⟩
  obtain ⟨htyped, -, hsame⟩ := decoding_keeps_kind_and_location (exported (.nat 1))
  obtain ⟨hloc, -, hkind⟩ := htyped _ (htype _)
  obtain ⟨htyped', -⟩ := decoding_keeps_kind_and_location (exported (.bool true))
  refine ⟨(hkind rfl).2.2 hmisfit, ((htyped' _ (htype _)).2.2 rfl).1.2 hfit, ?_,
    hsame _ _ _ (htype _) (htype _) rfl⟩
  exact (hloc _).2 ⟨loc, rfl, Location.ofJson_eq_ok_iff.2 hwritten⟩

end CodeOutline
