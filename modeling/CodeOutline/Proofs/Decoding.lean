/-
Decoding by fields.

Decoding a node walks over the members of an object once for every field.  Here every field is what
its key gives: `nodeAt_eq_lookup` and its companions say so for the fields that hold nodes, and the
other fields are lookups by definition.  With that, a node is decoded by its kind (`Node.ofKind?`),
and a value that does not decode keeps its type and its location (`Node.ofJson_object`).
-/
import CodeOutline.Node.Decoding
import Mathlib.Tactic.Lemma

namespace CodeOutline

/-! ### Fields that hold nodes -/

/-- A node that may be null. -/
def optionalNode (v : Json) : Option Node := unlessNull v (Node.ofJson v)

/-- A walk over members that stops at the first one with a key is a lookup. -/
lemma eq_elim_lookup {β : Type} {walk : List (String × Json) → β} {key : String} {missing : β}
    {decode : Json → β} (hnil : walk [] = missing)
    (hcons : ∀ k v rest, walk ((k, v) :: rest) = if k = key then decode v else walk rest)
    (members : List (String × Json)) :
    walk members = (Json.lookup key members).elim missing decode := by
  induction members with
  | nil => exact hnil
  | cons m rest ih =>
    obtain ⟨k, v⟩ := m
    rw [hcons, Json.lookup, ih]
    split <;> rfl

variable (key : String) (members : List (String × Json))

lemma nodeAt_eq_lookup : nodeAt key members = (Json.lookup key members).map Node.ofJson := by
  rw [eq_elim_lookup (nodeAt.eq_1 key) (nodeAt.eq_2 key) members]
  cases Json.lookup key members <;> rfl

lemma optionalNodeAt_eq_lookup :
    optionalNodeAt key members = some ((Json.lookup key members).bind optionalNode) := by
  rw [eq_elim_lookup (optionalNodeAt.eq_1 key) (optionalNodeAt.eq_2 key) members]
  cases Json.lookup key members <;> rfl

lemma nodesAt_eq_lookup :
    nodesAt key members = (Json.lookup key members).elim (some []) nodesOfArray :=
  eq_elim_lookup (nodesAt.eq_1 key) (nodesAt.eq_2 key) members

lemma elementsAt_eq_lookup :
    elementsAt key members = (Json.lookup key members).elim (some []) elementsOfArray :=
  eq_elim_lookup (elementsAt.eq_1 key) (elementsAt.eq_2 key) members

lemma classBodyAt_eq_lookup :
    classBodyAt key members = (Json.lookup key members).bind classBodyOf := by
  rw [eq_elim_lookup (classBodyAt.eq_1 key) (classBodyAt.eq_2 key) members]
  cases Json.lookup key members <;> rfl

lemma declaratorsAt_eq_lookup :
    declaratorsAt key members = (Json.lookup key members).elim (some []) declaratorsOfArray :=
  eq_elim_lookup (declaratorsAt.eq_1 key) (declaratorsAt.eq_2 key) members

lemma nodesOfItems_eq_map (items : List Json) : nodesOfItems items = items.map Node.ofJson := by
  induction items with
  | nil => rfl
  | cons v vs ih => rw [nodesOfItems, ih, List.map_cons]

lemma elementsOfItems_eq_map (items : List Json) :
    elementsOfItems items = items.map optionalNode := by
  induction items with
  | nil => rfl
  | cons v vs ih =>
    rw [elementsOfItems, ih, List.map_cons]
    rfl

/-! ### Nodes by their kinds -/

/-- The node of a kind in the fields of a value, if they fit. -/
def Node.ofKind? (kind : NodeKind) (members : List (String × Json)) : Option Node :=
  match kind with
  | .program => do return .program (← locationAt members) (← nodesAt "body" members)
  | .function form => do
    return .function form (← locationAt members) (← optionalIdentifierAt "id" members)
      (← nodesAt "params" members) (← nodeAt "body" members)
  | .classDef form => do
    return .classDef form (← locationAt members) (← optionalIdentifierAt "id" members)
      (← classBodyAt "body" members)
  | .classProperty => do
    return .classProperty (← locationAt members) (← nodeAt "key" members)
      (← optionalNodeAt "value" members)
  | .methodDefinition => do
    return .methodDefinition (← locationAt members) (← nodeAt "key" members)
      (← nodeAt "value" members)
  | .exportDeclaration form => do
    return .exportDeclaration form (← locationAt members) (← optionalNodeAt "declaration" members)
      (← flagAt "default" members)
  | .expressionStatement => do
    return .expressionStatement (← locationAt members) (← nodeAt "expression" members)
  | .call => do
    return .call (← locationAt members) (← nodeAt "callee" members) (← nodesAt "arguments" members)
  | .assignment => do
    return .assignment (← locationAt members) (← nodeAt "left" members) (← nodeAt "right" members)
  | .member => do
    return .member (← locationAt members) (← nodeAt "object" members) (← nodeAt "property" members)
      (← flagAt "computed" members)
  | .objectExpression => do
    return .objectExpression (← locationAt members) (← nodesAt "properties" members)
  | .property => do
    return .property (← locationAt members) (← nodeAt "key" members) (← nodeAt "value" members)
      (← flagAt "shorthand" members)
  | .identifier => do
    let loc ← locationAt members
    let name ← (← Json.lookup "name" members).string?
    return .identifier ⟨loc, name⟩
  | .objectPattern => do
    return .objectPattern (← locationAt members) (← nodesAt "properties" members)
  | .arrayPattern => do
    return .arrayPattern (← locationAt members) (← elementsAt "elements" members)
  | .assignmentPattern => do
    return .assignmentPattern (← locationAt members) (← nodeAt "left" members)
  | .restElement => do return .restElement (← locationAt members) (← nodeAt "argument" members)
  | .variableDeclaration => do
    let loc ← locationAt members
    let kind ← DeclarationKind.ofJson? (← Json.lookup "kind" members)
    return .variableDeclaration loc kind (← declaratorsAt "declarations" members)
  | .typeAlias declared => do
    return .typeAlias declared (← locationAt members) (← identifierAt "id" members)
  | .literal => do return .literal (← locationAt members) ((Json.lookup "value" members).getD .null)
  | .block => do return .block (← locationAt members) (← nodesAt "body" members)

/-- An object decodes by its type.  If its fields do not fit, it keeps the type and the location. -/
lemma Node.ofJson_object (members : List (String × Json)) :
    Node.ofJson (.object members) =
      match typeName? members with
      | none => .untyped
      | some type =>
        ((NodeKind.ofName? type).bind fun kind => Node.ofKind? kind members).getD
          (.other type (keptLocation members)) := by
  rw [Node.ofJson]
  cases typeName? members with
  | none => rfl
  | some type =>
    simp only
    cases NodeKind.ofName? type with
    | none => rfl
    | some kind => cases kind <;> rfl

/-- The kind of a node that has been decoded as what it is. -/
def Node.kind? : Node → Option NodeKind
  | .program .. => some .program
  | .function form .. => some (.function form)
  | .classDef form .. => some (.classDef form)
  | .classProperty .. => some .classProperty
  | .methodDefinition .. => some .methodDefinition
  | .exportDeclaration form .. => some (.exportDeclaration form)
  | .expressionStatement .. => some .expressionStatement
  | .call .. => some .call
  | .assignment .. => some .assignment
  | .member .. => some .member
  | .objectExpression .. => some .objectExpression
  | .property .. => some .property
  | .identifier .. => some .identifier
  | .objectPattern .. => some .objectPattern
  | .arrayPattern .. => some .arrayPattern
  | .assignmentPattern .. => some .assignmentPattern
  | .restElement .. => some .restElement
  | .variableDeclaration .. => some .variableDeclaration
  | .typeAlias declared .. => some (.typeAlias declared)
  | .literal .. => some .literal
  | .block .. => some .block
  | .other .. => none

lemma Node.kind?_of_ofKind? {kind : NodeKind} {members : List (String × Json)} {n : Node}
    (h : Node.ofKind? kind members = some n) : n.kind? = some kind := by
  -- each kind reads its fields one after the other, and then applies its own constructor
  cases kind <;>
    simp only [Node.ofKind?, Option.bind_eq_bind, Option.bind_eq_some_iff, Option.pure_def,
      Option.some.injEq] at h
  all_goals
    repeat obtain ⟨_, _, h⟩ := h
    rfl

/-- A value that decodes as what it is has a type that names its kind, and fields that fit. -/
lemma Node.ofKind?_of_kind?_ofJson {v : Json} {kind : NodeKind}
    (h : (Node.ofJson v).kind? = some kind) :
    ∃ members type, v = .object members ∧ typeName? members = some type ∧
      NodeKind.ofName? type = some kind ∧
      Node.ofKind? kind members = some (Node.ofJson v) := by
  cases v with
  | object members =>
    rw [Node.ofJson_object] at h ⊢
    cases htype : typeName? members with
    | none => simp [htype, untyped, kind?] at h
    | some type =>
      simp only [htype] at h ⊢
      cases hkind : NodeKind.ofName? type with
      | none => simp [hkind, kind?] at h
      | some kind' =>
        simp only [hkind, Option.bind_some] at h ⊢
        cases hnode : Node.ofKind? kind' members with
        | none => simp [hnode, kind?] at h
        | some n =>
          simp only [hnode, Option.getD_some] at h ⊢
          obtain rfl : kind' = kind := Option.some.inj ((Node.kind?_of_ofKind? hnode).symm.trans h)
          exact ⟨members, type, rfl, htype, hkind, hnode⟩
  | _ => simp [Node.ofJson, untyped, kind?] at h

/-- Fields that fit the kind that the type names are decoded as such. -/
lemma Node.ofJson_of_ofKind? {members : List (String × Json)} {type : String}
    {kind : NodeKind} {n : Node} (htype : typeName? members = some type)
    (hkind : NodeKind.ofName? type = some kind) (hnode : Node.ofKind? kind members = some n) :
    Node.ofJson (.object members) = n := by
  simp only [Node.ofJson_object, htype, hkind, Option.bind_some, hnode, Option.getD_some]

/-! ### Programs -/

lemma NodeKind.ofName?_eq_program_iff {type : String} :
    NodeKind.ofName? type = some .program ↔ type = NodeKind.program.name := by
  constructor
  · intro h
    unfold NodeKind.ofName? at h
    split at h <;> first | rfl | simp at h
  · rintro rfl
    rfl

/-- A strict body and a lenient one are the same nodes. -/
lemma Program.bodyOfMembers_eq_ok_iff {members : List (String × Json)} {body : List Node} :
    Program.bodyOfMembers members = .ok body ↔ nodesAt "body" members = some body := by
  rw [nodesAt_eq_lookup, Program.bodyOfMembers]
  cases Json.lookup "body" members with
  | none => simp
  | some v => cases v <;> simp [nodesOfArray]

lemma locationAt_eq_some_iff {members : List (String × Json)} {loc : Option Location} :
    locationAt members = some loc ↔ Location.ofMembers members = .ok loc := by
  rw [locationAt]
  cases Location.ofMembers members <;> simp [Except.toOption]

lemma Program.ofMembers_eq_ok_iff {members : List (String × Json)} {p : Program} :
    Program.ofMembers members = .ok p ↔
      Node.ofKind? .program members = some (.program p.loc p.body) := by
  have hnode : Node.ofKind? .program members = some (.program p.loc p.body) ↔
      Location.ofMembers members = .ok p.loc ∧ Program.bodyOfMembers members = .ok p.body := by
    simp [Node.ofKind?, Option.bind_eq_some_iff, locationAt_eq_some_iff,
      Program.bodyOfMembers_eq_ok_iff]
  rw [hnode, Program.ofMembers]
  cases Program.bodyOfMembers members with
  | error e => simp [bind, Except.bind]
  | ok body =>
    cases Location.ofMembers members with
    | error e => simp [bind, Except.bind]
    | ok loc =>
      cases p
      simp [bind, Except.bind, pure, Except.pure]

/-- A value is a program exactly if it decodes as a node of that kind. -/
lemma Program.ofJson_eq_ok_iff {v : Json} {p : Program} :
    Program.ofJson v = .ok p ↔ Node.ofJson v = .program p.loc p.body := by
  constructor
  · intro h
    cases v with
    | object members =>
      rw [Program.ofJson] at h
      cases htype : typeName? members with
      | none => simp [htype] at h
      | some type =>
        by_cases hprogram : type = NodeKind.program.name
        · simp only [htype, if_pos hprogram] at h
          have hmembers : Program.ofMembers members = .ok p := by
            cases hm : Program.ofMembers members with
            | error cause =>
              rw [hm] at h
              exact nomatch h
            | ok q =>
              rw [hm] at h
              exact congrArg Except.ok (Except.ok.inj h)
          exact Node.ofJson_of_ofKind? htype (NodeKind.ofName?_eq_program_iff.2 hprogram)
            (Program.ofMembers_eq_ok_iff.1 hmembers)
        · simp [htype, hprogram] at h
    | _ => simp [Program.ofJson] at h
  · intro h
    have hkind : (Node.ofJson v).kind? = some .program := by rw [h, Node.kind?]
    obtain ⟨members, type, rfl, htype, hname, hnode⟩ := Node.ofKind?_of_kind?_ofJson hkind
    rw [h] at hnode
    have hprogram := NodeKind.ofName?_eq_program_iff.1 hname
    simp only [Program.ofJson, htype, if_pos hprogram, Program.ofMembers_eq_ok_iff.2 hnode]
    rfl

end CodeOutline
