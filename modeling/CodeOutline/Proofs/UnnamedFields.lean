/-
Fields without a name are invisible.

A JSON value is read in a role: as a node, as a list of nodes, as a location, and so on.  A role
fixes which members of an object are looked at, and in which role their values are read in turn; for
a node this depends on its type.  All other members do not matter, at any depth.

Two values agree in a role if they have the same named fields, with values that agree in their own
roles (`Json.Agree`).  Nothing is asked of members without a name, so it covers adding, removing and
changing any number of them at once.  By induction, values that agree are read alike
(`Json.Agree.alike`), and in particular they have the same outlines (`unnamed_fields_invisible`).
-/
import CodeOutline.Proofs.JsonPrinting
import CodeOutline.Proofs.StrictRoot

namespace CodeOutline

/-! ### Named fields -/

/-- What a JSON value is read as. -/
inductive Role where
  /-- A value of which everything counts. -/
  | plain
  | node
  | nodes
  | location
  | position
  | identifier
  | classBody
  | declarator
  | declarators
deriving DecidableEq, Repr

namespace Role

/-- The fields of a record that is not a node, in the order in which they stand if the record is an
array. -/
def fields? : Role → Option (List (String × Role))
  | .location => some [("start", .position), ("end", .position)]
  | .position => some [("line", .plain), ("column", .plain)]
  | .identifier => some [("loc", .location), ("name", .plain)]
  | .classBody => some [("body", .nodes)]
  | .declarator => some [("loc", .location), ("id", .node), ("init", .node)]
  | _ => none

/-- The role of the items of a list. -/
def item? : Role → Option Role
  | .nodes => some .node
  | .declarators => some .declarator
  | _ => none

/-- The role of an item of a record that is written as an array. -/
def atIndex (fields : List (String × Role)) (i : Nat) : Role := fields[i]?.elim .plain Prod.snd

end Role

/-- The fields of a node beside its type and its location. -/
def NodeKind.fields : NodeKind → List (String × Role)
  | .program => [("body", .nodes)]
  | .function _ => [("id", .identifier), ("params", .nodes), ("body", .node)]
  | .classDef _ => [("id", .identifier), ("body", .classBody)]
  | .classProperty => [("key", .node), ("value", .node)]
  | .methodDefinition => [("key", .node), ("value", .node)]
  | .exportDeclaration _ => [("declaration", .node), ("default", .plain)]
  | .expressionStatement => [("expression", .node)]
  | .call => [("callee", .node), ("arguments", .nodes)]
  | .assignment => [("left", .node), ("right", .node)]
  | .member => [("object", .node), ("property", .node), ("computed", .plain)]
  | .objectExpression => [("properties", .nodes)]
  | .property => [("key", .node), ("value", .node), ("shorthand", .plain)]
  | .identifier => [("name", .plain)]
  | .objectPattern => [("properties", .nodes)]
  | .arrayPattern => [("elements", .nodes)]
  | .assignmentPattern => [("left", .node)]
  | .restElement => [("argument", .node)]
  | .variableDeclaration => [("kind", .plain), ("declarations", .declarators)]
  | .typeAlias _ => [("id", .identifier)]
  | .literal => [("value", .plain)]
  | .block => [("body", .nodes)]

/-- The named fields of a node beside its type.  A node of an unknown type only has a location. -/
def nodeFields (members : List (String × Json)) : List (String × Role) :=
  ("loc", .location) :: ((typeName? members).bind NodeKind.ofName?).elim [] NodeKind.fields

namespace Json

/-- Two values agree in a role: they are the same up to members of objects that the role does not
name. -/
inductive Agree : Role → Json → Json → Prop where
  | refl (role : Role) (v : Json) : Agree role v v
  /-- Nodes of the same type. -/
  | node {ms ms' : List (String × Json)} (htype : lookup "type" ms = lookup "type" ms')
      (hpresent : ∀ f ∈ nodeFields ms, (lookup f.1 ms).isSome = (lookup f.1 ms').isSome)
      (hvalues : ∀ f ∈ nodeFields ms, ∀ v v', lookup f.1 ms = some v → lookup f.1 ms' = some v' →
        Agree f.2 v v') :
      Agree .node (.object ms) (.object ms')
  /-- Records that are not nodes. -/
  | record {role : Role} {fields : List (String × Role)} (hrole : role.fields? = some fields)
      {ms ms' : List (String × Json)}
      (hpresent : ∀ f ∈ fields, (lookup f.1 ms).isSome = (lookup f.1 ms').isSome)
      (hvalues : ∀ f ∈ fields, ∀ v v', lookup f.1 ms = some v → lookup f.1 ms' = some v' →
        Agree f.2 v v') :
      Agree role (.object ms) (.object ms')
  /-- Records that are written as arrays. -/
  | tuple {role : Role} {fields : List (String × Role)} (hrole : role.fields? = some fields)
      {vs vs' : List Json} (hlength : vs.length = vs'.length)
      (hvalues : ∀ (i : Nat) v v', vs[i]? = some v → vs'[i]? = some v' →
        Agree (Role.atIndex fields i) v v') :
      Agree role (.array vs) (.array vs')
  /-- Lists, item by item. -/
  | list {role item : Role} (hrole : role.item? = some item) {vs vs' : List Json}
      (hlength : vs.length = vs'.length)
      (hvalues : ∀ (i : Nat) v v', vs[i]? = some v → vs'[i]? = some v' → Agree item v v') :
      Agree role (.array vs) (.array vs')

end Json

/-! ### Values that are read alike -/

/-- An identifier that may be null. -/
def optionalIdentifier : Json → Option (Option Identifier)
  | .null => some none
  | v => (Identifier.ofJson? v).map some

/-- Two values are read alike in a role. -/
def Role.Alike : Role → Json → Json → Prop
  | .plain, v, w => v = w
  | .node, v, w => Node.ofJson v = Node.ofJson w ∧ optionalNode v = optionalNode w
  | .nodes, v, w =>
    v = w ∨ ∃ vs ws, v = .array vs ∧ w = .array ws ∧ vs.map Node.ofJson = ws.map Node.ofJson ∧
      vs.map optionalNode = ws.map optionalNode
  | .location, v, w =>
    Location.ofJson v = Location.ofJson w ∧ Location.ofNullable v = Location.ofNullable w
  | .position, v, w => Position.ofJson v = Position.ofJson w
  | .identifier, v, w =>
    Identifier.ofJson? v = Identifier.ofJson? w ∧ optionalIdentifier v = optionalIdentifier w
  | .classBody, v, w => classBodyOf v = classBodyOf w
  | .declarator, v, w => declaratorOf v = declaratorOf w
  | .declarators, v, w => declaratorsOfArray v = declaratorsOfArray w

lemma Role.Alike.refl (role : Role) (v : Json) : role.Alike v v := by
  cases role with
  | nodes => exact .inl rfl
  | node => exact ⟨rfl, rfl⟩
  | location => exact ⟨rfl, rfl⟩
  | identifier => exact ⟨rfl, rfl⟩
  | _ => rfl

/-- A field is read alike in two records: it is missing in both of them, or its values are read
alike. -/
def FieldAlike (f : String × Role) (ms ms' : List (String × Json)) : Prop :=
  Option.Rel f.2.Alike (Json.lookup f.1 ms) (Json.lookup f.1 ms')

section Options

variable {α β : Type} {R : α → α → Prop} {x y : Option α}

/-- Related means: there are two values or none, and two values are related. -/
lemma rel_iff_isSome_eq :
    Option.Rel R x y ↔ x.isSome = y.isSome ∧ ∀ a b, x = some a → y = some b → R a b := by
  constructor
  · rintro (h | _)
    · refine ⟨rfl, ?_⟩
      rintro _ _ ⟨⟩ ⟨⟩
      exact h
    · exact ⟨rfl, nofun⟩
  · rintro ⟨hpresent, hvalues⟩
    cases x with
    | none =>
      obtain rfl : y = none := by simpa using hpresent.symm
      exact .none
    | some a =>
      obtain ⟨b, rfl⟩ : ∃ b, y = some b := Option.isSome_iff_exists.1 hpresent.symm
      exact .some (hvalues a b rfl rfl)

/-- A function of an optional value takes related values to the same result if it does so for values
that are there. -/
lemma eq_of_rel (h : Option.Rel R x y) (f : Option α → β)
    (hf : ∀ a b, R a b → f (some a) = f (some b)) : f x = f y := by
  cases h with
  | none => rfl
  | some h => exact hf _ _ h

end Options

/-- Lists whose items are read alike are read alike. -/
lemma map_congr_of_getElem? {β : Type} {vs ws : List Json} {f : Json → β}
    (hlength : vs.length = ws.length)
    (h : ∀ (i : Nat) v w, vs[i]? = some v → ws[i]? = some w → f v = f w) : vs.map f = ws.map f := by
  refine List.ext_getElem (by simpa using hlength) fun i hi hi' => ?_
  rw [List.getElem_map, List.getElem_map]
  exact h i _ _ (List.getElem?_eq_getElem _) (List.getElem?_eq_getElem _)

/-! ### Fields of records -/

section Fields

variable {key : String} {ms ms' : List (String × Json)}

lemma lookup_congr (h : FieldAlike (key, .plain) ms ms') :
    Json.lookup key ms = Json.lookup key ms' :=
  eq_of_rel h id fun _ _ hv => congrArg some hv

lemma flagAt_congr (h : FieldAlike (key, .plain) ms ms') : flagAt key ms = flagAt key ms' := by
  rw [flagAt, flagAt, lookup_congr h]

lemma Location.ofMembers_congr (h : FieldAlike ("loc", .location) ms ms') :
    Location.ofMembers ms = Location.ofMembers ms' := by
  have helim (ms : List (String × Json)) :
      Location.ofMembers ms = (Json.lookup "loc" ms).elim (.ok none) Location.ofNullable := by
    unfold Location.ofMembers
    cases Json.lookup "loc" ms <;> rfl
  rw [helim, helim]
  exact eq_of_rel h (Option.elim · (.ok none) Location.ofNullable) fun _ _ hv => hv.2

lemma locationAt_congr (h : FieldAlike ("loc", .location) ms ms') :
    locationAt ms = locationAt ms' := by
  rw [locationAt, locationAt, Location.ofMembers_congr h]

lemma keptLocation_congr (h : FieldAlike ("loc", .location) ms ms') :
    keptLocation ms = keptLocation ms' := by
  unfold keptLocation
  exact eq_of_rel h (Option.bind · fun v => (Location.ofJson v).toOption) fun _ _ hv =>
    congrArg Except.toOption hv.1

lemma identifierAt_congr (h : FieldAlike (key, .identifier) ms ms') :
    identifierAt key ms = identifierAt key ms' := by
  unfold identifierAt
  exact eq_of_rel h (Option.bind · Identifier.ofJson?) fun _ _ hv => hv.1

lemma optionalIdentifierAt_congr (h : FieldAlike (key, .identifier) ms ms') :
    optionalIdentifierAt key ms = optionalIdentifierAt key ms' := by
  have helim (ms : List (String × Json)) :
      optionalIdentifierAt key ms = (Json.lookup key ms).elim (some none) optionalIdentifier := by
    unfold optionalIdentifierAt
    cases Json.lookup key ms with
    | none => rfl
    | some v => cases v <;> rfl
  rw [helim, helim]
  exact eq_of_rel h (Option.elim · (some none) optionalIdentifier) fun _ _ hv => hv.2

lemma nodeAt_congr (h : FieldAlike (key, .node) ms ms') : nodeAt key ms = nodeAt key ms' := by
  rw [nodeAt_eq_lookup, nodeAt_eq_lookup]
  exact eq_of_rel h (Option.map Node.ofJson) fun _ _ hv => congrArg some hv.1

lemma optionalNodeAt_congr (h : FieldAlike (key, .node) ms ms') :
    optionalNodeAt key ms = optionalNodeAt key ms' := by
  rw [optionalNodeAt_eq_lookup, optionalNodeAt_eq_lookup]
  exact eq_of_rel h (fun x => some (x.bind optionalNode)) fun _ _ hv => congrArg some hv.2

lemma nodesOfArray_congr {v w : Json} (h : Role.nodes.Alike v w) :
    nodesOfArray v = nodesOfArray w := by
  rcases h with rfl | ⟨vs, ws, rfl, rfl, hnodes, -⟩
  · rfl
  · rw [nodesOfArray, nodesOfArray, nodesOfItems_eq_map, nodesOfItems_eq_map, hnodes]

lemma nodesAt_congr (h : FieldAlike (key, .nodes) ms ms') : nodesAt key ms = nodesAt key ms' := by
  rw [nodesAt_eq_lookup, nodesAt_eq_lookup]
  exact eq_of_rel h (fun x => x.elim (some []) nodesOfArray) fun _ _ hv => nodesOfArray_congr hv

lemma elementsAt_congr (h : FieldAlike (key, .nodes) ms ms') :
    elementsAt key ms = elementsAt key ms' := by
  rw [elementsAt_eq_lookup, elementsAt_eq_lookup]
  refine eq_of_rel h (fun x => x.elim (some []) elementsOfArray) fun v w hv => ?_
  rcases hv with rfl | ⟨vs, ws, rfl, rfl, -, helements⟩
  · rfl
  · simp only [Option.elim_some]
    rw [elementsOfArray, elementsOfArray, elementsOfItems_eq_map, elementsOfItems_eq_map, helements]

lemma classBodyAt_congr (h : FieldAlike (key, .classBody) ms ms') :
    classBodyAt key ms = classBodyAt key ms' := by
  rw [classBodyAt_eq_lookup, classBodyAt_eq_lookup]
  exact eq_of_rel h (fun x => x.bind classBodyOf) fun _ _ hv => hv

lemma declaratorsAt_congr (h : FieldAlike (key, .declarators) ms ms') :
    declaratorsAt key ms = declaratorsAt key ms' := by
  rw [declaratorsAt_eq_lookup, declaratorsAt_eq_lookup]
  exact eq_of_rel h (fun x => x.elim (some []) declaratorsOfArray) fun _ _ hv => hv

/-- A node of a kind is decoded alike if its named fields are read alike. -/
lemma Node.ofKind?_congr {kind : NodeKind} (hloc : FieldAlike ("loc", .location) ms ms')
    (h : ∀ f ∈ kind.fields, FieldAlike f ms ms') :
    Node.ofKind? kind ms = Node.ofKind? kind ms' := by
  have hloc := locationAt_congr hloc
  cases kind <;> simp only [NodeKind.fields, List.forall_mem_cons] at h
  case program => simp only [ofKind?, hloc, nodesAt_congr h.1]
  case function =>
    obtain ⟨hid, hparams, hbody, -⟩ := h
    simp only [ofKind?, hloc, optionalIdentifierAt_congr hid, nodesAt_congr hparams,
      nodeAt_congr hbody]
  case classDef =>
    obtain ⟨hid, hbody, -⟩ := h
    simp only [ofKind?, hloc, optionalIdentifierAt_congr hid, classBodyAt_congr hbody]
  case classProperty =>
    obtain ⟨hkey, hvalue, -⟩ := h
    simp only [ofKind?, hloc, nodeAt_congr hkey, optionalNodeAt_congr hvalue]
  case methodDefinition =>
    obtain ⟨hkey, hvalue, -⟩ := h
    simp only [ofKind?, hloc, nodeAt_congr hkey, nodeAt_congr hvalue]
  case exportDeclaration =>
    obtain ⟨hdeclaration, hdefault, -⟩ := h
    simp only [ofKind?, hloc, optionalNodeAt_congr hdeclaration, flagAt_congr hdefault]
  case expressionStatement => simp only [ofKind?, hloc, nodeAt_congr h.1]
  case call =>
    obtain ⟨hcallee, harguments, -⟩ := h
    simp only [ofKind?, hloc, nodeAt_congr hcallee, nodesAt_congr harguments]
  case assignment =>
    obtain ⟨hleft, hright, -⟩ := h
    simp only [ofKind?, hloc, nodeAt_congr hleft, nodeAt_congr hright]
  case member =>
    obtain ⟨hobject, hproperty, hcomputed, -⟩ := h
    simp only [ofKind?, hloc, nodeAt_congr hobject, nodeAt_congr hproperty, flagAt_congr hcomputed]
  case objectExpression => simp only [ofKind?, hloc, nodesAt_congr h.1]
  case property =>
    obtain ⟨hkey, hvalue, hshorthand, -⟩ := h
    simp only [ofKind?, hloc, nodeAt_congr hkey, nodeAt_congr hvalue, flagAt_congr hshorthand]
  case identifier => simp only [ofKind?, hloc, lookup_congr h.1]
  case objectPattern => simp only [ofKind?, hloc, nodesAt_congr h.1]
  case arrayPattern => simp only [ofKind?, hloc, elementsAt_congr h.1]
  case assignmentPattern => simp only [ofKind?, hloc, nodeAt_congr h.1]
  case restElement => simp only [ofKind?, hloc, nodeAt_congr h.1]
  case variableDeclaration =>
    obtain ⟨hkind, hdeclarations, -⟩ := h
    simp only [ofKind?, hloc, lookup_congr hkind, declaratorsAt_congr hdeclarations]
  case typeAlias => simp only [ofKind?, hloc, identifierAt_congr h.1]
  case literal => simp only [ofKind?, hloc, lookup_congr h.1]
  case block => simp only [ofKind?, hloc, nodesAt_congr h.1]

/-- A node is decoded alike if its type is the same and its named fields are read alike. -/
lemma Node.ofJson_object_congr (htype : Json.lookup "type" ms = Json.lookup "type" ms')
    (h : ∀ f ∈ nodeFields ms, FieldAlike f ms ms') :
    Node.ofJson (.object ms) = Node.ofJson (.object ms') := by
  have htype : typeName? ms = typeName? ms' := by rw [typeName?, typeName?, htype]
  have hloc : FieldAlike ("loc", .location) ms ms' := h _ List.mem_cons_self
  rw [ofJson_object, ofJson_object, ← htype]
  cases hname : typeName? ms with
  | none => rfl
  | some type =>
    simp only
    cases hkind : NodeKind.ofName? type with
    | none => rw [Option.bind_none, Option.bind_none, keptLocation_congr hloc]
    | some kind =>
      have hfields : ∀ f ∈ kind.fields, FieldAlike f ms ms' := by
        intro f hf
        refine h f (List.mem_cons_of_mem _ ?_)
        rw [hname, Option.bind_some, hkind]
        exact hf
      rw [Option.bind_some, Option.bind_some, ofKind?_congr hloc hfields, keptLocation_congr hloc]

end Fields

/-! ### Records of two fields -/

section Pairs

open Json (decodePair present pairOfItems)

variable {α β : Type} {first second : String} {expected : Json.Expectation}
  {decode : Json → Except Json.Mismatch α}
  {make : α → α → β}

lemma present_congr {key : String} {ms ms' : List (String × Json)}
    (h : Option.Rel (fun v w => decode v = decode w) (Json.lookup key ms) (Json.lookup key ms')) :
    present key decode ms = present key decode ms' := by
  have helim (ms : List (String × Json)) :
      present key decode ms = (Json.lookup key ms).elim (.ok none) fun v =>
        (decode v).map some := by
    unfold present
    cases Json.lookup key ms <;> rfl
  rw [helim, helim]
  exact eq_of_rel h (Option.elim · (.ok none) fun v => (decode v).map some) fun _ _ hv =>
    congrArg (Except.map some) hv

/-- Objects with two fields that are read alike. -/
lemma decodePair_object_congr {ms ms' : List (String × Json)}
    (hfirst : Option.Rel (fun v w => decode v = decode w) (Json.lookup first ms)
      (Json.lookup first ms'))
    (hsecond : Option.Rel (fun v w => decode v = decode w) (Json.lookup second ms)
      (Json.lookup second ms')) :
    decodePair first second expected decode make (.object ms) =
      decodePair first second expected decode make (.object ms') := by
  simp only [decodePair, present_congr hfirst, present_congr hsecond]

lemma pairOfItems_congr {vs ws : List Json} (h : vs.map decode = ws.map decode) :
    pairOfItems expected decode vs = pairOfItems expected decode ws := by
  match vs, ws with
  | [], [] => rfl
  | [v], [w] =>
    obtain ⟨hv, -⟩ := List.cons.inj h
    simp only [pairOfItems, hv]
  | [v, v'], [w, w'] =>
    obtain ⟨hv, h⟩ := List.cons.inj h
    obtain ⟨hv', -⟩ := List.cons.inj h
    simp only [pairOfItems, hv, hv']
  | v :: v' :: x :: rest, w :: w' :: y :: rest' =>
    have hlength : rest.length = rest'.length := by simpa using congrArg List.length h
    obtain ⟨hv, h⟩ := List.cons.inj h
    obtain ⟨hv', -⟩ := List.cons.inj h
    simp only [pairOfItems, hv, hv', List.length_cons, hlength]
  | [], _ :: _ => simp at h
  | _ :: _, [] => simp at h
  | [_], _ :: _ :: _ => simp at h
  | _ :: _ :: _, [_] => simp at h
  | [_, _], _ :: _ :: _ :: _ => simp at h
  | _ :: _ :: _ :: _, [_, _] => simp at h

/-- Arrays of two items that are read alike. -/
lemma decodePair_array_congr {vs ws : List Json} (h : vs.map decode = ws.map decode) :
    decodePair first second expected decode make (.array vs) =
      decodePair first second expected decode make (.array ws) := by
  simp only [decodePair, pairOfItems_congr h]

end Pairs

/-! ### Agreeing values are read alike -/

namespace Role

/-- Records whose fields are read alike are read alike. -/
lemma alike_object {role : Role} {fields : List (String × Role)}
    (hrole : role.fields? = some fields) {ms ms' : List (String × Json)}
    (h : ∀ f ∈ fields, FieldAlike f ms ms') : role.Alike (.object ms) (.object ms') := by
  cases role <;> simp only [fields?, Option.some.injEq, reduceCtorEq] at hrole <;> subst hrole <;>
    simp only [List.forall_mem_cons] at h
  case location =>
    have hdecode : Location.ofJson (.object ms) = Location.ofJson (.object ms') :=
      decodePair_object_congr h.1 h.2.1
    exact ⟨hdecode, congrArg (Except.map some) hdecode⟩
  case position =>
    have hline : Json.lookup "line" ms = Json.lookup "line" ms' := lookup_congr h.1
    have hcolumn : Json.lookup "column" ms = Json.lookup "column" ms' := lookup_congr h.2.1
    show Position.ofJson (.object ms) = Position.ofJson (.object ms')
    simp only [Position.ofJson, Json.decodePair, Json.present, hline, hcolumn]
  case identifier =>
    have hdecode : Identifier.ofJson? (.object ms) = Identifier.ofJson? (.object ms') := by
      simp only [Identifier.ofJson?, locationAt_congr h.1, lookup_congr h.2.1]
    exact ⟨hdecode, congrArg (Option.map some) hdecode⟩
  case classBody => exact nodesAt_congr h.1
  case declarator =>
    obtain ⟨hloc, hid, hinit, -⟩ := h
    show declaratorOf (.object ms) = declaratorOf (.object ms')
    simp only [declaratorOf, locationAt_congr hloc, nodeAt_congr hid, optionalNodeAt_congr hinit]

/-- Records that are written as arrays are read alike if their items are. -/
lemma alike_tuple {role : Role} {fields : List (String × Role)} (hrole : role.fields? = some fields)
    {vs ws : List Json} (hlength : vs.length = ws.length)
    (h : ∀ (i : Nat) v w, vs[i]? = some v → ws[i]? = some w → (atIndex fields i).Alike v w) :
    role.Alike (.array vs) (.array ws) := by
  cases role <;> simp only [fields?, Option.some.injEq, reduceCtorEq] at hrole <;> subst hrole
  case location =>
    have hitems : vs.map Position.ofJson = ws.map Position.ofJson := by
      refine map_congr_of_getElem? hlength fun i v w hv hw => ?_
      match i with
      | 0 => exact h 0 v w hv hw
      | 1 => exact h 1 v w hv hw
      | i + 2 =>
        -- there is no field in this place, so the items are the same
        exact congrArg _ (h (i + 2) v w hv hw)
    have hdecode : Location.ofJson (.array vs) = Location.ofJson (.array ws) :=
      decodePair_array_congr hitems
    exact ⟨hdecode, congrArg (Except.map some) hdecode⟩
  case position =>
    have hitems : vs.map coordinate = ws.map coordinate := by
      refine map_congr_of_getElem? hlength fun i v w hv hw => ?_
      match i with
      | 0 => exact congrArg _ (h 0 v w hv hw)
      | 1 => exact congrArg _ (h 1 v w hv hw)
      | i + 2 => exact congrArg _ (h (i + 2) v w hv hw)
    show Position.ofJson (.array vs) = Position.ofJson (.array ws)
    exact decodePair_array_congr hitems
  case identifier =>
    have hdecode : Identifier.ofJson? (.array vs) = Identifier.ofJson? (.array ws) := by
      match vs, ws, hlength with
      | [], [], _ => rfl
      | [_], [_], _ => rfl
      | [loc, name], [loc', name'], _ =>
        have hloc : Location.ofNullable loc = Location.ofNullable loc' := (h 0 loc loc' rfl rfl).2
        obtain rfl : name = name' := h 1 name name' rfl rfl
        simp only [Identifier.ofJson?, locationItem, hloc]
      | _ :: _ :: _ :: _, _ :: _ :: _ :: _, _ => rfl
    exact ⟨hdecode, congrArg (Option.map some) hdecode⟩
  case classBody =>
    match vs, ws, hlength with
    | [], [], _ => exact rfl
    | [body], [body'], _ => exact nodesOfArray_congr (h 0 body body' rfl rfl)
    | _ :: _ :: _, _ :: _ :: _, _ => exact rfl
  case declarator =>
    match vs, ws, hlength with
    | [], [], _ => exact rfl
    | [_], [_], _ => exact rfl
    | [_, _], [_, _], _ => exact rfl
    | [loc, id, init], [loc', id', init'], _ =>
      have hloc : Location.ofNullable loc = Location.ofNullable loc' := (h 0 loc loc' rfl rfl).2
      have hid : Node.ofJson id = Node.ofJson id' := (h 1 id id' rfl rfl).1
      have hinit : unlessNull init (Node.ofJson init) = unlessNull init' (Node.ofJson init') :=
        (h 2 init init' rfl rfl).2
      show declaratorOf (.array [loc, id, init]) = declaratorOf (.array [loc', id', init'])
      simp only [declaratorOf, locationItem, hloc, hid, hinit]
    | _ :: _ :: _ :: _ :: _, _ :: _ :: _ :: _ :: _, _ => exact rfl

lemma declaratorsOfItems_congr {vs ws : List Json} (h : vs.map declaratorOf = ws.map declaratorOf) :
    declaratorsOfItems vs = declaratorsOfItems ws := by
  induction vs generalizing ws with
  | nil =>
    obtain rfl : ws = [] := by simpa using h
    rfl
  | cons v vs ih =>
    cases ws with
    | nil => simp at h
    | cons w ws =>
      obtain ⟨hv, hvs⟩ := List.cons.inj h
      rw [declaratorsOfItems, declaratorsOfItems, hv, ih hvs]

/-- Lists are read alike if their items are. -/
lemma alike_list {role item : Role} (hrole : role.item? = some item) {vs ws : List Json}
    (hlength : vs.length = ws.length)
    (h : ∀ (i : Nat) v w, vs[i]? = some v → ws[i]? = some w → item.Alike v w) :
    role.Alike (.array vs) (.array ws) := by
  cases role <;> simp only [item?, Option.some.injEq, reduceCtorEq] at hrole <;> subst hrole
  case nodes =>
    have hnodes := map_congr_of_getElem? hlength fun i v w hv hw => (h i v w hv hw).1
    have helements := map_congr_of_getElem? hlength fun i v w hv hw => (h i v w hv hw).2
    exact .inr ⟨vs, ws, rfl, rfl, hnodes, helements⟩
  case declarators => exact declaratorsOfItems_congr (map_congr_of_getElem? hlength h)

end Role

/-- Values that agree are read alike, since a role only looks at named fields. -/
lemma Json.Agree.alike {role : Role} {v w : Json} (h : v.Agree role w) : role.Alike v w := by
  induction h with
  | refl role v => exact .refl role v
  | node htype hpresent _ ih =>
    have hnode :=
      Node.ofJson_object_congr htype fun f hf => rel_iff_isSome_eq.2 ⟨hpresent f hf, ih f hf⟩
    exact ⟨hnode, congrArg some hnode⟩
  | record hrole hpresent _ ih =>
    exact Role.alike_object hrole fun f hf => rel_iff_isSome_eq.2 ⟨hpresent f hf, ih f hf⟩
  | tuple hrole hlength _ ih => exact Role.alike_tuple hrole hlength ih
  | list hrole hlength _ ih => exact Role.alike_list hrole hlength ih

/-! ### Programs and outlines -/

lemma Program.bodyOfMembers_congr {ms ms' : List (String × Json)}
    (h : FieldAlike ("body", .nodes) ms ms') :
    Program.bodyOfMembers ms = Program.bodyOfMembers ms' := by
  have helim (ms : List (String × Json)) :
      Program.bodyOfMembers ms =
        (Json.lookup "body" ms).elim (.ok []) fun v => Program.bodyOfMembers [("body", v)] := by
    unfold Program.bodyOfMembers
    cases Json.lookup "body" ms <;> rfl
  rw [helim, helim]
  refine eq_of_rel h (Option.elim · (.ok []) fun v => Program.bodyOfMembers [("body", v)])
    fun v w hv => ?_
  rcases hv with rfl | ⟨vs, ws, rfl, rfl, hnodes, -⟩
  · rfl
  · show Except.ok (nodesOfItems vs) = Except.ok (nodesOfItems ws)
    rw [nodesOfItems_eq_map, nodesOfItems_eq_map, hnodes]

/-- A root is the same program, or has the same fault. -/
lemma Json.Agree.program_eq {v v' : Json} (h : v.Agree .node v') :
    Program.ofJson v = Program.ofJson v' := by
  cases h with
  | refl => rfl
  | @node ms ms' htype hpresent hvalues =>
    have hfields : ∀ f ∈ nodeFields ms, FieldAlike f ms ms' := fun f hf =>
      rel_iff_isSome_eq.2 ⟨hpresent f hf, fun v v' hv hv' => (hvalues f hf v v' hv hv').alike⟩
    have htypes : typeName? ms' = typeName? ms := by rw [typeName?, typeName?, htype]
    rw [Program.ofJson, Program.ofJson, htypes]
    cases hname : typeName? ms with
    | none => rfl
    | some type =>
      by_cases hprogram : type = NodeKind.program.name
      · have hbody : FieldAlike ("body", .nodes) ms ms' := by
          refine hfields _ (List.mem_cons_of_mem _ ?_)
          rw [hname, hprogram]
          exact List.mem_cons_self
        have hloc : FieldAlike ("loc", .location) ms ms' := hfields _ List.mem_cons_self
        simp only [if_pos hprogram, Program.ofMembers, Program.bodyOfMembers_congr hbody,
          Location.ofMembers_congr hloc]
      · simp only [if_neg hprogram]
  | record hrole => cases hrole
  | tuple hrole => cases hrole
  | list hrole => cases hrole

/-- **Unnamed fields are invisible.**  Two values that agree as nodes are the same node.  As roots
they are the same program or have the same fault, so texts of them have the same outline or the same
error under all options. -/
theorem unnamed_fields_invisible {v v' : Json} (h : v.Agree .node v') :
    Node.ofJson v = Node.ofJson v' ∧ Program.ofJson v = Program.ofJson v' ∧
    ∀ (o : Options) (text text' : String), Json.parse text = .ok v → Json.parse text' = .ok v' →
      Outline.ofSyntaxTree o text = Outline.ofSyntaxTree o text' := by
  refine ⟨h.alike.1, h.program_eq, fun o text text' htext htext' => ?_⟩
  have hprogram : Program.ofText text = Program.ofText text' := by
    rw [Program.ofText, Program.ofText, htext, htext']
    exact congrArg (Except.mapError OutlineError.program) h.program_eq
  rw [Outline.ofSyntaxTree, Outline.ofSyntaxTree, hprogram]

lemma Json.Agree.node_of_rel {ms ms' : List (String × Json)}
    (htype : lookup "type" ms = lookup "type" ms')
    (h : ∀ f ∈ nodeFields ms, Option.Rel (Agree f.2) (lookup f.1 ms) (lookup f.1 ms')) :
    Agree .node (.object ms) (.object ms') :=
  .node htype (fun f hf => (rel_iff_isSome_eq.1 (h f hf)).1) fun f hf =>
    (rel_iff_isSome_eq.1 (h f hf)).2

lemma Json.Agree.record_of_rel {role : Role} {fields : List (String × Role)}
    (hrole : role.fields? = some fields) {ms ms' : List (String × Json)}
    (h : ∀ f ∈ fields, Option.Rel (Agree f.2) (lookup f.1 ms) (lookup f.1 ms')) :
    Agree role (.object ms) (.object ms') :=
  .record hrole (fun f hf => (rel_iff_isSome_eq.1 (h f hf)).1) fun f hf =>
    (rel_iff_isSome_eq.1 (h f hf)).2

/-- A root with a type alias that has unnamed members at the root, in the alias, in its location and
in its name.  The two values do not share any of them, and some have keys that are named in other
nodes. -/
theorem alias_with_other_members_same_outline :
    let place (more : List (String × Json)) : Json :=
      .object (("start", .array [.nat 1, .nat 0]) :: ("end", .array [.nat 1, .nat 9]) :: more)
    let statement (inLocation inName more : List (String × Json)) : Json :=
      .object (("type", .string "TypeAlias") :: ("loc", place inLocation) ::
        ("id", .object (("name", .string "T") :: inName)) :: more)
    let v : Json := .object [("type", .string "Program"),
      ("body", .array [statement [("source", .null)] [] [("right", .nat 0)]])]
    let v' : Json := .object [("params", .nat 0), ("type", .string "Program"),
      ("body",
        .array [statement [] [("type", .nat 1)] [("kind", .string "const"), ("value", .array [])]])]
    v.Agree .node v' ∧
      Node.ofJson v = .program none [.typeAlias false (some ⟨⟨1, 0⟩, ⟨1, 9⟩⟩) ⟨none, "T"⟩] ∧
      Node.ofJson v = Node.ofJson v' ∧
      ∀ o, Outline.ofSyntaxTree o (v.print .compact) =
        Outline.ofSyntaxTree o (v'.print .compact) := by
  intro place statement v v'
  have hplace : (place [("source", .null)]).Agree .location (place []) :=
    .record_of_rel rfl
      (List.forall_mem_cons.2 ⟨.some (.refl _ _), List.forall_mem_singleton.2 (.some (.refl _ _))⟩)
  have hname : (Json.object [("name", .string "T")]).Agree .identifier
      (.object [("name", .string "T"), ("type", .nat 1)]) :=
    .record_of_rel rfl
      (List.forall_mem_cons.2 ⟨.none, List.forall_mem_singleton.2 (.some (.refl _ _))⟩)
  have hstatement : (statement [("source", .null)] [] [("right", .nat 0)]).Agree .node
      (statement [] [("type", .nat 1)] [("kind", .string "const"), ("value", .array [])]) :=
    .node_of_rel rfl
      (List.forall_mem_cons.2 ⟨.some hplace, List.forall_mem_singleton.2 (.some hname)⟩)
  have hbody : (Json.array [statement [("source", .null)] [] [("right", .nat 0)]]).Agree .nodes
      (.array
        [statement [] [("type", .nat 1)] [("kind", .string "const"), ("value", .array [])]]) := by
    refine .list rfl rfl fun i w w' hw hw' => ?_
    cases i with
    | zero =>
      cases hw
      cases hw'
      exact hstatement
    | succ i => cases hw
  have h : v.Agree .node v' :=
    .node_of_rel rfl (List.forall_mem_cons.2 ⟨.none, List.forall_mem_singleton.2 (.some hbody)⟩)
  -- both values can be printed and read again
  have hnat (n : Nat) (hn : n < 10) : Json.Exact (.nat n) := .nat (Nat.lt_trans hn (by decide))
  have hpair (n : Nat) (hn : n < 10) : Json.Exact (.array [.nat 1, .nat n]) :=
    .array (by simp [hnat, hn])
  have hexact : Json.Exact v := by
    have hplace : Json.Exact (place [("source", .null)]) :=
      .object rfl (by simp [hpair, Json.Exact.null])
    have hname : Json.Exact (.object [("name", .string "T")]) :=
      .object rfl (by simp [Json.Exact.string])
    have hstatement : Json.Exact (statement [("source", .null)] [] [("right", .nat 0)]) :=
      .object rfl (by simp [hplace, hname, hnat, Json.Exact.string])
    exact .object rfl (by simp [Json.Exact.array, hstatement, Json.Exact.string])
  have hexact' : Json.Exact v' := by
    have hplace : Json.Exact (place []) := .object rfl (by simp [hpair])
    have hname : Json.Exact (.object [("name", .string "T"), ("type", .nat 1)]) :=
      .object rfl (by simp [hnat, Json.Exact.string])
    have hstatement :
        Json.Exact
          (statement [] [("type", .nat 1)] [("kind", .string "const"), ("value", .array [])]) :=
      .object rfl (by simp [hplace, hname, Json.Exact.string, Json.Exact.array])
    exact .object rfl (by simp [Json.Exact.array, hstatement, hnat, Json.Exact.string])
  obtain ⟨hnode, -, houtline⟩ := unnamed_fields_invisible h
  exact ⟨h, rfl, hnode, fun o => houtline o _ _ (Json.parse_print hexact)
    (Json.parse_print hexact')⟩

end CodeOutline
