/-
Damage stays within one node.

Decoding a node is lenient: whatever stands where a node is expected, it is decoded as some node, so
it cannot harm the node around it.  This file makes that exact for any depth.  A `Slot` is a place
in a node that holds a node; it can be found in the JSON value that the node comes from
(`Slot.path`) and in the node itself (`Node.adjust`).  A path of slots leads from a value to a value
inside it, through values that all decode as what they are (`NodePath`).

Replacing the value at the end of such a path and then decoding is the same as decoding first and
then replacing the node there: all nodes around it and beside it are as before
(`decoding_contains_damage`).
-/
import CodeOutline.Proofs.Decoding

namespace CodeOutline

/-! ### Values inside a JSON value -/

namespace Json

/-- A step into a JSON value: to a member of an object, or to an item of an array. -/
inductive Step where
  | key (name : String)
  | index (i : Nat)
deriving DecidableEq, Repr

/-- Changes the value of the first member with the given key. -/
def updateMember (key : String) (f : Json → Json) : List (String × Json) → List (String × Json)
  | [] => []
  | (k, v) :: rest => if k = key then (k, f v) :: rest else (k, v) :: updateMember key f rest

/-- The value at the end of a path, if the path leads anywhere. -/
def get? : List Step → Json → Option Json
  | [], v => some v
  | .key name :: rest, .object members => (lookup name members).bind (get? rest)
  | .index i :: rest, .array items => items[i]?.bind (get? rest)
  | _, _ => none

/-- Changes the value at the end of a path, if the path leads anywhere. -/
def update : List Step → (Json → Json) → Json → Json
  | [], f, v => f v
  | .key name :: rest, f, .object members => .object (updateMember name (update rest f) members)
  | .index i :: rest, f, .array items => .array (items.modify i (update rest f))
  | _, _, v => v

@[simp] lemma update_nil (f : Json → Json) : update [] f = f := rfl

@[simp] lemma get?_key (name : String) (members : List (String × Json)) :
    get? [.key name] (.object members) = lookup name members := by
  simp only [get?, Option.bind_fun_some]

@[simp] lemma get?_index (i : Nat) (items : List Json) :
    get? [.index i] (.array items) = items[i]? := by
  simp only [get?, Option.bind_fun_some]

lemma lookup_updateMember (k key : String) (f : Json → Json) (members : List (String × Json)) :
    lookup k (updateMember key f members) =
      if k = key then (lookup k members).map f else lookup k members := by
  induction members with
  | nil => simp [updateMember, lookup]
  | cons m rest ih =>
    obtain ⟨k', v⟩ := m
    simp only [updateMember]
    split
    · next hkey =>
      subst hkey
      by_cases hk : k' = k
      · subst hk
        simp [lookup]
      · simp only [lookup, if_neg hk, if_neg (Ne.symm hk)]
    · next hkey =>
      simp only [lookup, ih]
      split
      · next hk => rw [if_neg fun h => hkey (hk.trans h)]
      · rfl

/-- The changed member has the changed value. -/
lemma lookup_updateMember_self {key : String} {f : Json → Json}
    {members : List (String × Json)} {v : Json} (h : lookup key members = some v) :
    lookup key (updateMember key f members) = some (f v) := by
  rw [lookup_updateMember, if_pos rfl, h, Option.map_some]

/-- The other members are as before. -/
@[simp] lemma lookup_updateMember_ne {k key : String} (h : k ≠ key) (f : Json → Json)
    (members : List (String × Json)) :
    lookup k (updateMember key f members) = lookup k members := by
  rw [lookup_updateMember, if_neg h]

lemma get?_append (p q : List Step) (v : Json) : get? (p ++ q) v = (get? p v).bind (get? q) := by
  induction p generalizing v with
  | nil => rfl
  | cons step p ih =>
    cases step with
    | key name =>
      cases v with
      | object members =>
        simp only [List.cons_append, get?, Option.bind_assoc]
        congr
        funext u
        exact ih u
      | _ => rfl
    | index i =>
      cases v with
      | array items =>
        simp only [List.cons_append, get?, Option.bind_assoc]
        congr
        funext u
        exact ih u
      | _ => rfl

/-- A change at the end of a long path is a change of the value half way. -/
lemma update_append (p q : List Step) (f : Json → Json) (v : Json) :
    update (p ++ q) f v = update p (update q f) v := by
  induction p generalizing v with
  | nil => rfl
  | cons step p ih =>
    have hfun : update (p ++ q) f = update p (update q f) := funext ih
    cases step with
    | key name => cases v <;> simp only [List.cons_append, update, hfun]
    | index i => cases v <;> simp only [List.cons_append, update, hfun]

/-- Half way to the change there is the value that was there, with the change inside it. -/
lemma get?_update_append (p q : List Step) (f : Json → Json) (v : Json) :
    get? p (update (p ++ q) f v) = (get? p v).map (update q f) := by
  rw [update_append]
  induction p generalizing v with
  | nil => rfl
  | cons step p ih =>
    cases step with
    | key name =>
      cases v with
      | object members =>
        simp only [update, get?, lookup_updateMember, if_true]
        cases lookup name members with
        | none => rfl
        | some u => exact ih u
      | _ => rfl
    | index i =>
      cases v with
      | array items =>
        simp only [update, get?, List.getElem?_modify_eq]
        cases items[i]? with
        | none => rfl
        | some u => exact ih u
      | _ => rfl

end Json

/-! ### Places that hold nodes -/

/-- How a class body or a declarator is written: as an object or as an array of its fields. -/
inductive RecordForm where
  | object
  | array
deriving DecidableEq, Repr

namespace RecordForm

/-- The way from a class body to one of its members. -/
def memberPath : RecordForm → Nat → List Json.Step
  | .object, i => [.key "body", .index i]
  | .array, i => [.index 0, .index i]

/-- The way from a declarator to what it binds. -/
def idPath : RecordForm → List Json.Step
  | .object => [.key "id"]
  | .array => [.index 1]

/-- The way from a declarator to its initial value. -/
def initPath : RecordForm → List Json.Step
  | .object => [.key "init"]
  | .array => [.index 2]

end RecordForm

/-- A place in a node that holds a node. -/
inductive Slot where
  /-- A statement of a program or a block. -/
  | statement (i : Nat)
  | param (i : Nat)
  | functionBody
  | classMember (written : RecordForm) (i : Nat)
  | key
  /-- The value of a method or of a property of an object. -/
  | value
  /-- The value of a class property, which may be missing. -/
  | initializer
  | declaration
  | expression
  | callee
  | argument (i : Nat)
  | left
  | right
  | object
  | property
  /-- A member of an object or of an object pattern. -/
  | objectMember (i : Nat)
  | element (i : Nat)
  | restArgument
  | declaratorId (written : RecordForm) (i : Nat)
  | declaratorInit (written : RecordForm) (i : Nat)
deriving DecidableEq, Repr

namespace Slot

/-- The way from a value to the value in a slot of its node. -/
def path : Slot → List Json.Step
  | .statement i => [.key "body", .index i]
  | .param i => [.key "params", .index i]
  | .functionBody => [.key "body"]
  | .classMember written i => .key "body" :: written.memberPath i
  | .key => [.key "key"]
  | .value => [.key "value"]
  | .initializer => [.key "value"]
  | .declaration => [.key "declaration"]
  | .expression => [.key "expression"]
  | .callee => [.key "callee"]
  | .argument i => [.key "arguments", .index i]
  | .left => [.key "left"]
  | .right => [.key "right"]
  | .object => [.key "object"]
  | .property => [.key "property"]
  | .objectMember i => [.key "properties", .index i]
  | .element i => [.key "elements", .index i]
  | .restArgument => [.key "argument"]
  | .declaratorId written i => .key "declarations" :: .index i :: written.idPath
  | .declaratorInit written i => .key "declarations" :: .index i :: written.initPath

/-- Whether a slot may be empty. -/
def mayBeEmpty : Slot → Bool
  | .initializer => true
  | .declaration => true
  | .element _ => true
  | .declaratorInit _ _ => true
  | _ => false

/-- What a value puts into a slot: nothing if it is null and the slot may be empty, and its node
otherwise. -/
def decode (s : Slot) (v : Json) : Option Node :=
  if s.mayBeEmpty then optionalNode v else some (Node.ofJson v)

end Slot

/-- The slots that a node of a kind has. -/
inductive NodeKind.Holds : NodeKind → Slot → Prop where
  | programStatement (i : Nat) : Holds .program (.statement i)
  | blockStatement (i : Nat) : Holds .block (.statement i)
  | param (form : FunctionForm) (i : Nat) : Holds (.function form) (.param i)
  | functionBody (form : FunctionForm) : Holds (.function form) .functionBody
  | classMember (form : ClassForm) (written : RecordForm) (i : Nat) :
      Holds (.classDef form) (.classMember written i)
  | classPropertyKey : Holds .classProperty .key
  | classPropertyValue : Holds .classProperty .initializer
  | methodKey : Holds .methodDefinition .key
  | methodValue : Holds .methodDefinition .value
  | declaration (form : ExportForm) : Holds (.exportDeclaration form) .declaration
  | expression : Holds .expressionStatement .expression
  | callee : Holds .call .callee
  | argument (i : Nat) : Holds .call (.argument i)
  | assignmentLeft : Holds .assignment .left
  | assignmentRight : Holds .assignment .right
  | memberObject : Holds .member .object
  | memberProperty : Holds .member .property
  | objectMember (i : Nat) : Holds .objectExpression (.objectMember i)
  | propertyKey : Holds .property .key
  | propertyValue : Holds .property .value
  | patternMember (i : Nat) : Holds .objectPattern (.objectMember i)
  | patternElement (i : Nat) : Holds .arrayPattern (.element i)
  | patternLeft : Holds .assignmentPattern .left
  | restArgument : Holds .restElement .restArgument
  | declaratorId (written : RecordForm) (i : Nat) :
      Holds .variableDeclaration (.declaratorId written i)
  | declaratorInit (written : RecordForm) (i : Nat) :
      Holds .variableDeclaration (.declaratorInit written i)

namespace Node

/-- Changes a node in a slot that cannot be empty: if it is to be left with nothing, it stays. -/
def refill (g : Option Node → Option Node) (n : Node) : Node := (g (some n)).getD n

/-- Changes what is in a slot of a node.  Everything else in the node stays. -/
def adjust (s : Slot) (g : Option Node → Option Node) (n : Node) : Node :=
  match s, n with
  | .statement i, .program loc body => .program loc (body.modify i (refill g))
  | .statement i, .block loc body => .block loc (body.modify i (refill g))
  | .param i, .function form loc id params body =>
    .function form loc id (params.modify i (refill g)) body
  | .functionBody, .function form loc id params body => .function form loc id params (refill g body)
  | .classMember _ i, .classDef form loc id members =>
    .classDef form loc id (members.modify i (refill g))
  | .key, .classProperty loc key value => .classProperty loc (refill g key) value
  | .initializer, .classProperty loc key value => .classProperty loc key (g value)
  | .key, .methodDefinition loc key value => .methodDefinition loc (refill g key) value
  | .value, .methodDefinition loc key value => .methodDefinition loc key (refill g value)
  | .declaration, .exportDeclaration form loc declaration flag =>
    .exportDeclaration form loc (g declaration) flag
  | .expression, .expressionStatement loc expression =>
    .expressionStatement loc (refill g expression)
  | .callee, .call loc callee arguments => .call loc (refill g callee) arguments
  | .argument i, .call loc callee arguments => .call loc callee (arguments.modify i (refill g))
  | .left, .assignment loc left right => .assignment loc (refill g left) right
  | .right, .assignment loc left right => .assignment loc left (refill g right)
  | .object, .member loc owner part computed => .member loc (refill g owner) part computed
  | .property, .member loc owner part computed => .member loc owner (refill g part) computed
  | .objectMember i, .objectExpression loc properties =>
    .objectExpression loc (properties.modify i (refill g))
  | .key, .property loc key value shorthand => .property loc (refill g key) value shorthand
  | .value, .property loc key value shorthand => .property loc key (refill g value) shorthand
  | .objectMember i, .objectPattern loc properties =>
    .objectPattern loc (properties.modify i (refill g))
  | .element i, .arrayPattern loc elements => .arrayPattern loc (elements.modify i g)
  | .left, .assignmentPattern loc left => .assignmentPattern loc (refill g left)
  | .restArgument, .restElement loc argument => .restElement loc (refill g argument)
  | .declaratorId _ i, .variableDeclaration loc kind declarators =>
    .variableDeclaration loc kind (declarators.modify i fun d => { d with id := refill g d.id })
  | .declaratorInit _ i, .variableDeclaration loc kind declarators =>
    .variableDeclaration loc kind (declarators.modify i fun d => { d with init := g d.init })
  | _, n => n

/-- Changing what is in a slot does not change the kind of the node. -/
lemma kind?_adjust (s : Slot) (g : Option Node → Option Node) (n : Node) :
    (n.adjust s g).kind? = n.kind? := by
  unfold adjust
  split <;> rfl

/-- Replaces what is at the end of a path of slots. -/
def graft : List Slot → Option Node → Node → Node
  | [], c, n => c.getD n
  | [s], c, n => n.adjust s fun _ => c
  | s :: path, c, n => n.adjust s (Option.map (graft path c))

end Node

/-! ### Fields of a changed value -/

section Fields

open Json (Step lookup updateMember lookup_updateMember_ne lookup_updateMember_self)

variable {key k : String} {f : Json → Json} {members : List (String × Json)}

@[simp] lemma typeName?_updateMember (h : "type" ≠ key) :
    typeName? (updateMember key f members) = typeName? members := by
  rw [typeName?, typeName?, lookup_updateMember_ne h]

@[simp] lemma locationAt_updateMember (h : "loc" ≠ key) :
    locationAt (updateMember key f members) = locationAt members := by
  rw [locationAt, locationAt, Location.ofMembers, Location.ofMembers, lookup_updateMember_ne h]

@[simp] lemma flagAt_updateMember (h : k ≠ key) :
    flagAt k (updateMember key f members) = flagAt k members := by
  rw [flagAt, flagAt, lookup_updateMember_ne h]

@[simp] lemma optionalIdentifierAt_updateMember (h : k ≠ key) :
    optionalIdentifierAt k (updateMember key f members) = optionalIdentifierAt k members := by
  rw [optionalIdentifierAt, optionalIdentifierAt, lookup_updateMember_ne h]

@[simp] lemma nodeAt_updateMember (h : k ≠ key) :
    nodeAt k (updateMember key f members) = nodeAt k members := by
  rw [nodeAt_eq_lookup, nodeAt_eq_lookup, lookup_updateMember_ne h]

@[simp] lemma optionalNodeAt_updateMember (h : k ≠ key) :
    optionalNodeAt k (updateMember key f members) = optionalNodeAt k members := by
  rw [optionalNodeAt_eq_lookup, optionalNodeAt_eq_lookup, lookup_updateMember_ne h]

@[simp] lemma nodesAt_updateMember (h : k ≠ key) :
    nodesAt k (updateMember key f members) = nodesAt k members := by
  rw [nodesAt_eq_lookup, nodesAt_eq_lookup, lookup_updateMember_ne h]

/-- Mapping a list after a change of one item is changing that item of the mapped list. -/
lemma map_modify_of_getElem? {α β : Type} {F : α → β} {f : α → α} {g : β → β} {l : List α}
    {i : Nat} {a : α} (ha : l[i]? = some a) (hfg : g (F a) = F (f a)) :
    (l.modify i f).map F = (l.map F).modify i g := by
  refine List.ext_getElem? fun j => ?_
  rw [List.getElem?_map, List.getElem?_modify, List.getElem?_modify, List.getElem?_map]
  by_cases hij : i = j
  · subst hij
    simp [ha, hfg]
  · simp [hij]

variable {g : Option Node → Option Node} {u : Json} {i : Nat}

lemma refill_ofJson (hg : g (some (Node.ofJson u)) = some (Node.ofJson (f u))) :
    Node.refill g (Node.ofJson u) = Node.ofJson (f u) := by
  rw [Node.refill, hg, Option.getD_some]

lemma nodeAt_updateMember_self (hu : (Json.object members).get? [.key key] = some u)
    (hg : g (some (Node.ofJson u)) = some (Node.ofJson (f u))) {n : Node}
    (hn : nodeAt key members = some n) :
    nodeAt key (updateMember key f members) = some (Node.refill g n) := by
  rw [Json.get?_key] at hu
  rw [nodeAt_eq_lookup, hu, Option.map_some, Option.some.injEq] at hn
  subst hn
  rw [nodeAt_eq_lookup, lookup_updateMember_self hu, Option.map_some, refill_ofJson hg]

lemma optionalNodeAt_updateMember_self (hu : (Json.object members).get? [.key key] = some u)
    (hg : g (optionalNode u) = optionalNode (f u)) {c : Option Node}
    (hc : optionalNodeAt key members = some c) :
    optionalNodeAt key (updateMember key f members) = some (g c) := by
  rw [Json.get?_key] at hu
  rw [optionalNodeAt_eq_lookup, hu, Option.bind_some, Option.some.injEq] at hc
  subst hc
  rw [optionalNodeAt_eq_lookup, lookup_updateMember_self hu, Option.bind_some, hg]

lemma nodesOfArray_update {v : Json} (hu : Json.get? [.index i] v = some u)
    (hg : g (some (Node.ofJson u)) = some (Node.ofJson (f u))) {ns : List Node}
    (hns : nodesOfArray v = some ns) :
    nodesOfArray (Json.update [.index i] f v) = some (ns.modify i (Node.refill g)) := by
  cases v with
  | array items =>
    rw [Json.get?_index] at hu
    simp only [nodesOfArray, nodesOfItems_eq_map, Option.some.injEq] at hns
    subst hns
    simp only [Json.update, nodesOfArray, nodesOfItems_eq_map, Option.some.injEq]
    exact map_modify_of_getElem? (f := f) hu (refill_ofJson hg)
  | _ => simp [nodesOfArray] at hns

lemma nodesAt_updateMember_self (hu : (Json.object members).get? [.key key, .index i] = some u)
    (hg : g (some (Node.ofJson u)) = some (Node.ofJson (f u))) {ns : List Node}
    (hns : nodesAt key members = some ns) :
    nodesAt key (updateMember key (Json.update [.index i] f) members) =
      some (ns.modify i (Node.refill g)) := by
  obtain ⟨v, hv, hu⟩ := Option.bind_eq_some_iff.1 hu
  rw [nodesAt_eq_lookup, hv] at hns
  rw [nodesAt_eq_lookup, lookup_updateMember_self hv]
  exact nodesOfArray_update hu hg hns

lemma elementsAt_updateMember_self (hu : (Json.object members).get? [.key key, .index i] = some u)
    (hg : g (optionalNode u) = optionalNode (f u)) {es : List (Option Node)}
    (hes : elementsAt key members = some es) :
    elementsAt key (updateMember key (Json.update [.index i] f) members) =
      some (es.modify i g) := by
  obtain ⟨v, hv, hu⟩ := Option.bind_eq_some_iff.1 hu
  rw [elementsAt_eq_lookup, hv] at hes
  rw [elementsAt_eq_lookup, lookup_updateMember_self hv]
  cases v with
  | array items =>
    rw [Json.get?_index] at hu
    simp only [Option.elim_some, elementsOfArray, elementsOfItems_eq_map, Option.some.injEq] at hes
    subst hes
    simp only [Json.update, Option.elim_some, elementsOfArray, elementsOfItems_eq_map,
      Option.some.injEq]
    exact map_modify_of_getElem? (f := f) hu hg
  | _ => simp [elementsOfArray] at hes

lemma classBodyOf_update {written : RecordForm} {v : Json}
    (hu : v.get? (written.memberPath i) = some u)
    (hg : g (some (Node.ofJson u)) = some (Node.ofJson (f u))) {ns : List Node}
    (hns : classBodyOf v = some ns) :
    classBodyOf (v.update (written.memberPath i) f) = some (ns.modify i (Node.refill g)) := by
  cases v with
  | object fields =>
    cases written with
    | object => exact nodesAt_updateMember_self hu hg hns
    | array => simp [RecordForm.memberPath, Json.get?] at hu
  | array items =>
    cases written with
    | object => simp [RecordForm.memberPath, Json.get?] at hu
    | array =>
      match items, hns with
      | [], _ => simp [RecordForm.memberPath, Json.get?] at hu
      | [body], hns => exact nodesOfArray_update hu hg hns
  | _ => simp [classBodyOf] at hns

lemma declaratorsOfItems_modify {F : Json → Json} {G : Declarator Node → Declarator Node} {v : Json}
    (hFG : ∀ d, declaratorOf v = some d → declaratorOf (F v) = some (G d)) :
    ∀ {items : List Json} {i : Nat} {ds : List (Declarator Node)}, items[i]? = some v →
      declaratorsOfItems items = some ds →
        declaratorsOfItems (items.modify i F) = some (ds.modify i G) := by
  intro items
  induction items with
  | nil =>
    intro i ds hv
    simp at hv
  | cons item items ih =>
    intro i ds hv hds
    simp only [declaratorsOfItems, Option.bind_eq_bind, Option.bind_eq_some_iff, Option.pure_def,
      Option.some.injEq] at hds
    obtain ⟨d, hd, ds, hds, rfl⟩ := hds
    cases i with
    | zero =>
      obtain rfl : item = v := by simpa using hv
      simp [declaratorsOfItems, hFG d hd, hds]
    | succ i =>
      have hrest := ih (by simpa using hv) hds
      simp [declaratorsOfItems, hd, hrest]

lemma declaratorOf_object_eq_some {fields : List (String × Json)} {d : Declarator Node}
    (h : declaratorOf (.object fields) = some d) :
    locationAt fields = some d.loc ∧ nodeAt "id" fields = some d.id ∧
      optionalNodeAt "init" fields = some d.init := by
  simp only [declaratorOf, Option.bind_eq_bind, Option.bind_eq_some_iff, Option.pure_def,
    Option.some.injEq] at h
  obtain ⟨loc, hloc, id, hid, init, hinit, rfl⟩ := h
  exact ⟨hloc, hid, hinit⟩

lemma declaratorOf_array_eq_some {items : List Json} {d : Declarator Node}
    (h : declaratorOf (.array items) = some d) :
    ∃ loc id init, items = [loc, id, init] ∧ locationItem loc = some d.loc ∧ d.id = Node.ofJson id ∧
      d.init = optionalNode init := by
  match items, h with
  | [loc, id, init], h =>
    simp only [declaratorOf, Option.bind_eq_bind, Option.bind_eq_some_iff, Option.pure_def,
      Option.some.injEq] at h
    obtain ⟨l, hl, rfl⟩ := h
    exact ⟨loc, id, init, rfl, hl, rfl, rfl⟩

lemma declaratorOf_updateId {written : RecordForm} {v : Json} (hu : v.get? written.idPath = some u)
    (hg : g (some (Node.ofJson u)) = some (Node.ofJson (f u))) {d : Declarator Node}
    (hd : declaratorOf v = some d) :
    declaratorOf (v.update written.idPath f) = some { d with id := Node.refill g d.id } := by
  cases v with
  | object fields =>
    cases written with
    | object =>
      obtain ⟨hloc, hid, hinit⟩ := declaratorOf_object_eq_some hd
      have hid' := nodeAt_updateMember_self hu hg hid
      simp [RecordForm.idPath, Json.update, declaratorOf, hloc, hid', hinit]
    | array => simp [RecordForm.idPath, Json.get?] at hu
  | array items =>
    cases written with
    | object => simp [RecordForm.idPath, Json.get?] at hu
    | array =>
      obtain ⟨loc, id, init, rfl, hloc, hid, hinit⟩ := declaratorOf_array_eq_some hd
      obtain rfl : id = u := by simpa [RecordForm.idPath] using hu
      simp [RecordForm.idPath, Json.update, declaratorOf, hloc, hid, hinit,
        refill_ofJson hg, optionalNode]
  | _ => simp [declaratorOf] at hd

lemma declaratorOf_updateInit {written : RecordForm} {v : Json}
    (hu : v.get? written.initPath = some u) (hg : g (optionalNode u) = optionalNode (f u))
    {d : Declarator Node} (hd : declaratorOf v = some d) :
    declaratorOf (v.update written.initPath f) = some { d with init := g d.init } := by
  cases v with
  | object fields =>
    cases written with
    | object =>
      obtain ⟨hloc, hid, hinit⟩ := declaratorOf_object_eq_some hd
      have hinit' := optionalNodeAt_updateMember_self hu hg hinit
      simp [RecordForm.initPath, Json.update, declaratorOf, hloc, hid, hinit']
    | array => simp [RecordForm.initPath, Json.get?] at hu
  | array items =>
    cases written with
    | object => simp [RecordForm.initPath, Json.get?] at hu
    | array =>
      obtain ⟨loc, id, init, rfl, hloc, hid, hinit⟩ := declaratorOf_array_eq_some hd
      obtain rfl : init = u := by simpa [RecordForm.initPath] using hu
      have hinit' : unlessNull (f init) (Node.ofJson (f init)) = g d.init := by
        rw [hinit, hg, optionalNode]
      simp [RecordForm.initPath, Json.update, declaratorOf, hloc, hid, hinit']
  | _ => simp [declaratorOf] at hd

lemma classBodyAt_updateMember_self {written : RecordForm}
    (hu : (Json.object members).get? (.key key :: written.memberPath i) = some u)
    (hg : g (some (Node.ofJson u)) = some (Node.ofJson (f u))) {ns : List Node}
    (hns : classBodyAt key members = some ns) :
    classBodyAt key (updateMember key (Json.update (written.memberPath i) f) members) =
      some (ns.modify i (Node.refill g)) := by
  obtain ⟨v, hv, hu⟩ := Option.bind_eq_some_iff.1 hu
  rw [classBodyAt_eq_lookup, hv] at hns
  rw [classBodyAt_eq_lookup, lookup_updateMember_self hv]
  exact classBodyOf_update hu hg hns

lemma declaratorsAt_updateMember_self {path : List Step} {G : Declarator Node → Declarator Node}
    (hu : (Json.object members).get? (.key key :: .index i :: path) = some u)
    (hG : ∀ v d, v.get? path = some u → declaratorOf v = some d →
      declaratorOf (v.update path f) = some (G d))
    {ds : List (Declarator Node)} (hds : declaratorsAt key members = some ds) :
    declaratorsAt key (updateMember key (Json.update (.index i :: path) f) members) =
      some (ds.modify i G) := by
  obtain ⟨v, hv, hu⟩ := Option.bind_eq_some_iff.1 hu
  rw [declaratorsAt_eq_lookup, hv] at hds
  rw [declaratorsAt_eq_lookup, lookup_updateMember_self hv]
  cases v with
  | array items =>
    obtain ⟨item, hitem, hu⟩ := Option.bind_eq_some_iff.1 hu
    exact declaratorsOfItems_modify (fun d hd => hG item d hu hd) hitem hds
  | _ => simp [declaratorsOfArray] at hds

end Fields

/-! ### One slot -/

/-- A change in a slot of a value is a change in the slot of its node.  The fields beside the slot
are read from other keys, so they are as before. -/
lemma ofKind?_update {kind : NodeKind} {s : Slot} (hs : kind.Holds s)
    {members : List (String × Json)} {n : Node} (hn : Node.ofKind? kind members = some n) {u : Json}
    (hu : (Json.object members).get? s.path = some u) {f : Json → Json}
    {g : Option Node → Option Node} (hg : g (s.decode u) = s.decode (f u)) :
    ∃ members', (Json.object members).update s.path f = .object members' ∧
      typeName? members' = typeName? members ∧
        Node.ofKind? kind members' = some (n.adjust s g) := by
  cases hs <;>
    simp only [Node.ofKind?, Option.bind_eq_bind, Option.bind_eq_some_iff, Option.pure_def,
      Option.some.injEq] at hn <;>
    refine ⟨_, rfl, typeName?_updateMember (by decide), ?_⟩
  case programStatement i =>
    obtain ⟨loc, hloc, body, hbody, rfl⟩ := hn
    simp [Node.ofKind?, Node.adjust, hloc, nodesAt_updateMember_self hu hg hbody]
  case blockStatement i =>
    obtain ⟨loc, hloc, body, hbody, rfl⟩ := hn
    simp [Node.ofKind?, Node.adjust, hloc, nodesAt_updateMember_self hu hg hbody]
  case param form i =>
    obtain ⟨loc, hloc, id, hid, params, hparams, body, hbody, rfl⟩ := hn
    simp [Node.ofKind?, Node.adjust, hloc, hid, hbody, nodesAt_updateMember_self hu hg hparams]
  case functionBody form =>
    obtain ⟨loc, hloc, id, hid, params, hparams, body, hbody, rfl⟩ := hn
    simp [Node.ofKind?, Node.adjust, hloc, hid, hparams, nodeAt_updateMember_self hu hg hbody]
  case classMember form written i =>
    obtain ⟨loc, hloc, id, hid, ns, hns, rfl⟩ := hn
    simp [Node.ofKind?, Node.adjust, hloc, hid, classBodyAt_updateMember_self hu hg hns]
  case classPropertyKey =>
    obtain ⟨loc, hloc, key, hkey, value, hvalue, rfl⟩ := hn
    simp [Node.ofKind?, Node.adjust, hloc, hvalue, nodeAt_updateMember_self hu hg hkey]
  case classPropertyValue =>
    obtain ⟨loc, hloc, key, hkey, value, hvalue, rfl⟩ := hn
    simp [Node.ofKind?, Node.adjust, hloc, hkey, optionalNodeAt_updateMember_self hu hg hvalue]
  case methodKey =>
    obtain ⟨loc, hloc, key, hkey, value, hvalue, rfl⟩ := hn
    simp [Node.ofKind?, Node.adjust, hloc, hvalue, nodeAt_updateMember_self hu hg hkey]
  case methodValue =>
    obtain ⟨loc, hloc, key, hkey, value, hvalue, rfl⟩ := hn
    simp [Node.ofKind?, Node.adjust, hloc, hkey, nodeAt_updateMember_self hu hg hvalue]
  case declaration form =>
    obtain ⟨loc, hloc, declaration, hdeclaration, flag, hflag, rfl⟩ := hn
    simp [Node.ofKind?, Node.adjust, hloc, hflag,
      optionalNodeAt_updateMember_self hu hg hdeclaration]
  case expression =>
    obtain ⟨loc, hloc, expression, hexpression, rfl⟩ := hn
    simp [Node.ofKind?, Node.adjust, hloc, nodeAt_updateMember_self hu hg hexpression]
  case callee =>
    obtain ⟨loc, hloc, callee, hcallee, arguments, harguments, rfl⟩ := hn
    simp [Node.ofKind?, Node.adjust, hloc, harguments, nodeAt_updateMember_self hu hg hcallee]
  case argument i =>
    obtain ⟨loc, hloc, callee, hcallee, arguments, harguments, rfl⟩ := hn
    simp [Node.ofKind?, Node.adjust, hloc, hcallee, nodesAt_updateMember_self hu hg harguments]
  case assignmentLeft =>
    obtain ⟨loc, hloc, left, hleft, right, hright, rfl⟩ := hn
    simp [Node.ofKind?, Node.adjust, hloc, hright, nodeAt_updateMember_self hu hg hleft]
  case assignmentRight =>
    obtain ⟨loc, hloc, left, hleft, right, hright, rfl⟩ := hn
    simp [Node.ofKind?, Node.adjust, hloc, hleft, nodeAt_updateMember_self hu hg hright]
  case memberObject =>
    obtain ⟨loc, hloc, owner, howner, part, hpart, flag, hflag, rfl⟩ := hn
    simp [Node.ofKind?, Node.adjust, hloc, hpart, hflag, nodeAt_updateMember_self hu hg howner]
  case memberProperty =>
    obtain ⟨loc, hloc, owner, howner, part, hpart, flag, hflag, rfl⟩ := hn
    simp [Node.ofKind?, Node.adjust, hloc, howner, hflag, nodeAt_updateMember_self hu hg hpart]
  case objectMember i =>
    obtain ⟨loc, hloc, properties, hproperties, rfl⟩ := hn
    simp [Node.ofKind?, Node.adjust, hloc, nodesAt_updateMember_self hu hg hproperties]
  case propertyKey =>
    obtain ⟨loc, hloc, key, hkey, value, hvalue, flag, hflag, rfl⟩ := hn
    simp [Node.ofKind?, Node.adjust, hloc, hvalue, hflag, nodeAt_updateMember_self hu hg hkey]
  case propertyValue =>
    obtain ⟨loc, hloc, key, hkey, value, hvalue, flag, hflag, rfl⟩ := hn
    simp [Node.ofKind?, Node.adjust, hloc, hkey, hflag, nodeAt_updateMember_self hu hg hvalue]
  case patternMember i =>
    obtain ⟨loc, hloc, properties, hproperties, rfl⟩ := hn
    simp [Node.ofKind?, Node.adjust, hloc, nodesAt_updateMember_self hu hg hproperties]
  case patternElement i =>
    obtain ⟨loc, hloc, elements, helements, rfl⟩ := hn
    simp [Node.ofKind?, Node.adjust, hloc, elementsAt_updateMember_self hu hg helements]
  case patternLeft =>
    obtain ⟨loc, hloc, left, hleft, rfl⟩ := hn
    simp [Node.ofKind?, Node.adjust, hloc, nodeAt_updateMember_self hu hg hleft]
  case restArgument =>
    obtain ⟨loc, hloc, argument, hargument, rfl⟩ := hn
    simp [Node.ofKind?, Node.adjust, hloc, nodeAt_updateMember_self hu hg hargument]
  case declaratorId written i =>
    obtain ⟨loc, hloc, word, hword, kind, hkind, ds, hds, rfl⟩ := hn
    have hds' :=
      declaratorsAt_updateMember_self hu (fun v d hv hd => declaratorOf_updateId hv hg hd) hds
    simp [Node.ofKind?, Node.adjust, hloc, hword, hkind, hds']
  case declaratorInit written i =>
    obtain ⟨loc, hloc, word, hword, kind, hkind, ds, hds, rfl⟩ := hn
    have hds' :=
      declaratorsAt_updateMember_self hu (fun v d hv hd => declaratorOf_updateInit hv hg hd) hds
    simp [Node.ofKind?, Node.adjust, hloc, hword, hkind, hds']

/-- A change in a slot of a value that decodes as what it is only changes the node in that slot. -/
lemma ofJson_update {v u : Json} {kind : NodeKind} {s : Slot}
    (hkind : (Node.ofJson v).kind? = some kind) (hslot : kind.Holds s) (hu : v.get? s.path = some u)
    {f : Json → Json} {g : Option Node → Option Node} (hg : g (s.decode u) = s.decode (f u)) :
    Node.ofJson (v.update s.path f) = (Node.ofJson v).adjust s g := by
  obtain ⟨members, type, rfl, htype, hname, hn⟩ := Node.ofKind?_of_kind?_ofJson hkind
  obtain ⟨members', hupdate, htype', hn'⟩ := ofKind?_update hslot hn hu hg
  rw [hupdate]
  exact Node.ofJson_of_ofKind? (htype'.trans htype) hname hn'

/-! ### Paths of slots -/

/-- A path of slots that leads from a value through values that all decode as what they are. -/
inductive NodePath : Json → List Slot → Prop where
  | here (v : Json) : NodePath v []
  | step {v u : Json} {kind : NodeKind} {s : Slot} {path : List Slot}
      (hkind : (Node.ofJson v).kind? = some kind) (hslot : kind.Holds s)
      (hu : v.get? s.path = some u) (hrest : NodePath u path) : NodePath v (s :: path)

/-- Replaces the value at the end of a path of slots. -/
def Json.replace (v : Json) (path : List Slot) (w : Json) : Json :=
  v.update (path.flatMap Slot.path) fun _ => w

/-- What a value puts at the end of a path of slots. -/
def decodeAt (path : List Slot) (w : Json) : Option Node :=
  match path.getLast? with
  | none => some (Node.ofJson w)
  | some s => s.decode w

/-- An object is not null, so it always puts its node into a slot. -/
lemma Slot.decode_object (s : Slot) (members : List (String × Json)) :
    s.decode (.object members) = some (Node.ofJson (.object members)) := by
  unfold Slot.decode
  split <;> rfl

lemma Slot.path_eq_key_cons (s : Slot) : ∃ key rest, s.path = .key key :: rest := by
  cases s <;> exact ⟨_, _, rfl⟩

lemma Json.replace_cons (v : Json) (s : Slot) (path : List Slot) (w : Json) :
    v.replace (s :: path) w = v.update s.path fun u => u.replace path w := by
  rw [Json.replace, List.flatMap_cons, Json.update_append]
  rfl

/-- At the beginning of a path that is not empty there is an object, before and after a
replacement. -/
lemma NodePath.object_of_cons {v : Json} {s : Slot} {path : List Slot}
    (h : NodePath v (s :: path)) (w : Json) :
    (∃ members, v = .object members) ∧ ∃ members, v.replace (s :: path) w = .object members := by
  cases h with
  | step hkind _ _ _ =>
    obtain ⟨members, -, rfl, -⟩ := Node.ofKind?_of_kind?_ofJson hkind
    obtain ⟨key, rest, hpath⟩ := s.path_eq_key_cons
    refine ⟨⟨members, rfl⟩, ?_⟩
    rw [Json.replace_cons, hpath]
    exact ⟨_, rfl⟩

/-- Replacing a value and then decoding is decoding and then replacing the node. -/
lemma NodePath.ofJson_replace {v : Json} {path : List Slot} (h : NodePath v path) (w : Json) :
    Node.ofJson (v.replace path w) = (Node.ofJson v).graft path (decodeAt path w) := by
  induction h with
  | here v => rfl
  | @step v u kind s path hkind hslot hu hrest ih =>
    rw [Json.replace_cons]
    cases path with
    | nil => exact ofJson_update hkind hslot hu rfl
    | cons t path =>
      obtain ⟨⟨members, rfl⟩, members', hreplace⟩ := hrest.object_of_cons w
      -- the value in the slot is an object before and after, so the slot holds a node before and
      -- after
      refine ofJson_update hkind hslot hu ?_
      rw [hreplace, Slot.decode_object, Slot.decode_object, ← hreplace, ih, Option.map_some]
      rfl

/-- The values on the way decode as what they are, and a path goes on from each of them. -/
lemma NodePath.split {before after : List Slot} {v : Json} (h : NodePath v (before ++ after)) :
    ∃ u, v.get? (before.flatMap Slot.path) = some u ∧ NodePath u after := by
  induction before generalizing v with
  | nil => exact ⟨v, rfl, h⟩
  | cons s before ih =>
    cases h with
    | step _ _ hu hrest =>
      obtain ⟨u', hu', hafter⟩ := ih hrest
      refine ⟨u', ?_, hafter⟩
      rw [List.flatMap_cons, Json.get?_append, hu, Option.bind_some, hu']

lemma Node.kind?_graft {path : List Slot} (hne : path ≠ []) (c : Option Node) (n : Node) :
    (n.graft path c).kind? = n.kind? := by
  match path, hne with
  | [s], _ => exact Node.kind?_adjust s _ n
  | s :: t :: path, _ => exact Node.kind?_adjust s _ n

/-- A value that decodes as what it is keeps its kind, whatever is put anywhere below it. -/
lemma NodePath.kind?_replace {v : Json} {path : List Slot} (h : NodePath v path)
    (hne : path ≠ []) (w : Json) :
    (Node.ofJson (v.replace path w)).kind? = (Node.ofJson v).kind? := by
  rw [h.ofJson_replace, Node.kind?_graft hne]

lemma NodePath.kind?_ne_none {v : Json} {path : List Slot} (h : NodePath v path) (hne : path ≠ []) :
    (Node.ofJson v).kind? ≠ none := by
  cases h with
  | here v => exact absurd rfl hne
  | step hkind _ _ _ =>
    rw [hkind]
    exact Option.some_ne_none _

lemma Node.eq_program_of_kind? {n : Node} (h : n.kind? = some .program) :
    ∃ loc body, n = .program loc body := by
  cases n <;> first | exact ⟨_, _, rfl⟩ | simp [Node.kind?] at h

/-- **Damage is contained.**  Whatever value takes the place of a value at the end of a path of
slots, decoding then gives the old node with the node there replaced, and nothing else.  The values
on the way still decode as what they were; and a program that is changed below its root is still a
program, with the one node replaced. -/
theorem decoding_contains_damage {v : Json} {path : List Slot} (h : NodePath v path) (w : Json) :
    Node.ofJson (v.replace path w) = (Node.ofJson v).graft path (decodeAt path w) ∧
    (∀ before after, path = before ++ after → after ≠ [] →
      ∃ u, v.get? (before.flatMap Slot.path) = some u ∧
        (v.replace path w).get? (before.flatMap Slot.path) = some (u.replace after w) ∧
        (Node.ofJson u).kind? ≠ none ∧ (Node.ofJson (u.replace after w)).kind? =
          (Node.ofJson u).kind?) ∧
    (∀ p, path ≠ [] → Program.ofJson v = .ok p →
      ∃ p', Program.ofJson (v.replace path w) = .ok p' ∧
        Node.program p'.loc p'.body = (Node.program p.loc p.body).graft path
          (decodeAt path w)) := by
  refine ⟨h.ofJson_replace w, ?_, ?_⟩
  · rintro before after rfl hne
    obtain ⟨u, hu, hafter⟩ := h.split
    refine ⟨u, hu, ?_, hafter.kind?_ne_none hne, hafter.kind?_replace hne w⟩
    rw [Json.replace, List.flatMap_append, Json.get?_update_append, hu, Option.map_some]
    rfl
  · intro p hne hp
    have hnode : Node.ofJson v = .program p.loc p.body := Program.ofJson_eq_ok_iff.1 hp
    have hkind : (Node.ofJson (v.replace path w)).kind? = some .program := by
      rw [h.kind?_replace hne, hnode, Node.kind?]
    obtain ⟨loc, body, hreplaced⟩ := Node.eq_program_of_kind? hkind
    refine ⟨⟨loc, body⟩, Program.ofJson_eq_ok_iff.2 hreplaced, ?_⟩
    rw [← hnode, ← h.ofJson_replace w, hreplaced]

/-- The program `let [a, b] = c`, where `b` is put out by null and leaves a hole. -/
theorem null_element_leaves_hole :
    let name (s : String) : Json := .object [("type", .string "Identifier"), ("name", .string s)]
    let pattern : Json :=
      .object [("type", .string "ArrayPattern"), ("elements", .array [name "a", name "b"])]
    let declarator : Json := .object [("id", pattern), ("init", name "c")]
    let statement : Json :=
      .object [("type", .string "VariableDeclaration"), ("kind", .string "let"),
      ("declarations", .array [declarator])]
    let program : Json := .object [("type", .string "Program"), ("body", .array [statement])]
    let path : List Slot := [.statement 0, .declaratorId .object 0, .element 1]
    NodePath program path ∧
    Node.ofJson (program.replace path .null) =
      .program none [.variableDeclaration none .letKind
        [⟨none, .arrayPattern none [some (.identifier ⟨none, "a"⟩), none],
          some (.identifier ⟨none, "c"⟩)⟩]] := by
  intro name pattern declarator statement program path
  have hpath : NodePath program path :=
    .step rfl (.programStatement 0) rfl
      (.step rfl (.declaratorId .object 0) rfl (.step rfl (.patternElement 1) rfl (.here _)))
  exact ⟨hpath, (decoding_contains_damage hpath .null).1.trans rfl⟩

end CodeOutline
