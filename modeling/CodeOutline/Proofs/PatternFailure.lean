/-
When an outline fails.

The only failure is a node of an unknown kind where a pattern is expected, and it ends the whole
outline.  So it matters which nodes are looked at as patterns, and in which order.  This file lists
them without running the builder:

* `visited` are the nodes that the walk reaches through class bodies and exports, as deep as it may
go and only through nodes with usable locations;

* `patternsOf` are the patterns that the entry of a visited node shows: parameters, if they are
shown at all, and the bindings of variables;

* `Pattern.leaves` are the nodes at which a pattern ends.

An outline fails exactly if one of these leaves is not an identifier, and the failure names the kind
of the first one in source order (`build_error_iff_first_unexpected`).
-/
import CodeOutline.Proofs.Depth

namespace CodeOutline

/-! ### Leaves of patterns -/

namespace Pattern

mutual

/-- The nodes at which a pattern ends.  Object patterns, array patterns, defaults and rest elements
go on with what they hold; any other node is an end. -/
def leaves : Node → List Node
  | .objectPattern _ properties => memberLeaves properties
  | .arrayPattern _ elements => elementLeaves elements
  | .assignmentPattern _ left => leaves left
  | .restElement _ argument => leaves argument
  | n => [n]

/-- The leaves of the members of an object pattern.  A property stands for its key. -/
def memberLeaves : List Node → List Node
  | [] => []
  | .property _ key _ _ :: rest => leaves key ++ memberLeaves rest
  | n :: rest => leaves n ++ memberLeaves rest

/-- The leaves of the elements of an array pattern, without its holes. -/
def elementLeaves : List (Option Node) → List Node
  | [] => []
  | none :: rest => elementLeaves rest
  | some n :: rest => leaves n ++ elementLeaves rest

end

/-- The first node of a list that is no identifier, as the failure that it causes. -/
def firstUnexpected? (nodes : List Node) : Option UnexpectedPattern :=
  (nodes.find? fun n => n.identifier?.isNone).map fun n => ⟨n.kindName⟩

lemma isNone_identifier?_iff {n : Node} :
    n.identifier?.isNone = true ↔ ∀ id, n ≠ .identifier id := by
  cases n <;> simp [Node.identifier?]

lemma isNone_identifier?_eq_false_iff {n : Node} :
    n.identifier?.isNone = false ↔ ∃ id, n = .identifier id := by
  cases n <;> simp [Node.identifier?]

/-- All nodes before the first one that is no identifier are identifiers. -/
lemma firstUnexpected?_eq_some_iff {nodes : List Node} {e : UnexpectedPattern} :
    firstUnexpected? nodes = some e ↔
      ∃ before n after, nodes = before ++ n :: after ∧ (∀ m ∈ before, ∃ id, m = .identifier id) ∧
        (∀ id, n ≠ .identifier id) ∧ e = ⟨n.kindName⟩ := by
  simp only [firstUnexpected?, Option.map_eq_some_iff, List.find?_eq_some_iff_append,
    Bool.not_eq_true', isNone_identifier?_iff, isNone_identifier?_eq_false_iff]
  constructor
  · rintro ⟨n, ⟨hn, before, after, rfl, hbefore⟩, rfl⟩
    exact ⟨before, n, after, rfl, hbefore, hn, rfl⟩
  · rintro ⟨before, n, after, rfl, hbefore, hn, rfl⟩
    exact ⟨n, ⟨hn, before, after, rfl, hbefore⟩, rfl⟩

lemma firstUnexpected?_eq_none_iff {nodes : List Node} :
    firstUnexpected? nodes = none ↔ ∀ n ∈ nodes, ∃ id, n = .identifier id := by
  simp only [firstUnexpected?, Option.map_eq_none_iff, List.find?_eq_none, Bool.not_eq_true,
    isNone_identifier?_eq_false_iff]

lemma firstUnexpected?_append (ns ms : List Node) :
    firstUnexpected? (ns ++ ms) = (firstUnexpected? ns).or (firstUnexpected? ms) := by
  simp only [firstUnexpected?, List.find?_append]
  cases ns.find? fun n => n.identifier?.isNone <;> rfl

end Pattern

/-- The failure that an outcome is. -/
def failure? {ε α : Type} : Except ε α → Option ε
  | .error e => some e
  | .ok _ => none

/-- A computation fails at the first of some nodes that is no identifier, and succeeds if there is
none. -/
def FailsAt {α : Type} (x : Except UnexpectedPattern α) (nodes : List Node) : Prop :=
  failure? x = Pattern.firstUnexpected? nodes

namespace FailsAt

variable {α β : Type}

lemma ok (a : α) : FailsAt (.ok a) [] := rfl

lemma map {x : Except UnexpectedPattern α} {nodes : List Node} (h : FailsAt x nodes) (f : α → β) :
    FailsAt (x.map f) nodes := by
  rw [FailsAt, ← h]
  cases x <;> rfl

/-- What is computed later only counts if what is computed earlier succeeds. -/
lemma bind {x : Except UnexpectedPattern α} {f : α → Except UnexpectedPattern β} {ns ms : List Node}
    (hx : FailsAt x ns) (hf : ∀ a, FailsAt (f a) ms) : FailsAt (x >>= f) (ns ++ ms) := by
  rw [FailsAt, Pattern.firstUnexpected?_append, ← hx]
  cases x with
  | error e => rfl
  | ok a => exact hf a

/-- A last step that cannot fail does not matter. -/
lemma bind_ok {x : Except UnexpectedPattern α} {nodes : List Node}
    (h : FailsAt x nodes) (f : α → β) : FailsAt (x >>= fun a => pure (f a)) nodes := by
  rw [FailsAt, ← h]
  cases x <;> rfl

/-- The loop of the walk fails in its first round that fails. -/
lemma filterMap {f : α → Run (Option β)} {leaves : α → List Node} {as : List α}
    (h : ∀ a ∈ as, FailsAt (f a).result (leaves a)) :
    FailsAt (Run.filterMap f as).result (as.flatMap leaves) := by
  induction as with
  | nil => exact .ok _
  | cons a as ih =>
    rw [Run.filterMap, Run.result_bind, List.flatMap_cons]
    refine bind (h a (by simp)) fun b => ?_
    rw [Run.result_bind]
    exact (ih fun a' ha' => h a' (by simp [ha'])).bind_ok _

/-- A failure names the first node that is no identifier. -/
lemma eq_error_iff {x : Except UnexpectedPattern α} {nodes : List Node} (h : FailsAt x nodes)
    {e : UnexpectedPattern} :
    x = .error e ↔ ∃ before n after, nodes = before ++ n :: after ∧
      (∀ m ∈ before, ∃ id, m = .identifier id) ∧
      (∀ id, n ≠ .identifier id) ∧ e = ⟨n.kindName⟩ := by
  rw [← Pattern.firstUnexpected?_eq_some_iff, ← h]
  cases x <;> simp [failure?]

/-- There is no failure if all nodes are identifiers. -/
lemma exists_ok_iff {x : Except UnexpectedPattern α} {nodes : List Node} (h : FailsAt x nodes) :
    (∃ a, x = .ok a) ↔ ∀ n ∈ nodes, ∃ id, n = .identifier id := by
  rw [← Pattern.firstUnexpected?_eq_none_iff, ← h]
  cases x <;> simp [failure?]

end FailsAt

namespace Pattern

/-- The label of a pattern fails at its leaves.  The induction follows the three functions that make
the label. -/
lemma failsAt_label_all :
    (∀ n, FailsAt (label n) (leaves n)) ∧
      (∀ elements, FailsAt (elementLabels elements) (elementLeaves elements)) ∧
        ∀ members, FailsAt (memberLabels members) (memberLeaves members) := by
  refine label.mutual_induct _ _ _ ?_ ?_ ?_ ?_ ?_ ?_ ?_ ?_ ?_ ?_ ?_ ?_
  · intro id
    rfl
  · intro loc properties ih
    rw [label, leaves]
    exact ih.bind_ok _
  · intro loc elements ih
    rw [label, leaves]
    exact ih.bind_ok _
  · intro loc left ih
    rw [label, leaves]
    exact ih
  · intro loc argument ih
    rw [label, leaves]
    exact ih.bind_ok _
  · -- any other node is a leaf itself, and it is not an identifier
    intro n hid hobject harray hassignment hrest
    rw [label.eq_6 n hid hobject harray hassignment hrest,
      leaves.eq_5 n hobject harray hassignment hrest]
    have hnone : n.identifier? = none := by
      cases n with
      | identifier id => exact (hid id rfl).elim
      | _ => rfl
    simp [FailsAt, failure?, firstUnexpected?, hnone]
  · exact .ok _
  · intro loc key value shorthand rest ihkey ihrest
    rw [memberLabels, memberLeaves]
    exact ihkey.bind fun l => ihrest.bind_ok _
  · intro n rest hproperty ihn ihrest
    rw [memberLabels.eq_3 n rest hproperty, memberLeaves.eq_3 n rest hproperty]
    exact ihn.bind fun l => ihrest.bind_ok _
  · exact .ok _
  · intro rest ih
    rw [elementLabels, elementLeaves]
    exact ih
  · intro n rest ihn ihrest
    rw [elementLabels, elementLeaves]
    exact ihn.bind fun l => ihrest.bind_ok _

lemma failsAt_labels (patterns : List Node) :
    FailsAt (labels patterns) (patterns.flatMap leaves) := by
  induction patterns with
  | nil => exact .ok _
  | cons n rest ih =>
    rw [labels, List.flatMap_cons]
    exact (failsAt_label_all.1 n).bind fun l => ih.bind_ok _

lemma failsAt_listLabel (patterns : List Node) :
    FailsAt (listLabel patterns) (patterns.flatMap leaves) :=
  (failsAt_labels patterns).bind_ok _

lemma failsAt_paramsLabel (params : List Node) :
    FailsAt (paramsLabel params) (params.flatMap leaves) :=
  (failsAt_listLabel params).bind_ok _

end Pattern

namespace Builder

/-! ### Patterns that are shown -/

/-- The parameters that a label shows. -/
def shownParams (o : Options) (params : List Node) : List Node := if o.showArgs then params else []

/-- The parameters that are shown for a value, which has some if it is a function expression or an
arrow. -/
def shownParamsOf (o : Options) : Node → List Node
  | .function .expression _ _ params _ => shownParams o params
  | .function .arrow _ _ params _ => shownParams o params
  | _ => []

/-- The patterns that the entry of a property of `module.exports` shows. -/
def exportedPatterns (o : Options) : Node → List Node
  | .property loc (.identifier _) value false =>
    if (Extent.ofLocation? loc).isSome then shownParamsOf o value else []
  | _ => []

/-- The pattern that the first declarator of a declaration shows: parameters, if its value is a
function, and what is bound otherwise. -/
def boundPatterns (o : Options) (d : Declarator Node) : List Node :=
  match d.init with
  | some (.function .expression _ _ params _) => shownParams o params
  | some (.function .arrow _ _ params _) => shownParams o params
  | _ => [d.id]

/-- The patterns that the entry of a node shows by itself, in source order. -/
def patternsOf (o : Options) : Node → List Node
  | .function .declaration _ _ params _ => shownParams o params
  | .function .arrow _ _ params _ => shownParams o params
  | .classProperty _ (.identifier _) (some (.function .arrow _ _ params _)) => shownParams o params
  | .methodDefinition _ (.identifier _) value => shownParamsOf o value
  | .variableDeclaration _ _ (d :: _) => boundPatterns o d
  | .expressionStatement _ (.assignment _ left (.objectExpression _ properties)) =>
    if ModuleExports.isTarget left then properties.flatMap (exportedPatterns o) else []
  | _ => []

mutual

/-- The nodes that the walk visits from a node on, in source order.  It goes from classes to their
members and from exports to their declarations, one level deeper each time, and stops at a node that
lies too deep or has no usable location. -/
def visited (o : Options) (depth : UInt64) (node : Node) : List Node :=
  if depth ≤ o.maxDepth ∧ node.extent?.isSome then
    node ::
      match node with
      | .classDef _ _ _ members => visitedAll o (depth + 1) members
      | .exportDeclaration _ _ (some declaration) _ => visited o (depth + 1) declaration
      | _ => []
  else []
termination_by structural node

/-- The nodes that the walk visits from some nodes on. -/
def visitedAll (o : Options) (depth : UInt64) (nodes : List Node) : List Node :=
  match nodes with
  | [] => []
  | n :: ns => visited o depth n ++ visitedAll o depth ns
termination_by structural nodes

end

/-- The leaves of the patterns that the entries of some nodes show by themselves, in source
order. -/
def shownLeaves (o : Options) (nodes : List Node) : List Node :=
  (nodes.flatMap (patternsOf o)).flatMap Pattern.leaves

/-! ### Failures of single entries -/

lemma shownParamsOf_eq (o : Options) (value : Node) :
    shownParamsOf o value = (value.functionValue?.elim [] fun f => shownParams o f.1) := by
  cases value with
  | function form => cases form <;> rfl
  | _ => rfl

lemma shownParams_methodParams (o : Options) (value : Node) :
    shownParams o (methodParams value) = shownParamsOf o value := by
  rw [shownParamsOf_eq, methodParams]
  cases value.functionValue? with
  | none => exact ite_self _
  | some f => rfl

lemma boundPatterns_eq (o : Options) (d : Declarator Node) :
    boundPatterns o d =
      ((d.init.bind Node.functionValue?).elim [d.id] fun f => shownParams o f.1) := by
  obtain ⟨loc, id, init⟩ := d
  cases init with
  | none => rfl
  | some value =>
    cases value with
    | function form => cases form <;> rfl
    | _ => rfl

variable (o : Options)

lemma failsAt_argsLabel (params : List Node) :
    FailsAt (argsLabel o params) ((shownParams o params).flatMap Pattern.leaves) := by
  unfold argsLabel shownParams
  split
  · exact Pattern.failsAt_paramsLabel params
  · exact .ok _

lemma failsAt_functionEntry (name : Option String) (params : List Node) (extent : Extent) :
    FailsAt (functionEntry o name params extent) ((shownParams o params).flatMap Pattern.leaves) :=
  (failsAt_argsLabel o params).bind_ok _

lemma failsAt_methodEntry (name : String) (params : List Node) (extent : Extent) :
    FailsAt (methodEntry o name params extent) ((shownParams o params).flatMap Pattern.leaves) :=
  (failsAt_argsLabel o params).bind_ok _

lemma failsAt_bindingEntry (kind : DeclarationKind) (id : Node) (extent : Extent) :
    FailsAt (bindingEntry o kind id extent) ([id].flatMap Pattern.leaves) :=
  (Pattern.failsAt_listLabel [id]).bind_ok _

lemma failsAt_entryOfProperty? (n : Node) :
    FailsAt (ModuleExports.entryOfProperty? o n)
      ((exportedPatterns o n).flatMap Pattern.leaves) := by
  cases n with
  | property loc key value shorthand =>
    cases key with
    | identifier id =>
      simp only [ModuleExports.entryOfProperty?, Node.name?, Node.identifier?, Option.map_some]
      cases hextent : Extent.ofLocation? loc with
      | none =>
        have hnone : exportedPatterns o (.property loc (.identifier id) value shorthand) = [] := by
          cases shorthand <;> simp [exportedPatterns, hextent]
        rw [hnone]
        exact .ok _
      | some extent =>
        refine FailsAt.map ?_ some
        cases shorthand with
        | true => exact .ok _
        | false =>
          simp only [exportedPatterns, hextent, Option.isSome_some, if_true, shownParamsOf_eq,
            ModuleExports.memberEntry, Bool.false_eq_true, if_false]
          cases value.functionValue? with
          | none => exact .ok _
          | some f => exact failsAt_methodEntry o id.name f.1 extent
    | _ => exact .ok _
  | _ => exact .ok _

lemma failsAt_moduleExports (properties : List Node) (extent : Extent) :
    FailsAt (ModuleExports.entry o properties extent)
      ((properties.flatMap (exportedPatterns o)).flatMap Pattern.leaves) := by
  refine FailsAt.bind_ok ?_ _
  induction properties with
  | nil => exact .ok _
  | cons n rest ih =>
    rw [ModuleExports.propertyEntries, List.flatMap_cons, List.flatMap_append]
    exact (failsAt_entryOfProperty? o n).bind fun e => ih.bind_ok _

/-! ### Failures of the walk -/

/-- The patterns that a rule shows. -/
def Rule.patterns : Rule → List Node
  | .function _ params => shownParams o params
  | .method _ params => shownParams o params
  | .binding _ id => [id]
  | .moduleExports properties => properties.flatMap (exportedPatterns o)
  | _ => []

lemma patternsOf_eq (node : Node) : patternsOf o node = (ruleOf node).patterns o := by
  cases node with
  | function form => cases form <;> rfl
  | classProperty loc key value =>
    cases key with
    | identifier id =>
      cases value with
      | none => rfl
      | some n =>
        cases n with
        | function form => cases form <;> rfl
        | _ => rfl
    | _ => rfl
  | methodDefinition loc key value =>
    cases key with
    | identifier id => exact (shownParams_methodParams o value).symm
    | _ => rfl
  | exportDeclaration form loc declaration flag => cases declaration <;> rfl
  | expressionStatement loc expression =>
    cases expression with
    | call callLoc callee arguments =>
      simp only [patternsOf, ruleOf, expressionRule]
      cases Spec.ofCall? callee arguments <;> rfl
    | assignment assignmentLoc left right =>
      cases right with
      | objectExpression objectLoc properties =>
        simp only [patternsOf, ruleOf, expressionRule, ModuleExports.properties?]
        split <;> rfl
      | _ =>
        simp only [patternsOf, ruleOf, expressionRule, ModuleExports.properties?, ite_self]
        rfl
    | _ => rfl
  | variableDeclaration loc kind declarators =>
    cases declarators with
    | nil => rfl
    | cons d _ =>
      simp only [patternsOf, boundPatterns_eq, ruleOf, declaratorRule]
      cases d.init.bind Node.functionValue? <;> rfl
  | _ => rfl

lemma shownLeaves_cons (n : Node) (ns : List Node) :
    shownLeaves o (n :: ns) = ((ruleOf n).patterns o).flatMap Pattern.leaves ++
      shownLeaves o ns := by
  rw [shownLeaves, List.flatMap_cons, List.flatMap_append, patternsOf_eq, shownLeaves]

lemma shownLeaves_flatMap (ns : List Node) (f : Node → List Node) :
    shownLeaves o (ns.flatMap f) = ns.flatMap fun n => shownLeaves o (f n) := by
  induction ns with
  | nil => rfl
  | cons n ns ih =>
    rw [List.flatMap_cons, List.flatMap_cons, ← ih]
    simp only [shownLeaves, List.flatMap_append]

lemma visitedAll_eq_flatMap (depth : UInt64) (nodes : List Node) :
    visitedAll o depth nodes = nodes.flatMap (visited o depth) := by
  induction nodes with
  | nil => rfl
  | cons n ns ih => rw [visitedAll, ih, List.flatMap_cons]

/-- The walk visits a node, and then what its rule visits. -/
lemma visited_eq (depth : UInt64) (node : Node) :
    visited o depth node =
      if depth ≤ o.maxDepth ∧ node.extent?.isSome then
        node :: (ruleOf node).visits.flatMap (visited o (depth + 1))
      else [] := by
  cases node with
  | classDef form loc id members =>
    rw [visited, visitedAll_eq_flatMap]
    rfl
  | exportDeclaration form loc declaration flag =>
    cases declaration with
    | none => rfl
    | some d =>
      rw [visited]
      simp only [ruleOf, Rule.visits, List.flatMap_cons, List.flatMap_nil, List.append_nil]
  | _ =>
    rw [visits_ruleOf_eq_nil (by simp) (by simp)]
    rfl

/-- Following a rule fails at the patterns that it shows, and then where its visits fail. -/
lemma failsAt_follow {inner : Node → Run (Option Entry)} {leaves : Node → List Node} {rule : Rule}
    (below : List Node → Logged (List Entry)) (extent : Extent)
    (hinner : ∀ n ∈ rule.visits, FailsAt (inner n).result (leaves n)) :
    FailsAt (rule.follow o inner below extent).result
      ((rule.patterns o).flatMap Pattern.leaves ++ rule.visits.flatMap leaves) := by
  cases rule with
  | skip event => cases event <;> exact .ok _
  | function name params =>
    simp only [Rule.visits, Rule.patterns, List.flatMap_nil, List.append_nil]
    exact (failsAt_functionEntry o name params extent).map some
  | method name params =>
    simp only [Rule.visits, Rule.patterns, List.flatMap_nil, List.append_nil]
    exact (failsAt_methodEntry o name params extent).map some
  | binding kind id =>
    simp only [Rule.visits, Rule.patterns, List.flatMap_nil, List.append_nil]
    exact (failsAt_bindingEntry o kind id extent).map some
  | moduleExports properties =>
    simp only [Rule.visits, Rule.patterns, List.flatMap_nil, List.append_nil]
    exact (failsAt_moduleExports o properties extent).map some
  | classDef name members =>
    simp only [Rule.patterns, List.flatMap_nil, List.nil_append, Rule.follow, Run.result_bind]
    exact (FailsAt.filterMap hinner).bind_ok _
  | exported isDefault declaration =>
    simp only [Rule.visits, Rule.patterns, List.flatMap_cons, List.flatMap_nil, List.nil_append,
      List.append_nil, Rule.follow, Run.result_bind]
    exact (hinner declaration (by simp [Rule.visits])).bind_ok _
  | _ => exact .ok _

/-- A visit fails at the leaves of the patterns that the visited nodes show. -/
lemma failsAt_visitOne (depth : UInt64) (node : Node) :
    FailsAt (visitOne o depth node).result (shownLeaves o (visited o depth node)) := by
  induction depth, node using walk_induction with
  | step depth node ih =>
    rw [visitOne_eq, visited_eq]
    by_cases hdepth : o.maxDepth < depth
    · rw [if_pos hdepth, if_neg fun h => UInt64.not_le.2 hdepth h.1]
      exact .ok _
    · rw [if_neg hdepth]
      cases node.extent? with
      | none =>
        rw [if_neg fun h => Bool.false_ne_true h.2]
        exact .ok _
      | some extent =>
        rw [if_pos ⟨UInt64.not_lt.1 hdepth, rfl⟩, shownLeaves_cons, shownLeaves_flatMap]
        exact failsAt_follow o _ extent ih

lemma failsAt_build (p : Program) :
    FailsAt (build o p).result (shownLeaves o (visitedAll o 0 p.body)) := by
  rw [build, Run.result_bind, visitedAll_eq_flatMap, shownLeaves_flatMap]
  refine FailsAt.bind_ok ?_ _
  exact FailsAt.filterMap fun n _ => failsAt_visitOne o 0 n

/-- An outline fails exactly if a leaf of a pattern that it shows is not an identifier, and the
failure names the kind of the first such leaf. -/
theorem build_error_iff_first_unexpected (o : Options) (p : Program) :
    (∀ e, (build o p).result = .error e ↔
      ∃ before n after, shownLeaves o (visitedAll o 0 p.body) = before ++ n :: after ∧
        (∀ m ∈ before, ∃ id, m = .identifier id) ∧ (∀ id, n ≠ .identifier id) ∧ e = ⟨n.kindName⟩) ∧
    ((∃ outline, (build o p).result = .ok outline) ↔
      ∀ n ∈ shownLeaves o (visitedAll o 0 p.body), ∃ id, n = .identifier id) := by
  have hfails : failure? (build o p).result = _ := failsAt_build o p
  constructor
  · intro e
    rw [← Pattern.firstUnexpected?_eq_some_iff, ← hfails]
    cases (build o p).result <;> simp [failure?]
  · rw [← Pattern.firstUnexpected?_eq_none_iff, ← hfails]
    cases (build o p).result <;> simp [failure?]

end Builder

end CodeOutline
