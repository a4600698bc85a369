/-
What the walk does with a node.

The walk tells many kinds of nodes apart, but there are few things it can do with one that has a
usable location.  `ruleOf` names the one that applies, without options and levels, and `visit_succ`
says that the walk follows it.  Statements about the walk are proved by cases on the rule.

A rule is followed with two functions: one visits the nodes below, and one gives the entries below a
group of specs.  A rule hands only nodes to them that lie inside the node (`foundIn_ruleOf`), and
nothing else about them matters (`Rule.follow_congr`).
-/
import CodeOutline.Builder.Basic
import CodeOutline.Proofs.Runs

namespace CodeOutline.Builder

/-- What the walk does with a node that has a usable location. -/
inductive Rule where
  /-- There is no entry.  There may be an event that says why. -/
  | skip (event : Option Event)
  /-- An entry for a function with its parameters. -/
  | function (name : Option String) (params : List Node)
  /-- An entry for a method with its parameters. -/
  | method (name : String) (params : List Node)
  /-- An entry for a class property. -/
  | property (name : String)
  /-- An entry for a type alias. -/
  | typeAlias (name : String)
  /-- An entry for the pattern that a variable declaration binds. -/
  | binding (kind : DeclarationKind) (id : Node)
  /-- An entry for an assignment to `module.exports`, with entries below it for the properties. -/
  | moduleExports (properties : List Node)
  /-- An entry for a spec, with entries below it if it is a group. -/
  | spec (s : Spec)
  /-- An entry for a class, with entries below it for the members. -/
  | classDef (name : Option String) (members : List Node)
  /-- The entry of the declaration, with another extent and a longer label. -/
  | exported (isDefault : Bool) (declaration : Node)

/-- The rule for a class property. -/
def propertyRule (name : String) : Option Node → Rule
  | some (.function .arrow _ _ params _) => .method name params
  | _ => .property name

/-- The rule for a member of a class, by its key. -/
def keyedRule (key : Node) (other : String → Event) (rule : String → Rule) : Rule :=
  match key.name? with
  | some name => rule name
  | none => .skip (some (other key.kindName))

/-- The rule for a variable declaration, by its first declarator. -/
def declaratorRule (kind : DeclarationKind) : List (Declarator Node) → Rule
  | [] => .skip none
  | d :: _ =>
    match d.init.bind Node.functionValue? with
    | some (params, _) => .function (properName? d.id.identifier?) params
    | none => .binding kind d.id

/-- The rule for an expression statement, by its expression. -/
def expressionRule : Node → Rule
  | .call _ callee arguments => (Spec.ofCall? callee arguments).elim (.skip none) .spec
  | .assignment _ left right =>
    (ModuleExports.properties? left right).elim (.skip none) .moduleExports
  | _ => .skip none

/-- The rule that applies to a node. -/
def ruleOf : Node → Rule
  | .function .declaration _ id params _ => .function (properName? id) params
  | .function .arrow _ id params _ => .function (properName? id) params
  | .classDef _ _ id members => .classDef (properName? id) members
  | .classProperty _ key value => keyedRule key .propertyKey fun name => propertyRule name value
  | .methodDefinition _ key value =>
    keyedRule key .methodKey fun name => .method name (methodParams value)
  | .exportDeclaration _ _ none _ => .skip none
  | .exportDeclaration form _ (some declaration) flag =>
    .exported (isDefaultExport form flag) declaration
  | .expressionStatement _ expression => expressionRule expression
  | .typeAlias _ _ id => .typeAlias id.name
  | .variableDeclaration _ kind declarators => declaratorRule kind declarators
  | node => .skip (some (.noRule node.kindName))

/-- The entry for a pattern that a variable declaration binds. -/
def bindingEntry (o : Options) (kind : DeclarationKind) (id : Node) (extent : Extent) :
    Except UnexpectedPattern Entry := do
  let pattern ← Pattern.listLabel [id]
  return .leaf (variableKind kind) (shownKeyword o (.ofDeclaration kind) ++ pattern) id.name? extent

namespace Rule

/-- Follows a rule: `inner` visits a node below, and `below` gives the entries below a group of
specs. -/
def follow (o : Options) (inner : Node → Run (Option Entry))
    (below : List Node → Logged (List Entry)) (extent : Extent) : Rule → Run (Option Entry)
  | .skip none => pure none
  | .skip (some event) => do
    Run.log event
    return none
  | .function name params => Run.ofExcept ((functionEntry o name params extent).map some)
  | .method name params => Run.ofExcept ((methodEntry o name params extent).map some)
  | .property name => pure (some (.leaf .property [.param name, .plain ":"] name extent))
  | .typeAlias name => pure (some (typeAliasEntry o name extent))
  | .binding kind id => Run.ofExcept ((bindingEntry o kind id extent).map some)
  | .moduleExports properties => Run.ofExcept ((ModuleExports.entry o properties extent).map some)
  | .spec s => Run.ofLogged (some <$> specEntry below s extent)
  | .classDef name members => do
    let children ← Run.filterMap inner members
    return some ⟨.classType, classLabel o name, name, extent, children⟩
  | .exported isDefault declaration => do
    let entry ← inner declaration
    return entry.map (exportEntry o isDefault extent)

end Rule

/-! ### The walk follows the rules -/

section Follow

variable (o : Options) (inner : Node → Run (Option Entry)) (below : List Node → Logged (List Entry))
  (extent : Extent)

lemma follow_propertyRule (name : String) (value : Option Node) :
    (propertyRule name value).follow o inner below extent =
      Run.ofExcept ((propertyEntry o value extent name).map some) := by
  cases value with
  | none => rfl
  | some n =>
    cases n with
    | function form => cases form <;> rfl
    | _ => rfl

lemma follow_keyedRule {key : Node} {other : String → Event} {rule : String → Rule}
    {entry : String → Except UnexpectedPattern Entry}
    (h : ∀ name, (rule name).follow o inner below extent = Run.ofExcept ((entry name).map some)) :
    (keyedRule key other rule).follow o inner below extent = keyed key other entry := by
  unfold keyedRule keyed
  cases key.name? with
  | none => rfl
  | some name => exact h name

lemma follow_declaratorRule (kind : DeclarationKind) (declarators : List (Declarator Node)) :
    (declaratorRule kind declarators).follow o inner below extent =
      Run.ofExcept (entryOfVariable? o kind declarators extent) := by
  cases declarators with
  | nil => rfl
  | cons d _ =>
    simp only [declaratorRule, entryOfVariable?]
    cases d.init.bind Node.functionValue? with
    | some f => rfl
    | none =>
      simp only [Rule.follow, bindingEntry]
      cases Pattern.listLabel [d.id] <;> rfl

lemma follow_callRule (loc : Option Location) (callee : Node) (arguments : List Node) :
    (expressionRule (.call loc callee arguments)).follow o inner below extent =
      Run.ofLogged (entryOfCall? below callee arguments extent) := by
  simp only [expressionRule, entryOfCall?]
  cases Spec.ofCall? callee arguments <;> rfl

end Follow

/-- With no level left, a node is dropped with a warning. -/
lemma visit_zero (o : Options) (node : Node) :
    visit o 0 node = ⟨[.tooDeep node.kindName o.maxDepth], .ok none⟩ := rfl

/-- With a level left, a node without a usable location is skipped, and any other node is treated by
its rule. -/
lemma visit_succ (o : Options) (levels : Nat) (node : Node) :
    visit o (levels + 1) node =
      match node.extent? with
      | none => ⟨[.noLocation node.kindName], .ok none⟩
      | some extent => (ruleOf node).follow o (visit o levels) (specEntries o levels) extent := by
  unfold visit
  cases node.extent? with
  | none => rfl
  | some extent =>
    cases node with
    | function form => cases form <;> rfl
    | classProperty loc key value =>
      exact (follow_keyedRule o _ _ extent fun name => follow_propertyRule o _ _ extent
        name value).symm
    | methodDefinition loc key value =>
      exact (follow_keyedRule o _ _ extent fun name => rfl).symm
    | exportDeclaration form loc declaration => cases declaration <;> rfl
    | expressionStatement loc expression =>
      cases expression with
      | call loc callee arguments => exact (follow_callRule o _ _ extent loc callee arguments).symm
      | assignment loc left right =>
        simp only [ruleOf, expressionRule]
        cases ModuleExports.properties? left right <;> rfl
      | _ => rfl
    | variableDeclaration loc kind declarators =>
      exact (follow_declaratorRule o _ _ extent kind declarators).symm
    | _ => rfl

/-! ### Nodes below a node -/

namespace Rule

/-- The nodes that a rule visits. -/
def visits : Rule → List Node
  | .classDef _ members => members
  | .exported _ declaration => [declaration]
  | _ => []

/-- Following a rule only depends on what is done with the nodes that it visits, and with the body
of its spec. -/
lemma follow_congr {o : Options} {inner inner' : Node → Run (Option Entry)}
    {below below' : List Node → Logged (List Entry)} {rule : Rule} (extent : Extent)
    (hinner : ∀ n ∈ rule.visits, inner n = inner' n)
    (hbelow : ∀ s, rule = .spec s → below s.body = below' s.body) :
    rule.follow o inner below extent = rule.follow o inner' below' extent := by
  cases rule with
  | skip event => cases event <;> rfl
  | classDef name members =>
    have hmembers : Run.filterMap inner members = Run.filterMap inner' members :=
      Run.filterMap_congr hinner
    simp only [follow, hmembers]
  | exported isDefault declaration => simp only [follow, hinner declaration (by simp [visits])]
  | spec s => simp only [follow, specEntry, hbelow s rfl]
  | _ => rfl

end Rule

/-- Where a rule finds the nodes that have entries below the entry of a node. -/
def Rule.FoundIn (node : Node) : Rule → Prop
  | .classDef name members =>
    ∃ form loc id, node = .classDef form loc id members ∧ name = properName? id
  | .exported isDefault declaration =>
    ∃ form loc flag, node = .exportDeclaration form loc (some declaration) flag ∧
      isDefault = isDefaultExport form flag
  | .spec s =>
    ∃ loc callLoc callee arguments,
      node = .expressionStatement loc (.call callLoc callee arguments) ∧
      Spec.ofCall? callee arguments = some s
  | .moduleExports properties =>
    ∃ loc assignmentLoc left objectLoc, ModuleExports.isTarget left ∧
      node = .expressionStatement loc
        (.assignment assignmentLoc left (.objectExpression objectLoc properties))
  | _ => True

lemma properties?_eq_some {left right : Node} {properties : List Node}
    (h : ModuleExports.properties? left right = some properties) :
    ModuleExports.isTarget left ∧ ∃ loc, right = .objectExpression loc properties := by
  unfold ModuleExports.properties? at h
  split at h
  · next htarget =>
    cases right with
    | objectExpression loc ps =>
      obtain rfl : ps = properties := by simpa using h
      exact ⟨htarget, loc, rfl⟩
    | _ => simp at h
  · simp at h

lemma foundIn_expressionRule (loc : Option Location) (expression : Node) :
    (expressionRule expression).FoundIn (.expressionStatement loc expression) := by
  cases expression with
  | call callLoc callee arguments =>
    simp only [expressionRule]
    cases hs : Spec.ofCall? callee arguments with
    | none => trivial
    | some s => exact ⟨loc, callLoc, callee, arguments, rfl, hs⟩
  | assignment assignmentLoc left right =>
    simp only [expressionRule]
    cases hp : ModuleExports.properties? left right with
    | none => trivial
    | some properties =>
      obtain ⟨htarget, objectLoc, rfl⟩ := properties?_eq_some hp
      exact ⟨loc, assignmentLoc, left, objectLoc, htarget, rfl⟩
  | _ => trivial

/-- The nodes below are found in the node itself. -/
lemma foundIn_ruleOf (node : Node) : (ruleOf node).FoundIn node := by
  cases node with
  | function form => cases form <;> trivial
  | classDef form loc id members => exact ⟨form, loc, id, rfl, rfl⟩
  | classProperty loc key value =>
    simp only [ruleOf, keyedRule]
    split
    · unfold propertyRule
      split <;> trivial
    · trivial
  | methodDefinition loc key value =>
    simp only [ruleOf, keyedRule]
    split <;> trivial
  | exportDeclaration form loc declaration flag =>
    cases declaration with
    | none => trivial
    | some d => exact ⟨form, loc, flag, rfl, rfl⟩
  | expressionStatement loc expression => exact foundIn_expressionRule loc expression
  | variableDeclaration loc kind declarators =>
    cases declarators with
    | nil => trivial
    | cons d _ =>
      simp only [ruleOf, declaratorRule]
      split <;> trivial
  | _ => trivial

/-- A statement in a group has the entry of its spec if its rule is that of a spec, and none
otherwise. -/
lemma specStatement?_cases (node : Node) :
    (∃ extent s, node.extent? = some extent ∧ ruleOf node = .spec s ∧
      ∀ below, specStatement? below node = some <$> specEntry below s extent) ∨
    ∀ below, specStatement? below node = pure none := by
  cases node with
  | expressionStatement loc expression =>
    cases expression with
    | call callLoc callee arguments =>
      simp only [specStatement?, entryOfCall?, Node.extent?, Node.loc, ruleOf, expressionRule]
      cases Extent.ofLocation? loc with
      | none => exact .inr fun _ => rfl
      | some extent =>
        cases Spec.ofCall? callee arguments with
        | none => exact .inr fun _ => rfl
        | some s => exact .inl ⟨extent, s, rfl, rfl, fun _ => rfl⟩
    | _ => exact .inr fun _ => rfl
  | _ => exact .inr fun _ => rfl

/-- Only classes and exports lead to visits. -/
lemma visits_ruleOf_eq_nil {node : Node}
    (hclass : ∀ form loc id members, node ≠ .classDef form loc id members)
    (hexport : ∀ form loc declaration flag,
      node ≠ .exportDeclaration form loc (some declaration) flag) :
    (ruleOf node).visits = [] := by
  have hfound := foundIn_ruleOf node
  cases hrule : ruleOf node with
  | classDef name members =>
    rw [hrule] at hfound
    obtain ⟨form, loc, id, hnode, -⟩ := hfound
    exact absurd hnode (hclass form loc id members)
  | exported isDefault declaration =>
    rw [hrule] at hfound
    obtain ⟨form, loc, flag, hnode, -⟩ := hfound
    exact absurd hnode (hexport form loc declaration flag)
  | _ => rfl

end CodeOutline.Builder

namespace CodeOutline

/-- The node whose block a function gives is a function with that block. -/
lemma Node.functionBlock?_eq_some {n : Node} {body : List Node} (h : n.functionBlock? = some body) :
    ∃ form loc id params blockLoc, n = .function form loc id params (.block blockLoc body) := by
  unfold functionBlock? at h
  split at h
  · next params blockLoc body' hf =>
    obtain rfl : body' = body := by simpa using h
    cases n with
    | function form loc id params' b =>
      cases form with
      | declaration => simp [functionValue?] at hf
      | expression =>
        simp only [functionValue?, Option.some.injEq, Prod.mk.injEq] at hf
        exact ⟨_, loc, id, params', blockLoc, by rw [hf.2]⟩
      | arrow =>
        simp only [functionValue?, Option.some.injEq, Prod.mk.injEq] at hf
        exact ⟨_, loc, id, params', blockLoc, by rw [hf.2]⟩
    | _ => simp [functionValue?] at hf
  · simp at h

/-- A call declares a spec when its function is known, its first argument is a string and its second
one a function with a block. -/
lemma Spec.ofCall?_eq_some_iff {callee : Node} {arguments : List Node} {s : Spec} :
    Spec.ofCall? callee arguments = some s ↔
      callee.calleeName? = some s.callee ∧ SpecFamily.ofName? s.callee = some s.family ∧
        (∃ n, arguments[0]? = some n ∧ n.stringLiteral? = some s.description) ∧
          ∃ n, arguments[1]? = some n ∧ n.functionBlock? = some s.body := by
  obtain ⟨name, family, description, body⟩ := s
  simp only [ofCall?, Option.bind_eq_bind, Option.bind_eq_some_iff, Option.pure_def,
    Option.some.injEq, Spec.mk.injEq]
  constructor
  · rintro ⟨name', hname, family', hfamily, n, hn, text, htext, n', hn', body', hbody, rfl,
      rfl, rfl, rfl⟩
    exact ⟨hname, hfamily, ⟨n, hn, htext⟩, n', hn', hbody⟩
  · rintro ⟨hname, hfamily, ⟨n, hn, htext⟩, n', hn', hbody⟩
    exact ⟨name, hname, family, hfamily, n, hn, description, htext, n', hn', body, hbody, rfl,
      rfl, rfl, rfl⟩

end CodeOutline
