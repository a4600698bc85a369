/-
Locations are carried along, never interpreted.

Of a location the builder asks one question, whether it is usable.  If it is, the location becomes
the extent of an entry, and nothing else depends on it.  So a program with other locations has the
same outline up to extents, as long as usable locations go to usable ones and unusable locations to
unusable ones.  An extent comes from one location only (`Location.eq_of_extent?`), so it is said for
each entry where its extent goes: to the extent of the other location (`Extent.MovesTo`).

A map of locations goes through everything that the walk looks at: names, parameters and patterns
stay the same (`Pattern.label_relocate_all`), a spec and a rule have other locations inside
(`Spec.ofCall?_relocate`, `ruleOf_relocate`).  Then the walk over the nodes with other locations is
followed side by side with the walk over the given ones (`related_visitOne`).
-/
import CodeOutline.Proofs.DepthLimit
import CodeOutline.Proofs.Provenance

namespace CodeOutline

/-! ### Nodes with other locations -/

/-- An identifier with another location. -/
def Identifier.relocate (f : Location → Location) (id : Identifier) : Identifier :=
  ⟨id.loc.map f, id.name⟩

namespace Node

variable (f : Location → Location)

mutual

/-- A node in which every location is replaced. -/
def relocate : Node → Node
  | .program loc body => .program (loc.map f) (relocateAll body)
  | .function form loc id params body =>
    .function form (loc.map f) (id.map (Identifier.relocate f)) (relocateAll params) (relocate body)
  | .classDef form loc id members =>
    .classDef form (loc.map f) (id.map (Identifier.relocate f)) (relocateAll members)
  | .classProperty loc key value =>
    .classProperty (loc.map f) (relocate key) (relocateOptional value)
  | .methodDefinition loc key value => .methodDefinition (loc.map f) (relocate key) (relocate value)
  | .exportDeclaration form loc declaration flag =>
    .exportDeclaration form (loc.map f) (relocateOptional declaration) flag
  | .expressionStatement loc expression => .expressionStatement (loc.map f) (relocate expression)
  | .call loc callee arguments => .call (loc.map f) (relocate callee) (relocateAll arguments)
  | .assignment loc left right => .assignment (loc.map f) (relocate left) (relocate right)
  | .member loc owner part computed => .member (loc.map f) (relocate owner) (relocate part) computed
  | .objectExpression loc properties => .objectExpression (loc.map f) (relocateAll properties)
  | .property loc key value shorthand =>
    .property (loc.map f) (relocate key) (relocate value) shorthand
  | .identifier id => .identifier (id.relocate f)
  | .objectPattern loc properties => .objectPattern (loc.map f) (relocateAll properties)
  | .arrayPattern loc elements => .arrayPattern (loc.map f) (relocateElements elements)
  | .assignmentPattern loc left => .assignmentPattern (loc.map f) (relocate left)
  | .restElement loc argument => .restElement (loc.map f) (relocate argument)
  | .variableDeclaration loc kind declarators =>
    .variableDeclaration (loc.map f) kind (relocateDeclarators declarators)
  | .typeAlias declared loc id => .typeAlias declared (loc.map f) (id.relocate f)
  | .literal loc value => .literal (loc.map f) value
  | .block loc body => .block (loc.map f) (relocateAll body)
  | .other kind loc => .other kind (loc.map f)

/-- Nodes in which every location is replaced. -/
def relocateAll : List Node → List Node
  | [] => []
  | n :: rest => relocate n :: relocateAll rest

/-- The elements of an array pattern in which every location is replaced. -/
def relocateElements : List (Option Node) → List (Option Node)
  | [] => []
  | n :: rest => relocateOptional n :: relocateElements rest

/-- A node that may be missing in which every location is replaced. -/
def relocateOptional : Option Node → Option Node
  | none => none
  | some n => some (relocate n)

/-- Declarators in which every location is replaced. -/
def relocateDeclarators : List (Declarator Node) → List (Declarator Node)
  | [] => []
  | ⟨loc, id, init⟩ :: rest =>
    ⟨loc.map f, relocate id, relocateOptional init⟩ :: relocateDeclarators rest

end

lemma relocateAll_eq_map (ns : List Node) : relocateAll f ns = ns.map (relocate f) := by
  induction ns with
  | nil => rfl
  | cons n rest ih => rw [relocateAll, ih, List.map_cons]

lemma kindName_relocate (n : Node) : (n.relocate f).kindName = n.kindName := by
  cases n <;> rfl

lemma loc_relocate (n : Node) : (n.relocate f).loc = n.loc.map f := by
  cases n <;> rfl

lemma identifier?_relocate (n : Node) :
    (n.relocate f).identifier? = n.identifier?.map (Identifier.relocate f) := by
  cases n <;> rfl

lemma name?_relocate (n : Node) : (n.relocate f).name? = n.name? := by
  cases n <;> rfl

lemma functionValue?_relocate (n : Node) :
    (n.relocate f).functionValue? = n.functionValue?.map fun g =>
      (relocateAll f g.1, relocate f g.2) := by
  cases n with
  | function form => cases form <;> rfl
  | _ => rfl

lemma stringLiteral?_relocate (n : Node) : (n.relocate f).stringLiteral? = n.stringLiteral? := by
  cases n with
  | literal loc value => cases value <;> rfl
  | _ => rfl

lemma calleeName?_relocate (n : Node) : (n.relocate f).calleeName? = n.calleeName? := by
  cases n with
  | member loc owner part computed =>
    cases computed with
    | true => rfl
    | false => rw [relocate, calleeName?, calleeName?, name?_relocate, name?_relocate]
  | _ => rfl

lemma functionBlock?_relocate (n : Node) :
    (n.relocate f).functionBlock? = n.functionBlock?.map (relocateAll f) := by
  simp only [functionBlock?, functionValue?_relocate]
  cases n.functionValue? with
  | none => rfl
  | some g =>
    obtain ⟨params, body⟩ := g
    cases body <;> rfl

end Node

/-- A program in which every location is replaced. -/
def Program.relocate (f : Location → Location) (p : Program) : Program :=
  ⟨p.loc.map f, Node.relocateAll f p.body⟩

/-! ### What stays the same -/

variable (f : Location → Location)

open Node (relocateAll relocateElements)

/-- The label of a pattern does not depend on locations.  The induction follows the three functions
that make the label. -/
lemma Pattern.label_relocate_all :
    (∀ n, label (n.relocate f) = label n) ∧
      (∀ elements, elementLabels (relocateElements f elements) = elementLabels elements) ∧
        ∀ members, memberLabels (relocateAll f members) = memberLabels members := by
  refine label.mutual_induct _ _ _ ?_ ?_ ?_ ?_ ?_ ?_ ?_ ?_ ?_ ?_ ?_ ?_
  · intro id
    rfl
  · intro loc members ih
    rw [Node.relocate, label, label, ih]
  · intro loc elements ih
    rw [Node.relocate, label, label, ih]
  · intro loc left ih
    rw [Node.relocate, label, label, ih]
  · intro loc argument ih
    rw [Node.relocate, label, label, ih]
  · -- any other node is blamed by its kind, which is the same
    intro n hid hobject harray hassignment hrest
    cases n with
    | identifier id => exact (hid _ rfl).elim
    | objectPattern => exact (hobject _ _ rfl).elim
    | arrayPattern => exact (harray _ _ rfl).elim
    | assignmentPattern => exact (hassignment _ _ rfl).elim
    | restElement => exact (hrest _ _ rfl).elim
    | _ => rfl
  · rfl
  · intro loc key value shorthand rest ihkey ihrest
    rw [relocateAll, Node.relocate, memberLabels, memberLabels, ihkey, ihrest]
  · intro n rest hproperty ihn ihrest
    have hproperty' : ∀ loc key value shorthand, n.relocate f = .property loc key value shorthand →
        False := by
      intro loc key value shorthand h
      cases n with
      | property => exact hproperty _ _ _ _ rfl
      | _ => cases h
    rw [relocateAll, memberLabels.eq_3 n rest hproperty,
      memberLabels.eq_3 _ _ hproperty', ihn, ihrest]
  · rfl
  · intro rest ih
    rw [relocateElements, Node.relocateOptional, elementLabels, elementLabels, ih]
  · intro n rest ihn ihrest
    rw [relocateElements, Node.relocateOptional, elementLabels, elementLabels, ihn, ihrest]

lemma Pattern.labels_relocate (ns : List Node) : labels (relocateAll f ns) = labels ns := by
  induction ns with
  | nil => rfl
  | cons n rest ih => rw [relocateAll, labels, labels, (label_relocate_all f).1 n, ih]

lemma Pattern.listLabel_relocate (ns : List Node) :
    listLabel (relocateAll f ns) = listLabel ns := by
  rw [listLabel, listLabel, labels_relocate]

/-- A spec in which every location is replaced. -/
def Spec.relocate (s : Spec) : Spec := { s with body := relocateAll f s.body }

/-- A call declares the same spec, with other locations inside. -/
lemma Spec.ofCall?_relocate (callee : Node) (arguments : List Node) :
    ofCall? (callee.relocate f) (relocateAll f arguments) =
      (ofCall? callee arguments).map (relocate f) := by
  simp only [ofCall?, Node.calleeName?_relocate, Node.relocateAll_eq_map, List.getElem?_map,
    Option.bind_eq_bind, Option.bind_map, Option.map_bind, Function.comp_def,
    Node.stringLiteral?_relocate, Node.functionBlock?_relocate, Option.pure_def, Option.map_some,
    relocate]

namespace Builder

lemma properName?_relocate (id : Option Identifier) :
    properName? (id.map (Identifier.relocate f)) = properName? id := by
  cases id <;> rfl

lemma argsLabel_relocate (o : Options) (params : List Node) :
    argsLabel o (relocateAll f params) = argsLabel o params := by
  rw [argsLabel, argsLabel, Pattern.paramsLabel, Pattern.paramsLabel, Pattern.listLabel_relocate]

/-! ### Rules with other locations -/

/-- A rule in which every location is replaced. -/
def Rule.relocate : Rule → Rule
  | .skip event => .skip event
  | .function name params => .function name (relocateAll f params)
  | .method name params => .method name (relocateAll f params)
  | .property name => .property name
  | .typeAlias name => .typeAlias name
  | .binding kind id => .binding kind (id.relocate f)
  | .moduleExports properties => .moduleExports (relocateAll f properties)
  | .spec s => .spec (s.relocate f)
  | .classDef name members => .classDef name (relocateAll f members)
  | .exported isDefault declaration => .exported isDefault (declaration.relocate f)

lemma keyedRule_relocate (key : Node) (other : String → Event) {rule rule' : String → Rule}
    (h : ∀ name, rule' name = (rule name).relocate f) :
    keyedRule (key.relocate f) other rule' = (keyedRule key other rule).relocate f := by
  unfold keyedRule
  rw [Node.name?_relocate, Node.kindName_relocate]
  cases key.name? with
  | none => rfl
  | some name => exact h name

lemma propertyRule_relocate (name : String) (value : Option Node) :
    propertyRule name (Node.relocateOptional f value) = (propertyRule name value).relocate f := by
  cases value with
  | none => rfl
  | some n =>
    cases n with
    | function form => cases form <;> rfl
    | _ => rfl

lemma methodParams_relocate (value : Node) :
    methodParams (value.relocate f) = relocateAll f (methodParams value) := by
  unfold methodParams
  rw [Node.functionValue?_relocate]
  cases value.functionValue? <;> rfl

lemma declaratorRule_relocate (kind : DeclarationKind) (declarators : List (Declarator Node)) :
    declaratorRule kind (Node.relocateDeclarators f declarators) =
      (declaratorRule kind declarators).relocate f := by
  cases declarators with
  | nil => rfl
  | cons d rest =>
    obtain ⟨loc, id, init⟩ := d
    have hinit : (Node.relocateOptional f init).bind Node.functionValue? =
        (init.bind Node.functionValue?).map fun g => (relocateAll f g.1, g.2.relocate f) := by
      cases init with
      | none => rfl
      | some n => exact Node.functionValue?_relocate f n
    simp only [Node.relocateDeclarators, declaratorRule, hinit, Node.identifier?_relocate,
      properName?_relocate]
    cases init.bind Node.functionValue? <;> rfl

lemma properties?_relocate (left right : Node) :
    ModuleExports.properties? (left.relocate f) (right.relocate f) =
      (ModuleExports.properties? left right).map (relocateAll f) := by
  have htarget : ModuleExports.isTarget (left.relocate f) = ModuleExports.isTarget left := by
    cases left with
    | member loc owner part computed =>
      cases computed with
      | true => rfl
      | false =>
        rw [Node.relocate, ModuleExports.isTarget, ModuleExports.isTarget, Node.name?_relocate,
          Node.name?_relocate]
    | _ => rfl
  unfold ModuleExports.properties?
  rw [htarget]
  split
  · cases right <;> rfl
  · rfl

lemma expressionRule_relocate (expression : Node) :
    expressionRule (expression.relocate f) = (expressionRule expression).relocate f := by
  cases expression with
  | call loc callee arguments =>
    rw [Node.relocate, expressionRule, expressionRule, Spec.ofCall?_relocate]
    cases Spec.ofCall? callee arguments <;> rfl
  | assignment loc left right =>
    rw [Node.relocate, expressionRule, expressionRule, properties?_relocate]
    cases ModuleExports.properties? left right <;> rfl
  | _ => rfl

/-- A node with other locations is treated by the same rule, with other locations inside. -/
lemma ruleOf_relocate (n : Node) : ruleOf (n.relocate f) = (ruleOf n).relocate f := by
  cases n with
  | function form loc id params body =>
    cases form with
    | expression => rfl
    | _ => rw [Node.relocate, ruleOf, ruleOf, properName?_relocate, Rule.relocate]
  | classDef form loc id members =>
    rw [Node.relocate, ruleOf, ruleOf, properName?_relocate, Rule.relocate]
  | classProperty loc key value =>
    exact keyedRule_relocate f key _ fun name => propertyRule_relocate f name value
  | methodDefinition loc key value =>
    refine keyedRule_relocate f key _ fun name => ?_
    rw [methodParams_relocate, Rule.relocate]
  | exportDeclaration form loc declaration flag => cases declaration <;> rfl
  | expressionStatement loc expression => exact expressionRule_relocate f expression
  | variableDeclaration loc kind declarators => exact declaratorRule_relocate f kind declarators
  | _ => rfl

end Builder

/-! ### Extents and entries -/

lemma Position.eq_of_point_eq {p q : Position} (h : p.point = q.point) : p = q := by
  obtain ⟨line, column⟩ := p
  obtain ⟨line', column'⟩ := q
  obtain ⟨hline, hcolumn⟩ := Point.mk.inj h
  exact congrArg₂ Position.mk ((UInt32.sub_left_inj 1).1 hline) hcolumn

lemma Location.extent?_eq_some_iff {l : Location} {e : Extent} :
    l.extent? = some e ↔ l.Usable ∧ ⟨l.start.point, l.stop.point⟩ = e := by
  unfold extent?
  split
  · next h => simp [h]
  · next h => simp [h]

/-- An extent comes from one location only. -/
lemma Location.eq_of_extent? {l l' : Location} {e : Extent} (h : l.extent? = some e)
    (h' : l'.extent? = some e) : l = l' := by
  obtain ⟨-, rfl⟩ := extent?_eq_some_iff.1 h
  obtain ⟨-, heq⟩ := extent?_eq_some_iff.1 h'
  obtain ⟨hstart, hstop⟩ := Extent.mk.inj heq
  exact (congrArg₂ Location.mk (Position.eq_of_point_eq hstart)
    (Position.eq_of_point_eq hstop)).symm

/-- An extent moves along with its location: there is exactly one usable location that it comes
from, and the other extent comes from where that location goes. -/
def Extent.MovesTo (e e' : Extent) : Prop :=
  ∃ l : Location, l.Usable ∧ Extent.ofLocation? (some l) = some e ∧
    (∀ l' : Location, l'.Usable → Extent.ofLocation? (some l') = some e → l' = l) ∧
      Extent.ofLocation? (some (f l)) = some e'

/-- Two entries are equal up to extents, which have moved along with locations. -/
inductive Entry.Relocated : Entry → Entry → Prop where
  | intro {kind : EntryKind} {label : Label} {name : Option String} {extent extent' : Extent}
      {children children' : List Entry} (hextent : extent.MovesTo f extent')
      (hchildren : List.Forall₂ Relocated children children') :
      Relocated ⟨kind, label, name, extent, children⟩ ⟨kind, label, name, extent', children'⟩

variable {f}

/-- A map that keeps apart what is usable and what is not moves every extent. -/
lemma Extent.ofLocation?_map (hf : ∀ l, (f l).Usable ↔ l.Usable) (loc : Option Location) :
    (Extent.ofLocation? loc = none ∧ Extent.ofLocation? (loc.map f) = none) ∨
      ∃ e e', Extent.ofLocation? loc = some e ∧ Extent.ofLocation? (loc.map f) = some e' ∧
        e.MovesTo f e' := by
  cases loc with
  | none => exact .inl ⟨rfl, rfl⟩
  | some l =>
    by_cases h : l.Usable
    · right
      have hl : Extent.ofLocation? (some l) = some ⟨l.start.point, l.stop.point⟩ :=
        Location.extent?_eq_some_iff.2 ⟨h, rfl⟩
      have hfl : Extent.ofLocation? (some (f l)) = some ⟨(f l).start.point, (f l).stop.point⟩ :=
        Location.extent?_eq_some_iff.2 ⟨(hf l).2 h, rfl⟩
      exact ⟨_, _, hl, hfl, l, h, hl, fun l' _ hl' => Location.eq_of_extent? hl' hl, hfl⟩
    · left
      exact ⟨if_neg h, if_neg (mt (hf l).1 h)⟩

/-! ### Lines in front -/

/-- A position some lines further down.  A position that stands nowhere stays where it is, and so
does one for which there are not enough lines that can be counted. -/
def Position.down (k : UInt32) (p : Position) : Position :=
  if p.line = 0 ∨ 0xFFFFFFFF - k < p.line then p else ⟨p.line + k, p.column⟩

/-- A location some lines further down. -/
def Location.down (k : UInt32) (l : Location) : Location := ⟨l.start.down k, l.stop.down k⟩

lemma Position.line_down_eq_zero_iff (k : UInt32) (p : Position) :
    (p.down k).line = 0 ↔ p.line = 0 := by
  unfold down
  split
  · rfl
  · next h =>
    obtain ⟨hline, hle⟩ := not_or.1 h
    -- the sum does not wrap around
    have hsum : p.line + k ≠ 0 := by grind
    exact iff_of_false hsum hline

/-- Moving a location down neither makes it usable nor unusable. -/
lemma Location.usable_down (k : UInt32) (l : Location) : (l.down k).Usable ↔ l.Usable :=
  and_congr (not_congr (l.start.line_down_eq_zero_iff k))
    (not_congr (l.stop.line_down_eq_zero_iff k))

namespace Builder

variable {o : Options} {extent extent' : Extent}

/-! ### The walk -/

/-- An entry whose label is made last moves along, if the label does not depend on locations. -/
lemma relocated_leaf {kind : EntryKind} {name : Option String} (x : Except UnexpectedPattern Label)
    (label : Label → Label) (hextent : extent.MovesTo f extent') :
    SameOutcome (Entry.Relocated f) (do return Entry.leaf kind (label (← x)) name extent)
      (do return Entry.leaf kind (label (← x)) name extent') := by
  refine (SameOutcome.refl x).bind fun l l' hl => ?_
  obtain rfl := hl
  exact .ok (.intro hextent .nil)

lemma functionEntry_relocate (name : Option String) (params : List Node)
    (hextent : extent.MovesTo f extent') :
    SameOutcome (Entry.Relocated f) (functionEntry o name params extent)
      (functionEntry o name (relocateAll f params) extent') := by
  rw [functionEntry, functionEntry, argsLabel_relocate]
  exact relocated_leaf _ _ hextent

lemma methodEntry_relocate (name : String) (params : List Node)
    (hextent : extent.MovesTo f extent') :
    SameOutcome (Entry.Relocated f) (methodEntry o name params extent)
      (methodEntry o name (relocateAll f params) extent') := by
  rw [methodEntry, methodEntry, argsLabel_relocate]
  exact relocated_leaf _ _ hextent

lemma bindingEntry_relocate (kind : DeclarationKind) (id : Node)
    (hextent : extent.MovesTo f extent') :
    SameOutcome (Entry.Relocated f) (bindingEntry o kind id extent)
      (bindingEntry o kind (id.relocate f) extent') := by
  have hlabel : Pattern.listLabel [id.relocate f] = Pattern.listLabel [id] :=
    Pattern.listLabel_relocate f [id]
  rw [bindingEntry, bindingEntry, hlabel, Node.name?_relocate]
  exact relocated_leaf _ _ hextent

lemma memberEntry_relocate (name : String) (value : Node) (shorthand : Bool)
    (hextent : extent.MovesTo f extent') :
    SameOutcome (Entry.Relocated f) (ModuleExports.memberEntry o name value shorthand extent)
      (ModuleExports.memberEntry o name (value.relocate f) shorthand extent') := by
  unfold ModuleExports.memberEntry
  split
  · exact .ok (.intro hextent .nil)
  · rw [Node.functionValue?_relocate]
    cases value.functionValue? with
    | none => exact .ok (.intro hextent .nil)
    | some g => exact methodEntry_relocate name g.1 hextent

/-- The entry of a property has the extent of the property, not of its key. -/
lemma entryOfProperty?_relocate (hf : ∀ l, (f l).Usable ↔ l.Usable) (n : Node) :
    SameOutcome (Option.Rel (Entry.Relocated f)) (ModuleExports.entryOfProperty? o n)
      (ModuleExports.entryOfProperty? o (n.relocate f)) := by
  cases n with
  | property loc key value shorthand =>
    simp only [Node.relocate, ModuleExports.entryOfProperty?, Node.name?_relocate]
    cases key.name? with
    | none => exact .ok .none
    | some name =>
      rcases Extent.ofLocation?_map hf loc with
        ⟨hloc, hloc'⟩ | ⟨extent, extent', hloc, hloc', hextent⟩
      · rw [hloc, hloc']
        exact .ok .none
      · rw [hloc, hloc']
        exact (memberEntry_relocate name value shorthand hextent).map fun _ _ h => .some h
  | _ => exact .ok .none

lemma moduleExports_relocate (hf : ∀ l, (f l).Usable ↔ l.Usable) (properties : List Node)
    (hextent : extent.MovesTo f extent') :
    SameOutcome (Entry.Relocated f) (ModuleExports.entry o properties extent)
      (ModuleExports.entry o (relocateAll f properties) extent') := by
  rw [ModuleExports.entry, ModuleExports.entry, propertyEntries_eq, propertyEntries_eq,
    Node.relocateAll_eq_map, Run.filterMap_map]
  have hloop := Run.Related.filterMap fun n (_ : n ∈ properties) =>
    Run.Related.ofExcept (entryOfProperty?_relocate (o := o) hf n)
  exact hloop.outcome.bind fun children children' hchildren => .ok (.intro hextent hchildren)

/-- The entry of a spec moves along with the entries below it. -/
lemma related_specEntry {below below' : List Node → Logged (List Entry)} {s : Spec}
    (hextent : extent.MovesTo f extent')
    (hbelow : Run.Related (List.Forall₂ (Entry.Relocated f)) (Run.ofLogged (below s.body))
      (Run.ofLogged (below' (relocateAll f s.body)))) :
    Run.Related (Option.Rel (Entry.Relocated f)) (Run.ofLogged (some <$> specEntry below s extent))
      (Run.ofLogged (some <$> specEntry below' (s.relocate f) extent')) := by
  rw [ofLogged_specEntry, ofLogged_specEntry]
  refine Run.Related.bind (R := List.Forall₂ (Entry.Relocated f)) ?_ fun children
    children' hchildren =>
    .pure (.some (.intro hextent hchildren))
  by_cases hgroup : s.family = .group
  · rw [if_pos hgroup, if_pos (show (s.relocate f).family = .group from hgroup)]
    exact hbelow
  · rw [if_neg hgroup, if_neg (show (s.relocate f).family ≠ .group from hgroup)]
    exact .pure .nil

/-- Following a rule with other locations inside does the same up to extents, if that holds of the
visits that it makes and of the entries below its spec. -/
lemma related_follow (hf : ∀ l, (f l).Usable ↔ l.Usable) {inner inner' : Node → Run (Option Entry)}
    {below below' : List Node → Logged (List Entry)} {rule : Rule}
    (hextent : extent.MovesTo f extent') (hinner : ∀ n ∈ rule.visits,
      Run.Related (Option.Rel (Entry.Relocated f)) (inner n) (inner' (n.relocate f)))
    (hbelow : ∀ s, rule = .spec s →
      Run.Related (List.Forall₂ (Entry.Relocated f)) (Run.ofLogged (below s.body))
      (Run.ofLogged (below' (relocateAll f s.body)))) :
    Run.Related (Option.Rel (Entry.Relocated f)) (rule.follow o inner below extent)
      ((rule.relocate f).follow o inner' below' extent') := by
  cases rule with
  | skip event =>
    cases event with
    | none => exact .pure .none
    | some event => exact .bind (.log event) fun _ _ _ => .pure .none
  | function name params =>
    exact .ofExcept ((functionEntry_relocate name params hextent).map fun _ _ h => .some h)
  | method name params =>
    exact .ofExcept ((methodEntry_relocate name params hextent).map fun _ _ h => .some h)
  | property name => exact .pure (.some (.intro hextent .nil))
  | typeAlias name => exact .pure (.some (.intro hextent .nil))
  | binding kind id =>
    exact .ofExcept ((bindingEntry_relocate kind id hextent).map fun _ _ h => .some h)
  | moduleExports properties =>
    exact .ofExcept ((moduleExports_relocate hf properties hextent).map fun _ _ h => .some h)
  | spec s => exact related_specEntry hextent (hbelow s rfl)
  | classDef name members =>
    simp only [Rule.relocate, Rule.follow, Node.relocateAll_eq_map, Run.filterMap_map]
    refine .bind (.filterMap hinner) fun children children' hchildren => ?_
    exact .pure (.some (.intro hextent hchildren))
  | exported isDefault declaration =>
    -- the extent of the declaration is given up, whatever it was
    refine .bind (hinner declaration (by simp [Rule.visits])) fun e e' he => ?_
    cases he with
    | none => exact .pure .none
    | some he =>
      obtain ⟨-, hchildren⟩ := he
      exact .pure (.some (.intro hextent hchildren))

lemma related_specStatement? (hf : ∀ l, (f l).Usable ↔ l.Usable)
    {below below' : List Node → Logged (List Entry)} {n : Node}
    (hbelow : ∀ s, ruleOf n = .spec s →
      Run.Related (List.Forall₂ (Entry.Relocated f)) (Run.ofLogged (below s.body))
      (Run.ofLogged (below' (relocateAll f s.body)))) :
    Run.Related (Option.Rel (Entry.Relocated f)) (Run.ofLogged (specStatement? below n))
      (Run.ofLogged (specStatement? below' (n.relocate f))) := by
  have hnone : Run.Related (Option.Rel (Entry.Relocated f)) (Run.ofLogged (pure none))
      (Run.ofLogged (pure none)) :=
    .ofLogged rfl .none
  cases n with
  | expressionStatement loc expression =>
    cases expression with
    | call callLoc callee arguments =>
      simp only [Node.relocate, specStatement?, entryOfCall?, Spec.ofCall?_relocate]
      rcases Extent.ofLocation?_map hf loc with
        ⟨hloc, hloc'⟩ | ⟨extent, extent', hloc, hloc', hextent⟩
      · rw [hloc, hloc']
        exact hnone
      · rw [hloc, hloc']
        cases hs : Spec.ofCall? callee arguments with
        | none => exact hnone
        | some s =>
          exact related_specEntry hextent (hbelow s (by simp [ruleOf, expressionRule, hs]))
    | _ => exact hnone
  | _ => exact hnone

lemma related_specChildren (hf : ∀ l, (f l).Usable ↔ l.Usable) (depth : UInt64) (body : List Node) :
    Run.Related (List.Forall₂ (Entry.Relocated f)) (Run.ofLogged (specChildren o depth body))
      (Run.ofLogged (specChildren o depth (relocateAll f body))) := by
  induction depth, body using spec_induction with
  | step depth body ih =>
    rw [specChildren_eq, specChildren_eq o depth (relocateAll f body)]
    split
    · exact .ofLogged rfl .nil
    · rw [Run.ofLogged_filterMap, Run.ofLogged_filterMap, Node.relocateAll_eq_map,
        Run.filterMap_map]
      exact .filterMap fun n hn => related_specStatement? hf (ih n hn)

lemma related_visitOne (hf : ∀ l, (f l).Usable ↔ l.Usable) (depth : UInt64) (n : Node) :
    Run.Related (Option.Rel (Entry.Relocated f)) (visitOne o depth n)
      (visitOne o depth (n.relocate f)) := by
  induction depth, n using walk_induction with
  | step depth n ih =>
    rw [visitOne_eq, visitOne_eq o depth (n.relocate f), Node.kindName_relocate,
      ruleOf_relocate, Node.extent?, Node.extent?, Node.loc_relocate]
    split
    · exact ⟨rfl, .ok .none⟩
    · rcases Extent.ofLocation?_map hf n.loc with
        ⟨hloc, hloc'⟩ | ⟨extent, extent', hloc, hloc', hextent⟩
      · rw [hloc, hloc']
        exact ⟨rfl, .ok .none⟩
      · rw [hloc, hloc']
        exact related_follow hf hextent ih fun s _ => related_specChildren hf (depth + 1) s.body

/-- **Locations are carried along.**  If every location of a program is replaced, so that usable
ones stay usable and unusable ones stay unusable, then the outcome is the same error, or an outline
with the same entries, kinds, labels and names.  The extent of an entry comes from exactly one
usable location, and the new extent comes from where this location goes.  The same events are
recorded on the way. -/
theorem build_moves_extents (hf : ∀ l, (f l).Usable ↔ l.Usable) (o : Options) (p : Program) :
    Run.Related
      (fun outline outline' => List.Forall₂ (Entry.Relocated f) outline.entries outline'.entries)
      (build o p) (build o (p.relocate f)) := by
  have hwalk : Run.Related (List.Forall₂ (Entry.Relocated f)) (visitAll o 0 p.body)
      (visitAll o 0 (p.relocate f).body) := by
    rw [visitAll, visitAll, Program.relocate, Node.relocateAll_eq_map, Run.filterMap_map]
    exact .filterMap fun n _ => related_visitOne hf 0 n
  exact .bind hwalk fun _ _ h => .pure h

/-- Ten lines are put in front of a program.  Its exported class, the method in it, the group with
its spec and the property of `module.exports` all move down by ten lines; the alias on line zero
stands nowhere before and after. -/
theorem lines_in_front_move_extents :
    let on (line column : UInt32) : Option Location := some ⟨⟨line, column⟩, ⟨line, 30⟩⟩
    let name (s : String) : Node := .identifier ⟨none, s⟩
    let spec (line : UInt32) (callee text : String) (body : List Node) : Node :=
      .expressionStatement (on line 0) (.call none (name callee)
        [.literal none (.string text), .function .arrow none none [] (.block none body)])
    let p : Program := ⟨none, [
      .exportDeclaration .named (on 1 0)
        (some (.classDef .declaration (on 1 7) (some ⟨on 1 13, "A"⟩)
        [.methodDefinition (on 2 2) (name "m")
          (.function .expression none none [name "x"] (.block none []))])) false,
      .typeAlias false (on 0 0) ⟨none, "T"⟩,
      spec 4 "describe" "s" [spec 5 "it" "t" []],
      .expressionStatement (on 7 0)
        (.assignment none (.member none (name "module") (name "exports") false)
        (.objectExpression none [.property (on 8 2) (name "b") (name "b") true]))]⟩
    let entry (row column : UInt32) (kind : EntryKind) (label : Label) (name : Option String)
        (children : List Entry) : Entry := ⟨kind, label, name, ⟨⟨row, column⟩, ⟨row, 30⟩⟩, children⟩
    let outline (rows : UInt32) : Outline := ⟨[
      entry rows 0 .classType [.className "A"] (some "A")
        [entry (rows + 1) 2 .method [.method "m", .plain "(", .param "x", .plain ")"]
          (some "m") []],
      entry (rows + 3) 0 .function [.method "describe", .space, .string "s"] (some "s")
        [entry (rows + 4) 0 .function [.method "it", .space, .string "t"] (some "t") []],
      entry (rows + 6) 0 .moduleScope [.plain "module.exports"] none
        [entry (rows + 7) 2 .method [.string "b"] (some "b") []]]⟩
    (∀ l : Location, (l.down 10).Usable ↔ l.Usable) ∧ (build {} p).result = .ok (outline 0) ∧
      (build {} (p.relocate (Location.down 10))).result = .ok (outline 10) ∧
      Run.Related (fun outline outline' =>
          List.Forall₂ (Entry.Relocated (Location.down 10)) outline.entries outline'.entries)
        (build {} p) (build {} (p.relocate (Location.down 10))) := by
  intro on name spec p entry outline
  exact ⟨Location.usable_down 10, rfl, rfl, build_moves_extents (Location.usable_down 10) {} p⟩

end Builder

end CodeOutline
