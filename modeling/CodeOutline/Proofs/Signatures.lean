/-
Outlines depend on signatures only.

Much of a program has no influence on its outline: what functions do, what variables are set to,
what a spec checks.  Two nodes have the same signature if they are equal up to such parts, at any
number of places and at any depth (`SameSignature`).  The relation has a clause for every kind of
node, which compares the parts of the node; it leaves parts out where an outline does not look at
them.

A function that is given to a call needs care.  Its body is looked at if the call declares a spec,
so a body may not be replaced in the place of the second argument.  If the call does declare a spec,
the statements of a single spec are free, and those of a group are free as long as they are no
calls.

Nodes with the same signature have related rules (`ruleOf_related`), and following related rules is
the same (`follow_eq_of_related`).  By induction along the walk, programs with the same signatures
have the same outline, the same error and the same events (`build_eq_of_sameSignature`).
-/
import CodeOutline.Proofs.SpecPath

namespace CodeOutline

/-! ### Signatures -/

mutual

/-- Two nodes are equal up to parts that an outline does not look at. -/
inductive SameSignature : Node → Node → Prop where
  | unchanged (n : Node) : SameSignature n n
  | program {loc : Option Location} {body body' : List Node}
      (hbody : List.Forall₂ SameSignature body body') :
      SameSignature (.program loc body) (.program loc body')
  /-- The body of a function is free. -/
  | function {form : FunctionForm} {loc : Option Location} {id : Option Identifier}
      {params params' : List Node} (hparams : List.Forall₂ SameSignature params params')
      (body body' : Node) :
      SameSignature (.function form loc id params body) (.function form loc id params' body')
  | classDef {form : ClassForm} {loc : Option Location} {id : Option Identifier}
      {members members' : List Node} (hmembers : List.Forall₂ SameSignature members members') :
      SameSignature (.classDef form loc id members) (.classDef form loc id members')
  | classProperty {loc : Option Location} {key key' : Node} {value value' : Option Node}
      (hkey : SameSignature key key') (hvalue : Option.Rel SameSignature value value') :
      SameSignature (.classProperty loc key value) (.classProperty loc key' value')
  | methodDefinition {loc : Option Location} {key key' value value' : Node}
      (hkey : SameSignature key key') (hvalue : SameSignature value value') :
      SameSignature (.methodDefinition loc key value) (.methodDefinition loc key' value')
  | exportDeclaration {form : ExportForm} {loc : Option Location}
      {declaration declaration' : Option Node} {flag : Bool}
      (hdeclaration : Option.Rel SameSignature declaration declaration') :
      SameSignature (.exportDeclaration form loc declaration flag)
        (.exportDeclaration form loc declaration' flag)
  | expressionStatement {loc : Option Location} {expression expression' : Node}
      (hexpression : SameSignature expression expression') :
      SameSignature (.expressionStatement loc expression) (.expressionStatement loc expression')
  | call {loc : Option Location} {callee callee' : Node} {arguments arguments' : List Node}
      (hcallee : SameSignature callee callee') (harguments : SameArguments arguments arguments') :
      SameSignature (.call loc callee arguments) (.call loc callee' arguments')
  /-- A call that declares a spec.  The name and the parameters of its function are free, and so are
  the statements of a single spec.  In a group only the calls among the statements count. -/
  | specCall {loc : Option Location} {callee description : Node} {form : FunctionForm}
      {functionLoc : Option Location} {id id' : Option Identifier} {params params' : List Node}
      {blockLoc : Option Location} {body body' : List Node} {rest rest' : List Node} {s : Spec}
      (hs : Spec.ofCall? callee
        (description :: .function form functionLoc id params (.block blockLoc body) :: rest) =
        some s)
      (hgroup : s.family = .group →
        List.Forall₂ SameSignature (callStatements body) (callStatements body')) :
      SameSignature
        (.call loc callee
          (description :: .function form functionLoc id params (.block blockLoc body) :: rest))
        (.call loc callee
          (description :: .function form functionLoc id' params' (.block blockLoc body') :: rest'))
  | assignment {loc : Option Location} {left left' right right' : Node}
      (hleft : SameSignature left left') (hright : SameSignature right right') :
      SameSignature (.assignment loc left right) (.assignment loc left' right')
  | member {loc : Option Location} {owner owner' part part' : Node} {computed : Bool}
      (howner : SameSignature owner owner') (hpart : SameSignature part part') :
      SameSignature (.member loc owner part computed) (.member loc owner' part' computed)
  | objectExpression {loc : Option Location} {properties properties' : List Node}
      (hproperties : List.Forall₂ SameSignature properties properties') :
      SameSignature (.objectExpression loc properties) (.objectExpression loc properties')
  | property {loc : Option Location} {key key' value value' : Node} {shorthand : Bool}
      (hkey : SameSignature key key') (hvalue : SameSignature value value') :
      SameSignature (.property loc key value shorthand) (.property loc key' value' shorthand)
  | objectPattern {loc : Option Location} {members members' : List Node}
      (hmembers : List.Forall₂ SamePatternMember members members') :
      SameSignature (.objectPattern loc members) (.objectPattern loc members')
  | arrayPattern {loc : Option Location} {elements elements' : List (Option Node)}
      (helements : List.Forall₂ (Option.Rel SameSignature) elements elements') :
      SameSignature (.arrayPattern loc elements) (.arrayPattern loc elements')
  | assignmentPattern {loc : Option Location} {left left' : Node}
      (hleft : SameSignature left left') :
      SameSignature (.assignmentPattern loc left) (.assignmentPattern loc left')
  | restElement {loc : Option Location} {argument argument' : Node}
      (hargument : SameSignature argument argument') :
      SameSignature (.restElement loc argument) (.restElement loc argument')
  /-- The declarators after the first one are free. -/
  | variableDeclaration {loc : Option Location} {kind : DeclarationKind} {d d' : Declarator Node}
      (hd : SameDeclarator d d') (rest rest' : List (Declarator Node)) :
      SameSignature (.variableDeclaration loc kind (d :: rest))
        (.variableDeclaration loc kind (d' :: rest'))
  | block {loc : Option Location} {body body' : List Node}
      (hbody : List.Forall₂ SameSignature body body') :
      SameSignature (.block loc body) (.block loc body')

/-- The arguments of two calls.  Those after the second one are free. -/
inductive SameArguments : List Node → List Node → Prop where
  | none : SameArguments [] []
  | one {n n' : Node} (h : SameSignature n n') : SameArguments [n] [n']
  | more {n n' f f' : Node} (hn : SameSignature n n') (hf : SameCallback f f')
      (rest rest' : List Node) : SameArguments (n :: f :: rest) (n' :: f' :: rest')

/-- The second arguments of two calls.  The body of a function is not free here. -/
inductive SameCallback : Node → Node → Prop where
  | function {form : FunctionForm} {loc : Option Location} {id : Option Identifier}
      {params params' : List Node} {body body' : Node}
      (hparams : List.Forall₂ SameSignature params params') (hbody : SameSignature body body') :
      SameCallback (.function form loc id params body) (.function form loc id params' body')
  | other {n n' : Node} (hn : ∀ form loc id params body, n ≠ .function form loc id params body)
      (h : SameSignature n n') : SameCallback n n'

/-- The members of two object patterns.  The value of a property and its shorthand flag are free. -/
inductive SamePatternMember : Node → Node → Prop where
  | property {loc : Option Location} {key key' : Node} (hkey : SameSignature key key')
      (value value' : Node) (shorthand shorthand' : Bool) :
      SamePatternMember (.property loc key value shorthand) (.property loc key' value' shorthand')
  | other {n n' : Node} (h : SameSignature n n') : SamePatternMember n n'

/-- The first declarators of two variable declarations.  An initial value that is no function is
free. -/
inductive SameDeclarator : Declarator Node → Declarator Node → Prop where
  | value {loc : Option Location} {id id' : Node} {init init' : Option Node}
      (hid : SameSignature id id') (hinit : Option.Rel SameSignature init init') :
      SameDeclarator ⟨loc, id, init⟩ ⟨loc, id', init'⟩
  | noFunction {loc : Option Location} {id id' : Node} {init init' : Option Node}
      (hid : SameSignature id id') (hinit : init.bind Node.functionValue? = none)
      (hinit' : init'.bind Node.functionValue? = none) :
      SameDeclarator ⟨loc, id, init⟩ ⟨loc, id', init'⟩

end

namespace SameSignature

lemma reflAll (ns : List Node) : List.Forall₂ SameSignature ns ns :=
  List.forall₂_same.2 fun n _ => .unchanged n

variable {n n' : Node} (h : SameSignature n n')
include h

/-! ### What is the same for all nodes -/

lemma kindName_eq : n.kindName = n'.kindName := by
  cases h <;> rfl

lemma extent?_eq : n.extent? = n'.extent? := by
  cases h <;> rfl

lemma identifier?_eq : n.identifier? = n'.identifier? := by
  cases h <;> rfl

lemma name?_eq : n.name? = n'.name? := by
  rw [Node.name?, Node.name?, h.identifier?_eq]

lemma stringLiteral?_eq : n.stringLiteral? = n'.stringLiteral? := by
  cases h <;> rfl

lemma calleeName?_eq : n.calleeName? = n'.calleeName? := by
  cases h with
  | @member _ _ _ _ _ computed howner hpart =>
    cases computed with
    | true => rfl
    | false => rw [Node.calleeName?, Node.calleeName?, howner.name?_eq, hpart.name?_eq]
  | _ => rfl

lemma isCallStatement_eq : n.isCallStatement = n'.isCallStatement := by
  cases h with
  | expressionStatement hexpression => cases hexpression <;> rfl
  | _ => rfl

/-- A function keeps its parameters up to what they do not show. -/
lemma functionValue?_rel :
    Option.Rel (fun f f' => List.Forall₂ SameSignature f.1 f'.1) n.functionValue?
      n'.functionValue? := by
  cases h with
  | unchanged n =>
    cases n.functionValue? with
    | none => exact .none
    | some f => exact .some (reflAll f.1)
  | @function form _ _ _ _ hparams _ _ =>
    cases form with
    | declaration => exact .none
    | expression => exact .some hparams
    | arrow => exact .some hparams
  | _ => exact .none

end SameSignature

/-! ### Patterns -/

namespace Pattern

/-- Patterns with the same signature have the same label.  The induction follows the three functions
that make the label. -/
lemma label_congr_all :
    (∀ n n', SameSignature n n' → label n = label n') ∧
      (∀ elements elements', List.Forall₂ (Option.Rel SameSignature) elements elements' →
        elementLabels elements = elementLabels elements') ∧
        ∀ members members', List.Forall₂ SamePatternMember members members' →
          memberLabels members = memberLabels members' := by
  refine label.mutual_induct _ _ _ ?_ ?_ ?_ ?_ ?_ ?_ ?_ ?_ ?_ ?_ ?_ ?_
  · intro id n' h
    cases h
    rfl
  · intro loc members ih n' h
    cases h with
    | unchanged => rfl
    | objectPattern hmembers => rw [label, label, ih _ hmembers]
  · intro loc elements ih n' h
    cases h with
    | unchanged => rfl
    | arrayPattern helements => rw [label, label, ih _ helements]
  · intro loc left ih n' h
    cases h with
    | unchanged => rfl
    | assignmentPattern hleft => rw [label, label, ih _ hleft]
  · intro loc argument ih n' h
    cases h with
    | unchanged => rfl
    | restElement hargument => rw [label, label, ih _ hargument]
  · -- any other node is blamed by its kind, which is the same
    intro n hid hobject harray hassignment hrest n' h
    cases h with
    | objectPattern => exact (hobject _ _ rfl).elim
    | arrayPattern => exact (harray _ _ rfl).elim
    | assignmentPattern => exact (hassignment _ _ rfl).elim
    | restElement => exact (hrest _ _ rfl).elim
    | _ => rfl
  · intro members' h
    cases h
    rfl
  · intro loc key value shorthand rest ihkey ihrest members' h
    cases h with
    | cons hmember hrest =>
      -- a property is shown by its key, whichever way the keys are compared
      cases hmember with
      | property hkey => rw [memberLabels, memberLabels, ihkey _ hkey, ihrest _ hrest]
      | other h =>
        cases h with
        | unchanged => rw [memberLabels, memberLabels, ihrest _ hrest]
        | property hkey => rw [memberLabels, memberLabels, ihkey _ hkey, ihrest _ hrest]
  · intro n rest hproperty ihn ihrest members' h
    cases h with
    | @cons _ n' _ rest' hmember hrest =>
      cases hmember with
      | property => exact (hproperty _ _ _ _ rfl).elim
      | other h =>
        have hproperty' : ∀ loc key value shorthand,
            n' = .property loc key value shorthand → False := by
          rintro loc key value shorthand rfl
          cases h <;> exact hproperty _ _ _ _ rfl
        rw [memberLabels.eq_3 n rest hproperty, memberLabels.eq_3 n' rest' hproperty', ihn _ h,
          ihrest _ hrest]
  · intro elements' h
    cases h
    rfl
  · intro rest ih elements' h
    cases h with
    | cons helement hrest =>
      cases helement
      rw [elementLabels, elementLabels, ih _ hrest]
  · intro n rest ihn ihrest elements' h
    cases h with
    | cons helement hrest =>
      cases helement with
      | some hn => rw [elementLabels, elementLabels, ihn _ hn, ihrest _ hrest]

lemma labels_congr {ns ns' : List Node} (h : List.Forall₂ SameSignature ns ns') :
    labels ns = labels ns' := by
  induction h with
  | nil => rfl
  | cons hn _ ih => rw [labels, labels, label_congr_all.1 _ _ hn, ih]

lemma listLabel_congr {ns ns' : List Node} (h : List.Forall₂ SameSignature ns ns') :
    listLabel ns = listLabel ns' := by
  rw [listLabel, listLabel, labels_congr h]

end Pattern

namespace Builder

variable (o : Options) {params params' : List Node} (extent : Extent)

lemma argsLabel_congr_params (h : List.Forall₂ SameSignature params params') :
    argsLabel o params = argsLabel o params' := by
  simp only [argsLabel, Pattern.paramsLabel, Pattern.listLabel_congr h]

lemma functionEntry_congr_params (h : List.Forall₂ SameSignature params params')
    (name : Option String) :
    functionEntry o name params extent = functionEntry o name params' extent := by
  rw [functionEntry, functionEntry, argsLabel_congr_params o h]

lemma methodEntry_congr_params (h : List.Forall₂ SameSignature params params') (name : String) :
    methodEntry o name params extent = methodEntry o name params' extent := by
  rw [methodEntry, methodEntry, argsLabel_congr_params o h]

lemma bindingEntry_congr_id {id id' : Node} (h : SameSignature id id') (kind : DeclarationKind) :
    bindingEntry o kind id extent = bindingEntry o kind id' extent := by
  rw [bindingEntry, bindingEntry, Pattern.listLabel_congr (.cons h .nil), h.name?_eq]

/-! ### Exported properties -/

lemma memberEntry_congr {value value' : Node} (h : SameSignature value value') (name : String)
    (shorthand : Bool) :
    ModuleExports.memberEntry o name value shorthand extent =
      ModuleExports.memberEntry o name value' shorthand extent := by
  unfold ModuleExports.memberEntry
  have hrel := h.functionValue?_rel
  generalize value.functionValue? = f, value'.functionValue? = f' at hrel ⊢
  cases hrel with
  | none => rfl
  | some hparams => simp only [methodEntry_congr_params o extent hparams]

lemma entryOfProperty?_congr {n n' : Node} (h : SameSignature n n') :
    ModuleExports.entryOfProperty? o n = ModuleExports.entryOfProperty? o n' := by
  cases h with
  | unchanged => rfl
  | @property loc key key' value value' shorthand hkey hvalue =>
    simp only [ModuleExports.entryOfProperty?, hkey.name?_eq, memberEntry_congr o _ hvalue]
  | _ => rfl

lemma moduleExports_congr {properties properties' : List Node}
    (h : List.Forall₂ SameSignature properties properties') :
    ModuleExports.entry o properties extent = ModuleExports.entry o properties' extent := by
  have hentries : ModuleExports.propertyEntries o properties =
      ModuleExports.propertyEntries o properties' := by
    induction h with
    | nil => rfl
    | cons hn _ ih =>
      rw [ModuleExports.propertyEntries, ModuleExports.propertyEntries,
        entryOfProperty?_congr o hn, ih]
  rw [ModuleExports.entry, ModuleExports.entry, hentries]

end Builder

/-! ### Specs -/

/-- Two specs have the same label, and the calls in groups have the same signatures. -/
structure Spec.Related (s s' : Spec) : Prop where
  callee_eq : s.callee = s'.callee
  family_eq : s.family = s'.family
  description_eq : s.description = s'.description
  calls : s.family = .group →
    List.Forall₂ SameSignature (callStatements s.body) (callStatements s'.body)

lemma Spec.Related.refl (s : Spec) : s.Related s :=
  ⟨rfl, rfl, rfl, fun _ => SameSignature.reflAll _⟩

lemma callStatements_forall₂ {ns ns' : List Node} (h : List.Forall₂ SameSignature ns ns') :
    List.Forall₂ SameSignature (callStatements ns) (callStatements ns') :=
  List.rel_filter (fun _ _ hn => Bool.eq_iff_iff.1 hn.isCallStatement_eq) h

/-- The block of a function that is given to a call has the same statements, up to their
signatures. -/
lemma SameCallback.functionBlock?_rel {f f' : Node} (h : SameCallback f f') :
    Option.Rel (List.Forall₂ SameSignature) f.functionBlock? f'.functionBlock? := by
  cases h with
  | @function form loc id params params' body body' hparams hbody =>
    cases form with
    | declaration => exact .none
    | _ =>
      cases hbody with
      | unchanged =>
        cases body with
        | block blockLoc statements => exact .some (SameSignature.reflAll statements)
        | _ => exact .none
      | block hstatements => exact .some hstatements
      | _ => exact .none
  | other hn h =>
    cases h with
    | unchanged =>
      cases f.functionBlock? with
      | none => exact .none
      | some body => exact .some (SameSignature.reflAll body)
    | function => exact (hn _ _ _ _ _ rfl).elim
    | _ => exact .none

/-- Calls with the same signature declare specs that are related, or none. -/
lemma Spec.ofCall?_rel {loc loc' : Option Location} {callee callee' : Node}
    {arguments arguments' : List Node}
    (h : SameSignature (.call loc callee arguments) (.call loc' callee' arguments')) :
    Option.Rel Spec.Related (Spec.ofCall? callee arguments) (Spec.ofCall? callee' arguments') := by
  cases h with
  | unchanged =>
    cases Spec.ofCall? callee arguments with
    | none => exact .none
    | some s => exact .some (.refl s)
  | call hcallee harguments =>
    unfold Spec.ofCall?
    rw [hcallee.calleeName?_eq]
    cases callee'.calleeName? with
    | none => exact .none
    | some name =>
      simp only [Option.bind_eq_bind, Option.bind_some]
      cases SpecFamily.ofName? name with
      | none => exact .none
      | some family =>
        cases harguments with
        | none => exact .none
        | @one n n' hn =>
          simp only [List.getElem?_cons_zero, Option.bind_some, hn.stringLiteral?_eq]
          cases n'.stringLiteral? <;> exact .none
        | @more n n' f f' hn hf rest rest' =>
          simp only [List.getElem?_cons_zero, List.getElem?_cons_succ, Option.bind_some,
            hn.stringLiteral?_eq]
          cases n'.stringLiteral? with
          | none => exact .none
          | some description =>
            have hrel := hf.functionBlock?_rel
            generalize f.functionBlock? = block, f'.functionBlock? = block' at hrel ⊢
            cases hrel with
            | none => exact .none
            | some hbody => exact .some ⟨rfl, rfl, rfl, fun _ => callStatements_forall₂ hbody⟩
  | @specCall _ _ description form functionLoc id id' params params' blockLoc body body' rest rest'
    s hs hgroup =>
    -- the call still declares a spec, and only its statements have changed
    obtain ⟨hname, hfamily, hdescription, f, hf, hblock⟩ := Spec.ofCall?_eq_some_iff.1 hs
    obtain rfl : Node.function form functionLoc id params (.block blockLoc body) = f :=
      Option.some.inj hf
    have hblock' :
        (Node.function form functionLoc id' params' (.block blockLoc body')).functionBlock? =
          some body' := by
      cases form with
      | declaration => cases hblock
      | _ => rfl
    have hbody : s.body = body := by
      cases form with
      | declaration => cases hblock
      | _ => exact (Option.some.inj hblock).symm
    have hs' : Spec.ofCall? callee
        (description :: .function form functionLoc id' params' (.block blockLoc body') :: rest') =
          some { s with body := body' } :=
      Spec.ofCall?_eq_some_iff.2 ⟨hname, hfamily, hdescription, _, rfl, hblock'⟩
    rw [hs, hs']
    exact .some ⟨rfl, rfl, rfl, fun hfamily => hbody ▸ hgroup hfamily⟩

/-! ### Rules -/

namespace Builder

/-- Two rules do the same with nodes that have the same signatures. -/
inductive Rule.Related : Rule → Rule → Prop where
  | skip (event : Option Event) : Related (.skip event) (.skip event)
  | function (name : Option String) {params params' : List Node}
      (h : List.Forall₂ SameSignature params params') :
      Related (.function name params) (.function name params')
  | method (name : String) {params params' : List Node}
      (h : List.Forall₂ SameSignature params params') :
      Related (.method name params) (.method name params')
  | property (name : String) : Related (.property name) (.property name)
  | typeAlias (name : String) : Related (.typeAlias name) (.typeAlias name)
  | binding (kind : DeclarationKind) {id id' : Node} (h : SameSignature id id') :
      Related (.binding kind id) (.binding kind id')
  | moduleExports {properties properties' : List Node}
      (h : List.Forall₂ SameSignature properties properties') :
      Related (.moduleExports properties) (.moduleExports properties')
  | spec {s s' : Spec} (h : s.Related s') : Related (.spec s) (.spec s')
  | classDef (name : Option String) {members members' : List Node}
      (h : List.Forall₂ SameSignature members members') :
      Related (.classDef name members) (.classDef name members')
  | exported (isDefault : Bool) {declaration declaration' : Node}
      (h : SameSignature declaration declaration') :
      Related (.exported isDefault declaration) (.exported isDefault declaration')

lemma Rule.Related.refl (rule : Rule) : rule.Related rule := by
  cases rule with
  | skip event => exact .skip event
  | function name params => exact .function name (SameSignature.reflAll params)
  | method name params => exact .method name (SameSignature.reflAll params)
  | property name => exact .property name
  | typeAlias name => exact .typeAlias name
  | binding kind id => exact .binding kind (.unchanged id)
  | moduleExports properties => exact .moduleExports (SameSignature.reflAll properties)
  | spec s => exact .spec (.refl s)
  | classDef name members => exact .classDef name (SameSignature.reflAll members)
  | exported isDefault declaration => exact .exported isDefault (.unchanged declaration)

lemma propertyRule_related (name : String) {value value' : Option Node}
    (h : Option.Rel SameSignature value value') :
    (propertyRule name value).Related (propertyRule name value') := by
  cases h with
  | none => exact .property name
  | some h =>
    cases h with
    | unchanged => exact .refl _
    | @function form _ _ _ _ hparams _ _ =>
      cases form with
      | arrow => exact .method name hparams
      | _ => exact .property name
    | _ => exact .property name

lemma methodParams_forall₂ {value value' : Node} (h : SameSignature value value') :
    List.Forall₂ SameSignature (methodParams value) (methodParams value') := by
  unfold methodParams
  have hrel := h.functionValue?_rel
  generalize value.functionValue? = f, value'.functionValue? = f' at hrel ⊢
  cases hrel with
  | none => exact .nil
  | some hparams => exact hparams

lemma keyedRule_related {key key' : Node} (h : SameSignature key key') (other : String → Event)
    {rule rule' : String → Rule} (hrule : ∀ name, (rule name).Related (rule' name)) :
    (keyedRule key other rule).Related (keyedRule key' other rule') := by
  unfold keyedRule
  rw [h.name?_eq, h.kindName_eq]
  cases key'.name? with
  | none => exact .skip _
  | some name => exact hrule name

lemma declaratorRule_related (kind : DeclarationKind) {d d' : Declarator Node}
    (h : SameDeclarator d d') (rest rest' : List (Declarator Node)) :
    (declaratorRule kind (d :: rest)).Related (declaratorRule kind (d' :: rest')) := by
  cases h with
  | noFunction hid hinit hinit' =>
    simp only [declaratorRule, hinit, hinit']
    exact .binding kind hid
  | @value loc id id' init init' hid hinit =>
    have hrel : Option.Rel (fun f f' => List.Forall₂ SameSignature f.1 f'.1)
        (init.bind Node.functionValue?)
        (init'.bind Node.functionValue?) := by
      cases hinit with
      | none => exact .none
      | some h => exact h.functionValue?_rel
    simp only [declaratorRule]
    generalize init.bind Node.functionValue? = f, init'.bind Node.functionValue? = f' at hrel ⊢
    cases hrel with
    | none => exact .binding kind hid
    | some hparams =>
      rw [hid.identifier?_eq]
      exact .function _ hparams

lemma isTarget_eq {n n' : Node} (h : SameSignature n n') :
    ModuleExports.isTarget n = ModuleExports.isTarget n' := by
  cases h with
  | @member _ _ _ _ _ computed howner hpart =>
    cases computed with
    | true => rfl
    | false => rw [ModuleExports.isTarget, ModuleExports.isTarget, howner.name?_eq, hpart.name?_eq]
  | _ => rfl

lemma properties?_rel {left left' right right' : Node} (hleft : SameSignature left left')
    (hright : SameSignature right right') :
    Option.Rel (List.Forall₂ SameSignature) (ModuleExports.properties? left right)
      (ModuleExports.properties? left' right') := by
  unfold ModuleExports.properties?
  rw [isTarget_eq hleft]
  split
  · cases hright with
    | unchanged =>
      cases right with
      | objectExpression loc properties => exact .some (SameSignature.reflAll properties)
      | _ => exact .none
    | objectExpression hproperties => exact .some hproperties
    | _ => exact .none
  · exact .none

lemma expressionRule_related {n n' : Node} (h : SameSignature n n') :
    (expressionRule n).Related (expressionRule n') := by
  have hcall {loc loc' callee callee' arguments arguments'}
      (h : SameSignature (.call loc callee arguments) (.call loc' callee' arguments')) :
      (expressionRule (.call loc callee arguments)).Related
        (expressionRule (.call loc' callee' arguments')) := by
    simp only [expressionRule]
    have hrel := Spec.ofCall?_rel h
    generalize Spec.ofCall? callee arguments = s, Spec.ofCall? callee' arguments' = s' at hrel ⊢
    cases hrel with
    | none => exact .skip none
    | some hrelated => exact .spec hrelated
  cases h with
  | unchanged => exact .refl _
  | call hcallee harguments => exact hcall (.call hcallee harguments)
  | specCall hs hgroup => exact hcall (.specCall hs hgroup)
  | @assignment _ left left' right right' hleft hright =>
    simp only [expressionRule]
    have hrel := properties?_rel hleft hright
    generalize ModuleExports.properties? left right = properties,
      ModuleExports.properties? left' right' = properties' at hrel ⊢
    cases hrel with
    | none => exact .skip none
    | some hrelated => exact .moduleExports hrelated
  | _ => exact .skip none

/-- Nodes with the same signature are treated by related rules. -/
lemma ruleOf_related {n n' : Node} (h : SameSignature n n') : (ruleOf n).Related (ruleOf n') := by
  cases h with
  | unchanged => exact .refl _
  | @function form _ _ _ _ hparams _ _ =>
    cases form with
    | expression => exact .skip _
    | _ => exact .function _ hparams
  | classDef hmembers => exact .classDef _ hmembers
  | classProperty hkey hvalue =>
    exact keyedRule_related hkey _ fun name => propertyRule_related name hvalue
  | methodDefinition hkey hvalue =>
    exact keyedRule_related hkey _ fun name => .method name (methodParams_forall₂ hvalue)
  | exportDeclaration hdeclaration =>
    cases hdeclaration with
    | none => exact .skip none
    | some h => exact .exported _ h
  | expressionStatement hexpression => exact expressionRule_related hexpression
  | variableDeclaration hd rest rest' => exact declaratorRule_related _ hd rest rest'
  | _ => exact .skip _

/-- The entry of a spec only depends on its label and on the entries below a group. -/
lemma specEntry_congr {below : List Node → Logged (List Entry)} {s s' : Spec} (h : s.Related s')
    (hbelow : ∀ body', List.Forall₂ SameSignature (callStatements s.body) (callStatements body') →
      below s.body = below body') (extent : Extent) :
      specEntry below s extent = specEntry below s' extent := by
  obtain ⟨callee, family, description, body⟩ := s
  obtain ⟨callee', family', description', body'⟩ := s'
  obtain ⟨rfl, rfl, rfl, hcalls⟩ := h
  cases family with
  | single => rfl
  | group => simp only [specEntry, hbelow body' (hcalls rfl), specLabel]

/-- Following related rules is the same if nodes with the same signature are visited alike. -/
lemma follow_eq_of_related (o : Options) {inner : Node → Run (Option Entry)}
    {below : List Node → Logged (List Entry)} {rule rule' : Rule} (h : rule.Related rule')
    (hinner : ∀ n ∈ rule.visits, ∀ n', SameSignature n n' → inner n = inner n')
    (hbelow : ∀ s, rule = .spec s →
      ∀ body', List.Forall₂ SameSignature (callStatements s.body) (callStatements body') →
      below s.body = below body') (extent : Extent) :
    rule.follow o inner below extent = rule'.follow o inner below extent := by
  cases h with
  | function name h => simp only [Rule.follow, functionEntry_congr_params o extent h]
  | method name h => simp only [Rule.follow, methodEntry_congr_params o extent h]
  | binding kind h => simp only [Rule.follow, bindingEntry_congr_id o extent h]
  | moduleExports h => simp only [Rule.follow, moduleExports_congr o extent h]
  | spec h => simp only [Rule.follow, specEntry_congr h (hbelow _ rfl)]
  | classDef name h => simp only [Rule.follow, Run.filterMap_congr_forall₂ h hinner]
  | exported isDefault h => simp only [Rule.follow, hinner _ (by simp [Rule.visits]) _ h]
  | _ => rfl

/-! ### The walk -/

/-- A statement in a group has the same entry as any statement with the same signature. -/
lemma specStatement?_eq_of_sameSignature {below : List Node → Logged (List Entry)} {n n' : Node}
    (h : SameSignature n n')
    (hbelow : ∀ s, ruleOf n = .spec s → ∀ body',
      List.Forall₂ SameSignature (callStatements s.body) (callStatements body') →
        below s.body = below body') :
    specStatement? below n = specStatement? below n' := by
  cases h with
  | @expressionStatement loc expression expression' hexpression =>
    have hcall {callLoc callee callee' arguments arguments'}
        (hexpression : expression = .call callLoc callee arguments)
        (h : SameSignature (.call callLoc callee arguments) (.call callLoc callee' arguments')) :
        specStatement? below (.expressionStatement loc (.call callLoc callee arguments)) =
          specStatement? below (.expressionStatement loc (.call callLoc callee' arguments')) := by
      simp only [specStatement?, entryOfCall?]
      cases Extent.ofLocation? loc with
      | none => rfl
      | some extent =>
        have hrel := Spec.ofCall?_rel h
        generalize hs : Spec.ofCall? callee arguments = spec,
          Spec.ofCall? callee' arguments' = spec' at hrel ⊢
        cases hrel with
        | none => rfl
        | @some s s' hrelated =>
          have hrule : ruleOf (.expressionStatement loc expression) = .spec s := by
            simp only [ruleOf, hexpression, expressionRule, hs, Option.elim_some]
          simp only [specEntry_congr hrelated (hbelow s hrule)]
    cases hexpression with
    | call hcallee harguments => exact hcall rfl (.call hcallee harguments)
    | specCall hs hgroup => exact hcall rfl (.specCall hs hgroup)
    | _ => rfl
  | _ => rfl

/-- Statements whose calls have the same signatures have the same entries in a group. -/
lemma specChildren_eq_of_sameSignature (o : Options) (depth : UInt64) (body body' : List Node)
    (h : List.Forall₂ SameSignature (callStatements body) (callStatements body')) :
    specChildren o depth body = specChildren o depth body' := by
  induction depth, body using spec_induction generalizing body' with
  | step depth body ih =>
    rw [← specChildren_callStatements o depth body, ← specChildren_callStatements o depth body',
      specChildren_eq, specChildren_eq o depth (callStatements body')]
    split
    · rfl
    · refine Logged.filterMap_congr_forall₂ h fun n hn n' hsame => ?_
      exact specStatement?_eq_of_sameSignature hsame (ih n (List.mem_of_mem_filter hn))

/-- A node is visited in the same way as any node with the same signature. -/
lemma visitOne_eq_of_sameSignature (o : Options) (depth : UInt64) (n n' : Node)
    (h : SameSignature n n') : visitOne o depth n = visitOne o depth n' := by
  induction depth, n using walk_induction generalizing n' with
  | step depth n ih =>
    rw [visitOne_eq, visitOne_eq o depth n', h.kindName_eq, h.extent?_eq]
    split
    · rfl
    · cases n'.extent? with
      | none => rfl
      | some extent =>
        refine follow_eq_of_related o (ruleOf_related h) (fun d hd d' => ih d hd d')
          (fun s _ body' => ?_) extent
        exact specChildren_eq_of_sameSignature o (depth + 1) s.body body'

/-- **Outlines depend on signatures only.**  Two programs whose statements have the same signatures
have the same outline or the same error under all options, and the same events are recorded on the
way. -/
theorem build_eq_of_sameSignature (o : Options) {p p' : Program}
    (h : List.Forall₂ SameSignature p.body p'.body) : build o p = build o p' := by
  have hwalk : visitAll o 0 p.body = visitAll o 0 p'.body :=
    Run.filterMap_congr_forall₂ h fun n _ n' hn => visitOne_eq_of_sameSignature o 0 n n' hn
  rw [build, build, hwalk]

/-- A function, a pattern and a group of specs, with edits in all of them at once: another body and
another declarator, no initial value and another binding for the key, and other parameters,
statements and arguments of the group and its spec. -/
theorem edited_program_same_outline :
    let on (line : UInt32) : Option Location := some ⟨⟨line, 0⟩, ⟨line, 9⟩⟩
    let name (s : String) : Node := .identifier ⟨none, s⟩
    let f (body : Node) (rest : List (Declarator Node)) : Node :=
      .variableDeclaration (on 1) .constKind
        (⟨none, name "f", some (.function .expression none none [name "a"] body)⟩ :: rest)
    let pattern (value : Node) (shorthand : Bool) (init : Option Node) : Node :=
      .variableDeclaration (on 2) .letKind
        [⟨none, .objectPattern none [.property none (name "b") value shorthand], init⟩]
    let spec (line : UInt32) (callee text : String) (params body rest : List Node) : Node :=
      .expressionStatement (on line) (.call none (name callee)
        (.literal none (.string text) :: .function .arrow none none params
          (.block none body) :: rest))
    let p : Program := ⟨none, [f (.block none []) [], pattern (name "c") false (some (name "d")),
      spec 3 "describe" "s" [] [spec 4 "it" "t" [] [] []] []]⟩
    let p' : Program := ⟨none, [f (name "a") [⟨none, name "g", none⟩], pattern (name "b") true none,
      spec 3 "describe" "s" [name "x"]
        [f (name "a") [], spec 4 "it" "t" [name "y"] [f (name "a") []] [name "z"]] [name "z"]]⟩
    let entry (row : UInt32) (kind : EntryKind) (label : Label) (name : Option String)
        (children : List Entry) :
        Entry := ⟨kind, label, name, ⟨⟨row, 0⟩, ⟨row, 9⟩⟩, children⟩
    List.Forall₂ SameSignature p.body p'.body ∧ (∀ o, build o p = build o p') ∧
      (build {} p).result = .ok ⟨[
        entry 0 .function [.method "f", .plain "(", .param "a", .plain ")"] (some "f") [],
        entry 1 .variableBinding [.plain "\x7b", .param "b", .plain "\x7d"] none [],
        entry 2 .function [.method "describe", .space, .string "s"] (some "s")
          [entry 3 .function [.method "it", .space, .string "t"] (some "t") []]]⟩ := by
  intro on name f pattern spec p p' entry
  have hf : SameSignature (f (.block none []) []) (f (name "a") [⟨none, name "g", none⟩]) :=
    .variableDeclaration
      (.value (.unchanged _) (.some (.function (SameSignature.reflAll _) _ _))) _ _
  have hpattern : SameSignature (pattern (name "c") false (some (name "d")))
      (pattern (name "b") true none) :=
    .variableDeclaration
      (.noFunction (.objectPattern (.cons (.property (.unchanged _) _ _ _ _) .nil)) rfl rfl) _ _
  have hit : SameSignature (spec 4 "it" "t" [] [] [])
      (spec 4 "it" "t" [name "y"] [f (name "a") []] [name "z"]) :=
    .expressionStatement (.specCall (s := ⟨"it", .single, "t", []⟩) rfl nofun)
  have hdescribe : SameSignature (spec 3 "describe" "s" [] [spec 4 "it" "t" [] [] []] [])
      (spec 3 "describe" "s" [name "x"]
        [f (name "a") [], spec 4 "it" "t" [name "y"] [f (name "a") []] [name "z"]] [name "z"]) :=
    .expressionStatement (.specCall (s := ⟨"describe", .group, "s", [spec 4 "it" "t" [] [] []]⟩) rfl
      fun _ => .cons hit .nil)
  have h : List.Forall₂ SameSignature p.body p'.body :=
    .cons hf (.cons hpattern (.cons hdescribe .nil))
  exact ⟨h, fun o => build_eq_of_sameSignature o h, rfl⟩

end Builder

end CodeOutline
