/-
The grammar of labels.

A label shows what its entry stands for.  It starts with the words of the exports around the entry,
and what follows depends on the kind of the entry, on its name, and on the options: which keywords
are shown, and whether parameters are.  `Shape` lists all kinds of entries that an outline has, each
with its labels and with what may stand below it.  Every entry at every level has one of these
shapes (`visitAll_label_grammar`), whatever the nodes are: a class member outside of a class, an
export inside of an export, a pattern where none should be.

Most rules make an entry of one shape.  An export puts its words before a label that is there
already, so it is the reason why the words of exports can come in any number.
-/
import CodeOutline.Proofs.Provenance

namespace CodeOutline

/-! ### Shapes of labels and entries -/

/-- The label of a pattern: a name, patterns in braces or in brackets, or three dots and a
pattern. -/
inductive Pattern.IsLabel : Label → Prop where
  | name (s : String) : IsLabel [.param s]
  | object {ls : List Label} (h : ∀ l ∈ ls, IsLabel l) :
      IsLabel (.plain "\x7b" :: separated ls ++ [.plain "\x7d"])
  | array {ls : List Label} (h : ∀ l ∈ ls, IsLabel l) :
      IsLabel (.plain "[" :: separated ls ++ [.plain "]"])
  | rest {l : Label} (h : IsLabel l) : IsLabel (.plain "..." :: l)

/-- The words that exports put before a label, each with a blank: `export` and `default`, as far as
they are shown. -/
inductive ExportWords (o : Options) : Label → Prop where
  | nil : ExportWords o []
  | exportWord {l : Label} (h : o.shows .exportWord) (rest : ExportWords o l) :
      ExportWords o (.keyword "export" :: .space :: l)
  | defaultWord {l : Label} (h : o.shows .defaultWord) (rest : ExportWords o l) :
      ExportWords o (.keyword "default" :: .space :: l)

/-- What a label shows of parameters: nothing, or patterns in parentheses. -/
def IsArguments (o : Options) (l : Label) : Prop :=
  if o.showArgs then ∃ ls, (∀ p ∈ ls, Pattern.IsLabel p) ∧
    l = .plain "(" :: Pattern.separated ls ++ [.plain ")"]
  else l = []

/-- What a label shows of a binding: a pattern, which is the name if the binding has one. -/
def IsBinding (name : Option String) (l : Label) : Prop :=
  Pattern.IsLabel l ∧ ∀ n, name = some n → l = [.param n]

/-- An entry for a call of a test framework. -/
def Entry.IsSpec (e : Entry) : Prop :=
  ∃ f n, (f ∈ SpecFamily.groupNames ∨ f ∈ SpecFamily.singleNames) ∧ e.kind = .function ∧
    e.name = some n ∧
    e.label = [.method f, .space, .string n]

/-- An entry for a property of `module.exports`: a function, a shorthand, or any other value. -/
def Entry.IsExportedProperty (o : Options) (e : Entry) : Prop :=
  ∃ n, e.name = some n ∧ e.children = [] ∧
    (e.kind = .method ∧
      ((∃ args, IsArguments o args ∧ e.label = .method n :: args) ∨ e.label = [.string n]) ∨
      e.kind = .field ∧ e.label = [.string n, .plain ":"])

/-- The shapes of entries: which kind, name, entries below and label go together.  The label is
given without the words of exports. -/
inductive Shape (o : Options) : EntryKind → Option String → List Entry → Label → Prop where
  | namedClass {n : String} (hn : n ≠ "") (children : List Entry) :
      Shape o .classType (some n) children
        ((if o.shows .classWord then [.keyword "class", .space] else []) ++ [.className n])
  | anonymousClass (children : List Entry) : Shape o .classType none children [.keyword "class"]
  | group {f : String} (hf : f ∈ SpecFamily.groupNames) (n : String) {children : List Entry}
      (hchildren : ∀ c ∈ children, c.IsSpec) :
      Shape o .function (some n) children [.method f, .space, .string n]
  | single {f : String} (hf : f ∈ SpecFamily.singleNames) (n : String) :
      Shape o .function (some n) [] [.method f, .space, .string n]
  | namedFunction {n : String} (hn : n ≠ "") {args : Label} (hargs : IsArguments o args) :
      Shape o .function (some n) []
        ((if o.shows .functionWord then [.keyword "function", .space] else []) ++ .method n :: args)
  | anonymousFunction {args : Label} (hargs : IsArguments o args) :
      Shape o .function none [] (.keyword "function" :: args)
  | method (n : String) {args : Label} (hargs : IsArguments o args) :
      Shape o .method (some n) [] (.method n :: args)
  | shorthand (n : String) : Shape o .method (some n) [] [.string n]
  | property (n : String) : Shape o .property (some n) [] [.param n, .plain ":"]
  | field (n : String) : Shape o .field (some n) [] [.string n, .plain ":"]
  | typeAlias (n : String) :
      Shape o .interfaceType (some n) []
        ((if o.shows .typeWord then [.keyword "type", .space] else []) ++ [.typeName n])
  | constantBinding {name : Option String} {l : Label} (h : IsBinding name l) :
      Shape o .constantBinding name []
        ((if o.shows .constWord then [.keyword "const", .space] else []) ++ l)
  | letBinding {name : Option String} {l : Label} (h : IsBinding name l) :
      Shape o .variableBinding name []
        ((if o.shows .letWord then [.keyword "let", .space] else []) ++ l)
  | varBinding {name : Option String} {l : Label} (h : IsBinding name l) :
      Shape o .variableBinding name []
        ((if o.shows .varWord then [.keyword "var", .space] else []) ++ l)
  | moduleExports {children : List Entry} (hchildren : ∀ c ∈ children, c.IsExportedProperty o) :
      Shape o .moduleScope none children [.plain "module.exports"]

/-- An entry has one of the shapes, after the words of exports. -/
def Entry.HasShape (o : Options) (e : Entry) : Prop :=
  ∃ words rest, e.label = words ++ rest ∧ ExportWords o words ∧
    Shape o e.kind e.name e.children rest

/-- An entry and all entries below it have shapes. -/
abbrev Entry.Shaped (o : Options) (e : Entry) : Prop :=
  Forest.Throughout Entry.children (Entry.HasShape o) e

/-! ### Patterns -/

namespace Pattern

/-- A list of labels that is made from its head and its tail is in the grammar if both are. -/
lemma isLabel_of_cons {x : Except UnexpectedPattern Label}
    {xs : Except UnexpectedPattern (List Label)} (hx : ∀ l, x = .ok l → IsLabel l)
    (hxs : ∀ ls, xs = .ok ls → ∀ l ∈ ls, IsLabel l) (ls : List Label)
    (h : (do let l ← x; return l :: (← xs) : Except UnexpectedPattern (List Label)) = .ok ls) :
    ∀ l ∈ ls, IsLabel l := by
  obtain ⟨l, hl, h⟩ := exists_ok_of_bind h
  obtain ⟨ls', hls', h⟩ := exists_ok_of_bind h
  obtain rfl := Except.ok.inj h
  intro p hp
  rcases List.mem_cons.1 hp with rfl | hp
  · exact hx p hl
  · exact hxs ls' hls' p hp

/-- The label that a pattern has is in the grammar.  The induction follows the three functions that
make the label. -/
lemma isLabel_label_all :
    (∀ n l, label n = .ok l → IsLabel l) ∧
      (∀ elements ls, elementLabels elements = .ok ls → ∀ l ∈ ls, IsLabel l) ∧
        ∀ members ls, memberLabels members = .ok ls → ∀ l ∈ ls, IsLabel l := by
  refine label.mutual_induct _ _ _ ?_ ?_ ?_ ?_ ?_ ?_ ?_ ?_ ?_ ?_ ?_ ?_
  · rintro id l ⟨⟩
    exact .name id.name
  · intro loc properties ih l h
    rw [label] at h
    obtain ⟨ls, hls, h⟩ := exists_ok_of_bind h
    obtain rfl := Except.ok.inj h
    exact .object (ih ls hls)
  · intro loc elements ih l h
    rw [label] at h
    obtain ⟨ls, hls, h⟩ := exists_ok_of_bind h
    obtain rfl := Except.ok.inj h
    exact .array (ih ls hls)
  · intro loc left ih l h
    rw [label] at h
    exact ih l h
  · intro loc argument ih l h
    rw [label] at h
    obtain ⟨l', hl', h⟩ := exists_ok_of_bind h
    obtain rfl := Except.ok.inj h
    exact .rest (ih l' hl')
  · intro n hid hobject harray hassignment hrest l h
    rw [label.eq_6 n hid hobject harray hassignment hrest] at h
    cases h
  · rintro ls ⟨⟩ l hl
    simp at hl
  · intro loc key value shorthand rest ihkey ihrest
    rw [memberLabels]
    exact isLabel_of_cons ihkey ihrest
  · intro n rest hproperty ihn ihrest
    rw [memberLabels.eq_3 n rest hproperty]
    exact isLabel_of_cons ihn ihrest
  · rintro ls ⟨⟩ l hl
    simp at hl
  · intro rest ih
    rw [elementLabels]
    exact ih
  · intro n rest ihn ihrest
    rw [elementLabels]
    exact isLabel_of_cons ihn ihrest

lemma isLabel_labels (patterns : List Node) :
    ∀ ls, labels patterns = .ok ls → ∀ l ∈ ls, IsLabel l := by
  induction patterns with
  | nil =>
    rintro ls ⟨⟩ l hl
    simp at hl
  | cons n rest ih => exact isLabel_of_cons (isLabel_label_all.1 n) ih

end Pattern

lemma SpecFamily.mem_of_ofName?_eq_some {name : String} {family : SpecFamily}
    (h : SpecFamily.ofName? name = some family) :
    (family = .group ∧ name ∈ SpecFamily.groupNames) ∨
      (family = .single ∧ name ∈ SpecFamily.singleNames) := by
  unfold SpecFamily.ofName? at h
  split at h
  · next hname => exact .inl ⟨(Option.some.inj h).symm, hname⟩
  · split at h
    · next hname => exact .inr ⟨(Option.some.inj h).symm, hname⟩
    · cases h

namespace Builder

variable {o : Options}

/-! ### Entries without children -/

lemma isArguments_argsLabel {params : List Node} {l : Label} (h : argsLabel o params = .ok l) :
    IsArguments o l := by
  unfold argsLabel at h
  unfold IsArguments
  split at h
  · next hargs =>
    rw [if_pos hargs]
    obtain ⟨inner, hinner, h⟩ := exists_ok_of_bind h
    obtain ⟨ls, hls, hinner⟩ := exists_ok_of_bind hinner
    obtain rfl := Except.ok.inj hinner
    exact ⟨ls, Pattern.isLabel_labels params ls hls, (Except.ok.inj h).symm⟩
  · next hargs =>
    rw [if_neg hargs]
    exact (Except.ok.inj h).symm

/-- The binding of a single pattern is the label of the pattern, and an identifier is shown by its
name. -/
lemma isBinding_listLabel {id : Node} {l : Label} (h : Pattern.listLabel [id] = .ok l) :
    IsBinding id.name? l := by
  obtain ⟨ls, hls, h⟩ := exists_ok_of_bind h
  obtain rfl := Except.ok.inj h
  obtain ⟨p, hp, hls⟩ := exists_ok_of_bind hls
  obtain rfl := Except.ok.inj hls
  refine ⟨Pattern.isLabel_label_all.1 id p hp, fun n hn => ?_⟩
  cases id with
  | identifier id =>
    obtain rfl : id.name = n := Option.some.inj hn
    exact (Except.ok.inj hp).symm
  | _ => cases hn

/-- An entry without children is shaped if its label has a shape.  No export is around it. -/
lemma shaped_leaf {kind : EntryKind} {label : Label} {name : Option String} {extent : Extent}
    (h : Shape o kind name [] label) : (Entry.leaf kind label name extent).Shaped o :=
  .intro ⟨[], label, rfl, .nil, h⟩ (by simp [Entry.leaf])

lemma shaped_functionEntry {name : Option String} {params : List Node} {extent : Extent} {e : Entry}
    (hname : name ≠ some "") (h : functionEntry o name params extent = .ok e) : e.Shaped o := by
  obtain ⟨args, hargs, h⟩ := exists_ok_of_bind h
  obtain rfl := Except.ok.inj h
  have hargs := isArguments_argsLabel hargs
  cases name with
  | none => exact shaped_leaf (.anonymousFunction hargs)
  | some n =>
    have hlabel : functionLabel o (some n) ++ args = shownKeyword o .functionWord ++
        .method n :: args :=
      List.append_assoc _ _ _
    rw [hlabel]
    exact shaped_leaf (.namedFunction (fun hn => hname (congrArg some hn)) hargs)

lemma shaped_methodEntry {name : String} {params : List Node} {extent : Extent} {e : Entry}
    (h : methodEntry o name params extent = .ok e) : e.Shaped o := by
  obtain ⟨args, hargs, h⟩ := exists_ok_of_bind h
  obtain rfl := Except.ok.inj h
  exact shaped_leaf (.method name (isArguments_argsLabel hargs))

lemma shaped_bindingEntry {kind : DeclarationKind} {id : Node} {extent : Extent} {e : Entry}
    (h : bindingEntry o kind id extent = .ok e) : e.Shaped o := by
  obtain ⟨pattern, hpattern, h⟩ := exists_ok_of_bind h
  obtain rfl := Except.ok.inj h
  have hbinding := isBinding_listLabel hpattern
  cases kind with
  | constKind => exact shaped_leaf (.constantBinding hbinding)
  | letKind => exact shaped_leaf (.letBinding hbinding)
  | varKind => exact shaped_leaf (.varBinding hbinding)

/-! ### Entries of `module.exports` -/

/-- An exported property has a shape of its own. -/
lemma shaped_of_isExportedProperty {e : Entry} (h : e.IsExportedProperty o) : e.Shaped o := by
  obtain ⟨kind, label, name, extent, children⟩ := e
  obtain ⟨n, rfl, rfl, ⟨rfl, ⟨args, hargs, rfl⟩ | rfl⟩ | ⟨rfl, rfl⟩⟩ := h
  · exact shaped_leaf (.method n hargs)
  · exact shaped_leaf (.shorthand n)
  · exact shaped_leaf (.field n)

lemma isExportedProperty_memberEntry {name : String} {value : Node} {shorthand : Bool}
    {extent : Extent} {e : Entry}
    (h : ModuleExports.memberEntry o name value shorthand extent = .ok e) :
    e.IsExportedProperty o := by
  unfold ModuleExports.memberEntry at h
  split at h
  · obtain rfl := Except.ok.inj h
    exact ⟨name, rfl, rfl, .inl ⟨rfl, .inr rfl⟩⟩
  · split at h
    · obtain ⟨args, hargs, h⟩ := exists_ok_of_bind h
      obtain rfl := Except.ok.inj h
      exact ⟨name, rfl, rfl, .inl ⟨rfl, .inl ⟨args, isArguments_argsLabel hargs, rfl⟩⟩⟩
    · obtain rfl := Except.ok.inj h
      exact ⟨name, rfl, rfl, .inr ⟨rfl, rfl⟩⟩

lemma isExportedProperty_entryOfProperty? {n : Node} {e : Entry}
    (h : ModuleExports.entryOfProperty? o n = .ok (some e)) : e.IsExportedProperty o := by
  cases n with
  | property loc key value shorthand =>
    simp only [ModuleExports.entryOfProperty?] at h
    split at h
    · exact isExportedProperty_memberEntry (eq_ok_of_map_some h)
    · simp at h
  | _ => simp [ModuleExports.entryOfProperty?] at h

/-- What holds of the value of every round of a loop that does not fail holds of every value of the
loop. -/
lemma forall_of_filterMap {f : Node → Run (Option Entry)} {ns : List Node} {es : List Entry}
    {P : Entry → Prop} (h : (Run.filterMap f ns).result = .ok es)
    (hf : ∀ n ∈ ns, ∀ e, (f n).result = .ok (some e) → P e) : ∀ e ∈ es, P e := by
  obtain ⟨g, rfl, hg⟩ := Run.filterMap_eq_ok h
  intro e he
  obtain ⟨n, hn, hgn⟩ := List.mem_filterMap.1 he
  exact hf n hn e (by rw [hg n hn, hgn])

lemma shaped_moduleExports {properties : List Node} {extent : Extent} {e : Entry}
    (h : ModuleExports.entry o properties extent = .ok e) : e.Shaped o := by
  obtain ⟨es, hes, h⟩ := exists_ok_of_bind h
  obtain rfl := Except.ok.inj h
  rw [propertyEntries_eq] at hes
  have hexported : ∀ e ∈ es, e.IsExportedProperty o :=
    forall_of_filterMap hes fun n _ e he => isExportedProperty_entryOfProperty? he
  refine .intro ⟨[], _, rfl, .nil, .moduleExports hexported⟩ ?_
  exact fun e he => shaped_of_isExportedProperty (hexported e he)

/-! ### Entries of specs -/

lemma family_of_ruleOf_eq_spec {node : Node} {s : Spec} (h : ruleOf node = .spec s) :
    SpecFamily.ofName? s.callee = some s.family := by
  have hfound := foundIn_ruleOf node
  rw [h] at hfound
  obtain ⟨-, -, callee, arguments, -, hs⟩ := hfound
  exact (Spec.ofCall?_eq_some_iff.1 hs).2.1

/-- The entry of a spec is an entry for a spec, and it is shaped if the entries below a group are
such entries. -/
lemma isSpec_specEntry {below : List Node → Logged (List Entry)} {node : Node} {s : Spec}
    (extent : Extent) (hrule : ruleOf node = .spec s)
    (hbelow : ∀ e ∈ (below s.body).value, e.IsSpec ∧ e.Shaped o) :
    (specEntry below s extent).value.IsSpec ∧ (specEntry below s extent).value.Shaped o := by
  rw [value_specEntry]
  rcases SpecFamily.mem_of_ofName?_eq_some (family_of_ruleOf_eq_spec hrule)
    with ⟨hgroup, hname⟩ | ⟨hsingle, hname⟩
  · rw [if_pos hgroup]
    refine ⟨⟨s.callee, s.description, .inl hname, rfl, rfl, rfl⟩, ?_⟩
    refine .intro ⟨[], _, rfl, .nil, .group hname s.description fun e he => (hbelow e he).1⟩ ?_
    exact fun e he => (hbelow e he).2
  · rw [if_neg (by simp [hsingle])]
    refine ⟨⟨s.callee, s.description, .inr hname, rfl, rfl, rfl⟩, ?_⟩
    exact shaped_leaf (.single hname s.description)

/-- All entries below a group are entries for specs, however many levels are left. -/
lemma isSpec_specEntries (levels : Nat) (body : List Node) :
    ∀ e ∈ (specEntries o levels body).value, e.IsSpec ∧ e.Shaped o := by
  induction levels generalizing body with
  | zero =>
    intro e he
    cases he
  | succ levels ih =>
    intro e he
    rw [specEntries, Logged.value_filterMap] at he
    obtain ⟨node, -, hnode⟩ := List.mem_filterMap.1 he
    rcases specStatement?_cases node with ⟨extent, s, -, hrule, hstatement⟩ | hnone
    · rw [hstatement, Logged.value_map] at hnode
      obtain rfl := Option.some.inj hnode
      exact isSpec_specEntry extent hrule (ih s.body)
    · rw [hnone] at hnode
      cases hnode

/-! ### Names of functions and classes -/

lemma properName?_ne_empty (id : Option Identifier) : properName? id ≠ some "" := by
  intro h
  have hne := (Option.filter_eq_some_iff.1 h).2
  simp at hne

/-- A function is listed without a name rather than with an empty one. -/
lemma name_ne_empty_of_ruleOf_eq_function {node : Node} {name : Option String} {params : List Node}
    (h : ruleOf node = .function name params) : name ≠ some "" := by
  cases node with
  | function form loc id params' body =>
    cases form with
    | expression => simp [ruleOf] at h
    | _ =>
      obtain ⟨rfl, -⟩ : properName? id = name ∧ params' = params := by simpa [ruleOf] using h
      exact properName?_ne_empty id
  | variableDeclaration loc kind declarators =>
    cases declarators with
    | nil => simp [ruleOf, declaratorRule] at h
    | cons d rest =>
      simp only [ruleOf, declaratorRule] at h
      split at h
      · obtain ⟨rfl, -⟩ := Rule.function.inj h
        exact properName?_ne_empty _
      · simp at h
  | classProperty loc key value =>
    simp only [ruleOf, keyedRule, propertyRule] at h
    split at h
    · split at h <;> simp at h
    · simp at h
  | methodDefinition loc key value =>
    simp only [ruleOf, keyedRule] at h
    split at h <;> simp at h
  | exportDeclaration form loc declaration flag => cases declaration <;> simp [ruleOf] at h
  | expressionStatement loc expression =>
    cases expression with
    | call callLoc callee arguments =>
      simp only [ruleOf, expressionRule] at h
      cases hs : Spec.ofCall? callee arguments <;> simp [hs] at h
    | assignment assignmentLoc left right =>
      simp only [ruleOf, expressionRule] at h
      cases hp : ModuleExports.properties? left right <;> simp [hp] at h
    | _ => simp [ruleOf, expressionRule] at h
  | _ => simp [ruleOf] at h

/-! ### The walk -/

/-- The words of an export, before those that are there already. -/
lemma exportWords_exportLabel (isDefault : Bool) {words : Label} (h : ExportWords o words) :
    ExportWords o (exportLabel o isDefault ++ words) := by
  have hdefault :
      ExportWords o ((if isDefault then shownKeyword o .defaultWord else []) ++ words) := by
    split
    · unfold shownKeyword
      split
      · next hshown => exact .defaultWord hshown h
      · exact h
    · exact h
  rw [exportLabel, List.append_assoc]
  unfold shownKeyword
  split
  · next hshown => exact .exportWord hshown hdefault
  · exact hdefault

/-- An export keeps an entry shaped. -/
lemma shaped_exportEntry {e : Entry} (isDefault : Bool) (extent : Extent) (h : e.Shaped o) :
    (exportEntry o isDefault extent e).Shaped o := by
  obtain ⟨⟨words, rest, hlabel, hwords, hshape⟩, inside⟩ := h
  refine .intro ⟨exportLabel o isDefault ++ words, rest, ?_,
    exportWords_exportLabel isDefault hwords, hshape⟩ inside
  rw [exportEntry, hlabel, List.append_assoc]

/-- A class is shaped if its members are. -/
lemma shaped_class {name : Option String} {extent : Extent} {children : List Entry}
    (hname : name ≠ some "") (h : ∀ e ∈ children, e.Shaped o) :
    Entry.Shaped o ⟨.classType, classLabel o name, name, extent, children⟩ := by
  refine .intro ⟨[], classLabel o name, rfl, .nil, ?_⟩ h
  cases name with
  | none => exact .anonymousClass children
  | some n => exact .namedClass (fun hn => hname (congrArg some hn)) children

/-- Following a rule gives a shaped entry, if that holds of what is done with the nodes below. -/
lemma shaped_follow {inner : Node → Run (Option Entry)}
    {below : List Node → Logged (List Entry)} {node : Node} {extent : Extent} {e : Entry}
    (hinner : ∀ n ∈ (ruleOf node).visits, ∀ e, (inner n).result = .ok (some e) → e.Shaped o)
    (hbelow : ∀ body, ∀ e ∈ (below body).value, e.IsSpec ∧ e.Shaped o)
    (h : ((ruleOf node).follow o inner below extent).result = .ok (some e)) : e.Shaped o := by
  cases hrule : ruleOf node with
  | skip event =>
    rw [hrule] at h
    cases event <;> simp [Rule.follow, Except.bind] at h
  | function name params =>
    rw [hrule] at h
    exact shaped_functionEntry (name_ne_empty_of_ruleOf_eq_function hrule) (eq_ok_of_map_some h)
  | method name params =>
    rw [hrule] at h
    exact shaped_methodEntry (eq_ok_of_map_some h)
  | property name =>
    rw [hrule] at h
    obtain rfl := Option.some.inj (Except.ok.inj h)
    exact shaped_leaf (.property name)
  | typeAlias name =>
    rw [hrule] at h
    obtain rfl := Option.some.inj (Except.ok.inj h)
    exact shaped_leaf (.typeAlias name)
  | binding kind id =>
    rw [hrule] at h
    exact shaped_bindingEntry (eq_ok_of_map_some h)
  | moduleExports properties =>
    rw [hrule] at h
    exact shaped_moduleExports (eq_ok_of_map_some h)
  | spec s =>
    rw [hrule] at h
    obtain rfl := Option.some.inj (Except.ok.inj h)
    exact (isSpec_specEntry extent hrule (hbelow s.body)).2
  | classDef name members =>
    have hfound := foundIn_ruleOf node
    rw [hrule] at h hinner hfound
    obtain ⟨-, -, id, -, rfl⟩ := hfound
    simp only [Rule.follow, Run.result_bind] at h
    obtain ⟨es, hes, h⟩ := exists_ok_of_bind h
    obtain rfl := Option.some.inj (Except.ok.inj h)
    exact shaped_class (properName?_ne_empty id) (forall_of_filterMap hes hinner)
  | exported isDefault declaration =>
    rw [hrule] at h hinner
    simp only [Rule.follow, Run.result_bind, Run.result_pure] at h
    obtain ⟨entry, hentry, h⟩ := exists_ok_of_bind h
    obtain ⟨inside, rfl, rfl⟩ := Option.map_eq_some_iff.1 (Except.ok.inj h)
    exact shaped_exportEntry isDefault extent
      (hinner declaration (by simp [Rule.visits]) inside hentry)

/-- The entry of a node is shaped, however many levels are left. -/
lemma shaped_visit {levels : Nat} {node : Node} {e : Entry}
    (h : (visit o levels node).result = .ok (some e)) : e.Shaped o := by
  induction levels generalizing node e with
  | zero => simp [visit_zero] at h
  | succ levels ih =>
    rw [visit_succ] at h
    cases hextent : node.extent? with
    | none => simp [hextent] at h
    | some extent =>
      rw [hextent] at h
      exact shaped_follow (fun n _ e he => ih he) (isSpec_specEntries levels) h

/-- **Every label is in the grammar.**  Every entry at every level has a label that consists of
words of exports and of what belongs to its kind, its name, the entries below it and the options. -/
theorem visitAll_label_grammar {depth : UInt64} {nodes : List Node} {es : List Entry}
    (h : (visitAll o depth nodes).result = .ok es) :
    ∀ a e, Forest.at? Entry.children es a = some e →
      ∃ words rest, e.label = words ++ rest ∧ ExportWords o words ∧
        Shape o e.kind e.name e.children rest := by
  have hshaped : ∀ e ∈ es, e.Shaped o := forall_of_filterMap h fun _ _ _ he => shaped_visit he
  intro a e ha
  have hshape : e.HasShape o := Forest.Throughout.at? hshaped ha
  exact hshape

/-- The class in `export default class A { m({x}) {} }` has the words of its export before its
label, and the method below it has none. -/
theorem exported_class_and_method_in_grammar :
    let on (line : UInt32) : Option Location := some ⟨⟨line, 0⟩, ⟨line, 9⟩⟩
    let param : Node := .objectPattern none [.property none (.identifier ⟨none, "x"⟩) .untyped true]
    let method : Node :=
      .methodDefinition (on 2) (.identifier ⟨none, "m"⟩)
        (.function .expression none none [param] .untyped)
    let nodes : List Node := [.exportDeclaration .defaulted (on 1)
      (some (.classDef .declaration (on 1) (some ⟨none, "A"⟩) [method])) false]
    let o : Options := { visibility := .all }
    ∃ es, (visitAll o 0 nodes).result = .ok es ∧
      (∃ e, Forest.at? Entry.children es [0] = some e ∧
        e.label = [.keyword "export", .space, .keyword "default", .space, .keyword "class", .space,
          .className "A"] ∧
          ∃ words rest, e.label = words ++ rest ∧ ExportWords o words ∧
            Shape o e.kind e.name e.children rest) ∧
      ∃ e, Forest.at? Entry.children es [0, 0] = some e ∧
        e.label = [.method "m", .plain "(", .plain "\x7b", .param "x", .plain "\x7d", .plain ")"] ∧
          ∃ words rest, e.label = words ++ rest ∧ ExportWords o words ∧
            Shape o e.kind e.name e.children rest := by
  intro on param method nodes o
  have hvisit : (visitAll o 0 nodes).result =
      .ok [⟨.classType, [.keyword "export", .space, .keyword "default", .space,
      .keyword "class", .space, .className "A"], some "A", ⟨⟨0, 0⟩, ⟨0, 9⟩⟩,
        [⟨.method, [.method "m", .plain "(",
        .plain "\x7b", .param "x", .plain "\x7d", .plain ")"], some "m", ⟨⟨1, 0⟩, ⟨1, 9⟩⟩, []⟩]⟩] :=
          rfl
  have hgrammar := visitAll_label_grammar hvisit
  exact ⟨_, hvisit, ⟨_, rfl, rfl, hgrammar [0] _ rfl⟩, _, rfl, rfl, hgrammar [0, 0] _ rfl⟩

end Builder

end CodeOutline
