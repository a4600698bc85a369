/-
Parameters are shown at the end of labels, or not at all.

Three functions put parameters into labels: for functions, for methods of classes and for the
functions among the properties of `module.exports`.  Each of them does so last, so hiding parameters
cuts off the end of a label and changes nothing else (`build_parameters_extend_labels`).  What is
cut off is a list in parentheses.  It is there for every function but the specs, and for every
method but the shorthand properties of `module.exports`.

The two outlines do not succeed together: a parameter that is no pattern only matters if parameters
are shown.  So one direction is proved, from the outline with parameters to the one without them.
-/
import CodeOutline.Proofs.DepthLimit
import CodeOutline.Proofs.LabelGrammar

namespace CodeOutline

/-- Loops succeed together if their rounds do.  The lists that they give are related as their parts
are. -/
lemma Run.Prunes.filterMap {α β : Type} {T : List β → List β → Prop}
    {f g : α → Run (Option β)} {as : List α} (hnil : T [] [])
    (happend : ∀ {bs cs bs' cs'}, T bs cs → T bs' cs' → T (bs ++ bs') (cs ++ cs'))
    (h : ∀ a ∈ as, Prunes (fun b c => T b.toList c.toList) (f a) (g a)) :
    Prunes T (Run.filterMap f as) (Run.filterMap g as) := by
  induction as with
  | nil => exact .pure hnil
  | cons a as ih =>
    refine (h a (by simp)).bind fun b c hbc => ?_
    refine (ih fun a' ha' => h a' (by simp [ha'])).bind fun bs cs hbcs => ?_
    exact .pure (happend hbc hbcs)

/-! ### Entries with and without parameters -/

namespace Entry

/-- The entry is for a spec: apart from the words of exports, its label is the name of a function of
a test framework and the description. -/
def ListsSpec (e : Entry) : Prop :=
  ∃ f n, (f ∈ SpecFamily.groupNames ∨ f ∈ SpecFamily.singleNames) ∧ e.name = some n ∧
    e.label.withoutKeywords = [.method f, .space, .string n]

/-- The entry, which is below one of the given kind, is for a shorthand property of
`module.exports`: its label is its name as a string. -/
def ListsShorthand (parent : Option EntryKind) (e : Entry) : Prop :=
  parent = some .moduleScope ∧ ∃ n, e.name = some n ∧ e.label.withoutKeywords = [.string n]

/-- The entry is for a function or a method that can have parameters. -/
def TakesParameters (parent : Option EntryKind) (e : Entry) : Prop :=
  e.kind = .function ∧ ¬ e.ListsSpec ∨ e.kind = .method ∧ ¬ e.ListsShorthand parent

/-- Two lists of entries correspond item by item, and so do the entries below.  The label of an
entry that takes parameters is longer in the second list, by something in parentheses; all else is
the same.  The entries of the lists are below one of the given kind. -/
inductive WithParameters : Option EntryKind → List Entry → List Entry → Prop where
  | nil {parent : Option EntryKind} : WithParameters parent [] []
  | cons {parent : Option EntryKind} {kind : EntryKind} {label args : Label} {name : Option String}
      {extent : Extent} {children children' rest rest' : List Entry}
      (hargs : args ≠ [] ↔ TakesParameters parent ⟨kind, label, name, extent, children⟩)
      (hparentheses : args ≠ [] → ∃ inner, args = .plain "(" :: inner ++ [.plain ")"])
      (hchildren : WithParameters (some kind) children children')
      (hrest : WithParameters parent rest rest') :
      WithParameters parent (⟨kind, label, name, extent, children⟩ :: rest)
        (⟨kind, label ++ args, name, extent, children'⟩ :: rest')

namespace WithParameters

variable {parent : Option EntryKind} {kind : EntryKind} {label : Label} {name : Option String}
  {extent : Extent}

lemma append {es es' fs fs' : List Entry} (h : WithParameters parent es es')
    (hf : WithParameters parent fs fs') : WithParameters parent (es ++ fs) (es' ++ fs') := by
  induction h with
  | nil => exact hf
  | cons hargs hparentheses hchildren _ _ ih => exact .cons hargs hparentheses hchildren (ih hf)

/-- An entry that takes no parameters keeps its label. -/
lemma unchanged {children children' : List Entry}
    (h : ¬ TakesParameters parent ⟨kind, label, name, extent, children⟩)
    (hchildren : WithParameters (some kind) children children') :
    WithParameters parent [⟨kind, label, name, extent, children⟩]
      [⟨kind, label, name, extent, children'⟩] := by
  have hnone : WithParameters parent [⟨kind, label, name, extent, children⟩]
      [⟨kind, label ++ [], name, extent, children'⟩] :=
    .cons ⟨fun hne => absurd rfl hne, fun htakes => absurd htakes h⟩ (fun hne => absurd rfl hne)
      hchildren .nil
  rwa [List.append_nil] at hnone

/-- An entry that is neither a function nor a method keeps its label. -/
lemma unchanged_of_kind {children children' : List Entry} (hfunction : kind ≠ .function)
    (hmethod : kind ≠ .method) (hchildren : WithParameters (some kind) children children') :
    WithParameters parent [⟨kind, label, name, extent, children⟩]
      [⟨kind, label, name, extent, children'⟩] := by
  refine unchanged ?_ hchildren
  rintro (⟨hkind, -⟩ | ⟨hkind, -⟩)
  · exact hfunction hkind
  · exact hmethod hkind

end WithParameters

end Entry

open Entry (WithParameters TakesParameters)

namespace Builder

open Run (Prunes)

variable {o : Options}

/-- At most one entry without parameters, and the same with them. -/
abbrev WithParameters? (parent : Option EntryKind) (e e' : Option Entry) : Prop :=
  WithParameters parent e.toList e'.toList

/-! ### Functions and methods -/

lemma exists_parentheses {params : List Node} {l : Label} (h : Pattern.paramsLabel params = .ok l) :
    ∃ inner, l = .plain "(" :: inner ++ [.plain ")"] := by
  obtain ⟨inner, -, h⟩ := exists_ok_of_bind h
  exact ⟨inner, (Except.ok.inj h).symm⟩

/-- An entry whose label ends with its parameters is there without them, too. -/
lemma prunes_of_args {parent : Option EntryKind} {kind : EntryKind} {label : Label}
    {name : Option String} {extent : Extent} (params : List Node)
    (htakes : TakesParameters parent (.leaf kind label name extent)) :
    Prunes (WithParameters? parent)
      (Run.ofExcept ((do
        return .leaf kind (label ++ (← argsLabel { o with showArgs := false } params)) name extent :
        Except UnexpectedPattern Entry).map some))
      (Run.ofExcept ((do
        return .leaf kind (label ++ (← argsLabel { o with showArgs := true } params)) name extent :
        Except UnexpectedPattern Entry).map some)) := by
  intro b hb
  obtain ⟨e', he', hb⟩ := exists_ok_of_bind hb
  obtain rfl := Except.ok.inj hb
  obtain ⟨args, hargs, he'⟩ := exists_ok_of_bind he'
  obtain rfl := Except.ok.inj he'
  obtain ⟨inner, hinner⟩ := exists_parentheses hargs
  refine ⟨some (.leaf kind label name extent), ?_, ?_⟩
  · have hhidden : label ++ [] = label := List.append_nil label
    exact congrArg (fun l => Except.ok (some (Entry.leaf kind l name extent))) hhidden
  · have hne : args ≠ [] := by
      rw [hinner]
      exact List.cons_ne_nil _ _
    exact .cons ⟨fun _ => htakes, fun _ => hne⟩ (fun _ => ⟨inner, hinner⟩) .nil .nil

/-- The label of a function is not that of a spec. -/
lemma takesParameters_function (parent : Option EntryKind) (name : Option String)
    (extent : Extent) :
    TakesParameters parent (.leaf .function (functionLabel o name) name extent) := by
  refine .inl ⟨rfl, ?_⟩
  rintro ⟨f, n, -, -, hlabel⟩
  cases name with
  | none => cases hlabel
  | some name =>
    simp only [Entry.leaf, functionLabel, withoutKeywords_shownKeyword_append] at hlabel
    cases hlabel

/-- The label of a method is not that of a shorthand. -/
lemma takesParameters_method (parent : Option EntryKind) (name : String) (extent : Extent) :
    TakesParameters parent (.leaf .method [.method name] name extent) := by
  refine .inr ⟨rfl, ?_⟩
  rintro ⟨-, n, -, hlabel⟩
  cases hlabel

lemma prunes_functionEntry (parent : Option EntryKind) (name : Option String) (params : List Node)
    (extent : Extent) :
    Prunes (WithParameters? parent)
      (Run.ofExcept ((functionEntry { o with showArgs := false } name params extent).map some))
      (Run.ofExcept ((functionEntry { o with showArgs := true } name params extent).map some)) := by
  have hlabel : ∀ shown,
      functionLabel { o with showArgs := shown } name = functionLabel o name := by
    intro shown
    cases name <;> rfl
  unfold functionEntry
  rw [hlabel, hlabel]
  exact prunes_of_args params (takesParameters_function parent name extent)

lemma prunes_methodEntry
    (parent : Option EntryKind) (name : String) (params : List Node) (extent : Extent) :
    Prunes (WithParameters? parent)
      (Run.ofExcept ((methodEntry { o with showArgs := false } name params extent).map some))
      (Run.ofExcept ((methodEntry { o with showArgs := true } name params extent).map some)) :=
  prunes_of_args params (takesParameters_method parent name extent)

/-! ### Properties of `module.exports` -/

lemma prunes_memberEntry (name : String) (value : Node) (shorthand : Bool) (extent : Extent) :
    Prunes (WithParameters? (some .moduleScope))
      (Run.ofExcept
        ((ModuleExports.memberEntry { o with showArgs := false } name value shorthand extent).map
          some))
      (Run.ofExcept
        ((ModuleExports.memberEntry { o with showArgs := true } name value shorthand extent).map
          some)) := by
  unfold ModuleExports.memberEntry
  cases shorthand with
  | true =>
    refine .pure (.unchanged ?_ .nil)
    rintro (⟨hkind, -⟩ | ⟨-, hno⟩)
    · cases hkind
    · exact hno ⟨rfl, name, rfl, rfl⟩
  | false =>
    simp only [Bool.false_eq_true, if_false]
    cases value.functionValue? with
    | some f => exact prunes_methodEntry _ name f.1 extent
    | none => exact .pure (.unchanged_of_kind (by simp) (by simp) .nil)

lemma prunes_entryOfProperty? (n : Node) :
    Prunes (WithParameters? (some .moduleScope))
      (Run.ofExcept (ModuleExports.entryOfProperty? { o with showArgs := false } n))
      (Run.ofExcept (ModuleExports.entryOfProperty? { o with showArgs := true } n)) := by
  cases n with
  | property loc key value shorthand =>
    simp only [ModuleExports.entryOfProperty?]
    split
    · exact prunes_memberEntry _ value shorthand _
    · exact .pure .nil
  | _ => exact .pure .nil

lemma prunes_moduleExports (parent : Option EntryKind) (properties : List Node) (extent : Extent) :
    Prunes (WithParameters? parent)
      (Run.ofExcept ((ModuleExports.entry { o with showArgs := false } properties extent).map some))
      (Run.ofExcept
        ((ModuleExports.entry { o with showArgs := true } properties extent).map some)) := by
  have hproperties := Prunes.filterMap (T := WithParameters (some .moduleScope)) .nil .append
    fun n (_ : n ∈ properties) => prunes_entryOfProperty? (o := o) n
  intro b hb
  obtain ⟨e', he', hb⟩ := exists_ok_of_bind hb
  obtain rfl := Except.ok.inj hb
  obtain ⟨children', hchildren', he'⟩ := exists_ok_of_bind he'
  obtain rfl := Except.ok.inj he'
  rw [propertyEntries_eq] at hchildren'
  obtain ⟨children, hchildren, hextended⟩ := hproperties children' hchildren'
  rw [← propertyEntries_eq] at hchildren
  refine ⟨some ⟨.moduleScope, [.plain "module.exports"], none, extent, children⟩, ?_,
    .unchanged_of_kind (by simp) (by simp) hextended⟩
  simp only [ModuleExports.entry, hchildren]
  rfl

/-! ### Specs -/

/-- The entry of a spec shows no parameters, and so do those below it. -/
lemma withParameters_specEntry {below : List Node → Logged (List Entry)} {node : Node} {s : Spec}
    (extent : Extent) (hrule : ruleOf node = .spec s)
    (hbelow : WithParameters (some .function) (below s.body).value (below s.body).value)
    (parent : Option EntryKind) :
    WithParameters parent [(specEntry below s extent).value]
      [(specEntry below s extent).value] := by
  have hname : s.callee ∈ SpecFamily.groupNames ∨ s.callee ∈ SpecFamily.singleNames := by
    rcases SpecFamily.mem_of_ofName?_eq_some (family_of_ruleOf_eq_spec hrule)
      with ⟨-, hgroup⟩ | ⟨-, hsingle⟩
    · exact .inl hgroup
    · exact .inr hsingle
  rw [value_specEntry]
  refine .unchanged ?_ ?_
  · rintro (⟨-, hno⟩ | ⟨hkind, -⟩)
    · exact hno ⟨s.callee, s.description, hname, rfl, rfl⟩
    · cases hkind
  · split
    · exact hbelow
    · exact .nil

lemma withParameters_specEntries (levels : Nat) (body : List Node) (parent : Option EntryKind) :
    WithParameters parent (specEntries o levels body).value (specEntries o levels body).value := by
  induction levels generalizing body parent with
  | zero => exact .nil
  | succ levels ih =>
    rw [specEntries, Logged.value_filterMap]
    induction body with
    | nil => exact .nil
    | cons node rest ihrest =>
      rw [List.filterMap_cons]
      rcases specStatement?_cases node with ⟨extent, s, -, hrule, hstatement⟩ | hnone
      · rw [hstatement, Logged.value_map]
        exact (withParameters_specEntry extent hrule (ih s.body _) parent).append ihrest
      · rw [hnone]
        exact ihrest

/-! ### The walk -/

/-- An export takes parameters if its declaration does. -/
lemma takesParameters_exportEntry (parent : Option EntryKind) (isDefault : Bool)
    (extent : Extent) (e : Entry) :
    TakesParameters parent (exportEntry o isDefault extent e) ↔ TakesParameters parent e := by
  simp only [TakesParameters, Entry.ListsSpec, Entry.ListsShorthand, exportEntry,
    withoutKeywords_exportLabel_append]

/-- An export puts its words before a label, so parameters stay at the end. -/
lemma withParameters_exportEntry {parent : Option EntryKind} {e e' : Entry} (isDefault : Bool)
    (extent : Extent) (h : WithParameters parent [e] [e']) :
    WithParameters parent [exportEntry { o with showArgs := false } isDefault extent e]
      [exportEntry { o with showArgs := true } isDefault extent e'] := by
  cases h with
  | @cons _ kind label args name inner children children' _ _ hargs hparentheses hchildren _ =>
    have htakes :=
      takesParameters_exportEntry (o := o) parent isDefault extent
        ⟨kind, label, name, inner, children⟩
    have hlabel : exportLabel o isDefault ++ (label ++ args) =
        (exportLabel o isDefault ++ label) ++ args :=
      (List.append_assoc _ _ _).symm
    have hexported := WithParameters.cons (hargs.trans htakes.symm) hparentheses hchildren .nil
    rw [← hlabel] at hexported
    exact hexported

/-- Following a rule succeeds without parameters if it does with them, and if that holds of the
visits that it makes. -/
lemma prunes_follow {inner inner' : Node → Run (Option Entry)} {levels : Nat} {node : Node}
    (extent : Extent) (hinner : ∀ parent n, Prunes (WithParameters? parent) (inner n) (inner' n))
    (parent : Option EntryKind) :
    Prunes (WithParameters? parent)
      ((ruleOf node).follow { o with showArgs := false } inner (specEntries o levels) extent)
      ((ruleOf node).follow { o with showArgs := true } inner' (specEntries o levels) extent) := by
  cases hrule : ruleOf node with
  | skip event =>
    cases event with
    | none => exact .pure .nil
    | some event => exact .pure .nil
  | function name params => exact prunes_functionEntry parent name params extent
  | method name params => exact prunes_methodEntry parent name params extent
  | property name => exact .pure (.unchanged_of_kind (by simp) (by simp) .nil)
  | typeAlias name => exact .pure (.unchanged_of_kind (by simp) (by simp) .nil)
  | binding kind id =>
    -- the entry of a binding does not depend on whether parameters are shown
    intro b hb
    refine ⟨b, hb, ?_⟩
    obtain ⟨e, he, hb⟩ := exists_ok_of_bind hb
    obtain rfl := Except.ok.inj hb
    obtain ⟨pattern, -, he⟩ := exists_ok_of_bind he
    obtain rfl := Except.ok.inj he
    refine .unchanged_of_kind ?_ ?_ .nil
    · cases kind <;> simp [variableKind]
    · cases kind <;> simp [variableKind]
  | moduleExports properties => exact prunes_moduleExports parent properties extent
  | spec s =>
    refine .pure ?_
    exact withParameters_specEntry extent hrule (withParameters_specEntries levels s.body _) parent
  | classDef name members =>
    have hmembers := Prunes.filterMap (T := WithParameters (some .classType)) .nil .append
      fun n (_ : n ∈ members) => hinner (some .classType) n
    refine hmembers.bind fun children children' hchildren => .pure ?_
    have hlabel : ∀ shown, classLabel { o with showArgs := shown } name = classLabel o name := by
      intro shown
      cases name <;> rfl
    rw [hlabel, hlabel]
    exact .unchanged_of_kind (by simp) (by simp) hchildren
  | exported isDefault declaration =>
    refine (hinner parent declaration).bind fun e e' he => .pure ?_
    cases e with
    | none =>
      cases e' with
      | none => exact .nil
      | some e' => cases he
    | some e =>
      cases e' with
      | none => cases he
      | some e' => exact withParameters_exportEntry isDefault extent he

/-- The induction is on the levels that are left: the visits below have one level less. -/
lemma prunes_visit (levels : Nat) (node : Node) (parent : Option EntryKind) :
    Prunes (WithParameters? parent) (visit { o with showArgs := false } levels node)
      (visit { o with showArgs := true } levels node) := by
  induction levels generalizing node parent with
  | zero =>
    intro b hb
    obtain rfl := Except.ok.inj hb
    exact ⟨none, rfl, .nil⟩
  | succ levels ih =>
    have hspecs : ∀ shown, specEntries { o with showArgs := shown } levels = specEntries o levels :=
      fun shown => specEntries_congr (by rfl) levels
    rw [visit_succ, visit_succ, hspecs false, hspecs true]
    cases node.extent? with
    | none => exact .pure .nil
    | some extent => exact prunes_follow extent (fun parent n => ih n parent) parent

/-- **Showing parameters only makes labels longer.**  If an outline can be built with parameters, it
can be built without them.  Its entries are the same but for their labels: with parameters, the
label of a function that is no spec, and of a method that is no shorthand, goes on with a list in
parentheses.  If an outline cannot be built without parameters, it cannot be built with them. -/
theorem build_parameters_extend_labels (o : Options) (p : Program) :
    (∀ shown, (build { o with showArgs := true } p).result = .ok shown →
      ∃ hidden, (build { o with showArgs := false } p).result = .ok hidden ∧
        WithParameters none hidden.entries shown.entries) ∧
    ∀ e, (build { o with showArgs := false } p).result = .error e →
      ∃ e', (build { o with showArgs := true } p).result = .error e' := by
  have hwalk : Prunes (WithParameters none) (visitAll { o with showArgs := false } 0 p.body)
      (visitAll { o with showArgs := true } 0 p.body) :=
    .filterMap .nil .append fun node _ => prunes_visit _ node none
  have hbuild : Prunes (fun hidden shown => WithParameters none hidden.entries shown.entries)
      (build { o with showArgs := false } p) (build { o with showArgs := true } p) :=
    hwalk.bind fun _ _ h => .pure h
  refine ⟨hbuild, fun e he => ?_⟩
  cases hresult : (build { o with showArgs := true } p).result with
  | error e' => exact ⟨e', rfl⟩
  | ok shown =>
    obtain ⟨hidden, hhidden, -⟩ := hbuild shown hresult
    rw [he] at hhidden
    cases hhidden

/-- The exported function, the method and the function in `module.exports` have parameters to hide;
the spec and the shorthand have none. -/
theorem labels_with_and_without_parameters :
    let on (line : UInt32) : Option Location := some ⟨⟨line, 0⟩, ⟨line, 9⟩⟩
    let named (s : String) : Node := .identifier ⟨none, s⟩
    let taking (params : List Node) : Node :=
      .function .expression none none params (.block none [])
    let f : Node := .function .declaration (on 1) (some ⟨none, "f"⟩) [named "a"] .untyped
    let p : Program := ⟨none, [
      .exportDeclaration .named (on 1) (some f) false,
      .classDef .declaration (on 2) (some ⟨none, "C"⟩)
        [.methodDefinition (on 3) (named "m") (taking [])],
      .expressionStatement (on 4)
        (.call none (named "it") [.literal none (.string "works"), taking [named "done"]]),
      .expressionStatement (on 5)
        (.assignment none (.member none (named "module") (named "exports") false)
        (.objectExpression none [.property (on 6) (named "g") (taking [named "b"]) false,
          .property (on 7) (named "h") (named "h") true]))]⟩
    let o : Options := { visibility := { exportWord := true } }
    let row (n : UInt32) : Extent := ⟨⟨n, 0⟩, ⟨n, 9⟩⟩
    let entries (args : Label → Label) : List Entry := [
      ⟨.function, [.keyword "export", .space, .method "f"] ++ args [.param "a"],
        some "f", row 0, []⟩,
      ⟨.classType, [.className "C"], some "C", row 1,
        [⟨.method, .method "m" :: args [], some "m", row 2, []⟩]⟩,
      ⟨.function, [.method "it", .space, .string "works"], some "works", row 3, []⟩,
      ⟨.moduleScope, [.plain "module.exports"], none, row 4,
        [⟨.method, .method "g" :: args [.param "b"], some "g", row 5, []⟩,
          ⟨.method, [.string "h"], some "h", row 6, []⟩]⟩]
    let shown := entries fun params => .plain "(" :: params ++ [.plain ")"]
    let hidden := entries fun _ => []
    (build { o with showArgs := true } p).result = .ok ⟨shown⟩ ∧
      (build { o with showArgs := false } p).result = .ok ⟨hidden⟩ ∧
        WithParameters none hidden shown := by
  intro on named taking f p o row entries shown hidden
  have hshown : (build { o with showArgs := true } p).result = .ok ⟨shown⟩ := rfl
  have hhidden : (build { o with showArgs := false } p).result = .ok ⟨hidden⟩ := rfl
  obtain ⟨outline, houtline, hextended⟩ := (build_parameters_extend_labels o p).1 _ hshown
  obtain rfl := Except.ok.inj (hhidden.symm.trans houtline)
  exact ⟨hshown, hhidden, hextended⟩

end Builder

end CodeOutline
