/-
Which keywords are shown does not matter for anything but keywords.

Six rules put keywords into labels, and each has its own way with the blank after them: an anonymous
function or class shows its keyword without one, an export puts its keywords before a label that is
there already, and exports inside exports stack them.  Still, two outlines of a program that differ
only in the keywords they show have the same entries, and the labels of an entry in the two are
equal once the keywords are taken out, each with the blank right after it.  If one of the two fails,
so does the other, in the same way.
-/
import CodeOutline.Proofs.Rule

namespace CodeOutline

/-- A label without its keywords.  A blank right after a keyword goes with it. -/
def Label.withoutKeywords : Label → Label
  | [] => []
  | ⟨.keyword, _⟩ :: ⟨.whitespace, _⟩ :: rest => withoutKeywords rest
  | ⟨.keyword, _⟩ :: rest => withoutKeywords rest
  | t :: rest => t :: withoutKeywords rest

/-- Two entries are equal up to the keywords in their labels and in the labels of the entries below
them. -/
inductive Entry.SameUpToKeywords : Entry → Entry → Prop where
  | intro {kind : EntryKind} {label label' : Label} {name : Option String} {extent : Extent}
      {children children' : List Entry} (hlabel : label.withoutKeywords = label'.withoutKeywords)
      (hchildren : List.Forall₂ SameUpToKeywords children children') :
      SameUpToKeywords ⟨kind, label, name, extent, children⟩ ⟨kind, label', name, extent, children'⟩

namespace Entry.SameUpToKeywords

lemma reflAll : ∀ es : List Entry, List.Forall₂ SameUpToKeywords es es
  | [] => .nil
  | ⟨_, _, _, _, children⟩ :: rest => .cons (.intro rfl (reflAll children)) (reflAll rest)

lemma refl (e : Entry) : SameUpToKeywords e e := by
  cases reflAll [e] with
  | cons h _ => exact h

/-- Childless entries are compared by their labels. -/
lemma leaf {kind : EntryKind} {label label' : Label} {name : Option String} {extent : Extent}
    (h : label.withoutKeywords = label'.withoutKeywords) :
    SameUpToKeywords (.leaf kind label name extent) (.leaf kind label' name extent) := .intro h .nil

end Entry.SameUpToKeywords

open Entry (SameUpToKeywords)

namespace Builder

/-! ### Labels -/

@[simp] lemma withoutKeywords_shownKeyword_append (o : Options) (k : Keyword) (l : Label) :
    (shownKeyword o k ++ l).withoutKeywords = l.withoutKeywords := by
  unfold shownKeyword
  split <;> rfl

/-- The label of a function without a name is the same for all options. -/
lemma withoutKeywords_functionLabel_append (o₁ o₂ : Options) (name : Option String) (l : Label) :
    (functionLabel o₁ name ++ l).withoutKeywords =
      (functionLabel o₂ name ++ l).withoutKeywords := by
  cases name with
  | none => rfl
  | some name => simp only [functionLabel, List.append_assoc, withoutKeywords_shownKeyword_append]

lemma withoutKeywords_classLabel (o₁ o₂ : Options) (name : Option String) :
    (classLabel o₁ name).withoutKeywords = (classLabel o₂ name).withoutKeywords := by
  cases name with
  | none => rfl
  | some name => simp only [classLabel, withoutKeywords_shownKeyword_append]

@[simp] lemma withoutKeywords_exportLabel_append (o : Options) (isDefault : Bool) (l : Label) :
    (exportLabel o isDefault ++ l).withoutKeywords = l.withoutKeywords := by
  cases isDefault <;> simp [exportLabel]

/-- An export keeps entries equal up to keywords. -/
lemma sameUpToKeywords_exportEntry {o₁ o₂ : Options} {e₁ e₂ : Entry} (isDefault : Bool)
    (extent : Extent) (h : SameUpToKeywords e₁ e₂) :
    SameUpToKeywords (exportEntry o₁ isDefault extent e₁) (exportEntry o₂ isDefault extent e₂) := by
  obtain ⟨hlabel, hchildren⟩ := h
  refine .intro ?_ hchildren
  rw [withoutKeywords_exportLabel_append, withoutKeywords_exportLabel_append, hlabel]

/-! ### Entries -/

section Options

variable {o₁ o₂ : Options}

lemma argsLabel_congr (hargs : o₁.showArgs = o₂.showArgs) : argsLabel o₁ = argsLabel o₂ := by
  funext params
  rw [argsLabel, argsLabel, hargs]

lemma methodEntry_congr (hargs : o₁.showArgs = o₂.showArgs) : methodEntry o₁ = methodEntry o₂ := by
  funext name params extent
  rw [methodEntry, methodEntry, argsLabel_congr hargs]

/-- The entries of `module.exports` show no keywords. -/
lemma moduleExports_entry_congr (hargs : o₁.showArgs = o₂.showArgs) :
    ModuleExports.entry o₁ = ModuleExports.entry o₂ := by
  have hproperty : ModuleExports.entryOfProperty? o₁ = ModuleExports.entryOfProperty? o₂ := by
    funext n
    simp only [ModuleExports.entryOfProperty?, ModuleExports.memberEntry, methodEntry_congr hargs]
  have hproperties : ModuleExports.propertyEntries o₁ = ModuleExports.propertyEntries o₂ := by
    funext properties
    induction properties with
    | nil => rfl
    | cons n rest ih =>
      rw [ModuleExports.propertyEntries, ModuleExports.propertyEntries, hproperty, ih]
  funext properties extent
  rw [ModuleExports.entry, ModuleExports.entry, hproperties]

/-- The entries of specs show neither keywords nor parameters. -/
lemma specEntries_congr (hdepth : o₁.maxDepth = o₂.maxDepth) (levels : Nat) :
    specEntries o₁ levels = specEntries o₂ levels := by
  induction levels with
  | zero =>
    funext body
    rw [specEntries, specEntries, hdepth]
  | succ levels ih =>
    funext body
    rw [specEntries, specEntries, ih]

lemma functionEntry_related (hargs : o₁.showArgs = o₂.showArgs) (name : Option String)
    (params : List Node) (extent : Extent) :
    SameOutcome SameUpToKeywords (functionEntry o₁ name params extent)
      (functionEntry o₂ name params extent) := by
  unfold functionEntry
  rw [argsLabel_congr hargs]
  refine SameOutcome.bind (SameOutcome.refl _) fun args _ hsame => ?_
  subst hsame
  exact .ok (.leaf (withoutKeywords_functionLabel_append o₁ o₂ name args))

lemma bindingEntry_related (kind : DeclarationKind) (id : Node) (extent : Extent) :
    SameOutcome SameUpToKeywords (bindingEntry o₁ kind id extent)
      (bindingEntry o₂ kind id extent) := by
  refine SameOutcome.bind (SameOutcome.refl _) fun pattern _ hsame => ?_
  subst hsame
  refine .ok (.leaf ?_)
  rw [withoutKeywords_shownKeyword_append, withoutKeywords_shownKeyword_append]

/-! ### The walk -/

/-- Following a rule keeps runs related, if the visits that it makes are. -/
lemma follow_related (hargs : o₁.showArgs = o₂.showArgs) {inner₁ inner₂ : Node → Run (Option Entry)}
    (hinner : ∀ n, Run.Related (Option.Rel SameUpToKeywords) (inner₁ n) (inner₂ n))
    (below : List Node → Logged (List Entry)) (extent : Extent) (rule : Rule) :
    Run.Related (Option.Rel SameUpToKeywords) (rule.follow o₁ inner₁ below extent)
      (rule.follow o₂ inner₂ below extent) := by
  cases rule with
  | skip event =>
    cases event with
    | none => exact .pure .none
    | some event => exact .bind (.log event) fun _ _ _ => .pure .none
  | function name params =>
    exact .ofExcept ((functionEntry_related hargs name params extent).map fun _ _ h => .some h)
  | method name params =>
    simp only [Rule.follow, methodEntry_congr hargs]
    exact .ofExcept ((SameOutcome.refl _).map fun e _ h => .some (h ▸ .refl e))
  | property name => exact .pure (.some (.refl _))
  | typeAlias name =>
    refine .pure (.some (.leaf ?_))
    rw [withoutKeywords_shownKeyword_append, withoutKeywords_shownKeyword_append]
  | binding kind id =>
    exact .ofExcept ((bindingEntry_related kind id extent).map fun _ _ h => .some h)
  | moduleExports properties =>
    simp only [Rule.follow, moduleExports_entry_congr hargs]
    exact .ofExcept ((SameOutcome.refl _).map fun e _ h => .some (h ▸ .refl e))
  | spec s => exact .ofLogged rfl (.some (.refl _))
  | classDef name members =>
    refine .bind (.filterMap fun n _ => hinner n) fun children₁ children₂ h => ?_
    exact .pure (.some (.intro (withoutKeywords_classLabel o₁ o₂ name) h))
  | exported isDefault declaration =>
    refine .bind (hinner declaration) fun e₁ e₂ h => ?_
    cases h with
    | none => exact .pure .none
    | some h => exact .pure (.some (sameUpToKeywords_exportEntry isDefault extent h))

/-- The induction is on the levels that are left: the visits below have one level less. -/
lemma visit_related (hargs : o₁.showArgs = o₂.showArgs) (hdepth : o₁.maxDepth = o₂.maxDepth)
    (levels : Nat) (node : Node) :
    Run.Related (Option.Rel SameUpToKeywords) (visit o₁ levels node) (visit o₂ levels node) := by
  induction levels generalizing node with
  | zero =>
    rw [visit_zero, visit_zero, hdepth]
    exact ⟨rfl, .ok .none⟩
  | succ levels ih =>
    rw [visit_succ, visit_succ, specEntries_congr hdepth]
    cases node.extent? with
    | none => exact ⟨rfl, .ok .none⟩
    | some extent => exact follow_related hargs ih _ extent (ruleOf node)

lemma visitAll_related (hargs : o₁.showArgs = o₂.showArgs) (hdepth : o₁.maxDepth = o₂.maxDepth)
    (depth : UInt64) (nodes : List Node) :
    Run.Related (List.Forall₂ SameUpToKeywords) (visitAll o₁ depth nodes)
      (visitAll o₂ depth nodes) := by
  have hlevels : levelsAt o₁ = levelsAt o₂ := by
    funext depth needed
    rw [levelsAt, levelsAt, hdepth]
  refine .filterMap fun node _ => ?_
  rw [visitOne, visitOne, hlevels]
  exact visit_related hargs hdepth _ node

end Options

/-- Showing or hiding keywords changes nothing but the keywords in labels, each with the blank right
after it. -/
theorem build_visibility_noninterference (p : Program) (o : Options) (v w : Visibility) :
    SameOutcome
      (fun outline₁ outline₂ => List.Forall₂ SameUpToKeywords outline₁.entries outline₂.entries)
      (build { o with visibility := v } p).result (build { o with visibility := w } p).result := by
  have hwalk : Run.Related (List.Forall₂ SameUpToKeywords)
      (visitAll { o with visibility := v } 0 p.body)
      (visitAll { o with visibility := w } 0 p.body) := visitAll_related (by rfl) (by rfl) 0 p.body
  have hbuild : Run.Related
      (fun outline₁ outline₂ => List.Forall₂ SameUpToKeywords outline₁.entries outline₂.entries)
      (build { o with visibility := v } p) (build { o with visibility := w } p) :=
    .bind hwalk fun _ _ h => .pure h
  exact hbuild.outcome

end Builder

end CodeOutline
