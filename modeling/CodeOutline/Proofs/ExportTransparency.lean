/-
What an export changes.

The entry of an export is the entry of its declaration, with the words of the export before the
label and with the extent of the export.  But an export uses up a level: its declaration is visited
one level deeper than it would be without the export.  So exporting a declaration changes what is
kept of it if it reaches down to the greatest depth (`export_at_limit_not_transparent`), and only
then.  `export_transparent_iff` says exactly when an export is transparent: if the declaration has
the same entry one level deeper.  That is so whenever the export causes no warning.

A visit with one level less is a visit under a lower limit, so it prunes, and what it prunes it
warns of (`lowers_visit`).
-/
import CodeOutline.Proofs.DepthLimit
import CodeOutline.Proofs.Provenance

namespace CodeOutline.Builder

open Run (Lowers)

variable {o : Options}

/-! ### Fewer levels -/

/-- The statements of a group with fewer levels left. -/
lemma lowers_specEntries {m n : Nat} (h : m ≤ n) (body : List Node) :
    Lowers PrunedList (Run.ofLogged (specEntries o m body))
      (Run.ofLogged (specEntries o n body)) := by
  induction m generalizing n body with
  | zero => exact .of_warning rfl (fun _ => .nil) _
  | succ m ih =>
    obtain ⟨n, rfl⟩ : ∃ k, n = k + 1 := ⟨n - 1, by omega⟩
    rw [specEntries, specEntries, Run.ofLogged_filterMap, Run.ofLogged_filterMap]
    refine Lowers.filterMap fun node _ => ?_
    rcases specStatement?_cases node with ⟨extent, s, -, -, hstatement⟩ | hnone
    · rw [hstatement, hstatement]
      exact lowers_specEntry extent (ih (by omega) s.body)
    · rw [hnone, hnone]
      exact .refl PrunedOption.refl _

/-- A node with fewer levels left: entries are pruned, and if there is no warning, nothing has
changed. -/
lemma lowers_visit {m n : Nat} (h : m ≤ n) (node : Node) :
    Lowers PrunedOption (visit o m node) (visit o n node) := by
  induction m generalizing n node with
  | zero => exact .of_warning rfl (fun _ => .nil) _
  | succ m ih =>
    obtain ⟨n, rfl⟩ : ∃ k, n = k + 1 := ⟨n - 1, by omega⟩
    rw [visit_succ, visit_succ]
    cases node.extent? with
    | none => exact .refl PrunedOption.refl _
    | some extent =>
      exact lowers_follow extent (fun d _ => ih (by omega) d) fun s _ => lowers_specEntries
        (by omega) s.body

/-- There are at most as many levels left one level deeper. -/
lemma levelsAt_succ_le {depth : UInt64} (h : depth ≤ o.maxDepth) (needed : Nat) :
    levelsAt o (depth + 1) needed ≤ levelsAt o depth needed := by
  have hstep := levelsAt_of_le h needed
  have hneeded : levelsAt o depth (needed + 1) ≤ levelsAt o depth needed + 1 := by
    unfold levelsAt
    split <;> omega
  omega

lemma lowers_visitOne_succ {depth : UInt64} (h : depth ≤ o.maxDepth) (node : Node) :
    Lowers PrunedOption (visitOne o (depth + 1) node) (visitOne o depth node) :=
  lowers_visit (levelsAt_succ_le h node.height) node

/-! ### Exports and their declarations -/

/-- The first entry is what the second one becomes by an export with the given extent. -/
structure ExportedAs (o : Options) (isDefault : Bool) (extent : Extent) (e inner : Entry) :
    Prop where
  kind_eq : e.kind = inner.kind
  name_eq : e.name = inner.name
  children_eq : e.children = inner.children
  label_eq : e.label =
    (if o.shows .exportWord then [.keyword "export", .space] else []) ++
      (if isDefault ∧ o.shows .defaultWord then [.keyword "default", .space] else []) ++ inner.label
  extent_eq : e.extent = extent

/-- An export and a declaration have the same outcome: both fail with the same error, neither has an
entry, or the entry of the export is what the one of the declaration becomes by the export. -/
def Transparent (o : Options) (isDefault : Bool) (extent : Extent)
    (outer inner : Run (Option Entry)) : Prop :=
  SameOutcome (Option.Rel (ExportedAs o isDefault extent)) outer.result inner.result

lemma exportLabel_eq (isDefault : Bool) :
    exportLabel o isDefault =
      (if o.shows .exportWord then [.keyword "export", .space] else []) ++
        if isDefault ∧ o.shows .defaultWord then [.keyword "default", .space] else [] := by
  cases isDefault with
  | false => simp [exportLabel, shownKeyword, Label.spaced, Keyword.name]
  | true => simp [exportLabel, shownKeyword, Label.spaced, Keyword.name]

lemma exportedAs_iff {isDefault : Bool} {extent : Extent} {e inner : Entry} :
    ExportedAs o isDefault extent e inner ↔ e = exportEntry o isDefault extent inner := by
  obtain ⟨kind, label, name, extent', children⟩ := e
  constructor
  · rintro ⟨rfl, rfl, rfl, hlabel, rfl⟩
    rw [exportEntry, exportLabel_eq]
    exact congrArg (Entry.mk _ · _ _ _) hlabel
  · intro h
    simp only [exportEntry, exportLabel_eq, Entry.mk.injEq] at h
    obtain ⟨rfl, rfl, rfl, rfl, rfl⟩ := h
    exact ⟨rfl, rfl, rfl, rfl, rfl⟩

/-- An export is transparent if its outcome is that of the declaration with another entry. -/
lemma transparent_iff_eq_map {isDefault : Bool} {extent : Extent} {x y : Run (Option Entry)} :
    Transparent o isDefault extent x y ↔
      x.result = y.result.map (Option.map (exportEntry o isDefault extent)) := by
  unfold Transparent
  constructor
  · intro h
    cases hx : x.result with
    | error e =>
      rw [hx] at h
      generalize y.result = r at h
      cases h
      rfl
    | ok a =>
      rw [hx] at h
      generalize y.result = r at h
      cases h with
      | ok h =>
        cases h with
        | none => rfl
        | some h => rw [exportedAs_iff.1 h]; rfl
  · intro h
    rw [h]
    cases y.result with
    | error e => exact .error e
    | ok b =>
      cases b with
      | none => exact .ok .none
      | some inner => exact .ok (.some (exportedAs_iff.2 rfl))

/-- A last step that records nothing adds no event. -/
lemma events_bind_pure {α β : Type} (x : Run α) (f : α → β) :
    (x >>= fun a => pure (f a)).events = x.events := by
  obtain ⟨events, result⟩ := x
  cases result with
  | error e => rfl
  | ok a => exact List.append_nil events

/-- An export does what its declaration does one level deeper. -/
lemma visitOne_export {depth : UInt64} (hdepth : depth ≤ o.maxDepth) {form : ExportForm}
    {loc : Option Location} {declaration : Node} {flag : Bool} {extent : Extent}
    (hextent : Extent.ofLocation? loc = some extent) :
    visitOne o depth (.exportDeclaration form loc (some declaration) flag) = do
      let entry ← visitOne o (depth + 1) declaration
      return entry.map (exportEntry o (isDefaultExport form flag) extent) := by
  have husable : (Node.exportDeclaration form loc (some declaration) flag).extent? = some extent :=
    hextent
  rw [visitOne_eq, if_neg (UInt64.not_lt.2 hdepth), husable]
  rfl

/-- Two entries of one node have the same extent. -/
lemma extent_eq_of_visitOne {depth depth' : UInt64} {node : Node} {e e' : Entry}
    (h : (visitOne o depth node).result = .ok (some e))
    (h' : (visitOne o depth' node).result = .ok (some e')) : e.extent = e'.extent := by
  obtain ⟨l, hl, -, -, hextent⟩ := (comesFrom_visit h).located
  obtain ⟨l', hl', -, -, hextent'⟩ := (comesFrom_visit h').located
  obtain rfl : l = l' := Option.some.inj (hl.symm.trans hl')
  rw [hextent, hextent']

/-- An export forgets nothing of an entry but its extent. -/
lemma exportEntry_inj {isDefault : Bool} {extent : Extent} {e e' : Entry}
    (hextent : e.extent = e'.extent)
    (h : exportEntry o isDefault extent e = exportEntry o isDefault extent e') : e = e' := by
  obtain ⟨kind, label, name, _, children⟩ := e
  obtain ⟨kind', label', name', _, children'⟩ := e'
  simp only [exportEntry, Entry.mk.injEq, List.append_cancel_left_eq] at h hextent
  obtain ⟨rfl, rfl, rfl, -, rfl⟩ := h
  rw [hextent]

/-- What an export makes of the outcome of its declaration determines that outcome. -/
lemma result_eq_of_map_exportEntry {depth depth' : UInt64} {node : Node} {isDefault : Bool}
    {extent : Extent}
    (h : (visitOne o depth node).result.map (Option.map (exportEntry o isDefault extent)) =
      (visitOne o depth' node).result.map (Option.map (exportEntry o isDefault extent))) :
    (visitOne o depth node).result = (visitOne o depth' node).result := by
  cases hx : (visitOne o depth node).result with
  | error e =>
    cases hy : (visitOne o depth' node).result with
    | error e' =>
      rw [hx, hy] at h
      rw [Except.error.inj h]
    | ok entry' =>
      rw [hx, hy] at h
      cases h
  | ok entry =>
    cases hy : (visitOne o depth' node).result with
    | error e' =>
      rw [hx, hy] at h
      cases h
    | ok entry' =>
      rw [hx, hy] at h
      have hentries := Except.ok.inj h
      cases entry with
      | none =>
        cases entry' with
        | none => rfl
        | some e' => cases hentries
      | some e =>
        cases entry' with
        | none => cases hentries
        | some e' => rw [exportEntry_inj (extent_eq_of_visitOne hx hy) (Option.some.inj hentries)]

/-- **When exports are transparent.**  An export has the outcome of its declaration one level
deeper.  So it is transparent exactly if the declaration has the same outcome there as at the depth
of the export.  That is so if the export causes no warning; in any case an export only loses
entries, with all that is below them. -/
theorem export_transparent_iff {depth : UInt64} (hdepth : depth ≤ o.maxDepth) (form : ExportForm)
    {loc : Option Location} (declaration : Node) (flag : Bool) {extent : Extent}
    (hextent : Extent.ofLocation? loc = some extent) :
    let isDefault := isDefaultExport form flag
    let exported := visitOne o depth (.exportDeclaration form loc (some declaration) flag)
    Transparent o isDefault extent exported (visitOne o (depth + 1) declaration) ∧
      (Transparent o isDefault extent exported (visitOne o depth declaration) ↔
        (visitOne o (depth + 1) declaration).result = (visitOne o depth declaration).result) ∧
      ((∀ e ∈ exported.events, e.severity ≠ .warn) →
        Transparent o isDefault extent exported (visitOne o depth declaration)) ∧
      ∀ entry, (visitOne o depth declaration).result = .ok entry →
        ∃ entry', (visitOne o (depth + 1) declaration).result = .ok entry' ∧
          PrunedOption entry' entry := by
  intro isDefault exported
  have hexported : exported = do
      let entry ← visitOne o (depth + 1) declaration
      return entry.map (exportEntry o isDefault extent) := visitOne_export hdepth hextent
  have hdeeper : Transparent o isDefault extent exported (visitOne o (depth + 1) declaration) := by
    rw [transparent_iff_eq_map, hexported, Run.result_bind]
    cases (visitOne o (depth + 1) declaration).result <;> rfl
  have hiff : Transparent o isDefault extent exported (visitOne o depth declaration) ↔
      (visitOne o (depth + 1) declaration).result = (visitOne o depth declaration).result := by
    rw [transparent_iff_eq_map] at hdeeper ⊢
    rw [hdeeper]
    -- An export forgets the extent of its declaration, but that does not depend on the depth.
    exact ⟨result_eq_of_map_exportEntry, fun hsame => by rw [hsame]⟩
  have hlowers := lowers_visitOne_succ hdepth declaration
  refine ⟨hdeeper, hiff, fun hquiet => hiff.2 ?_, hlowers.prunes⟩
  -- The export itself records nothing, so its events are those of the visit one level deeper.
  rw [hexported, events_bind_pure] at hquiet
  rw [hlowers.replays hquiet]

/-- A method at the greatest depth is kept in an exported class, and the export is transparent. -/
theorem exported_class_transparent :
    let on (line : UInt32) : Option Location := some ⟨⟨line, 0⟩, ⟨line, 9⟩⟩
    let method : Node :=
      .methodDefinition (on 2) (.identifier ⟨none, "m"⟩)
        (.function .expression none none [] .untyped)
    let declaration : Node := .classDef .declaration (on 1) (some ⟨none, "A"⟩) [method]
    let o : Options := { maxDepth := 2 }
    let extent : Extent := ⟨⟨0, 0⟩, ⟨0, 9⟩⟩
    (0 : UInt64) ≤ o.maxDepth ∧ Extent.ofLocation? (on 1) = some extent ∧
      (visitOne o 0 (.exportDeclaration .defaulted (on 1) (some declaration) false)).events = [] ∧
      Transparent o true extent
        (visitOne o 0 (.exportDeclaration .defaulted (on 1) (some declaration) false))
        (visitOne o 0 declaration) := by
  intro on method declaration o extent
  have hextent : Extent.ofLocation? (on 1) = some extent := rfl
  have hevents :
      (visitOne o 0 (.exportDeclaration .defaulted (on 1) (some declaration) false)).events = [] :=
        rfl
  have hdepth : (0 : UInt64) ≤ o.maxDepth := by decide
  refine ⟨hdepth, hextent, hevents, ?_⟩
  refine (export_transparent_iff hdepth .defaulted declaration false hextent).2.2.1 ?_
  rw [hevents]
  simp

/-- At the greatest depth a class has an entry, but the export of the class has none. -/
theorem export_at_limit_not_transparent :
    let upToEnd (column : UInt32) : Option Location := some ⟨⟨1, column⟩, ⟨1, 17⟩⟩
    let declaration : Node := .classDef .declaration (upToEnd 7) (some ⟨none, "A"⟩) []
    let o : Options := { maxDepth := 0 }
    let extent : Extent := ⟨⟨0, 0⟩, ⟨0, 17⟩⟩
    (0 : UInt64) ≤ o.maxDepth ∧ Extent.ofLocation? (upToEnd 0) = some extent ∧
      declaration.extent?.isSome ∧
      ¬ Transparent o false extent
        (visitOne o 0 (.exportDeclaration .named (upToEnd 0) (some declaration) false))
        (visitOne o 0 declaration) := by
  intro upToEnd declaration o extent
  refine ⟨by decide, rfl, rfl, ?_⟩
  rw [transparent_iff_eq_map]
  intro h
  cases h

end CodeOutline.Builder
