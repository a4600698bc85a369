/-
What a greatest depth changes.

The depth limit is checked in two places: where a node is visited and where the statements of a
group of specs are looked at.  In both places what lies too deep is dropped, and a warning says so.
Two facts follow about the outlines of a program under a lower and a higher limit.  If the lower one
has caused no warning, nothing was dropped, and the two runs are the same, event by event
(`build_eq_of_no_warning`).  In any case the lower limit only prunes: it keeps entries as they are,
apart from the entries below them, and it fails only if the higher one fails
(`build_lower_limit_prunes`).

Both facts are carried along the walk at once: `Run.Lowers R x y` says that `x` is what a lower
limit makes of `y`.
-/
import CodeOutline.Proofs.Depth
import CodeOutline.Proofs.KeywordVisibility

namespace CodeOutline

variable {α β : Type}

/-! ### Runs under a lower limit -/

/-- No event is a warning. -/
def Quiet (events : List Event) : Prop := ∀ e ∈ events, e.severity ≠ .warn

lemma quiet_append {es es' : List Event} : Quiet (es ++ es') ↔ Quiet es ∧ Quiet es' := by
  simp only [Quiet, List.mem_append, or_imp, forall_and]

lemma sublistForall₂_append {R : α → β → Prop} {as as' : List α} {bs bs' : List β}
    (h : List.SublistForall₂ R as bs) (h' : List.SublistForall₂ R as' bs') :
    List.SublistForall₂ R (as ++ as') (bs ++ bs') := by
  obtain ⟨cs, hcs, hsub⟩ := List.sublistForall₂_iff.1 h
  obtain ⟨cs', hcs', hsub'⟩ := List.sublistForall₂_iff.1 h'
  exact List.sublistForall₂_iff.2 ⟨cs ++ cs', List.rel_append hcs hcs', hsub.append hsub'⟩

namespace Run

/-- The first run is the second one if it has recorded no warning. -/
def Replays (x y : Run α) : Prop := Quiet x.events → x = y

lemma Replays.bind {x y : Run α} {f g : α → Run β} (h : Replays x y)
    (hfg : ∀ a, Replays (f a) (g a)) : Replays (x >>= f) (y >>= g) := by
  intro hquiet
  cases hx : x.result with
  | error e =>
    rw [bind_of_error hx] at hquiet
    obtain rfl := h hquiet
    rw [bind_of_error hx, bind_of_error hx]
  | ok a =>
    rw [bind_of_ok hx] at hquiet
    obtain ⟨hxquiet, hfquiet⟩ := quiet_append.1 hquiet
    obtain rfl := h hxquiet
    rw [bind_of_ok hx, bind_of_ok hx, hfg a hfquiet]

/-- The first run succeeds if the second one does, with a value in a relation to the value of the
second one. -/
def Prunes (R : α → α → Prop) (x y : Run α) : Prop :=
  ∀ b, y.result = .ok b → ∃ a, x.result = .ok a ∧ R a b

lemma Prunes.pure {R : α → α → Prop} {a b : α} (h : R a b) :
    Prunes R (Pure.pure a) (Pure.pure b) := by
  intro b' hb'
  obtain rfl := Except.ok.inj hb'
  exact ⟨a, rfl, h⟩

lemma Prunes.bind {R : α → α → Prop} {S : β → β → Prop} {x y : Run α} {f g : α → Run β}
    (h : Prunes R x y) (hfg : ∀ a b, R a b → Prunes S (f a) (g b)) :
    Prunes S (x >>= f) (y >>= g) := by
  intro d hd
  rw [result_bind] at hd
  obtain ⟨b, hb, hd⟩ := exists_ok_of_bind hd
  obtain ⟨a, ha, hab⟩ := h b hb
  obtain ⟨c, hc, hcd⟩ := hfg a b hab d hd
  refine ⟨c, ?_, hcd⟩
  rw [bind_of_ok ha]
  exact hc

/-- The first run is what a lower limit makes of the second one: it is the second one unless it has
recorded a warning, and in any case it prunes the value. -/
structure Lowers (R : α → α → Prop) (x y : Run α) : Prop where
  replays : Replays x y
  prunes : Prunes R x y

namespace Lowers

variable {R : α → α → Prop} {S : β → β → Prop}

lemma refl (h : ∀ a, R a a) (x : Run α) : Lowers R x x := ⟨fun _ => rfl, fun a ha => ⟨a, ha, h a⟩⟩

/-- A run that warns of what it drops and goes on without it lowers every run. -/
lemma of_warning {e : Event} {a : α} (he : e.severity = .warn) (h : ∀ b, R a b) (y : Run α) :
    Lowers R ⟨[e], .ok a⟩ y := by
  refine ⟨fun hquiet => ?_, fun b _ => ⟨a, rfl, h b⟩⟩
  exact absurd he (hquiet e (by simp))

lemma map {x y : Run α} {f : α → β} (h : Lowers R x y) (hf : ∀ a b, R a b → S (f a) (f b)) :
    Lowers S (x >>= fun a => Pure.pure (f a)) (y >>= fun a => Pure.pure (f a)) :=
  ⟨h.replays.bind fun _ _ => rfl, h.prunes.bind fun a b hab => .pure (hf a b hab)⟩

/-- A loop under a lower limit keeps some of its values, pruned, if every round does that with its
own value. -/
lemma filterMap {f g : α → Run (Option β)} {as : List α}
    (h : ∀ a ∈ as, Lowers (fun b c => List.SublistForall₂ S b.toList c.toList) (f a) (g a)) :
    Lowers (List.SublistForall₂ S) (Run.filterMap f as) (Run.filterMap g as) := by
  induction as with
  | nil => exact ⟨fun _ => rfl, .pure .nil⟩
  | cons a as ih =>
    obtain ⟨hreplays, hprunes⟩ := h a (by simp)
    have hrest := ih fun a' ha' => h a' (by simp [ha'])
    refine ⟨hreplays.bind fun b => hrest.replays.bind fun bs _ => rfl, ?_⟩
    refine hprunes.bind fun b c hbc => hrest.prunes.bind fun bs cs hbcs => .pure ?_
    exact sublistForall₂_append hbc hbcs

end Lowers

end Run

/-! ### Pruned entries -/

/-- An entry is another one without some of the entries below it, each of which goes with all that
is below itself. -/
inductive Entry.PrunedFrom : Entry → Entry → Prop where
  | intro {kind : EntryKind} {label : Label} {name : Option String} {extent : Extent}
      {children children' : List Entry} (h : List.SublistForall₂ PrunedFrom children children') :
      PrunedFrom ⟨kind, label, name, extent, children⟩ ⟨kind, label, name, extent, children'⟩

namespace Entry.PrunedFrom

lemma reflAll : ∀ es : List Entry, List.SublistForall₂ PrunedFrom es es
  | [] => .nil
  | ⟨_, _, _, _, children⟩ :: rest => .cons (.intro (reflAll children)) (reflAll rest)

/-- An export keeps entries pruned: it changes neither the entries below nor how the labels
compare. -/
lemma exportEntry {e e' : Entry} (o : Options) (isDefault : Bool) (extent : Extent)
    (h : PrunedFrom e e') :
    PrunedFrom (Builder.exportEntry o isDefault extent e)
      (Builder.exportEntry o isDefault extent e') := by
  obtain ⟨hchildren⟩ := h
  exact .intro hchildren

end Entry.PrunedFrom

/-- At most one entry is pruned from at most one entry: it may also be dropped. -/
abbrev PrunedOption (e e' : Option Entry) : Prop :=
  List.SublistForall₂ Entry.PrunedFrom e.toList e'.toList

lemma PrunedOption.refl (e : Option Entry) : PrunedOption e e := Entry.PrunedFrom.reflAll e.toList

/-- Some entries are what is kept of others. -/
abbrev PrunedList : List Entry → List Entry → Prop := List.SublistForall₂ Entry.PrunedFrom

namespace Builder

open Run (Lowers)

/-! ### The walk under a lower limit -/

/-- The greatest depth does not matter for what a rule does with a node itself. -/
lemma follow_maxDepth (o : Options) (m : UInt64) (inner : Node → Run (Option Entry))
    (below : List Node → Logged (List Entry)) (extent : Extent) (rule : Rule) :
    rule.follow { o with maxDepth := m } inner below extent = rule.follow o inner below extent := by
  cases rule with
  | skip event => cases event <;> rfl
  | moduleExports properties =>
    have hargs : ({ o with maxDepth := m } : Options).showArgs = o.showArgs := rfl
    simp only [Rule.follow, moduleExports_entry_congr hargs]
  | _ => rfl

/-- The entry of a spec as a run: a group first looks at its statements, and a single spec has
nothing below it. -/
lemma ofLogged_specEntry (below : List Node → Logged (List Entry)) (s : Spec) (extent : Extent) :
    Run.ofLogged (some <$> specEntry below s extent) =
      (if s.family = .group then Run.ofLogged (below s.body) else pure []) >>= fun children =>
        pure (some ⟨.function, specLabel s, some s.description, extent, children⟩) := by
  unfold specEntry
  cases s.family with
  | single => rfl
  | group =>
    -- the entry is made in two steps that record nothing
    have hevents : ((below s.body).events ++ []) ++ [] = (below s.body).events ++ [] :=
      List.append_nil _
    exact congrArg (Run.mk · _) hevents

/-- The entry of a spec is lowered with the entries below it. -/
lemma lowers_specEntry {below below' : List Node → Logged (List Entry)} {s : Spec} (extent : Extent)
    (h : Lowers PrunedList (Run.ofLogged (below s.body)) (Run.ofLogged (below' s.body))) :
    Lowers PrunedOption (Run.ofLogged (some <$> specEntry below s extent))
      (Run.ofLogged (some <$> specEntry below' s extent)) := by
  rw [ofLogged_specEntry, ofLogged_specEntry]
  refine Lowers.map (R := PrunedList) ?_ fun es es' hes => .cons (.intro hes) .nil
  split
  · exact h
  · exact .refl Entry.PrunedFrom.reflAll _

/-- Following a rule is lowered with the visits that it makes and with the entries below its
spec. -/
lemma lowers_follow {o : Options} {inner inner' : Node → Run (Option Entry)}
    {below below' : List Node → Logged (List Entry)} {rule : Rule} (extent : Extent)
    (hinner : ∀ n ∈ rule.visits, Lowers PrunedOption (inner n) (inner' n))
    (hbelow : ∀ s, rule = .spec s →
      Lowers PrunedList (Run.ofLogged (below s.body)) (Run.ofLogged (below' s.body))) :
    Lowers PrunedOption (rule.follow o inner below extent)
      (rule.follow o inner' below' extent) := by
  cases rule with
  | spec s => exact lowers_specEntry extent (hbelow s rfl)
  | classDef name members =>
    exact (Lowers.filterMap hinner).map fun es es' hes => .cons (.intro hes) .nil
  | exported isDefault declaration =>
    refine (hinner declaration (by simp [Rule.visits])).map fun e e' he => ?_
    cases e with
    | none => exact .nil
    | some e =>
      cases e' with
      | none => cases he
      | some e' =>
        cases he with
        | cons h _ => exact .cons (h.exportEntry o isDefault extent) .nil
        | cons_right h => cases h
  | skip event => cases event <;> exact .refl PrunedOption.refl _
  | _ => exact .refl PrunedOption.refl _

section Limits

variable {o : Options} {m : UInt64} (hm : o.maxDepth ≤ m)
include hm

/-- What is not too deep for the lower limit is not too deep for the higher one. -/
lemma not_lt_of_not_maxDepth_lt {depth : UInt64} (h : ¬ o.maxDepth < depth) : ¬ m < depth :=
  UInt64.not_lt.2 (UInt64.le_trans (UInt64.not_lt.1 h) hm)

/-- The statements of a group under a lower limit.  The induction is along the groups of specs: a
group among the statements has its own statements one level deeper. -/
lemma lowers_specChildren (depth : UInt64) (body : List Node) :
    Lowers PrunedList (Run.ofLogged (specChildren o depth body))
      (Run.ofLogged (specChildren { o with maxDepth := m } depth body)) := by
  induction depth, body using spec_induction with
  | step depth body ih =>
    rw [specChildren_eq o]
    by_cases hdepth : o.maxDepth < depth
    · rw [if_pos hdepth]
      exact .of_warning rfl (fun _ => .nil) _
    · rw [if_neg hdepth, specChildren_eq, if_neg (not_lt_of_not_maxDepth_lt hm hdepth),
        Run.ofLogged_filterMap, Run.ofLogged_filterMap]
      refine Lowers.filterMap fun node hnode => ?_
      rcases specStatement?_cases node with ⟨extent, s, -, hrule, hstatement⟩ | hnone
      · rw [hstatement, hstatement]
        exact lowers_specEntry extent (ih node hnode s hrule)
      · rw [hnone, hnone]
        exact .refl PrunedOption.refl _

/-- A node under a lower limit.  The induction is along the walk. -/
lemma lowers_visitOne (depth : UInt64) (node : Node) :
    Lowers PrunedOption (visitOne o depth node) (visitOne { o with maxDepth := m } depth node) := by
  induction depth, node using walk_induction with
  | step depth node ih =>
    rw [visitOne_eq o]
    by_cases hdepth : o.maxDepth < depth
    · rw [if_pos hdepth]
      exact .of_warning rfl (fun _ => .nil) _
    · rw [if_neg hdepth, visitOne_eq, if_neg (not_lt_of_not_maxDepth_lt hm hdepth)]
      cases node.extent? with
      | none => exact .refl PrunedOption.refl _
      | some extent =>
        simp only [follow_maxDepth]
        exact lowers_follow extent ih fun s _ => lowers_specChildren hm (depth + 1) s.body

lemma lowers_build (p : Program) :
    Lowers (fun outline outline' => PrunedList outline.entries outline'.entries) (build o p)
      (build { o with maxDepth := m } p) :=
  (Lowers.filterMap fun n _ => lowers_visitOne hm 0 n).map fun _ _ h => h

end Limits

/-- **No silent truncation.**  If an outline is built without a warning, then a higher limit gives
the same result, be it an outline or a failure, and records the same events.  So if a higher limit
changes the result, there was a warning. -/
theorem build_eq_of_no_warning (o : Options) (p : Program) (m : UInt64) (hm : o.maxDepth ≤ m) :
    ((∀ e ∈ (build o p).events, e.severity ≠ .warn) →
      build { o with maxDepth := m } p = build o p) ∧
    ((build { o with maxDepth := m } p).result ≠ (build o p).result →
      ∃ e ∈ (build o p).events, e.severity = .warn) := by
  have hreplays := (lowers_build hm p).replays
  refine ⟨fun hquiet => (hreplays hquiet).symm, fun hne => ?_⟩
  by_contra hwarn
  have hquiet : Quiet (build o p).events := fun e he hsevere => hwarn ⟨e, he, hsevere⟩
  exact hne (congrArg Run.result (hreplays hquiet).symm)

/-- Members of a class at the greatest depth are kept.  The only event is about a member without a
location, so a higher limit changes nothing. -/
theorem members_at_limit_unchanged :
    let on (line : UInt32) : Option Location := some ⟨⟨line, 0⟩, ⟨line, 9⟩⟩
    let p : Program := ⟨none, [.classDef .declaration (on 1) (some ⟨none, "A"⟩)
      [.methodDefinition (on 2) (.identifier ⟨none, "m"⟩)
        (.function .expression none none [] .untyped), .other "StaticBlock" none]]⟩
    let o : Options := { maxDepth := 1 }
    (1 : UInt64) ≤ 256 ∧ (build o p).events = [.noLocation "StaticBlock"] ∧
      build { o with maxDepth := 256 } p = build o p := by
  intro on p o
  have hevents : (build o p).events = [.noLocation "StaticBlock"] := rfl
  refine ⟨by decide, hevents, (build_eq_of_no_warning o p 256 (by decide)).1 ?_⟩
  rw [hevents]
  decide

/-- **A lower limit only prunes.**  If an outline can be built under a limit, it can be built under
a lower one, and what is lost are entries with all that is below them; an entry that is kept keeps
its kind, label, name and extent. -/
theorem build_lower_limit_prunes (o : Options) (p : Program) (m : UInt64) (hm : o.maxDepth ≤ m) :
    (∀ outline', (build { o with maxDepth := m } p).result = .ok outline' →
      ∃ outline, (build o p).result = .ok outline ∧
        List.SublistForall₂ Entry.PrunedFrom outline.entries outline'.entries) ∧
    ∀ e, (build o p).result = .error e →
      ∃ e', (build { o with maxDepth := m } p).result = .error e' := by
  have hprunes := (lowers_build hm p).prunes
  refine ⟨hprunes, fun e he => ?_⟩
  cases hresult : (build { o with maxDepth := m } p).result with
  | error e' => exact ⟨e', rfl⟩
  | ok outline' =>
    obtain ⟨outline, houtline, -⟩ := hprunes outline' hresult
    rw [he] at houtline
    cases houtline

/-- With no level below the first one, a class stays without its members, and an exported class is
lost. -/
theorem class_pruned_and_export_dropped :
    let on (line : UInt32) : Option Location := some ⟨⟨line, 0⟩, ⟨line, 9⟩⟩
    let p : Program := ⟨none, [.classDef .declaration (on 1) (some ⟨none, "A"⟩)
      [.methodDefinition (on 2) (.identifier ⟨none, "m"⟩)
        (.function .expression none none [] .untyped)],
      .exportDeclaration .named (on 3)
        (some (.classDef .declaration (on 3) (some ⟨none, "B"⟩) [])) false]⟩
    let o : Options := { maxDepth := 0 }
    let extent (row : UInt32) : Extent := ⟨⟨row, 0⟩, ⟨row, 9⟩⟩
    let method : Entry := ⟨.method, [.method "m", .plain "(", .plain ")"], some "m", extent 1, []⟩
    let exported : Entry := ⟨.classType, [.className "B"], some "B", extent 2, []⟩
    let classA (children : List Entry) : Entry :=
      ⟨.classType, [.className "A"], some "A", extent 0, children⟩
    (build { o with maxDepth := 1 } p).result = .ok ⟨[classA [method], exported]⟩ ∧
      (build o p).result = .ok ⟨[classA []]⟩ ∧
        List.SublistForall₂ Entry.PrunedFrom [classA []] [classA [method], exported] := by
  intro on p o extent method exported classA
  have hhigh : (build { o with maxDepth := 1 } p).result = .ok ⟨[classA [method], exported]⟩ := rfl
  have hlow : (build o p).result = .ok ⟨[classA []]⟩ := rfl
  obtain ⟨outline, houtline, hpruned⟩ := (build_lower_limit_prunes o p 1 (by decide)).1 _ hhigh
  obtain rfl := Except.ok.inj (hlow.symm.trans houtline)
  exact ⟨hhigh, hlow, hpruned⟩

end Builder

end CodeOutline
