/-
Only the levels that are left matter.

A depth and a greatest depth tell how many levels are left.  Nothing else about them is used, except
that a warning names the greatest depth.  So the outcome of a visit does not change if both numbers
grow by the same amount, and an export has the outcome of its declaration under a limit that is
lower by one (`visit_depends_on_remaining_depth`).

Depths are counted with 64 bits, and there the law ends.  If the limit is the greatest depth that
can be counted, the counter starts again at zero after it, and nothing is dropped any more
(`last_depth_keeps_members`).  What is left of the law then is that visits under lower limits are
pruned from the visit under this one (`lowers_visitOne_lastDepth`).
-/
import CodeOutline.Proofs.ExportTransparency

namespace CodeOutline.Builder

open Run (Lowers)

/-! ### Outcomes do not depend on the limit -/

/-- The outcome of a rule only depends on the outcomes of the visits that it makes, and on the
entries below its spec. -/
lemma Rule.result_follow_congr {o : Options} {inner inner' : Node → Run (Option Entry)}
    {below below' : List Node → Logged (List Entry)} {rule : Rule} (extent : Extent)
    (hinner : ∀ n ∈ rule.visits, (inner n).result = (inner' n).result)
    (hbelow : ∀ s, rule = .spec s → (below s.body).value = (below' s.body).value) :
    (rule.follow o inner below extent).result = (rule.follow o inner' below' extent).result := by
  cases rule with
  | skip event => cases event <;> rfl
  | spec s =>
    have hentry : (specEntry below s extent).value = (specEntry below' s extent).value := by
      rw [value_specEntry, value_specEntry, hbelow s rfl]
    exact congrArg (fun e => Except.ok (some e)) hentry
  | classDef name members =>
    have hmembers : (Run.filterMap inner members).result = (Run.filterMap inner' members).result :=
      Run.result_filterMap_congr hinner
    simp only [follow, Run.result_bind, hmembers]
  | exported isDefault declaration =>
    simp only [follow, Run.result_bind, hinner declaration (by simp [visits])]
  | _ => rfl

section Levels

variable (o : Options) (m : UInt64) (levels : Nat)

/-- The limit does not matter for the statements of a group, if the levels that are left are
given. -/
lemma value_specEntries_maxDepth (body : List Node) :
    (specEntries { o with maxDepth := m } levels body).value =
      (specEntries o levels body).value := by
  induction levels generalizing body with
  | zero => rfl
  | succ levels ih =>
    simp only [specEntries, Logged.value_filterMap]
    congr 1
    funext node
    rcases specStatement?_cases node with ⟨extent, s, -, -, hstatement⟩ | hnone
    · simp only [hstatement, Logged.value_map, value_specEntry, ih]
    · rw [hnone, hnone]

/-- The limit does not matter for a node, if the levels that are left are given. -/
lemma result_visit_maxDepth (node : Node) :
    (visit { o with maxDepth := m } levels node).result = (visit o levels node).result := by
  induction levels generalizing node with
  | zero =>
    -- the warnings differ, but not the outcomes
    rfl
  | succ levels ih =>
    rw [visit_succ, visit_succ]
    cases node.extent? with
    | none => rfl
    | some extent =>
      simp only [follow_maxDepth]
      exact Rule.result_follow_congr extent (fun n _ => ih n) fun s _ =>
        value_specEntries_maxDepth o m levels s.body

end Levels

/-! ### Greater depths and limits -/

section Shift

variable (o : Options) {d k m : UInt64}

/-- As many levels are left if the depth and the limit grow by the same amount and no depth is too
great to be counted. -/
lemma levelsAt_add (hd : d.toNat + k.toNat ≤ lastDepth.toNat)
    (hm : m.toNat + k.toNat < lastDepth.toNat) (needed : Nat) :
    levelsAt { o with maxDepth := m + k } (d + k) needed =
      levelsAt { o with maxDepth := m } d needed := by
  rw [toNat_lastDepth] at hd hm
  have hdepth : (d + k).toNat = d.toNat + k.toNat := by
    rw [UInt64.toNat_add, Nat.mod_eq_of_lt (by omega)]
  have hlimit : (m + k).toNat = m.toNat + k.toNat := by
    rw [UInt64.toNat_add, Nat.mod_eq_of_lt (by omega)]
  -- neither limit is the one that allows every depth
  have hlast : m + k ≠ lastDepth := by
    intro h
    have hnat := congrArg UInt64.toNat h
    rw [hlimit, toNat_lastDepth] at hnat
    omega
  have hlast' : m ≠ lastDepth := by
    rintro rfl
    rw [toNat_lastDepth] at hm
    omega
  simp only [levelsAt, if_neg hlast, if_neg hlast', hdepth, hlimit]
  omega

lemma result_visitOne_add (hd : d.toNat + k.toNat ≤ lastDepth.toNat)
    (hm : m.toNat + k.toNat < lastDepth.toNat) (node : Node) :
    (visitOne { o with maxDepth := m + k } (d + k) node).result =
      (visitOne { o with maxDepth := m } d node).result := by
  rw [visitOne, levelsAt_add o hd hm, visitOne]
  exact (result_visit_maxDepth o (m + k) _ node).trans (result_visit_maxDepth o m _ node).symm

/-- An export under a limit has the outcome of its declaration under the limit that is lower by
one. -/
lemma transparent_export_lower (hm : m.toNat + 1 < lastDepth.toNat) (form : ExportForm)
    {loc : Option Location} (declaration : Node) (flag : Bool) {extent : Extent}
    (hextent : Extent.ofLocation? loc = some extent) :
    Transparent o (isDefaultExport form flag) extent
      (visitOne { o with maxDepth := m + 1 } d
        (.exportDeclaration form loc (some declaration) flag))
      (visitOne { o with maxDepth := m } d declaration) := by
  have hlimit : (m + 1).toNat = m.toNat + 1 := by
    rw [toNat_lastDepth] at hm
    rw [UInt64.toNat_add, UInt64.toNat_one, Nat.mod_eq_of_lt (by omega)]
  rw [transparent_iff_eq_map]
  by_cases hdepth : d ≤ m + 1
  · have hle : d.toNat ≤ m.toNat + 1 := hlimit ▸ UInt64.le_iff_toNat_le.1 hdepth
    have hdeeper :=
      result_visitOne_add o (d := d) (k := 1) (m := m) (by rw [UInt64.toNat_one]; omega)
        hm declaration
    rw [visitOne_export hdepth hextent, Run.result_bind, hdeeper]
    cases (visitOne { o with maxDepth := m } d declaration).result <;> rfl
  · -- the export is too deep itself, and so is the declaration under the lower limit
    have hhigh : m + 1 < d := UInt64.not_le.1 hdepth
    have hlow : m < d := by
      rw [UInt64.lt_iff_toNat_lt] at hhigh ⊢
      omega
    rw [visitOne_eq, if_pos hhigh, visitOne_eq, if_pos hlow]
    rfl

end Shift

/-! ### The greatest depth that can be counted -/

section Unlimited

variable (o : Options) (m d d' : UInt64)

/-- If every depth is allowed, the depth does not matter, and a visit under any limit is pruned from
this one. -/
lemma lowers_visitOne_lastDepth (node : Node) :
    Lowers PrunedOption (visitOne { o with maxDepth := m } d node)
      (visitOne { o with maxDepth := lastDepth } d' node) := by
  -- there are as many levels as are needed, whatever the depth is
  have hdepth : visitOne { o with maxDepth := lastDepth } d' node =
      visitOne { o with maxDepth := lastDepth } d node := by
    simp only [visitOne, levelsAt, if_true]
  have hle : m ≤ lastDepth := by
    have hlt := m.toNat_lt
    rw [UInt64.le_iff_toNat_le, toNat_lastDepth]
    omega
  rw [hdepth]
  exact lowers_visitOne (o := { o with maxDepth := m }) hle d node

lemma lowers_visitAll_lastDepth (nodes : List Node) :
    Lowers PrunedList (visitAll { o with maxDepth := m } d nodes)
      (visitAll { o with maxDepth := lastDepth } d' nodes) :=
  Lowers.filterMap fun node _ => lowers_visitOne_lastDepth o m d d' node

end Unlimited

/-- **Only the remaining depth matters.**  If the depth and the limit grow by the same amount, and
the limit stays below the greatest depth that can be counted, then visits have the same outcome.  So
an export under a limit has the outcome of its declaration under the limit that is lower by one.
Under the greatest depth as the limit nothing is dropped at any depth: visits under other limits
have the same outcome if they warn of nothing, and in any case they are pruned. -/
theorem visit_depends_on_remaining_depth (o : Options) :
    (∀ d k m : UInt64, d.toNat + k.toNat ≤ lastDepth.toNat → m.toNat + k.toNat < lastDepth.toNat →
      (∀ nodes, (visitAll { o with maxDepth := m + k } (d + k) nodes).result =
        (visitAll { o with maxDepth := m } d nodes).result) ∧
      ∀ node, (visitOne { o with maxDepth := m + k } (d + k) node).result =
        (visitOne { o with maxDepth := m } d node).result) ∧
    (∀ (d m : UInt64) (form : ExportForm) (loc : Option Location) (declaration : Node) (flag : Bool)
      (extent : Extent),
      m.toNat + 1 < lastDepth.toNat → Extent.ofLocation? loc = some extent →
      Transparent o (isDefaultExport form flag) extent
        (visitOne { o with maxDepth := m + 1 } d
          (.exportDeclaration form loc (some declaration) flag))
        (visitOne { o with maxDepth := m } d declaration)) ∧
    ∀ (d d' m : UInt64) (nodes : List Node),
      let limited := visitAll { o with maxDepth := m } d nodes
      let unlimited := visitAll { o with maxDepth := lastDepth } d' nodes
      ((∀ e ∈ limited.events, e.severity ≠ .warn) → unlimited.result = limited.result) ∧
      ∀ es', unlimited.result = .ok es' →
        ∃ es, limited.result = .ok es ∧ List.SublistForall₂ Entry.PrunedFrom es es' := by
  refine ⟨fun d k m hd hm => ⟨fun nodes => ?_, result_visitOne_add o hd hm⟩, ?_, ?_⟩
  · exact Run.result_filterMap_congr fun node _ => result_visitOne_add o hd hm node
  · intro d m form loc declaration flag extent hm hextent
    exact transparent_export_lower o hm form declaration flag hextent
  · intro d d' m nodes limited unlimited
    have hlowers := lowers_visitAll_lastDepth o m d d' nodes
    exact ⟨fun hquiet => congrArg Run.result (hlowers.replays hquiet).symm, hlowers.prunes⟩

/-- A class at the limit loses its member, and so it does with seven more levels above it and a
limit that is greater by seven.  Exported under the limit two, the class has the entry that it has
without the export under the limit one. -/
theorem member_lost_at_shifted_limit :
    let on (line : UInt32) : Option Location := some ⟨⟨line, 0⟩, ⟨line, 9⟩⟩
    let declaration : Node := .classDef .declaration (on 1) (some ⟨none, "A"⟩)
      [.classProperty (on 2) (.identifier ⟨none, "p"⟩) none]
    let o : Options := {}
    let extent : Extent := ⟨⟨0, 0⟩, ⟨0, 9⟩⟩
    let entry : Entry := ⟨.classType, [.className "A"], some "A", extent, []⟩
    (visitAll { o with maxDepth := 1 } 1 [declaration]).result = .ok [entry] ∧
      (visitAll { o with maxDepth := 1 + 7 } (1 + 7) [declaration]).result = .ok [entry] ∧
      Extent.ofLocation? (on 1) = some extent ∧
      Transparent o false extent
        (visitOne { o with maxDepth := 1 + 1 } 1
          (.exportDeclaration .named (on 1) (some declaration) false))
        (visitOne { o with maxDepth := 1 } 1 declaration) := by
  intro on declaration o extent entry
  obtain ⟨hshift, hexport, -⟩ := visit_depends_on_remaining_depth o
  have hlow : (visitAll { o with maxDepth := 1 } 1 [declaration]).result = .ok [entry] := rfl
  refine ⟨hlow, ?_, rfl, hexport 1 1 .named (on 1) declaration false extent (by decide) rfl⟩
  rw [(hshift 1 7 1 (by decide) (by decide)).1 [declaration], hlow]

/-- With the greatest depth that can be counted as the limit, a class at this depth keeps its
member, though no level is left.  A class at depth zero under the limit zero loses it. -/
theorem last_depth_keeps_members :
    let loc : Option Location := some ⟨⟨1, 0⟩, ⟨2, 0⟩⟩
    let nodes : List Node := [.classDef .declaration loc (some ⟨none, "A"⟩)
      [.classProperty loc (.identifier ⟨none, "p"⟩) none]]
    let o : Options := {}
    (0 : UInt64).toNat + lastDepth.toNat ≤ lastDepth.toNat ∧
      (visitAll { o with maxDepth := 0 + lastDepth } (0 + lastDepth) nodes).result ≠
        (visitAll { o with maxDepth := 0 } 0 nodes).result := by
  intro loc nodes o
  refine ⟨by decide, ?_⟩
  intro h
  cases h

end CodeOutline.Builder
