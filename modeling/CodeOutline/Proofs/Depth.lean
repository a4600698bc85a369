/-
The walk by depth.

The walk counts the levels that are left, while options speak of a greatest depth.  This file brings
the two together.  A walk that has as many levels left as a node is high does the same with any
further level (`visit_eq_of_height_le`, `specEntries_eq_of_height_le`), so it does not matter how
many there are when every depth is allowed.  What remains are equations in which only depths occur:
a node at a depth above the greatest one is dropped, and the nodes below a node are visited one
level deeper (`visitOne_eq`, `specChildren_eq`).  With these equations goes an induction along the
walk (`walk_induction`), and one along the groups of specs (`spec_induction`).
-/
import CodeOutline.Proofs.Rule

namespace CodeOutline

/-! ### Heights of the nodes below -/

namespace Node

lemma height_le_heightAll {n : Node} {ns : List Node} (h : n ∈ ns) : n.height ≤ heightAll ns := by
  induction ns with
  | nil => simp at h
  | cons m ns ih =>
    rw [heightAll]
    rcases List.mem_cons.1 h with rfl | h
    · exact Nat.le_max_left _ _
    · exact Nat.le_trans (ih h) (Nat.le_max_right _ _)

end Node

/-- The body of a spec lies at least three nodes below the call that declares it. -/
lemma Spec.heightAll_body_lt {callee : Node} {arguments : List Node} {s : Spec}
    (h : Spec.ofCall? callee arguments = some s) :
    Node.heightAll s.body + 2 ≤ Node.heightAll arguments := by
  obtain ⟨-, -, -, n, hn, hbody⟩ := Spec.ofCall?_eq_some_iff.1 h
  obtain ⟨form, loc, id, params, blockLoc, rfl⟩ := Node.functionBlock?_eq_some hbody
  have hle := Node.height_le_heightAll (List.mem_of_getElem? hn)
  simpa only [Node.height] using hle

namespace Builder

/-- A rule visits nodes that are less high than the node it applies to. -/
lemma height_lt_of_mem_visits {n node : Node} (h : n ∈ (ruleOf node).visits) :
    n.height < node.height := by
  have hfound := foundIn_ruleOf node
  cases hrule : ruleOf node with
  | classDef name members =>
    rw [hrule] at h hfound
    obtain ⟨form, loc, id, rfl, -⟩ := hfound
    have hle := Node.height_le_heightAll (show n ∈ members from h)
    rw [Node.height]
    omega
  | exported isDefault declaration =>
    rw [hrule] at h hfound
    obtain ⟨form, loc, flag, rfl, -⟩ := hfound
    obtain rfl : n = declaration := by simpa [Rule.visits] using h
    rw [Node.height]
    omega
  | _ => simp [hrule, Rule.visits] at h

/-- The body of a spec lies below the statement that declares it. -/
lemma heightAll_specBody_lt {node : Node} {s : Spec} (h : ruleOf node = .spec s) :
    Node.heightAll s.body + 1 < node.height := by
  have hfound := foundIn_ruleOf node
  rw [h] at hfound
  obtain ⟨loc, callLoc, callee, arguments, rfl, hs⟩ := hfound
  have hle := Spec.heightAll_body_lt hs
  simp only [Node.height]
  omega

/-- The body of a spec is less high than the statements among which the spec stands. -/
lemma heightAll_specBody_lt_of_mem {node : Node} {body : List Node} (hnode : node ∈ body)
    {loc callLoc : Option Location} {callee : Node} {arguments : List Node} {s : Spec}
    (hcall : node = .expressionStatement loc (.call callLoc callee arguments))
    (hs : Spec.ofCall? callee arguments = some s) :
    Node.heightAll s.body < Node.heightAll body := by
  have hbody := Spec.heightAll_body_lt hs
  have hle := Node.height_le_heightAll hnode
  rw [hcall] at hle
  simp only [Node.height] at hle
  omega

/-! ### Enough levels -/

/-- The entry of a statement in a group only depends on the entries below the body of its spec. -/
lemma specStatement?_congr {below below' : List Node → Logged (List Entry)} {node : Node}
    (h : ∀ loc callLoc callee arguments s,
      node = .expressionStatement loc (.call callLoc callee arguments) →
      Spec.ofCall? callee arguments = some s → below s.body = below' s.body) :
    specStatement? below node = specStatement? below' node := by
  unfold specStatement?
  split
  · next loc callLoc callee arguments =>
    cases Extent.ofLocation? loc with
    | none => rfl
    | some extent =>
      simp only [entryOfCall?]
      cases hs : Spec.ofCall? callee arguments with
      | none => rfl
      | some s => simp only [specEntry, h _ _ _ _ s rfl hs]
  · rfl

/-- If there are more levels than the statements of a group are high, their number does not
matter. -/
lemma specEntries_eq_of_height_le (o : Options) {m n : Nat} {body : List Node}
    (hm : Node.heightAll body < m) (hn : Node.heightAll body < n) :
    specEntries o m body = specEntries o n body := by
  induction m generalizing n body with
  | zero => omega
  | succ m ih =>
    obtain ⟨n, rfl⟩ : ∃ k, n = k + 1 := ⟨n - 1, by omega⟩
    refine Logged.filterMap_congr fun node hnode => ?_
    refine specStatement?_congr fun loc callLoc callee arguments s hnode' hs => ?_
    have hlt := heightAll_specBody_lt_of_mem hnode hnode' hs
    exact ih (by omega) (by omega)

/-- If there are as many levels as a node is high, their number does not matter. -/
lemma visit_eq_of_height_le (o : Options) {m n : Nat} {node : Node} (hm : node.height ≤ m)
    (hn : node.height ≤ n) : visit o m node = visit o n node := by
  have hpos := node.height_pos
  induction m generalizing n node with
  | zero => omega
  | succ m ih =>
    obtain ⟨n, rfl⟩ : ∃ k, n = k + 1 := ⟨n - 1, by omega⟩
    rw [visit_succ, visit_succ]
    cases node.extent? with
    | none => rfl
    | some extent =>
      refine Rule.follow_congr extent (fun d hd => ?_) fun s hs => ?_
      · have hlt := height_lt_of_mem_visits hd
        exact ih (by omega) (by omega) d.height_pos
      · have hlt := heightAll_specBody_lt hs
        exact specEntries_eq_of_height_le o (by omega) (by omega)

/-! ### Levels and depths -/

lemma toNat_lastDepth : lastDepth.toNat = 0xFFFFFFFFFFFFFFFF := rfl

/-- No level is left at a depth above the greatest one. -/
lemma levelsAt_of_lt {o : Options} {depth : UInt64} (h : o.maxDepth < depth) (needed : Nat) :
    levelsAt o depth needed = 0 := by
  have hlt : o.maxDepth.toNat < depth.toNat := UInt64.lt_iff_toNat_lt.1 h
  have hbound := depth.toNat_lt
  have hne : o.maxDepth ≠ lastDepth := by
    intro hlast
    rw [hlast, toNat_lastDepth] at hlt
    omega
  rw [levelsAt, if_neg hne]
  omega

/-- One level is used up on the way to the next depth. -/
lemma levelsAt_of_le {o : Options} {depth : UInt64} (h : depth ≤ o.maxDepth) (needed : Nat) :
    levelsAt o depth (needed + 1) = levelsAt o (depth + 1) needed + 1 := by
  unfold levelsAt
  split
  · rfl
  · next hlast =>
    have hle : depth.toNat ≤ o.maxDepth.toNat := UInt64.le_iff_toNat_le.1 h
    have hbound := o.maxDepth.toNat_lt
    have hne : o.maxDepth.toNat ≠ 0xFFFFFFFFFFFFFFFF := fun heq =>
      hlast (UInt64.toNat_inj.1 (heq.trans toNat_lastDepth.symm))
    -- the next depth does not wrap around, since it is at most the greatest depth
    have hnext : (depth + 1).toNat = depth.toNat + 1 := by
      rw [UInt64.toNat_add, UInt64.toNat_one, Nat.mod_eq_of_lt (by omega)]
    rw [hnext]
    omega

/-- Any number of levels that is needed is as good as a greater one. -/
lemma visit_levelsAt (o : Options) (depth : UInt64) {node : Node} {needed : Nat}
    (h : node.height ≤ needed) :
    visit o (levelsAt o depth needed) node = visitOne o depth node := by
  unfold visitOne levelsAt
  split
  · exact visit_eq_of_height_le o h (Nat.le_refl _)
  · rfl

lemma specEntries_levelsAt (o : Options) (depth : UInt64) {body : List Node} {needed : Nat}
    (h : Node.heightAll body < needed) :
    specEntries o (levelsAt o depth needed) body = specChildren o depth body := by
  unfold specChildren levelsAt
  split
  · exact specEntries_eq_of_height_le o h (Nat.lt_succ_self _)
  · rfl

/-! ### The walk in terms of depths -/

/-- A node that lies too deep is dropped, a node without a usable location is skipped, and any other
node is treated by its rule, with the nodes below it one level deeper. -/
lemma visitOne_eq (o : Options) (depth : UInt64) (node : Node) :
    visitOne o depth node =
      if o.maxDepth < depth then ⟨[.tooDeep node.kindName o.maxDepth], .ok none⟩
      else
        match node.extent? with
        | none => ⟨[.noLocation node.kindName], .ok none⟩
        | some extent =>
          (ruleOf node).follow o (visitOne o (depth + 1)) (specChildren o (depth + 1)) extent := by
  split
  · next h => rw [visitOne, levelsAt_of_lt h, visit_zero]
  · next h =>
    obtain ⟨height, hheight⟩ : ∃ k, node.height = k + 1 :=
      ⟨node.height - 1, by have := node.height_pos; omega⟩
    rw [visitOne, hheight, levelsAt_of_le (UInt64.not_lt.1 h), visit_succ]
    cases node.extent? with
    | none => rfl
    | some extent =>
      refine Rule.follow_congr extent (fun d hd => ?_) fun s hs => ?_
      · have hlt := height_lt_of_mem_visits hd
        exact visit_levelsAt o (depth + 1) (by omega)
      · have hlt := heightAll_specBody_lt hs
        exact specEntries_levelsAt o (depth + 1) (by omega)

/-- The statements of a group that lies too deep are dropped together; otherwise the groups among
them are followed one level deeper. -/
lemma specChildren_eq (o : Options) (depth : UInt64) (body : List Node) :
    specChildren o depth body =
      if o.maxDepth < depth then ⟨[.specsTooDeep o.maxDepth], []⟩
      else Logged.filterMap (specStatement? (specChildren o (depth + 1))) body := by
  split
  · next h =>
    rw [specChildren, levelsAt_of_lt h]
    rfl
  · next h =>
    rw [specChildren, levelsAt_of_le (UInt64.not_lt.1 h), specEntries]
    refine Logged.filterMap_congr fun node hnode => ?_
    refine specStatement?_congr fun loc callLoc callee arguments s hnode' hs => ?_
    exact specEntries_levelsAt o (depth + 1) (heightAll_specBody_lt_of_mem hnode hnode' hs)

/-! ### Induction along the walk -/

/-- What holds at a node if it holds one level deeper at the nodes that its rule visits holds at all
nodes. -/
lemma walk_induction {motive : UInt64 → Node → Prop}
    (step : ∀ depth node, (∀ n ∈ (ruleOf node).visits, motive (depth + 1) n) → motive depth node)
    (depth : UInt64) (node : Node) : motive depth node := by
  induction h : node.height using Nat.strongRecOn generalizing depth node with
  | ind height ih =>
    refine step depth node fun n hn => ?_
    have hlt := height_lt_of_mem_visits hn
    exact ih n.height (by omega) (depth + 1) n rfl

/-- What holds of some statements if it holds one level deeper of the bodies of the specs among them
holds of all statements. -/
lemma spec_induction {motive : UInt64 → List Node → Prop}
    (step : ∀ depth body, (∀ node ∈ body, ∀ s, ruleOf node = .spec s → motive (depth + 1) s.body) →
      motive depth body)
    (depth : UInt64) (body : List Node) : motive depth body := by
  induction h : Node.heightAll body using Nat.strongRecOn generalizing depth body with
  | ind height ih =>
    refine step depth body fun node hnode s hs => ?_
    have hlt := heightAll_specBody_lt hs
    have hle := Node.height_le_heightAll hnode
    exact ih (Node.heightAll s.body) (by omega) (depth + 1) s.body rfl

end Builder

end CodeOutline
