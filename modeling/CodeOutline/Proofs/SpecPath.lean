/-
Two ways to the entry of a spec.

A spec at the top of a program is met by the walk, and a spec inside a group is met by the loop over
the statements of the group.  The walk and the loop check depths and locations each on their own.
They also treat other statements differently: the walk looks for a rule for them, and the loop
passes over them.  Still both come to the same entries: if the walk is given the statements of a
group that are calls, it does not fail, and what it gives are the entries of the group
(`spec_path_agrees_with_walk`).

Calls show neither keywords nor parameters, so options that only differ in these do not matter.  And
since the walk only depends on the levels that are left, the entries below a group are those of a
program of their own.  As for all visits, that ends at the greatest depth that can be counted: there
a group keeps its specs, though no level is left (`last_depth_keeps_nested_specs`).
-/
import CodeOutline.Proofs.RemainingDepth

namespace CodeOutline

/-- Whether a node is a statement that consists of a call. -/
def Node.isCallStatement : Node → Bool
  | .expressionStatement _ (.call ..) => true
  | _ => false

/-- The statements that consist of a call. -/
def callStatements (body : List Node) : List Node := body.filter Node.isCallStatement

lemma Node.isCallStatement_iff {n : Node} :
    n.isCallStatement = true ↔
      ∃ loc callLoc callee arguments,
        n = .expressionStatement loc (.call callLoc callee arguments) := by
  constructor
  · intro h
    cases n with
    | expressionStatement loc expression =>
      cases expression with
      | call callLoc callee arguments => exact ⟨loc, callLoc, callee, arguments, rfl⟩
      | _ => cases h
    | _ => cases h
  · rintro ⟨loc, callLoc, callee, arguments, rfl⟩
    rfl

namespace Builder

variable (o : Options) (depth : UInt64)

/-! ### Statements that are no calls -/

lemma specStatement?_of_not_call (below : List Node → Logged (List Entry)) {node : Node}
    (h : node.isCallStatement = false) : specStatement? below node = pure none := by
  unfold specStatement?
  split
  · cases h
  · rfl

/-- The statements of a group that are no calls do not matter. -/
lemma specChildren_callStatements (body : List Node) :
    specChildren o depth (callStatements body) = specChildren o depth body := by
  rw [specChildren_eq, specChildren_eq o depth body]
  split
  · rfl
  · exact Logged.filterMap_filter (fun _ hnode => specStatement?_of_not_call _ hnode) body

/-! ### Calls in the walk -/

/-- The walk gives a call the entry that the loop over a group gives it. -/
lemma result_visitOne_call {node : Node} (hcall : node.isCallStatement = true)
    (hdepth : ¬ o.maxDepth < depth) :
    (visitOne o depth node).result =
      .ok (specStatement? (specChildren o (depth + 1)) node).value := by
  obtain ⟨loc, callLoc, callee, arguments, rfl⟩ := Node.isCallStatement_iff.1 hcall
  rw [visitOne_eq, if_neg hdepth]
  simp only [Node.extent?, Node.loc, specStatement?, ruleOf]
  cases Extent.ofLocation? loc with
  | none => rfl
  | some extent =>
    simp only [follow_callRule]
    rfl

lemma result_visitAll_callStatements (body : List Node) :
    (visitAll o depth (callStatements body)).result = .ok (specChildren o depth body).value := by
  by_cases hdepth : o.maxDepth < depth
  · -- the walk drops the calls one by one, and the loop drops them together
    have hround : ∀ n ∈ callStatements body, (visitOne o depth n).result = .ok none := by
      intro n _
      rw [visitOne_eq, if_pos hdepth]
    rw [specChildren_eq, if_pos hdepth, visitAll, Run.result_filterMap_of_ok hround]
    simp
  · have hround : ∀ n ∈ callStatements body,
        (visitOne o depth n).result =
          .ok (specStatement? (specChildren o (depth + 1)) n).value := by
      intro n hn
      exact result_visitOne_call o depth (List.mem_filter.1 hn).2 hdepth
    rw [← specChildren_callStatements, specChildren_eq, if_neg hdepth, visitAll,
      Run.result_filterMap_of_ok hround, Logged.value_filterMap]

lemma specChildren_congr {o o' : Options} (h : o.maxDepth = o'.maxDepth) (depth : UInt64)
    (body : List Node) : specChildren o depth body = specChildren o' depth body := by
  rw [specChildren, specChildren, specEntries_congr h, levelsAt, levelsAt, h]

/-- A group that is not too deep has the entry of its call, and below it what the walk gives the
calls in its body one level deeper. -/
lemma result_visitOne_group (hdepth : depth ≤ o.maxDepth) {loc callLoc : Option Location}
    {callee : Node} {arguments : List Node} {extent : Extent} {s : Spec}
    (hextent : Extent.ofLocation? loc = some extent) (hs : Spec.ofCall? callee arguments = some s)
    (hgroup : s.family = .group) :
    ∃ children, (visitAll o (depth + 1) (callStatements s.body)).result = .ok children ∧
      (visitOne o depth (.expressionStatement loc (.call callLoc callee arguments))).result =
        .ok (some ⟨.function, specLabel s, some s.description, extent, children⟩) := by
  refine ⟨_, result_visitAll_callStatements o (depth + 1) s.body, ?_⟩
  rw [result_visitOne_call o depth rfl (UInt64.not_lt.2 hdepth)]
  simp only [specStatement?, hextent, entryOfCall?, hs, Logged.value_map, value_specEntry,
    hgroup, if_true]

/-! ### Groups as programs of their own -/

/-- A visit at a depth is a visit at the top under a limit that is lower by the depth, unless every
depth is allowed. -/
lemma result_visitAll_top (hdepth : depth ≤ o.maxDepth) (hlast : o.maxDepth ≠ lastDepth)
    (nodes : List Node) :
    (visitAll o depth nodes).result =
      (visitAll { o with maxDepth := o.maxDepth - depth } 0 nodes).result := by
  have hle : depth.toNat ≤ o.maxDepth.toNat := UInt64.le_iff_toNat_le.1 hdepth
  have hbound := o.maxDepth.toNat_lt
  have hne : o.maxDepth.toNat ≠ lastDepth.toNat := fun h => hlast (UInt64.toNat_inj.1 h)
  have hremaining : (o.maxDepth - depth).toNat = o.maxDepth.toNat - depth.toNat :=
    UInt64.toNat_sub_of_le _ _ hdepth
  rw [toNat_lastDepth] at hne
  have hshift (n : Node) := result_visitOne_add o (d := 0) (k := depth) (m := o.maxDepth - depth)
    (by rw [UInt64.toNat_zero, toNat_lastDepth]; omega)
    (by rw [hremaining, toNat_lastDepth]; omega) n
  simp only [UInt64.sub_add_cancel, UInt64.zero_add] at hshift
  exact Run.result_filterMap_congr fun n _ => hshift n

lemma build_eq (p : Program) :
    (build o p).events = (visitAll o 0 p.body).events ∧
      (build o p).result = (visitAll o 0 p.body).result.map Outline.mk := by
  refine ⟨events_bind_pure _ _, ?_⟩
  rw [build, Run.result_bind]
  cases (visitAll o 0 p.body).result <;> rfl

/-- The calls of a group as a program of their own, under the limit that leaves as many levels.  If
every depth is allowed in the group, the program is pruned. -/
lemma lowers_callStatements (hlast : o.maxDepth = lastDepth) (m : UInt64) (body : List Node) :
    Run.Lowers PrunedList (visitAll { o with maxDepth := m } 0 (callStatements body))
      (visitAll o depth (callStatements body)) := by
  have hlowers := lowers_visitAll_lastDepth o m 0 depth (callStatements body)
  rwa [← hlast] at hlowers

/-- **Specs are met in one way.**  If the walk is given the calls among some statements, it does not
fail, and it gives the entries that these statements have in a group at the same depth.  Neither
keywords nor parameters matter for them.

So the specs below a group have the entries that the walk gives them one level deeper than the
group.  If the limit is below the greatest depth that can be counted, these are also the entries of
the program that consists of them, under the limit that leaves as many levels.  Under the greatest
depth as the limit nothing is dropped in a group at any depth: the program has the same entries if
it warns of nothing, and in any case they are pruned. -/
theorem spec_path_agrees_with_walk (o : Options) (depth : UInt64) (body : List Node) :
    (visitAll o depth (callStatements body)).result = .ok (specChildren o depth body).value ∧
    (∀ (visibility : Visibility) (showArgs : Bool),
      (visitAll { o with visibility, showArgs } depth (callStatements body)).result =
        (visitAll o depth (callStatements body)).result ∧
      (specChildren { o with visibility, showArgs } depth body).value =
        (specChildren o depth body).value) ∧
    (depth ≤ o.maxDepth →
      (∀ (loc callLoc : Option Location) (callee : Node) (arguments : List Node) (extent : Extent)
          (s : Spec),
        Extent.ofLocation? loc = some extent → Spec.ofCall? callee arguments = some s →
        s.family = .group →
        ∃ children, (visitAll o (depth + 1) (callStatements s.body)).result = .ok children ∧
          (visitOne o depth (.expressionStatement loc (.call callLoc callee arguments))).result =
            .ok (some ⟨.function, specLabel s, some s.description, extent, children⟩)) ∧
      ∀ loc : Option Location,
        let top := build { o with maxDepth := o.maxDepth - depth } ⟨loc, callStatements body⟩
        (o.maxDepth ≠ lastDepth → top.result = .ok ⟨(specChildren o depth body).value⟩) ∧
        (o.maxDepth = lastDepth →
          ((∀ e ∈ top.events, e.severity ≠ .warn) →
            top.result = .ok ⟨(specChildren o depth body).value⟩) ∧
          ∃ entries, top.result = .ok ⟨entries⟩ ∧
            List.SublistForall₂ Entry.PrunedFrom entries (specChildren o depth body).value)) := by
  have hwalk := result_visitAll_callStatements o depth body
  refine ⟨hwalk, fun visibility showArgs => ?_, fun hdepth => ⟨?_, ?_⟩⟩
  · have hspecs : specChildren { o with visibility, showArgs } depth body =
        specChildren o depth body := specChildren_congr (by rfl) depth body
    rw [result_visitAll_callStatements, hwalk, hspecs]
    exact ⟨rfl, rfl⟩
  · intro loc callLoc callee arguments extent s hextent hs hgroup
    exact result_visitOne_group o depth hdepth hextent hs hgroup
  · intro loc top
    let calls := visitAll { o with maxDepth := o.maxDepth - depth } 0 (callStatements body)
    have hbuild : top.events = calls.events ∧ top.result = calls.result.map Outline.mk :=
      build_eq { o with maxDepth := o.maxDepth - depth } ⟨loc, callStatements body⟩
    obtain ⟨hevents, hresult⟩ := hbuild
    refine ⟨fun hlast => ?_, fun hlast => ⟨fun hquiet => ?_, ?_⟩⟩
    · rw [hresult, ← result_visitAll_top o depth hdepth hlast, hwalk]
      rfl
    · have hlowers := lowers_callStatements o depth hlast (o.maxDepth - depth) body
      rw [hevents] at hquiet
      rw [hresult, show calls = _ from hlowers.replays hquiet, hwalk]
      rfl
    · have hlowers := lowers_callStatements o depth hlast (o.maxDepth - depth) body
      obtain ⟨entries, hentries, hpruned⟩ := hlowers.prunes _ hwalk
      refine ⟨entries, ?_, hpruned⟩
      rw [hresult, hentries]
      rfl

/-- A group at depth one, with a group and another statement in it.  The walk over the calls in it
gives the inner group, which keeps its spec since two levels are allowed below the first one.  The
same comes from the statement alone at the top, with one level less. -/
theorem group_inside_group_outlined_as_at_top :
    let on (line : UInt32) : Option Location := some ⟨⟨line, 0⟩, ⟨line, 9⟩⟩
    let spec (line : UInt32) (callee text : String) (body : List Node) : Node :=
      .expressionStatement (on line) (.call none (.identifier ⟨none, callee⟩)
        [.literal none (.string text), .function .arrow none none [] (.block none body)])
    let typeNode : Node := .typeAlias false (on 4) ⟨none, "T"⟩
    let inner : Node := spec 2 "describe" "b" [spec 3 "it" "c" [], typeNode]
    let o : Options := { maxDepth := 2 }
    let entry (row : UInt32) (callee text : String) (children : List Entry) : Entry :=
      ⟨.function, [.method callee, .space, .string text], some text, ⟨⟨row, 0⟩, ⟨row, 9⟩⟩, children⟩
    let entries : List Entry := [entry 1 "describe" "b" [entry 2 "it" "c" []]]
    (specChildren o 1 [inner, typeNode]).value = entries ∧
      (visitAll o 1 [inner]).result = .ok entries ∧
      (visitOne o 0 (spec 1 "suite" "a" [inner, typeNode])).result =
        .ok (some (entry 0 "suite" "a" entries)) ∧
      (1 : UInt64) ≤ o.maxDepth ∧ o.maxDepth ≠ lastDepth ∧
      (build { o with maxDepth := o.maxDepth - 1 } ⟨none, [inner]⟩).result = .ok ⟨entries⟩ := by
  intro on spec typeNode inner o entry entries
  have hentries : (specChildren o 1 [inner, typeNode]).value = entries := rfl
  have hdepth : (1 : UInt64) ≤ o.maxDepth := by decide
  have hlast : o.maxDepth ≠ lastDepth := by decide
  obtain ⟨hwalk, -, hnested⟩ := spec_path_agrees_with_walk o 1 [inner, typeNode]
  obtain ⟨-, -, hgroup⟩ := spec_path_agrees_with_walk o 0 []
  obtain ⟨children, hchildren, hentry⟩ :=
    (hgroup (by decide)).1 (on 1) none (.identifier ⟨none, "suite"⟩)
      [.literal none (.string "a"), .function .arrow none none [] (.block none [inner, typeNode])]
      ⟨⟨0, 0⟩, ⟨0, 9⟩⟩ ⟨"suite", .group, "a", [inner, typeNode]⟩ rfl rfl rfl
  -- one level below depth zero is depth one
  obtain rfl : entries = children :=
    Except.ok.inj ((hwalk.trans (congrArg _ hentries)).symm.trans hchildren)
  refine ⟨hentries, hwalk.trans (congrArg _ hentries), hentry, hdepth, hlast, ?_⟩
  rw [← hentries]
  exact ((hnested hdepth).2 none).1 hlast

/-- With the greatest depth that can be counted as the limit, a group just above this depth has a
group in it, and that one keeps its spec, though no level is left for it.  At the top and with no
level left, the inner group loses its spec. -/
theorem last_depth_keeps_nested_specs :
    let on (line : UInt32) : Option Location := some ⟨⟨line, 0⟩, ⟨line, 9⟩⟩
    let spec (line : UInt32) (callee text : String) (body : List Node) : Node :=
      .expressionStatement (on line) (.call none (.identifier ⟨none, callee⟩)
        [.literal none (.string text), .function .arrow none none [] (.block none body)])
    let inner : Node := spec 2 "describe" "b" [spec 3 "it" "c" []]
    let o : Options := { maxDepth := lastDepth }
    let entry (row : UInt32) (callee text : String) (children : List Entry) : Entry :=
      ⟨.function, [.method callee, .space, .string text], some text, ⟨⟨row, 0⟩, ⟨row, 9⟩⟩, children⟩
    let entries : List Entry := [entry 1 "describe" "b" [entry 2 "it" "c" []]]
    lastDepth ≤ o.maxDepth ∧
      (visitOne o (lastDepth - 1) (spec 1 "describe" "a" [inner])).result =
        .ok (some (entry 0 "describe" "a" entries)) ∧
      (specChildren o lastDepth [inner]).value = entries ∧
      (build { o with maxDepth := o.maxDepth - lastDepth } ⟨none, callStatements [inner]⟩).result =
        .ok ⟨[entry 1 "describe" "b" []]⟩ ∧
      (build { o with maxDepth := o.maxDepth - lastDepth } ⟨none, callStatements [inner]⟩).result ≠
        .ok ⟨(specChildren o lastDepth [inner]).value⟩ := by
  intro on spec inner o entry entries
  -- at the greatest depth no level is left
  have hlimit : o.maxDepth - lastDepth = 0 := by decide
  rw [hlimit]
  refine ⟨by decide, rfl, rfl, rfl, ?_⟩
  intro h
  cases h

end Builder

end CodeOutline
