/-
How deep outlines are nested, and how far depths are counted.

The level of an entry and the depth of the visit that makes it are not the same.  An export uses up
a depth without adding a level, and the entry of `module.exports` has entries one level below it
that are not visited at all.  So the bound on levels is carried along the walk: with a number of
levels left, an entry fits into that many levels, except that the entries of properties may lie one
level further down (`Entry.FitsIn`, `fitsIn_visit`).

The other half is about the counter.  The walk is written once more with depths in place of levels,
so that every call with a depth and every addition to a depth can be recorded (`meteredVisit`).
Without the record it is the walk (`run_meteredVisit`), and the record shows that nothing above the
greatest depth is ever counted further (`within_meteredVisit`).
-/
import CodeOutline.Proofs.DepthLimit
import CodeOutline.Proofs.Provenance

namespace CodeOutline

/-! ### Levels of entries -/

namespace Entry

/-- The entry of an assignment to `module.exports`. -/
def IsModuleExports (e : Entry) : Prop :=
  e.kind = .moduleScope ∧ e.label = [.plain "module.exports"] ∧ e.name = none

/-- An entry fits into a number of levels: the entries below it fit into one level less.  Below the
entry of `module.exports` there may be entries without children even if no level is left for
them. -/
inductive FitsIn : Nat → Entry → Prop where
  | nested {levels : Nat} {e : Entry} (h : ∀ c ∈ e.children, FitsIn levels c) :
      FitsIn (levels + 1) e
  | moduleExports {levels : Nat} {e : Entry} (he : e.IsModuleExports)
      (h : ∀ c ∈ e.children, c.children = []) : FitsIn (levels + 1) e

namespace FitsIn

lemma of_children_eq_nil {levels : Nat} {e : Entry} (h : e.children = []) : FitsIn (levels + 1) e :=
  .nested fun c hc => by simp [h] at hc

/-- What fits into some levels fits into more. -/
lemma succ {levels : Nat} {e : Entry} (h : FitsIn levels e) : FitsIn (levels + 1) e := by
  induction h with
  | nested _ ih => exact .nested ih
  | moduleExports he hchildren => exact .moduleExports he hchildren

lemma mono {m n : Nat} {e : Entry} (h : FitsIn m e) (hmn : m ≤ n) : FitsIn n e := by
  induction hmn with
  | refl => exact h
  | step _ ih => exact ih.succ

/-- The entries below an entry fit into as many levels as the entry itself. -/
lemma child {levels : Nat} {e c : Entry} (h : FitsIn levels e) (hc : c ∈ e.children) :
    FitsIn levels c := by
  cases h with
  | nested hbelow => exact (hbelow c hc).succ
  | moduleExports _ hchildren => exact of_children_eq_nil (hchildren c hc)

open Forest (inTree? at?)

/-- An entry that is reached from an entry that fits into some levels is less than that many levels
below it, or it is a property of `module.exports` at that very level. -/
lemma level_lt {levels : Nat} {x e : Entry} {path : List Nat} (h : FitsIn levels x)
    (hpath : inTree? Entry.children path x = some e) :
    path.length < levels ∨
      (path.length = levels ∧ e.children = [] ∧
        ∃ parent, inTree? Entry.children path.dropLast x = some parent ∧
          parent.IsModuleExports) := by
  induction path generalizing levels x with
  | nil => cases h <;> exact .inl (Nat.succ_pos _)
  | cons i rest ih =>
    obtain ⟨y, hy, hrest⟩ := Option.bind_eq_some_iff.1 hpath
    have hmem : y ∈ x.children := List.mem_of_getElem? hy
    cases h with
    | @nested levels _ hbelow =>
      have hfits := hbelow y hmem
      rcases ih hfits hrest with hlt | ⟨heq, hchildren, parent, hparent, hmodule⟩
      · left
        simpa using hlt
      · right
        -- no entry fits into no level, so the way from `y` on is not empty
        have hne : rest ≠ [] := by
          rintro rfl
          obtain rfl : 0 = levels := heq
          cases hfits
        refine ⟨congrArg Nat.succ heq, hchildren, parent, ?_, hmodule⟩
        rw [List.dropLast_cons_of_ne_nil hne, inTree?, hy]
        exact hparent
    | @moduleExports levels _ he hleaves =>
      have hleaf : y.children = [] := hleaves y hmem
      cases rest with
      | cons j rest => simp [inTree?, hleaf] at hrest
      | nil =>
        obtain rfl : y = e := Option.some.inj hrest
        cases levels with
        | zero => exact .inr ⟨rfl, hleaf, x, rfl, he⟩
        | succ levels => exact .inl (by simp)

end FitsIn

end Entry

open Entry (FitsIn)

namespace Builder

/-! ### Entries fit into the levels that are left -/

lemma fitsIn_of_isLeafAt {extent : Extent} {e : Entry} (h : IsLeafAt extent e) (levels : Nat) :
    FitsIn (levels + 1) e := .of_children_eq_nil h.2

lemma children_entryOfProperty? {o : Options} {n : Node} {e : Entry}
    (h : ModuleExports.entryOfProperty? o n = .ok (some e)) : e.children = [] := by
  cases n with
  | property loc key value shorthand =>
    simp only [ModuleExports.entryOfProperty?] at h
    split at h
    · exact (isLeafAt_memberEntry (eq_ok_of_map_some h)).2
    · simp at h
  | _ => simp [ModuleExports.entryOfProperty?] at h

lemma fitsIn_moduleExports {o : Options} {properties : List Node} {extent : Extent} {e : Entry}
    (h : ModuleExports.entry o properties extent = .ok e) (levels : Nat) :
    FitsIn (levels + 1) e := by
  obtain ⟨es, hes, h⟩ := exists_ok_of_bind h
  obtain rfl := Except.ok.inj h
  refine .moduleExports ⟨rfl, rfl, rfl⟩ fun c hc => ?_
  rw [propertyEntries_eq] at hes
  obtain ⟨g, rfl, hg⟩ := Run.filterMap_eq_ok hes
  obtain ⟨n, hn, hgn⟩ := List.mem_filterMap.1 hc
  exact children_entryOfProperty? ((hg n hn).trans (congrArg _ hgn))

lemma fitsIn_specEntry {below : List Node → Logged (List Entry)} {s : Spec} {levels : Nat}
    (hbelow : ∀ e ∈ (below s.body).value, FitsIn levels e) (extent : Extent) :
    FitsIn (levels + 1) (specEntry below s extent).value := by
  rw [value_specEntry]
  refine .nested fun c hc => ?_
  by_cases hgroup : s.family = .group
  · rw [if_pos hgroup] at hc
    exact hbelow c hc
  · rw [if_neg hgroup] at hc
    simp at hc

lemma fitsIn_specEntries (o : Options) (levels : Nat) (body : List Node) :
    ∀ e ∈ (specEntries o levels body).value, FitsIn levels e := by
  induction levels generalizing body with
  | zero =>
    intro e he
    simp [specEntries] at he
  | succ levels ih =>
    intro e he
    rw [specEntries, Logged.value_filterMap] at he
    obtain ⟨n, -, hn⟩ := List.mem_filterMap.1 he
    rcases specStatement?_cases n with ⟨extent, s, -, -, hstatement⟩ | hnone
    · rw [hstatement, Logged.value_map] at hn
      obtain rfl := Option.some.inj hn
      exact fitsIn_specEntry (ih s.body) extent
    · simp [hnone] at hn

/-- Following a rule gives an entry that needs at most one level more than the entries below it. -/
lemma fitsIn_follow {o : Options} {inner : Node → Run (Option Entry)}
    {below : List Node → Logged (List Entry)} {rule : Rule} {extent : Extent}
    {levels : Nat} {e : Entry} (hinner : ∀ n ∈ rule.visits, ∀ e, (inner n).result = .ok (some e) →
      FitsIn levels e)
    (hbelow : ∀ body, ∀ e ∈ (below body).value, FitsIn levels e)
    (h : (rule.follow o inner below extent).result = .ok (some e)) : FitsIn (levels + 1) e := by
  cases rule with
  | skip event => cases event <;> simp [Rule.follow, Except.bind] at h
  | function name params =>
    exact fitsIn_of_isLeafAt (isLeafAt_functionEntry (eq_ok_of_map_some h)) levels
  | method name params =>
    exact fitsIn_of_isLeafAt (isLeafAt_methodEntry (eq_ok_of_map_some h)) levels
  | property name =>
    obtain rfl := Option.some.inj (Except.ok.inj h)
    exact .of_children_eq_nil rfl
  | typeAlias name =>
    obtain rfl := Option.some.inj (Except.ok.inj h)
    exact .of_children_eq_nil rfl
  | binding kind id => exact fitsIn_of_isLeafAt (isLeafAt_bindingEntry (eq_ok_of_map_some h)) levels
  | moduleExports properties => exact fitsIn_moduleExports (eq_ok_of_map_some h) levels
  | spec s =>
    obtain rfl := Option.some.inj (Except.ok.inj h)
    exact fitsIn_specEntry (hbelow s.body) extent
  | classDef name members =>
    simp only [Rule.follow, Run.result_bind] at h
    obtain ⟨es, hes, h⟩ := exists_ok_of_bind h
    obtain rfl := Option.some.inj (Except.ok.inj h)
    obtain ⟨g, rfl, hg⟩ := Run.filterMap_eq_ok hes
    refine .nested fun c hc => ?_
    obtain ⟨n, hn, hgn⟩ := List.mem_filterMap.1 hc
    exact hinner n hn c ((hg n hn).trans (congrArg _ hgn))
  | exported isDefault declaration =>
    simp only [Rule.follow, Run.result_bind, Run.result_pure] at h
    obtain ⟨entry, hentry, h⟩ := exists_ok_of_bind h
    obtain ⟨inside, rfl, rfl⟩ := Option.map_eq_some_iff.1 (Except.ok.inj h)
    -- the export has used up a level that the entries below do not need
    have hinside : FitsIn levels inside := hinner declaration (by simp [Rule.visits]) inside hentry
    exact .nested fun c hc => hinside.child hc

/-- The entry of a node fits into the levels that are left at the node. -/
lemma fitsIn_visit {o : Options} {levels : Nat} {node : Node} {e : Entry}
    (h : (visit o levels node).result = .ok (some e)) : FitsIn levels e := by
  induction levels generalizing node e with
  | zero => simp [visit_zero] at h
  | succ levels ih =>
    rw [visit_succ] at h
    cases hextent : node.extent? with
    | none => simp [hextent] at h
    | some extent =>
      rw [hextent] at h
      exact fitsIn_follow (fun n _ e he => ih he) (fitsIn_specEntries o levels) h

/-- The entries of an outline fit into the levels that are left at the top. -/
lemma fitsIn_build {o : Options} {p : Program} {outline : Outline}
    (h : (build o p).result = .ok outline) :
    ∀ e ∈ outline.entries, FitsIn (levelsAt o 0 (Node.heightAll p.body)) e := by
  rw [build, Run.result_bind] at h
  obtain ⟨es, hes, h⟩ := exists_ok_of_bind h
  obtain rfl := Except.ok.inj h
  obtain ⟨g, rfl, hg⟩ := Run.filterMap_eq_ok hes
  intro e he
  obtain ⟨n, hn, hgn⟩ := List.mem_filterMap.1 he
  have hfits : FitsIn (levelsAt o 0 n.height) e := fitsIn_visit ((hg n hn).trans (congrArg _ hgn))
  refine hfits.mono ?_
  have hle := Node.height_le_heightAll hn
  unfold levelsAt
  split <;> omega

/-- The level of an entry is bounded by the levels that are left at the top. -/
lemma level_le_of_build {o : Options} {p : Program} {outline : Outline}
    (h : (build o p).result = .ok outline) {i : Nat} {path : List Nat} {e : Entry}
    (he : outline.entryAt? (i :: path) = some e) :
    path.length < levelsAt o 0 (Node.heightAll p.body) ∨
      (path.length = levelsAt o 0 (Node.heightAll p.body) ∧ e.children = [] ∧
        ∃ parent, outline.entryAt? (i :: path.dropLast) = some parent ∧
          parent.IsModuleExports) := by
  obtain ⟨x, hx, hpath⟩ := Option.bind_eq_some_iff.1 he
  have hfits := fitsIn_build h x (List.mem_of_getElem? hx)
  rcases hfits.level_lt hpath with hlt | ⟨heq, hchildren, parent, hparent, hmodule⟩
  · exact .inl hlt
  · refine .inr ⟨heq, hchildren, parent, ?_, hmodule⟩
    rw [Outline.entryAt?, Forest.at?, hx]
    exact hparent

end Builder

/-! ### The walk with its depths -/

/-- The functions of the walk that are given a depth. -/
inductive WalkFunction where
  | visitOne
  | visitAll
  | specChildren
deriving DecidableEq, Repr

/-- What a run does with a depth. -/
inductive DepthUse where
  /-- A function is called with the depth. -/
  | call (function : WalkFunction) (depth : UInt64)
  /-- One is added to the depth. -/
  | increment (depth : UInt64)
deriving DecidableEq, Repr

/-- Nothing is counted further than to one above the greatest depth. -/
def DepthUse.Within (o : Options) : DepthUse → Prop
  | .call _ depth => depth.toNat ≤ o.maxDepth.toNat + 1
  | .increment depth => depth ≤ o.maxDepth

/-- A run together with what it does with depths, in order. -/
structure Metered (α : Type) where
  uses : List DepthUse
  run : Run α

namespace Metered

variable {α β : Type}

/-- What follows a failure is not run, so it uses no depths either. -/
def usesAfter (f : α → Metered β) : Except UnexpectedPattern α → List DepthUse
  | .ok a => (f a).uses
  | .error _ => []

instance : Monad Metered where
  pure a := ⟨[], pure a⟩
  bind x f := ⟨x.uses ++ usesAfter f x.run.result, x.run >>= fun a => (f a).run⟩

/-- A run that uses no depths. -/
def ofRun (x : Run α) : Metered α := ⟨[], x⟩

/-- Records that a function is called with a depth. -/
def call (function : WalkFunction) (depth : UInt64) : Metered Unit :=
  ⟨[.call function depth], pure ()⟩

/-- The next depth. -/
def next (depth : UInt64) : Metered UInt64 := ⟨[.increment depth], pure (depth + 1)⟩

/-- The results of a function on a list, without those that are `none`. -/
def filterMap (f : α → Metered (Option β)) : List α → Metered (List β)
  | [] => pure []
  | a :: as => do
    let b ← f a
    let bs ← filterMap f as
    return b.toList ++ bs

@[simp] lemma run_pure (a : α) : (pure a : Metered α).run = pure a := rfl

@[simp] lemma run_bind (x : Metered α) (f : α → Metered β) :
    (x >>= f).run = x.run >>= fun a => (f a).run := rfl

lemma run_filterMap (f : α → Metered (Option β)) (as : List α) :
    (filterMap f as).run = Run.filterMap (fun a => (f a).run) as := by
  induction as with
  | nil => rfl
  | cons a as ih => simp only [filterMap, Run.filterMap, run_bind, run_pure, ih]

/-- Everything that a run does with depths stays within the bound. -/
def Within (o : Options) (x : Metered α) : Prop := ∀ u ∈ x.uses, u.Within o

variable {o : Options}

lemma within_pure (a : α) : Within o (pure a : Metered α) := nofun

lemma within_ofRun (x : Run α) : Within o (ofRun x) := nofun

lemma within_call {depth : UInt64} (h : depth.toNat ≤ o.maxDepth.toNat + 1)
    (function : WalkFunction) : Within o (call function depth) := by
  intro u hu
  obtain rfl := List.mem_singleton.1 hu
  exact h

lemma Within.bind {x : Metered α} {f : α → Metered β} (hx : Within o x) (hf : ∀ a, Within o (f a)) :
    Within o (x >>= f) := by
  intro u hu
  rcases List.mem_append.1 hu with hu | hu
  · exact hx u hu
  · cases hresult : x.run.result with
    | error e => simp [hresult, usesAfter] at hu
    | ok a =>
      rw [hresult] at hu
      exact hf a u hu

/-- A depth may be counted further if it is not above the greatest one.  The next depth is one above
it at most: it wraps around to zero if it cannot be counted. -/
lemma within_next {depth : UInt64} (h : depth ≤ o.maxDepth) {f : UInt64 → Metered β}
    (hf : (depth + 1).toNat ≤ o.maxDepth.toNat + 1 → Within o (f (depth + 1))) :
    Within o (next depth >>= f) := by
  have hnext : (depth + 1).toNat ≤ o.maxDepth.toNat + 1 := by
    have hle : depth.toNat ≤ o.maxDepth.toNat := UInt64.le_iff_toNat_le.1 h
    have hmod := Nat.mod_le (depth.toNat + 1) (2 ^ 64)
    rw [UInt64.toNat_add, UInt64.toNat_one]
    omega
  intro u hu
  rcases List.mem_cons.1 hu with rfl | hu
  · exact h
  · exact hf hnext u hu

lemma within_filterMap {f : α → Metered (Option β)} (h : ∀ a, Within o (f a)) (as : List α) :
    Within o (filterMap f as) := by
  induction as with
  | nil => exact within_pure _
  | cons a as ih => exact (h a).bind fun b => ih.bind fun bs => within_pure _

end Metered

namespace Builder

open Metered (ofRun call next)

/-- The entries below a spec at a depth.  Only a group goes on to the next depth. -/
def meterBelow (depth : UInt64) (specs : UInt64 → List Node → Metered (List Entry)) (s : Spec) :
    Metered (List Entry) :=
  if s.family = .group then next depth >>= fun deeper => specs deeper s.body else pure []

/-- The entry of a spec at a depth. -/
def meterSpec (depth : UInt64) (specs : UInt64 → List Node → Metered (List Entry)) (s : Spec)
    (extent : Extent) : Metered (Option Entry) := do
  let children ← meterBelow depth specs s
  return some ⟨.function, specLabel s, some s.description, extent, children⟩

/-- The entry of a statement in a group of specs at a depth. -/
def meterStatement (depth : UInt64) (specs : UInt64 → List Node → Metered (List Entry)) :
    Node → Metered (Option Entry)
  | .expressionStatement loc (.call _ callee arguments) =>
    match Extent.ofLocation? loc, Spec.ofCall? callee arguments with
    | some extent, some s => meterSpec depth specs s extent
    | _, _ => pure none
  | _ => pure none

/-- Follows a rule at a depth.  Only groups of specs, classes and exports go on to the next
depth. -/
def Rule.meter (o : Options) (depth : UInt64) (one : UInt64 → Node → Metered (Option Entry))
    (specs : UInt64 → List Node → Metered (List Entry)) (extent : Extent) :
    Rule → Metered (Option Entry)
  | .spec s => meterSpec depth specs s extent
  | .classDef name members => do
    let deeper ← next depth
    call .visitAll deeper
    let children ← Metered.filterMap (one deeper) members
    return some ⟨.classType, classLabel o name, name, extent, children⟩
  | .exported isDefault declaration => do
    let deeper ← next depth
    let entry ← one deeper declaration
    return entry.map (exportEntry o isDefault extent)
  -- nothing is handed to the rules that are left, so they make no calls
  | rule => ofRun (rule.follow o (fun _ => pure none) (fun _ => pure []) extent)

/-- The entries of the statements of a group of specs at a depth.  The first number is more than the
statements are high, and nothing depends on it. -/
def meteredSpecs (o : Options) : Nat → UInt64 → List Node → Metered (List Entry)
  | 0, _, _ => pure []
  | height + 1, depth, body => do
    call .specChildren depth
    if o.maxDepth < depth then ofRun ⟨[.specsTooDeep o.maxDepth], .ok []⟩
    else Metered.filterMap (meterStatement depth (meteredSpecs o height)) body

/-- The entry of a node at a depth.  The first number is at least the height of the node, and
nothing depends on it. -/
def meteredVisit (o : Options) : Nat → UInt64 → Node → Metered (Option Entry)
  | 0, _, _ => pure none
  | height + 1, depth, node => do
    call .visitOne depth
    if o.maxDepth < depth then ofRun ⟨[.tooDeep node.kindName o.maxDepth], .ok none⟩
    else
      match node.extent? with
      | none => ofRun ⟨[.noLocation node.kindName], .ok none⟩
      | some extent =>
        (ruleOf node).meter o depth (meteredVisit o height) (meteredSpecs o height) extent

/-- The outline of a program, with what is done with depths on the way. -/
def meteredBuild (o : Options) (p : Program) : Metered Outline := do
  call .visitAll 0
  let entries ← Metered.filterMap (fun n => meteredVisit o n.height 0 n) p.body
  return ⟨entries⟩

/-! ### Without the record it is the walk -/

section Erasure

variable {depth : UInt64} {specs : UInt64 → List Node → Metered (List Entry)}
  {below : List Node → Logged (List Entry)}

lemma run_meterSpec {s : Spec} (h : (specs (depth + 1) s.body).run = Run.ofLogged (below s.body))
    (extent : Extent) :
    (meterSpec depth specs s extent).run = Run.ofLogged (some <$> specEntry below s extent) := by
  have hbelow : (meterBelow depth specs s).run =
      if s.family = .group then Run.ofLogged (below s.body) else pure [] := by
    unfold meterBelow
    split
    · exact h
    · rfl
  rw [ofLogged_specEntry, meterSpec, Metered.run_bind, hbelow]
  rfl

lemma run_meterStatement {node : Node}
    (h : ∀ loc callLoc callee arguments s,
      node = .expressionStatement loc (.call callLoc callee arguments) →
      Spec.ofCall? callee arguments = some s →
        (specs (depth + 1) s.body).run = Run.ofLogged (below s.body)) :
    (meterStatement depth specs node).run = Run.ofLogged (specStatement? below node) := by
  cases node with
  | expressionStatement loc expression =>
    cases expression with
    | call callLoc callee arguments =>
      simp only [meterStatement, specStatement?, entryOfCall?]
      cases Extent.ofLocation? loc with
      | none => rfl
      | some extent =>
        cases hs : Spec.ofCall? callee arguments with
        | none => rfl
        | some s => exact run_meterSpec (h _ _ _ _ s rfl hs) extent
    | _ => rfl
  | _ => rfl

lemma run_meter (o : Options) (one : UInt64 → Node → Metered (Option Entry)) {rule : Rule}
    (h : ∀ s, rule = .spec s → (specs (depth + 1) s.body).run = Run.ofLogged (below s.body))
    (extent : Extent) :
    (rule.meter o depth one specs extent).run =
      rule.follow o (fun n => (one (depth + 1) n).run) below extent := by
  cases rule with
  | skip event => cases event <;> rfl
  | spec s => exact run_meterSpec (h s rfl) extent
  | classDef name members =>
    rw [Rule.follow, ← Metered.run_filterMap]
    rfl
  | _ => rfl

end Erasure

lemma run_meteredSpecs (o : Options) {height : Nat} (depth : UInt64) {body : List Node}
    (h : Node.heightAll body < height) :
    (meteredSpecs o height depth body).run = Run.ofLogged (specChildren o depth body) := by
  induction height generalizing depth body with
  | zero => omega
  | succ height ih =>
    rw [specChildren_eq]
    by_cases hdepth : o.maxDepth < depth
    · rw [if_pos hdepth, meteredSpecs, if_pos hdepth]
      rfl
    · rw [if_neg hdepth, Run.ofLogged_filterMap, meteredSpecs, if_neg hdepth]
      refine (Metered.run_filterMap _ body).trans (Run.filterMap_congr fun node hnode => ?_)
      refine run_meterStatement fun loc callLoc callee arguments s hcall hs => ?_
      have hlt := heightAll_specBody_lt_of_mem hnode hcall hs
      exact ih (depth + 1) (by omega)

lemma run_meteredVisit (o : Options) {height : Nat} (depth : UInt64) {node : Node}
    (h : node.height ≤ height) :
    (meteredVisit o height depth node).run = visitOne o depth node := by
  induction height generalizing depth node with
  | zero =>
    have hpos := node.height_pos
    omega
  | succ height ih =>
    rw [visitOne_eq, meteredVisit]
    by_cases hdepth : o.maxDepth < depth
    · rw [if_pos hdepth, if_pos hdepth]
      rfl
    · rw [if_neg hdepth, if_neg hdepth]
      cases node.extent? with
      | none => rfl
      | some extent =>
        have hspec : ∀ s, ruleOf node = .spec s →
            (meteredSpecs o height (depth + 1) s.body).run =
              Run.ofLogged (specChildren o (depth + 1) s.body) := by
          intro s hs
          have hlt := heightAll_specBody_lt hs
          exact run_meteredSpecs o (depth + 1) (by omega)
        refine (run_meter o (meteredVisit o height) hspec extent).trans ?_
        refine Rule.follow_congr extent (fun n hn => ?_) fun _ _ => rfl
        have hlt := height_lt_of_mem_visits hn
        exact ih (depth + 1) (by omega)

lemma run_meteredBuild (o : Options) (p : Program) : (meteredBuild o p).run = build o p := by
  have hwalk : (Metered.filterMap (fun n => meteredVisit o n.height 0 n) p.body).run =
      visitAll o 0 p.body := by
    rw [Metered.run_filterMap]
    exact Run.filterMap_congr fun n _ => run_meteredVisit o 0 (Nat.le_refl _)
  rw [build, ← hwalk]
  rfl

/-! ### Depths stay within the bound -/

section Bound

variable {o : Options} {depth : UInt64}

lemma within_meterSpec (hdepth : depth ≤ o.maxDepth)
    {specs : UInt64 → List Node → Metered (List Entry)}
    (hspecs : ∀ depth body, depth.toNat ≤ o.maxDepth.toNat + 1 →
      (specs depth body).Within o) (s : Spec)
    (extent : Extent) : (meterSpec depth specs s extent).Within o := by
  refine Metered.Within.bind ?_ fun children => Metered.within_pure _
  unfold meterBelow
  split
  · exact Metered.within_next hdepth fun hnext => hspecs (depth + 1) s.body hnext
  · exact Metered.within_pure _

lemma within_meterStatement (hdepth : depth ≤ o.maxDepth)
    {specs : UInt64 → List Node → Metered (List Entry)}
    (hspecs : ∀ depth body, depth.toNat ≤ o.maxDepth.toNat + 1 → (specs depth body).Within o)
    (node : Node) : (meterStatement depth specs node).Within o := by
  unfold meterStatement
  split
  · split
    · exact within_meterSpec hdepth hspecs _ _
    · exact Metered.within_pure _
  · exact Metered.within_pure _

lemma within_meteredSpecs (height : Nat) (body : List Node)
    (hdepth : depth.toNat ≤ o.maxDepth.toNat + 1) :
    (meteredSpecs o height depth body).Within o := by
  induction height generalizing depth body with
  | zero => exact Metered.within_pure _
  | succ height ih =>
    rw [meteredSpecs]
    refine (Metered.within_call hdepth _).bind fun _ => ?_
    split
    · exact Metered.within_ofRun _
    · next hle =>
      refine Metered.within_filterMap (fun node => ?_) body
      exact within_meterStatement (UInt64.not_lt.1 hle) (fun _ body h => ih body h) node

lemma within_meter (hdepth : depth ≤ o.maxDepth) {one : UInt64 → Node → Metered (Option Entry)}
    {specs : UInt64 → List Node → Metered (List Entry)}
    (hone : ∀ depth node, depth.toNat ≤ o.maxDepth.toNat + 1 → (one depth node).Within o)
    (hspecs : ∀ depth body, depth.toNat ≤ o.maxDepth.toNat + 1 →
      (specs depth body).Within o) (rule : Rule)
    (extent : Extent) : (rule.meter o depth one specs extent).Within o := by
  cases rule with
  | spec s => exact within_meterSpec hdepth hspecs s extent
  | classDef name members =>
    refine Metered.within_next hdepth fun hnext => ?_
    refine (Metered.within_call hnext _).bind fun _ => ?_
    refine (Metered.within_filterMap (fun n => hone (depth + 1) n hnext) members).bind
      fun children => ?_
    exact Metered.within_pure _
  | exported isDefault declaration =>
    refine Metered.within_next hdepth fun hnext => ?_
    exact (hone (depth + 1) declaration hnext).bind fun entry => Metered.within_pure _
  | _ => exact Metered.within_ofRun _

/-- A visit at a depth that is at most one above the greatest one stays within the bound: above the
greatest depth it drops the node, and otherwise it goes on at the next depth at most. -/
lemma within_meteredVisit (height : Nat) (node : Node)
    (hdepth : depth.toNat ≤ o.maxDepth.toNat + 1) :
    (meteredVisit o height depth node).Within o := by
  induction height generalizing depth node with
  | zero => exact Metered.within_pure _
  | succ height ih =>
    rw [meteredVisit]
    refine (Metered.within_call hdepth _).bind fun _ => ?_
    split
    · exact Metered.within_ofRun _
    · next hle =>
      cases node.extent? with
      | none => exact Metered.within_ofRun _
      | some extent =>
        exact within_meter (UInt64.not_lt.1 hle) (fun _ n h => ih n h)
          (fun _ body h => within_meteredSpecs height body h) (ruleOf node) extent

lemma within_meteredBuild (o : Options) (p : Program) : (meteredBuild o p).Within o := by
  have hzero : (0 : UInt64).toNat ≤ o.maxDepth.toNat + 1 := Nat.zero_le _
  refine (Metered.within_call hzero _).bind fun _ => ?_
  refine (Metered.within_filterMap (fun n => within_meteredVisit n.height n hzero) p.body).bind
    fun entries => ?_
  exact Metered.within_pure _

end Bound

/-- **Nesting is bounded.**  The level of an entry is at most the greatest depth, where the roots
are at level zero.  Only the entries of the properties of `module.exports`, which have no children,
may be one level further down.  During the run no function is called with a depth that is more than
one above the greatest depth, and one is only added to depths that are not above it.

Depths have 64 bits.  So if the limit is the greatest depth that can be counted, an entry could be
at a level that cannot be counted, but only in a program in which at least as many nodes lie inside
one another. -/
theorem build_nesting_bounded (o : Options) (p : Program) :
    (∀ outline, (build o p).result = .ok outline →
      ∀ (i : Nat) (path : List Nat) (e : Entry), outline.entryAt? (i :: path) = some e →
        path.length ≤ o.maxDepth.toNat ∨
        (path.length = o.maxDepth.toNat + 1 ∧ e.children = [] ∧
          ∃ parent, outline.entryAt? (i :: path.dropLast) = some parent ∧ parent.IsModuleExports) ∨
        (o.maxDepth = lastDepth ∧ lastDepth.toNat < path.length ∧
          path.length ≤ Node.heightAll p.body)) ∧
    (meteredBuild o p).run = build o p ∧
    (∀ function depth, .call function depth ∈ (meteredBuild o p).uses →
      depth.toNat ≤ o.maxDepth.toNat + 1) ∧
    ∀ depth, .increment depth ∈ (meteredBuild o p).uses → depth ≤ o.maxDepth := by
  have hwithin := within_meteredBuild o p
  refine ⟨?_, run_meteredBuild o p, fun function depth hu => hwithin _ hu,
    fun depth hu => hwithin _ hu⟩
  intro outline houtline i path e he
  have hlevel := level_le_of_build houtline he
  by_cases hlast : o.maxDepth = lastDepth
  · -- nothing is dropped, so the level is bounded by the height of the program alone
    have hlevels : levelsAt o 0 (Node.heightAll p.body) = Node.heightAll p.body := if_pos hlast
    rw [hlevels] at hlevel
    by_cases hle : path.length ≤ o.maxDepth.toNat
    · exact .inl hle
    · refine .inr (.inr ⟨hlast, ?_, ?_⟩)
      · rw [← hlast]
        omega
      · rcases hlevel with hlt | ⟨heq, -⟩ <;> omega
  · have hlevels : levelsAt o 0 (Node.heightAll p.body) = o.maxDepth.toNat + 1 := if_neg hlast
    rw [hlevels] at hlevel
    rcases hlevel with hlt | hproperty
    · exact .inl (Nat.le_of_lt_succ hlt)
    · exact .inr (.inl hproperty)

/-- Under the limit zero, a property of `module.exports` has an entry at level one, below the entry
of the assignment.  The class beside it loses its members: depth one is reached, but not counted
further. -/
theorem exported_property_below_limit :
    let on (line : UInt32) : Option Location := some ⟨⟨line, 0⟩, ⟨line, 9⟩⟩
    let name (s : String) : Node := .identifier ⟨none, s⟩
    let p : Program := ⟨none,
      [.expressionStatement (on 1)
        (.assignment none (.member none (name "module") (name "exports") false)
        (.objectExpression none [.property (on 2) (name "a") (name "a") true])),
        .classDef .declaration (on 3) (some ⟨none, "A"⟩) [.classProperty (on 4) (name "p") none]]⟩
    let o : Options := { maxDepth := 0 }
    let extent (row : UInt32) : Extent := ⟨⟨row, 0⟩, ⟨row, 9⟩⟩
    let property : Entry := ⟨.method, [.string "a"], some "a", extent 1, []⟩
    let outline : Outline :=
      ⟨[⟨.moduleScope, [.plain "module.exports"], none, extent 0, [property]⟩,
      ⟨.classType, [.className "A"], some "A", extent 2, []⟩]⟩
    (build o p).result = .ok outline ∧ outline.entryAt? [0, 0] = some property ∧
      (∃ parent, outline.entryAt? [0] = some parent ∧ parent.IsModuleExports) ∧
      .call .visitOne 1 ∈ (meteredBuild o p).uses ∧ (1 : UInt64).toNat ≤ o.maxDepth.toNat + 1 ∧
      .increment 0 ∈ (meteredBuild o p).uses ∧ (0 : UInt64) ≤ o.maxDepth := by
  intro on name p o extent property outline
  obtain ⟨hlevels, -, hcalls, hincrements⟩ := build_nesting_bounded o p
  have hbuild : (build o p).result = .ok outline := rfl
  have huses : (meteredBuild o p).uses =
      [.call .visitAll 0, .call .visitOne 0, .call .visitOne 0, .increment 0,
      .call .visitAll 1, .call .visitOne 1] := rfl
  have hcall : .call .visitOne 1 ∈ (meteredBuild o p).uses := by simp [huses]
  have hincrement : .increment 0 ∈ (meteredBuild o p).uses := by simp [huses]
  refine ⟨hbuild, rfl, ?_, hcall, hcalls _ _ hcall, hincrement, hincrements _ hincrement⟩
  rcases hlevels outline hbuild 0 [0] property rfl with hle | ⟨-, -, hparent⟩ | ⟨hlast, -⟩
  · simp [o] at hle
  · exact hparent
  · exact absurd hlast (by decide)

end Builder

end CodeOutline
