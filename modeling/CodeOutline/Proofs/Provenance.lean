/-
Where entries come from.

Every entry of an outline comes from a node of the program, and its extent is the location of that
node.  This file makes the correspondence exact.  The entries of an outline and the nodes of a
program are forests (`Entry.children`, `Node.children`), and the builder embeds the first one in the
second one: no two entries come from the same node, the order of the source is kept at every level,
and what is below an entry comes from inside its node.

The correspondence is found along the walk.  Most entries have nothing below them.  The members of a
class and the statements of a group give the entries below by loops over nodes; an exported
declaration gives away its place to the export, but what is below it stays.
-/
import CodeOutline.Proofs.Forest
import CodeOutline.Proofs.Rule

namespace CodeOutline

/-! ### Forests of nodes and entries -/

/-- The nodes that a node holds, in the order of its fields. -/
def Node.children : Node → List Node
  | .program _ body => body
  | .function _ _ _ params body => params ++ [body]
  | .classDef _ _ _ members => members
  | .classProperty _ key value => key :: value.toList
  | .methodDefinition _ key value => [key, value]
  | .exportDeclaration _ _ declaration _ => declaration.toList
  | .expressionStatement _ expression => [expression]
  | .call _ callee arguments => callee :: arguments
  | .assignment _ left right => [left, right]
  | .member _ owner part _ => [owner, part]
  | .objectExpression _ properties => properties
  | .property _ key value _ => [key, value]
  | .identifier _ => []
  | .objectPattern _ properties => properties
  | .arrayPattern _ elements => elements.filterMap id
  | .assignmentPattern _ left => [left]
  | .restElement _ argument => [argument]
  | .variableDeclaration _ _ declarators => declarators.flatMap fun d => d.id :: d.init.toList
  | .typeAlias _ _ _ => []
  | .literal _ _ => []
  | .block _ body => body
  | .other _ _ => []

/-- The node of a program at an address. -/
def Program.nodeAt? (p : Program) (a : List Nat) : Option Node := Forest.at? Node.children p.body a

/-- The entry of an outline at an address. -/
def Outline.entryAt? (outline : Outline) (a : List Nat) : Option Entry :=
  Forest.at? Entry.children outline.entries a

/-- An entry has the extent of a node: the node has a location, whose lines count from one, and the
entry gives the same lines and columns with lines that count from zero. -/
def Entry.LocatedAt (e : Entry) (n : Node) : Prop :=
  ∃ l, n.loc = some l ∧ 1 ≤ l.start.line ∧ 1 ≤ l.stop.line ∧
    e.extent = ⟨⟨l.start.line - 1, l.start.column⟩, ⟨l.stop.line - 1, l.stop.column⟩⟩

/-- Entries come from inside a list of nodes. -/
abbrev ComeFrom (es : List Entry) (ns : List Node) : Prop :=
  Forest.Embeds Entry.children Node.children Entry.LocatedAt es ns

/-- An entry comes from a node: it has the extent of the node, and what is below it comes from
inside the node. -/
structure Entry.ComesFrom (e : Entry) (n : Node) : Prop where
  located : e.LocatedAt n
  below : ComeFrom e.children n.children

lemma one_le_of_ne_zero {n : UInt32} (h : n ≠ 0) : 1 ≤ n := by
  rw [UInt32.le_iff_toNat_le]
  have hpos : n.toNat ≠ 0 := fun hzero => h (UInt32.toNat_inj.1 hzero)
  exact Nat.one_le_iff_ne_zero.2 hpos

/-- An entry with the extent that the builder finds for a node is located at the node. -/
lemma Entry.locatedAt_of_extent? {e : Entry} {n : Node} (h : n.extent? = some e.extent) :
    e.LocatedAt n := by
  obtain ⟨l, hl, hextent⟩ := Option.bind_eq_some_iff.1 h
  unfold Location.extent? at hextent
  split at hextent
  · next husable =>
    exact ⟨l, hl, one_le_of_ne_zero husable.1, one_le_of_ne_zero husable.2,
      (Option.some.inj hextent).symm⟩
  · simp at hextent

namespace Builder

open Forest (Embeds)

/-! ### Entries without children -/

lemma eq_ok_of_map_some {x : Except UnexpectedPattern Entry} {e : Entry}
    (h : x.map some = .ok (some e)) : x = .ok e := by
  cases x with
  | error cause => simp [Except.map] at h
  | ok e' => rw [Option.some.inj (Except.ok.inj h)]

/-- An entry at an extent, with nothing below it. -/
def IsLeafAt (extent : Extent) (e : Entry) : Prop := e.extent = extent ∧ e.children = []

lemma IsLeafAt.comesFrom {extent : Extent} {e : Entry} {n : Node} (h : IsLeafAt extent e)
    (hn : n.extent? = some extent) : e.ComesFrom n := by
  obtain ⟨rfl, hchildren⟩ := h
  refine ⟨Entry.locatedAt_of_extent? hn, ?_⟩
  rw [hchildren]
  exact .nil _

/-- An entry whose label is made last has nothing below it. -/
lemma isLeafAt_of_label {x : Except UnexpectedPattern Label} {kind : EntryKind}
    {label : Label → Label} {name : Option String} {extent : Extent} {e : Entry}
    (h : (do return Entry.leaf kind (label (← x)) name extent : Except UnexpectedPattern Entry) =
      .ok e) :
    IsLeafAt extent e := by
  obtain ⟨l, -, he⟩ := exists_ok_of_bind h
  obtain rfl := Except.ok.inj he
  exact ⟨rfl, rfl⟩

lemma isLeafAt_functionEntry {o : Options} {name : Option String} {params : List Node}
    {extent : Extent} {e : Entry} (h : functionEntry o name params extent = .ok e) :
    IsLeafAt extent e := isLeafAt_of_label h

lemma isLeafAt_methodEntry {o : Options} {name : String} {params : List Node}
    {extent : Extent} {e : Entry} (h : methodEntry o name params extent = .ok e) :
    IsLeafAt extent e := isLeafAt_of_label h

lemma isLeafAt_bindingEntry {o : Options} {kind : DeclarationKind} {id : Node}
    {extent : Extent} {e : Entry} (h : bindingEntry o kind id extent = .ok e) : IsLeafAt extent e :=
  isLeafAt_of_label h

lemma isLeafAt_memberEntry {o : Options} {name : String} {value : Node} {shorthand : Bool}
    {extent : Extent} {e : Entry}
    (h : ModuleExports.memberEntry o name value shorthand extent = .ok e) : IsLeafAt extent e := by
  unfold ModuleExports.memberEntry at h
  split at h
  · obtain rfl := Except.ok.inj h
    exact ⟨rfl, rfl⟩
  · split at h
    · exact isLeafAt_methodEntry h
    · obtain rfl := Except.ok.inj h
      exact ⟨rfl, rfl⟩

/-! ### Entries of `module.exports` -/

lemma comesFrom_entryOfProperty? {o : Options} {n : Node} {e : Entry}
    (h : ModuleExports.entryOfProperty? o n = .ok (some e)) : e.ComesFrom n := by
  cases n with
  | property loc key value shorthand =>
    simp only [ModuleExports.entryOfProperty?] at h
    split at h
    · next name extent hname hextent =>
        exact (isLeafAt_memberEntry (eq_ok_of_map_some h)).comesFrom hextent
    · simp at h
  | _ => simp [ModuleExports.entryOfProperty?] at h

/-- The entries of properties are found by a loop that records nothing. -/
lemma propertyEntries_eq (o : Options) (properties : List Node) :
    ModuleExports.propertyEntries o properties =
      (Run.filterMap (fun n => Run.ofExcept (ModuleExports.entryOfProperty? o n))
        properties).result := by
  induction properties with
  | nil => rfl
  | cons n rest ih =>
    rw [ModuleExports.propertyEntries, ih, Run.filterMap]
    simp only [Run.result_bind, Run.result_ofExcept, Run.result_pure]
    rfl

/-- A loop over nodes that does not fail gives a forest that comes from the nodes, if every round
does. -/
lemma comeFrom_of_filterMap {f : Node → Run (Option Entry)} {ns : List Node} {es : List Entry}
    (h : (Run.filterMap f ns).result = .ok es)
    (hf : ∀ n ∈ ns, ∀ e, (f n).result = .ok (some e) → e.ComesFrom n) : ComeFrom es ns := by
  obtain ⟨g, rfl, hg⟩ := Run.filterMap_eq_ok h
  refine .filterMap fun n hn e he => ?_
  have hcomes : e.ComesFrom n := hf n hn e (by rw [hg n hn, he])
  exact ⟨hcomes.located, hcomes.below⟩

lemma comesFrom_moduleExports {o : Options} {n : Node} {properties : List Node}
    {extent : Extent} {e : Entry} (hn : n.extent? = some extent)
    (hfound : Rule.FoundIn n (.moduleExports properties))
    (h : ModuleExports.entry o properties extent = .ok e) : e.ComesFrom n := by
  obtain ⟨loc, assignmentLoc, left, objectLoc, -, rfl⟩ := hfound
  obtain ⟨es, hes, h⟩ := exists_ok_of_bind h
  obtain rfl := Except.ok.inj h
  rw [propertyEntries_eq] at hes
  have hcome : ComeFrom es properties :=
    comeFrom_of_filterMap hes fun m _ e he => comesFrom_entryOfProperty? he
  refine ⟨Entry.locatedAt_of_extent? hn, ?_⟩
  -- from the statement to the assignment, and from there to the object
  refine .of_mem (.assignment assignmentLoc left (.objectExpression objectLoc properties))
    (by simp [Node.children]) ?_
  exact .of_mem (.objectExpression objectLoc properties) (by simp [Node.children]) hcome

/-! ### Entries of specs -/

/-- What comes from the body of a spec comes from inside the call that declares it. -/
lemma comeFrom_arguments {callee : Node} {arguments : List Node} {s : Spec} {es : List Entry}
    (hs : Spec.ofCall? callee arguments = some s) (h : ComeFrom es s.body) :
    ComeFrom es arguments := by
  obtain ⟨-, -, -, n, hn, hblock⟩ := Spec.ofCall?_eq_some_iff.1 hs
  obtain ⟨form, loc, id, params, blockLoc, rfl⟩ := Node.functionBlock?_eq_some hblock
  refine .of_mem _ (List.mem_of_getElem? hn) ?_
  exact .of_mem (.block blockLoc s.body) (by simp [Node.children]) h

/-- The entry of a spec has the entries of its body below it if it is a group, and none
otherwise. -/
lemma value_specEntry (below : List Node → Logged (List Entry)) (s : Spec) (extent : Extent) :
    (specEntry below s extent).value = ⟨.function, specLabel s, some s.description, extent,
      if s.family = .group then (below s.body).value else []⟩ := by
  unfold specEntry
  cases s.family <;> rfl

lemma comesFrom_specEntry {below : List Node → Logged (List Entry)} {s : Spec} {extent : Extent}
    {loc : Option Location} (callLoc : Option Location) {callee : Node} {arguments : List Node}
    (hextent : Extent.ofLocation? loc = some extent) (hs : Spec.ofCall? callee arguments = some s)
    (hbelow : ComeFrom (below s.body).value s.body) :
    (specEntry below s extent).value.ComesFrom
      (.expressionStatement loc (.call callLoc callee arguments)) := by
  have hbody : ComeFrom (if s.family = .group then (below s.body).value else []) s.body := by
    by_cases hfamily : s.family = .group
    · rw [if_pos hfamily]
      exact hbelow
    · rw [if_neg hfamily]
      exact .nil _
  rw [value_specEntry]
  refine ⟨Entry.locatedAt_of_extent? hextent, ?_⟩
  refine .of_mem (.call callLoc callee arguments) (by simp [Node.children]) ?_
  exact (Embeds.nil [callee]).append (comeFrom_arguments hs hbody)

lemma comesFrom_specStatement? {below : List Node → Logged (List Entry)} {n : Node} {e : Entry}
    (hbelow : ∀ body, ComeFrom (below body).value body)
    (h : (specStatement? below n).value = some e) : e.ComesFrom n := by
  unfold specStatement? at h
  split at h
  · next loc callLoc callee arguments =>
    cases hextent : Extent.ofLocation? loc with
    | none => simp [hextent] at h
    | some extent =>
      simp only [hextent, entryOfCall?] at h
      cases hs : Spec.ofCall? callee arguments with
      | none => simp [hs] at h
      | some s =>
        simp only [hs, Logged.value_map, Option.some.injEq] at h
        subst h
        exact comesFrom_specEntry callLoc hextent hs (hbelow s.body)
  · simp at h

/-- The entries of the statements of a group come from the statements, however many levels are
left. -/
lemma comeFrom_specEntries (o : Options) (levels : Nat) (body : List Node) :
    ComeFrom (specEntries o levels body).value body := by
  induction levels generalizing body with
  | zero => exact .nil body
  | succ levels ih =>
    rw [specEntries, Logged.value_filterMap]
    refine .filterMap fun n _ e he => ?_
    have hcomes : e.ComesFrom n := comesFrom_specStatement? ih he
    exact ⟨hcomes.located, hcomes.below⟩

/-! ### The walk -/

/-- Following a rule gives an entry that comes from the node, if that holds of what is done with the
nodes below. -/
lemma comesFrom_follow {o : Options} {inner : Node → Run (Option Entry)}
    {below : List Node → Logged (List Entry)} {node : Node} {extent : Extent} {e : Entry}
    (hextent : node.extent? = some extent)
    (hinner : ∀ n ∈ (ruleOf node).visits, ∀ e, (inner n).result = .ok (some e) → e.ComesFrom n)
    (hbelow : ∀ body, ComeFrom (below body).value body)
    (h : ((ruleOf node).follow o inner below extent).result = .ok (some e)) : e.ComesFrom node := by
  have hfound := foundIn_ruleOf node
  cases hrule : ruleOf node with
  | skip event =>
    rw [hrule] at h
    cases event <;> simp [Rule.follow, Except.bind] at h
  | function name params =>
    rw [hrule] at h
    exact (isLeafAt_functionEntry (eq_ok_of_map_some h)).comesFrom hextent
  | method name params =>
    rw [hrule] at h
    exact (isLeafAt_methodEntry (eq_ok_of_map_some h)).comesFrom hextent
  | property name =>
    rw [hrule] at h
    obtain rfl := Option.some.inj (Except.ok.inj h)
    exact IsLeafAt.comesFrom ⟨rfl, rfl⟩ hextent
  | typeAlias name =>
    rw [hrule] at h
    obtain rfl := Option.some.inj (Except.ok.inj h)
    exact IsLeafAt.comesFrom ⟨rfl, rfl⟩ hextent
  | binding kind id =>
    rw [hrule] at h
    exact (isLeafAt_bindingEntry (eq_ok_of_map_some h)).comesFrom hextent
  | moduleExports properties =>
    rw [hrule] at h hfound
    exact comesFrom_moduleExports hextent hfound (eq_ok_of_map_some h)
  | spec s =>
    rw [hrule] at h hfound
    obtain ⟨loc, callLoc, callee, arguments, rfl, hs⟩ := hfound
    obtain rfl := Option.some.inj (Except.ok.inj h)
    exact comesFrom_specEntry callLoc hextent hs (hbelow s.body)
  | classDef name members =>
    rw [hrule] at h hfound hinner
    obtain ⟨form, loc, id, rfl, -⟩ := hfound
    simp only [Rule.follow, Run.result_bind] at h
    obtain ⟨es, hes, h⟩ := exists_ok_of_bind h
    obtain rfl := Option.some.inj (Except.ok.inj h)
    exact ⟨Entry.locatedAt_of_extent? hextent, comeFrom_of_filterMap hes hinner⟩
  | exported isDefault declaration =>
    rw [hrule] at h hfound hinner
    obtain ⟨form, loc, flag, rfl, -⟩ := hfound
    simp only [Rule.follow, Run.result_bind, Run.result_pure] at h
    obtain ⟨entry, hentry, h⟩ := exists_ok_of_bind h
    obtain ⟨inside, rfl, rfl⟩ := Option.map_eq_some_iff.1 (Except.ok.inj h)
    -- the entry moves from the declaration to the export, and the entries below it stay where they
    -- are
    have hinside : inside.ComesFrom declaration :=
      hinner declaration (by simp [Rule.visits]) inside hentry
    refine ⟨Entry.locatedAt_of_extent? hextent, ?_⟩
    exact .of_mem declaration (by simp [Node.children]) hinside.below

/-- The entry of a node comes from the node, however many levels are left. -/
lemma comesFrom_visit {o : Options} {levels : Nat} {node : Node} {e : Entry}
    (h : (visit o levels node).result = .ok (some e)) : e.ComesFrom node := by
  induction levels generalizing node e with
  | zero => simp [visit_zero] at h
  | succ levels ih =>
    rw [visit_succ] at h
    cases hextent : node.extent? with
    | none => simp [hextent] at h
    | some extent =>
      rw [hextent] at h
      exact comesFrom_follow hextent (fun n _ e he => ih he) (comeFrom_specEntries o levels) h

lemma entries_comeFrom {o : Options} {p : Program} {outline : Outline}
    (h : (build o p).result = .ok outline) : ComeFrom outline.entries p.body := by
  rw [build, Run.result_bind] at h
  obtain ⟨es, hes, h⟩ := exists_ok_of_bind h
  obtain rfl := Except.ok.inj h
  exact comeFrom_of_filterMap hes fun n _ e he => comesFrom_visit he

/-- **Entries come from nodes.**  The entries of an outline have places among the nodes of the
program: each entry has the extent of the node at its place, which has a usable location.  No two
entries have the same place; an entry that comes before another one in the outline has a place that
comes before the other one; and an entry below another one has a place strictly inside the other
one. -/
theorem build_places_entries {o : Options} {p : Program} {outline : Outline}
    (h : (build o p).result = .ok outline) :
    ∃ place : List Nat → List Nat,
      (∀ a e, outline.entryAt? a = some e → ∃ n, p.nodeAt? (place a) = some n ∧ e.LocatedAt n) ∧
      ∀ a b, (outline.entryAt? a).isSome → (outline.entryAt? b).isSome →
        (place a = place b → a = b) ∧ (a < b → place a < place b) ∧
        (a <+: b → a ≠ b → place a <+: place b ∧ place a ≠ place b) := by
  obtain ⟨place, hplace⟩ := entries_comeFrom h
  refine ⟨place, fun a e ha => hplace.maps ha, ?_⟩
  intro a b ha hb
  obtain ⟨e, he⟩ := Option.isSome_iff_exists.1 ha
  obtain ⟨e', he'⟩ := Option.isSome_iff_exists.1 hb
  have hinjective : place a = place b → a = b := hplace.injective he he'
  refine ⟨hinjective, hplace.before he he', ?_⟩
  intro hprefix hne
  exact ⟨hplace.inside he he' hprefix, fun heq => hne (hinjective heq)⟩

/-- In `describe('a', () => { it('b', () => {}) })` the inner call has an entry of its own, inside
the outer one. -/
theorem spec_in_group_placed_inside :
    let on (line : UInt32) : Option Location := some ⟨⟨line, 0⟩, ⟨line, 9⟩⟩
    let spec (callee description : String) (line : UInt32) (body : List Node) : Node :=
      .expressionStatement (on line) (.call none (.identifier ⟨none, callee⟩)
        [.literal none (.string description), .function .arrow none none [] (.block none body)])
    let p : Program := ⟨none, [spec "describe" "a" 1 [spec "it" "b" 2 []]]⟩
    ∃ outline, (build .default p).result = .ok outline ∧
      ∃ e, outline.entryAt? [0, 0] = some e ∧ e.extent = ⟨⟨1, 0⟩, ⟨1, 9⟩⟩ ∧
        ∃ place : List Nat → List Nat, (∃ n, p.nodeAt? (place [0, 0]) = some n ∧ e.LocatedAt n) ∧
          place [0] <+: place [0, 0] ∧ place [0] ≠ place [0, 0] := by
  intro on spec p
  have hbuild : (build .default p).result =
      .ok ⟨[⟨.function, [.method "describe", .space, .string "a"], some "a",
      ⟨⟨0, 0⟩, ⟨0, 9⟩⟩,
        [⟨.function, [.method "it", .space, .string "b"], some "b", ⟨⟨1, 0⟩, ⟨1, 9⟩⟩, []⟩]⟩]⟩ := rfl
  obtain ⟨place, hmaps, hrelations⟩ := build_places_entries hbuild
  obtain ⟨-, -, hinside⟩ := hrelations [0] [0, 0] rfl rfl
  exact ⟨_, hbuild, _, rfl, rfl, place, hmaps [0, 0] _ rfl, hinside ⟨[0], rfl⟩ (by decide)⟩

end Builder

end CodeOutline
