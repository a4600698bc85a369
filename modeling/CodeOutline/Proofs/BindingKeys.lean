/-
Where labels of sound patterns fail.

`Binding` is the grammar of the patterns that a program can bind: names, object patterns, array
patterns with holes, defaults and rests, within one another to any depth.  The key of a property in
an object pattern may be any expression.

A label shows a property by its key and treats the key like a pattern.  So even a sound pattern can
have no label: `string_key_has_no_label` is the pattern `{'a': b}`.  Keys are the only such places.
The label of sound patterns fails exactly if a key that it shows is not an identifier, or does not
end in identifiers if it is a pattern itself, and the failure names the first such node
(`label_of_bindings_fails_at_keys`).  Keys inside the values of properties are not shown, so they
cause no failure.
-/
import CodeOutline.Proofs.PatternFailure

namespace CodeOutline.Pattern

/-! ### Sound patterns -/

mutual

/-- A pattern that a program can bind. -/
inductive Binding : Node → Prop where
  | identifier (id : Identifier) : Binding (.identifier id)
  | objectPattern {loc : Option Location} {members : List Node}
      (h : ∀ n ∈ members, BindingMember n) : Binding (.objectPattern loc members)
  /-- There may be holes between the elements. -/
  | arrayPattern {loc : Option Location} {elements : List (Option Node)}
      (h : ∀ n, some n ∈ elements → Binding n) : Binding (.arrayPattern loc elements)
  | assignmentPattern {loc : Option Location} {left : Node} (h : Binding left) :
      Binding (.assignmentPattern loc left)
  | restElement {loc : Option Location} {argument : Node} (h : Binding argument) :
      Binding (.restElement loc argument)

/-- A member of an object pattern: the rest of the members, or a property with any key and a pattern
as its value. -/
inductive BindingMember : Node → Prop where
  | restElement {loc : Option Location} {argument : Node} (h : Binding argument) :
      BindingMember (.restElement loc argument)
  | property {loc : Option Location} {key value : Node} {shorthand : Bool} (h : Binding value) :
      BindingMember (.property loc key value shorthand)

end

/-! ### Keys that are shown -/

mutual

/-- The keys that the label of a pattern shows, in order. -/
def shownKeys : Node → List Node
  | .objectPattern _ properties => memberKeys properties
  | .arrayPattern _ elements => elementKeys elements
  | .assignmentPattern _ left => shownKeys left
  | .restElement _ argument => shownKeys argument
  | _ => []

/-- The keys that the labels of the members of an object pattern show.  The value of a property is
not shown. -/
def memberKeys : List Node → List Node
  | [] => []
  | .property _ key _ _ :: rest => key :: memberKeys rest
  | n :: rest => shownKeys n ++ memberKeys rest

/-- The keys that the labels of the elements of an array pattern show. -/
def elementKeys : List (Option Node) → List Node
  | [] => []
  | none :: rest => elementKeys rest
  | some n :: rest => shownKeys n ++ elementKeys rest

end

/-! ### Failures come from keys -/

/-- The first unexpected node among some leaves is the first one among the leaves of some keys. -/
def FailAlike (ns keys : List Node) : Prop :=
  firstUnexpected? ns = firstUnexpected? (keys.flatMap leaves)

lemma FailAlike.append {ns ms keys keys' : List Node} (h : FailAlike ns keys)
    (h' : FailAlike ms keys') : FailAlike (ns ++ ms) (keys ++ keys') := by
  rw [FailAlike, List.flatMap_append, firstUnexpected?_append, firstUnexpected?_append, h, h']

/-- Sound patterns fail at their keys.  The induction follows the three functions that make the
label. -/
lemma failAlike_all :
    (∀ n, Binding n → FailAlike (leaves n) (shownKeys n)) ∧
      (∀ elements : List (Option Node), (∀ n, some n ∈ elements → Binding n) →
        FailAlike (elementLeaves elements) (elementKeys elements)) ∧
        ∀ members : List Node, (∀ n ∈ members, BindingMember n) →
          FailAlike (memberLeaves members) (memberKeys members) := by
  refine label.mutual_induct _ _ _ ?_ ?_ ?_ ?_ ?_ ?_ ?_ ?_ ?_ ?_ ?_ ?_
  · intro id _
    rfl
  · intro loc properties ih hbinding
    cases hbinding with
    | objectPattern h =>
      rw [leaves, shownKeys]
      exact ih h
  · intro loc elements ih hbinding
    cases hbinding with
    | arrayPattern h =>
      rw [leaves, shownKeys]
      exact ih h
  · intro loc left ih hbinding
    cases hbinding with
    | assignmentPattern h =>
      rw [leaves, shownKeys]
      exact ih h
  · intro loc argument ih hbinding
    cases hbinding with
    | restElement h =>
      rw [leaves, shownKeys]
      exact ih h
  · -- any other node is not a sound pattern
    intro n hid hobject harray hassignment hrest hbinding
    cases hbinding with
    | identifier id => exact (hid id rfl).elim
    | objectPattern h => exact (hobject _ _ rfl).elim
    | arrayPattern h => exact (harray _ _ rfl).elim
    | assignmentPattern h => exact (hassignment _ _ rfl).elim
    | restElement h => exact (hrest _ _ rfl).elim
  · intro _
    rfl
  · intro loc key value shorthand rest _ ihrest hmembers
    rw [memberLeaves, memberKeys]
    have hkey : FailAlike (leaves key) [key] := by rw [FailAlike, List.flatMap_singleton]
    exact hkey.append (ihrest fun n hn => hmembers n (by simp [hn]))
  · -- a member that is no property is a rest element, which is a sound pattern itself
    intro n rest hproperty ihn ihrest hmembers
    rw [memberLeaves.eq_3 n rest hproperty, memberKeys.eq_3 n rest hproperty]
    have hn : Binding n := by
      cases hmembers n (by simp) with
      | restElement h => exact .restElement h
      | property h => exact (hproperty _ _ _ _ rfl).elim
    exact (ihn hn).append (ihrest fun m hm => hmembers m (by simp [hm]))
  · intro _
    rfl
  · intro rest ih helements
    rw [elementLeaves, elementKeys]
    exact ih fun n hn => helements n (by simp [hn])
  · intro n rest ihn ihrest helements
    rw [elementLeaves, elementKeys]
    exact (ihn (helements n (by simp))).append (ihrest fun m hm => helements m (by simp [hm]))

lemma failAlike_flatMap {patterns : List Node} (h : ∀ p ∈ patterns, Binding p) :
    FailAlike (patterns.flatMap leaves) (patterns.flatMap shownKeys) := by
  induction patterns with
  | nil => rfl
  | cons p rest ih =>
    rw [List.flatMap_cons, List.flatMap_cons]
    exact (failAlike_all.1 p (h p (by simp))).append (ih fun q hq => h q (by simp [hq]))

/-- The label of sound patterns fails at the leaves of the keys that it shows. -/
lemma failsAt_listLabel_keys {patterns : List Node} (h : ∀ p ∈ patterns, Binding p) :
    FailsAt (listLabel patterns) ((patterns.flatMap shownKeys).flatMap leaves) :=
  (failsAt_listLabel patterns).trans (failAlike_flatMap h)

/-- **Sound patterns fail only at keys.**  The label of sound patterns fails exactly if one of the
keys that it shows is no identifier, or is itself a pattern with a leaf that is none, and the
failure names the kind of the first such leaf.  In parentheses the same patterns fail in the same
way.  So patterns in which all keys that are shown are identifiers have labels, however deep they
are. -/
theorem label_of_bindings_fails_at_keys {patterns : List Node} (h : ∀ p ∈ patterns, Binding p) :
    let keys := patterns.flatMap shownKeys
    (∀ e, listLabel patterns = .error e ↔
      ∃ before n after, keys.flatMap leaves = before ++ n :: after ∧
        (∀ m ∈ before, ∃ id, m = .identifier id) ∧
        (∀ id, n ≠ .identifier id) ∧ e = ⟨n.kindName⟩) ∧
    ((∃ l, listLabel patterns = .ok l) ↔ ∀ n ∈ keys.flatMap leaves, ∃ id, n = .identifier id) ∧
    paramsLabel patterns = (listLabel patterns).map (fun l => .plain "(" :: l ++ [.plain ")"]) ∧
    ((∀ key ∈ keys, ∃ id, key = .identifier id) →
      ∃ l, listLabel patterns = .ok l ∧
        paramsLabel patterns = .ok (.plain "(" :: l ++ [.plain ")"])) := by
  intro keys
  have hfails := failsAt_listLabel_keys h
  refine ⟨fun e => hfails.eq_error_iff, hfails.exists_ok_iff, paramsLabel_eq_map patterns,
    fun hnames => ?_⟩
  -- an identifier is its own only leaf
  have hleaves : ∀ n ∈ keys.flatMap leaves, ∃ id, n = .identifier id := by
    intro n hn
    obtain ⟨key, hkey, hn⟩ := List.mem_flatMap.1 hn
    obtain ⟨id, rfl⟩ := hnames key hkey
    exact ⟨id, by simpa [leaves] using hn⟩
  obtain ⟨l, hl⟩ := hfails.exists_ok_iff.2 hleaves
  exact ⟨l, hl, by rw [paramsLabel_eq_map, hl]; rfl⟩

/-- In `{a: {'b': c}, ...{d}}` the string is a key inside a value, which is not shown. -/
theorem string_key_inside_value_not_shown :
    let named (s : String) : Node := .identifier ⟨none, s⟩
    let inner : Node :=
      .objectPattern none [.property none (.literal none (.string "b")) (named "c") false]
    let others : Node := .objectPattern none [.property none (named "d") (named "d") true]
    let patterns : List Node :=
      [.objectPattern none [.property none (named "a") inner false, .restElement none others]]
    (∀ p ∈ patterns, Binding p) ∧ patterns.flatMap shownKeys = [named "a", named "d"] ∧
      ∃ l, listLabel patterns = .ok l ∧ Label.text l = "\x7ba, ...\x7bd\x7d\x7d" := by
  intro named inner others patterns
  have hinner : Binding inner := by
    refine .objectPattern fun n hn => ?_
    obtain rfl := List.mem_singleton.1 hn
    exact .property (.identifier _)
  have hothers : Binding others := by
    refine .objectPattern fun n hn => ?_
    obtain rfl := List.mem_singleton.1 hn
    exact .property (.identifier _)
  have hbinding : ∀ p ∈ patterns, Binding p := by
    intro p hp
    obtain rfl := List.mem_singleton.1 hp
    refine .objectPattern fun n hn => ?_
    rcases List.mem_pair.1 hn with rfl | rfl
    · exact .property hinner
    · exact .restElement hothers
  have hkeys : patterns.flatMap shownKeys = [named "a", named "d"] := rfl
  refine ⟨hbinding, hkeys, ?_⟩
  obtain ⟨l, hl, -⟩ :=
    (label_of_bindings_fails_at_keys hbinding).2.2.2 (by rw [hkeys]; simp [named])
  refine ⟨l, hl, ?_⟩
  obtain rfl : _ = l := Except.ok.inj hl
  decide

/-- The pattern `{'a': b}` is sound, but it has no label. -/
theorem string_key_has_no_label :
    let patterns : List Node := [.objectPattern none
      [.property none (.literal none (.string "a")) (.identifier ⟨none, "b"⟩) false]]
    (∀ p ∈ patterns, Binding p) ∧ listLabel patterns = .error ⟨"Literal"⟩ ∧
      paramsLabel patterns = .error ⟨"Literal"⟩ := by
  intro patterns
  refine ⟨fun p hp => ?_, rfl, rfl⟩
  obtain rfl := List.mem_singleton.1 hp
  refine .objectPattern fun n hn => ?_
  obtain rfl := List.mem_singleton.1 hn
  exact .property (.identifier _)

end CodeOutline.Pattern
