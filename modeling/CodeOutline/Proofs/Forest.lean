/-
Forests and embeddings of forests.

A forest is a list of trees, where a function gives the list of the trees below a tree.  A tree in a
forest is named by its address: the first number picks a tree of the list, and every further number
picks one of the trees below.  So an address that continues another one belongs to a tree below it,
and the lexicographic order of addresses is the order in which a walk meets the trees when it visits
a tree before the trees below it, and those from left to right.

An embedding sends the addresses of one forest to addresses of another one, so that related trees
stand there, and it keeps both relations between addresses.  Embeddings are built up as a walk
builds its result: from the trees below (`Embeds.root`, `Embeds.within`) and from one list after the
other (`Embeds.append`, `Embeds.filterMap`).
-/
import Mathlib.Data.List.Lex
import Mathlib.Tactic.Lemma

namespace CodeOutline.Forest

variable {α β : Type}

/-! ### Addresses -/

section Addresses

variable (below : α → List α)

/-- The tree at an address inside a tree. -/
def inTree? : List Nat → α → Option α
  | [], x => some x
  | i :: rest, x => (below x)[i]?.bind (inTree? rest)

/-- The tree at an address in a forest. -/
def at? (xs : List α) : List Nat → Option α
  | [] => none
  | i :: rest => xs[i]?.bind (inTree? below rest)

variable {below}

@[simp] lemma at?_empty (a : List Nat) : at? below [] a = none := by
  cases a <;> rfl

lemma exists_cons_of_at? {xs : List α} {a : List Nat} {x : α} (h : at? below xs a = some x) :
    ∃ i rest, a = i :: rest ∧ i < xs.length := by
  cases a with
  | nil => simp [at?] at h
  | cons i rest =>
    obtain ⟨y, hy, -⟩ := Option.bind_eq_some_iff.1 h
    obtain ⟨hi, -⟩ := List.getElem?_eq_some_iff.1 hy
    exact ⟨i, rest, rfl, hi⟩

lemma at?_append_left {xs ys : List α} {a : List Nat} {x : α} (h : at? below xs a = some x) :
    at? below (xs ++ ys) a = some x := by
  obtain ⟨i, rest, rfl, hi⟩ := exists_cons_of_at? h
  rw [at?, List.getElem?_append_left hi]
  exact h

/-- Moves an address behind a number of further trees. -/
def shift (n : Nat) : List Nat → List Nat
  | [] => []
  | i :: rest => (n + i) :: rest

lemma shift_lt_shift {n : Nat} {a b : List Nat} : shift n a < shift n b ↔ a < b := by
  cases a <;> cases b <;> simp [shift, List.cons_lt_cons_iff]

lemma shift_prefix_shift {n : Nat} {a b : List Nat} : shift n a <+: shift n b ↔ a <+: b := by
  cases a <;> cases b <;> simp [shift, List.cons_prefix_cons]

/-- A tree comes before the trees of a forest behind it. -/
lemma lt_shift {xs : List α} {ys : List β} {below' : β → List β} {a b : List Nat} {x : α} {y : β}
    (ha : at? below xs a = some x) (hb : at? below' ys b = some y) : a < shift xs.length b := by
  obtain ⟨i, rest, rfl, hi⟩ := exists_cons_of_at? ha
  obtain ⟨j, rest', rfl, -⟩ := exists_cons_of_at? hb
  exact List.cons_lt_cons_iff.2 (.inl (by omega))

lemma at?_shift (xs ys : List α) (a : List Nat) :
    at? below (xs ++ ys) (shift xs.length a) = at? below ys a := by
  cases a with
  | nil => rfl
  | cons i rest =>
    rw [shift, at?, at?, List.getElem?_append_right (Nat.le_add_right _ _), Nat.add_sub_cancel_left]

/-- An address in two forests side by side belongs to one of them. -/
lemma at?_append_cases {xs ys : List α} {a : List Nat} {x : α}
    (h : at? below (xs ++ ys) a = some x) :
    at? below xs a = some x ∨ ∃ b, a = shift xs.length b ∧ at? below ys b = some x := by
  obtain ⟨i, rest, rfl, -⟩ := exists_cons_of_at? h
  by_cases hi : i < xs.length
  · left
    rw [at?, List.getElem?_append_left hi] at h
    exact h
  · right
    have hshift : i :: rest = shift xs.length ((i - xs.length) :: rest) := by
      rw [shift, Nat.add_sub_cancel' (Nat.le_of_not_lt hi)]
    rw [hshift, at?_shift] at h
    exact ⟨_, hshift, h⟩

/-- An address in a single tree is the root, or leads into the forest below. -/
lemma at?_singleton_cases {y x : α} {a : List Nat} (h : at? below [y] a = some x) :
    (a = [0] ∧ x = y) ∨ ∃ b, a = 0 :: b ∧ at? below (below y) b = some x := by
  obtain ⟨i, rest, rfl, hi⟩ := exists_cons_of_at? h
  obtain rfl : i = 0 := by simpa using hi
  cases rest with
  | nil =>
    left
    exact ⟨rfl, (Option.some.inj h).symm⟩
  | cons j rest =>
    right
    exact ⟨j :: rest, rfl, h⟩

/-- A tree of a forest is the first one, or it is below the first one, or it is in the rest of the
forest. -/
lemma isSome_at?_cons_iff {x : α} {xs : List α} {a : List Nat} :
    (at? below (x :: xs) a).isSome ↔
      a = [0] ∨ (∃ b, (at? below (below x) b).isSome ∧ 0 :: b = a) ∨
        ∃ b, (at? below xs b).isSome ∧ shift 1 b = a := by
  constructor
  · intro h
    obtain ⟨y, hy⟩ := Option.isSome_iff_exists.1 h
    rcases at?_append_cases (show at? below ([x] ++ xs) a = some y from hy) with hx | ⟨b, rfl, hb⟩
    · rcases at?_singleton_cases hx with ⟨rfl, -⟩ | ⟨b, rfl, hb⟩
      · exact .inl rfl
      · exact .inr (.inl ⟨b, by simp [hb], rfl⟩)
    · exact .inr (.inr ⟨b, by simp [hb], rfl⟩)
  · rintro (rfl | ⟨b, hb, rfl⟩ | ⟨b, hb, rfl⟩)
    · rfl
    · obtain ⟨y, hy⟩ := Option.isSome_iff_exists.1 hb
      obtain ⟨i, rest, rfl, -⟩ := exists_cons_of_at? hy
      exact hb
    · have hshift : at? below (x :: xs) (shift 1 b) = at? below xs b := at?_shift [x] xs b
      rw [hshift]
      exact hb

/-- A property holds of a tree and of all trees inside it. -/
inductive Throughout (below : α → List α) (P : α → Prop) : α → Prop where
  | intro {x : α} (here : P x) (inside : ∀ y ∈ below x, Throughout below P y) : Throughout below P x

lemma Throughout.inTree? {P : α → Prop} {x y : α} {a : List Nat} (h : Throughout below P x)
    (ha : inTree? below a x = some y) : P y := by
  induction a generalizing x with
  | nil =>
    obtain ⟨here, -⟩ := h
    exact Option.some.inj ha ▸ here
  | cons i rest ih =>
    obtain ⟨-, inside⟩ := h
    obtain ⟨z, hz, ha⟩ := Option.bind_eq_some_iff.1 ha
    exact ih (inside z (List.mem_of_getElem? hz)) ha

/-- A property that holds throughout every tree of a forest holds at every address. -/
lemma Throughout.at? {P : α → Prop} {xs : List α} {y : α} {a : List Nat}
    (h : ∀ x ∈ xs, Throughout below P x) (ha : at? below xs a = some y) : P y := by
  obtain ⟨i, rest, rfl, -⟩ := exists_cons_of_at? ha
  obtain ⟨x, hx, ha⟩ := Option.bind_eq_some_iff.1 ha
  exact (h x (List.mem_of_getElem? hx)).inTree? ha

end Addresses

/-! ### Embeddings -/

section Embeddings

variable (below : α → List α) (below' : β → List β) (R : α → β → Prop)

/-- A map of addresses that leads to related trees and keeps what comes before and what lies
inside. -/
structure IsEmbedding (xs : List α) (ys : List β) (place : List Nat → List Nat) : Prop where
  maps : ∀ {a x}, at? below xs a = some x → ∃ y, at? below' ys (place a) = some y ∧ R x y
  before : ∀ {a b x x'}, at? below xs a = some x → at? below xs b = some x' → a < b →
    place a < place b
  inside : ∀ {a b x x'}, at? below xs a = some x → at? below xs b = some x' → a <+: b →
    place a <+: place b

/-- One forest can be embedded in another one. -/
def Embeds (xs : List α) (ys : List β) : Prop := ∃ place, IsEmbedding below below' R xs ys place

variable {below below' R}

/-- An embedding sends different trees to different places, since one of them comes before the
other. -/
lemma IsEmbedding.injective {xs : List α} {ys : List β} {place : List Nat → List Nat}
    (h : IsEmbedding below below' R xs ys place) {a b : List Nat} {x x' : α}
    (ha : at? below xs a = some x) (hb : at? below xs b = some x') (hab : place a = place b) :
    a = b := by
  rcases lt_trichotomy a b with hlt | heq | hlt
  · exact absurd hab (h.before ha hb hlt).ne
  · exact heq
  · exact absurd hab.symm (h.before hb ha hlt).ne

namespace Embeds

/-- The empty forest can be embedded anywhere. -/
lemma nil (ys : List β) : Embeds below below' R [] ys :=
  ⟨id, fun h => by simp at h, fun h => by simp at h, fun h => by simp at h⟩

/-- What is embedded below a tree is embedded in the tree. -/
lemma within {xs : List α} {y : β} (h : Embeds below below' R xs (below' y)) :
    Embeds below below' R xs [y] := by
  obtain ⟨place, h⟩ := h
  refine ⟨fun a => 0 :: place a, ?_, ?_, ?_⟩
  · intro a x ha
    obtain ⟨z, hz, hxz⟩ := h.maps ha
    refine ⟨z, ?_, hxz⟩
    obtain ⟨i, rest, hplace, -⟩ := exists_cons_of_at? hz
    rw [hplace] at hz ⊢
    exact hz
  · intro a b x x' ha hb hab
    exact List.cons_lt_cons_iff.2 (.inr ⟨rfl, h.before ha hb hab⟩)
  · intro a b x x' ha hb hab
    exact (List.prefix_cons_inj 0).2 (h.inside ha hb hab)

/-- The map of addresses for a root over a forest whose addresses are mapped already. -/
def underRoot (place : List Nat → List Nat) : List Nat → List Nat
  | _ :: j :: rest => 0 :: place (j :: rest)
  | _ => [0]

lemma underRoot_zero_cons {place : List Nat → List Nat} {xs : List α} {b : List Nat} {x : α}
    (hb : at? below xs b = some x) : underRoot place (0 :: b) = 0 :: place b := by
  obtain ⟨j, rest, rfl, -⟩ := exists_cons_of_at? hb
  rfl

/-- A tree can be embedded in a related one, if that can be done below. -/
lemma root {x : α} {y : β} (hxy : R x y) (h : Embeds below below' R (below x) (below' y)) :
    Embeds below below' R [x] [y] := by
  obtain ⟨place, h⟩ := h
  refine ⟨underRoot place, ?_, ?_, ?_⟩
  · intro a z ha
    rcases at?_singleton_cases ha with ⟨rfl, rfl⟩ | ⟨b, rfl, hb⟩
    · exact ⟨y, rfl, hxy⟩
    · obtain ⟨w, hw, hzw⟩ := h.maps hb
      obtain ⟨i, rest, hplace, -⟩ := exists_cons_of_at? hw
      refine ⟨w, ?_, hzw⟩
      rw [underRoot_zero_cons hb]
      rw [hplace] at hw ⊢
      exact hw
  · intro a b z z' ha hb hab
    rcases at?_singleton_cases ha with ⟨rfl, -⟩ | ⟨a', rfl, ha'⟩
    · rcases at?_singleton_cases hb with ⟨rfl, -⟩ | ⟨b', rfl, hb'⟩
      · exact absurd hab (lt_irrefl _)
      · -- the root comes before everything below it, since no place below it is empty
        obtain ⟨w, hw, -⟩ := h.maps hb'
        obtain ⟨i, rest, hplace, -⟩ := exists_cons_of_at? hw
        rw [underRoot_zero_cons hb', hplace]
        exact List.cons_lt_cons_iff.2 (.inr ⟨rfl, List.nil_lt_cons _ _⟩)
    · rcases at?_singleton_cases hb with ⟨rfl, -⟩ | ⟨b', rfl, hb'⟩
      · simp at hab
      · rw [underRoot_zero_cons ha', underRoot_zero_cons hb']
        have hab' : a' < b' := by simpa using hab
        exact List.cons_lt_cons_iff.2 (.inr ⟨rfl, h.before ha' hb' hab'⟩)
  · intro a b z z' ha hb hab
    rcases at?_singleton_cases ha with ⟨rfl, -⟩ | ⟨a', rfl, ha'⟩
    · rcases at?_singleton_cases hb with ⟨rfl, -⟩ | ⟨b', rfl, hb'⟩
      · exact List.prefix_rfl
      · rw [underRoot_zero_cons hb']
        exact (List.prefix_cons_inj 0).2 List.nil_prefix
    · rcases at?_singleton_cases hb with ⟨rfl, -⟩ | ⟨b', rfl, hb'⟩
      · obtain ⟨i, rest, rfl, -⟩ := exists_cons_of_at? ha'
        simp at hab
      · rw [underRoot_zero_cons ha', underRoot_zero_cons hb']
        exact (List.prefix_cons_inj 0).2 (h.inside ha' hb' ((List.prefix_cons_inj 0).1 hab))

/-- The map of addresses for two forests side by side, the first of which has `n` trees and goes to
one of `m` trees. -/
def sideBySide (n m : Nat) (place₁ place₂ : List Nat → List Nat) : List Nat → List Nat
  | [] => []
  | i :: rest => if i < n then place₁ (i :: rest) else shift m (place₂ ((i - n) :: rest))

lemma sideBySide_of_at? {n m : Nat} {place₁ place₂ : List Nat → List Nat} {xs : List α}
    {a : List Nat} {x : α} (ha : at? below xs a = some x) (hn : n = xs.length) :
    sideBySide n m place₁ place₂ a = place₁ a := by
  obtain ⟨i, rest, rfl, hi⟩ := exists_cons_of_at? ha
  rw [sideBySide, if_pos (by omega)]

lemma sideBySide_shift {n m : Nat} {place₁ place₂ : List Nat → List Nat} {xs : List α}
    {b : List Nat} {x : α} (hb : at? below xs b = some x) :
    sideBySide n m place₁ place₂ (shift n b) = shift m (place₂ b) := by
  obtain ⟨j, rest, rfl, -⟩ := exists_cons_of_at? hb
  rw [shift, sideBySide, if_neg (by omega), Nat.add_sub_cancel_left]

/-- Forests that are embedded one by one are embedded side by side. -/
lemma append {xs₁ xs₂ : List α} {ys₁ ys₂ : List β} (h₁ : Embeds below below' R xs₁ ys₁)
    (h₂ : Embeds below below' R xs₂ ys₂) : Embeds below below' R (xs₁ ++ xs₂) (ys₁ ++ ys₂) := by
  obtain ⟨place₁, h₁⟩ := h₁
  obtain ⟨place₂, h₂⟩ := h₂
  refine ⟨sideBySide xs₁.length ys₁.length place₁ place₂, ?_, ?_, ?_⟩
  · intro a x ha
    rcases at?_append_cases ha with ha' | ⟨a', rfl, ha'⟩
    · obtain ⟨y, hy, hxy⟩ := h₁.maps ha'
      rw [sideBySide_of_at? ha' rfl]
      exact ⟨y, at?_append_left hy, hxy⟩
    · obtain ⟨y, hy, hxy⟩ := h₂.maps ha'
      rw [sideBySide_shift ha', at?_shift]
      exact ⟨y, hy, hxy⟩
  · intro a b x x' ha hb hab
    rcases at?_append_cases ha with ha' | ⟨a', rfl, ha'⟩ <;>
      rcases at?_append_cases hb with hb' | ⟨b', rfl, hb'⟩
    · rw [sideBySide_of_at? ha' rfl, sideBySide_of_at? hb' rfl]
      exact h₁.before ha' hb' hab
    · obtain ⟨y, hy, -⟩ := h₁.maps ha'
      obtain ⟨z, hz, -⟩ := h₂.maps hb'
      rw [sideBySide_of_at? ha' rfl, sideBySide_shift hb']
      exact lt_shift hy hz
    · exact absurd hab (lt_shift hb' ha').asymm
    · rw [sideBySide_shift ha', sideBySide_shift hb', shift_lt_shift]
      exact h₂.before ha' hb' (shift_lt_shift.1 hab)
  · intro a b x x' ha hb hab
    rcases at?_append_cases ha with ha' | ⟨a', rfl, ha'⟩ <;>
      rcases at?_append_cases hb with hb' | ⟨b', rfl, hb'⟩
    · rw [sideBySide_of_at? ha' rfl, sideBySide_of_at? hb' rfl]
      exact h₁.inside ha' hb' hab
    · obtain ⟨i, rest, rfl, hi⟩ := exists_cons_of_at? ha'
      obtain ⟨j, rest', rfl, -⟩ := exists_cons_of_at? hb'
      obtain ⟨hij, -⟩ := List.cons_prefix_cons.1 hab
      omega
    · obtain ⟨i, rest, rfl, hi⟩ := exists_cons_of_at? hb'
      obtain ⟨j, rest', rfl, -⟩ := exists_cons_of_at? ha'
      obtain ⟨hij, -⟩ := List.cons_prefix_cons.1 hab
      omega
    · rw [sideBySide_shift ha', sideBySide_shift hb', shift_prefix_shift]
      exact h₂.inside ha' hb' (shift_prefix_shift.1 hab)

/-- What is embedded below one tree of a forest is embedded in the forest. -/
lemma of_mem {xs : List α} {ys : List β} (y : β) (hy : y ∈ ys)
    (h : Embeds below below' R xs (below' y)) : Embeds below below' R xs ys := by
  obtain ⟨left, right, rfl⟩ := List.append_of_mem hy
  have hright : Embeds below below' R (xs ++ []) (y :: right) := (within h).append (nil right)
  rw [List.append_nil] at hright
  exact (nil left).append hright

/-- A loop that makes at most one tree from each tree gives a forest that can be embedded. -/
lemma filterMap {f : β → Option α} {ys : List β}
    (h : ∀ y ∈ ys, ∀ x, f y = some x → R x y ∧ Embeds below below' R (below x) (below' y)) :
    Embeds below below' R (ys.filterMap f) ys := by
  induction ys with
  | nil => exact nil []
  | cons y ys ih =>
    have hys := ih fun y' hy' => h y' (by simp [hy'])
    have hy : Embeds below below' R (f y).toList [y] := by
      cases hf : f y with
      | none => exact nil [y]
      | some x =>
        obtain ⟨hxy, hbelow⟩ := h y (by simp) x hf
        exact root hxy hbelow
    have happend := hy.append hys
    cases hf : f y with
    | none => simpa [hf] using happend
    | some x => simpa [hf] using happend

end Embeds

end Embeddings

end CodeOutline.Forest
