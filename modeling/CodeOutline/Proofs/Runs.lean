/-
Computations that record events, and pairs of them.

A run either meets an unexpected pattern or gives a value, and it leaves a list of events in both
cases.  Statements about two walks over the same program compare two runs step by step: `Run.Related
R x y` says that `x` and `y` record the same events, and that they fail in the same way or give
values that stand in the relation `R`.  The relation is carried through every way in which the
builder composes runs.
-/
import CodeOutline.Builder.Log
import Mathlib.Data.List.Forall2
import Mathlib.Tactic.Lemma

namespace CodeOutline

variable {α β γ δ : Type}

/-! ### The parts of a composed computation -/

namespace Logged

@[simp] lemma value_pure (a : α) : (pure a : Logged α).value = a := rfl

@[simp] lemma value_bind (x : Logged α) (f : α → Logged β) : (x >>= f).value = (f x.value).value :=
  rfl

@[simp] lemma value_map (f : α → β) (x : Logged α) : (f <$> x).value = f x.value := rfl

/-- The values of a loop are the values of its rounds. -/
lemma value_filterMap (f : α → Logged (Option β)) (as : List α) :
    (filterMap f as).value = as.filterMap fun a => (f a).value := by
  induction as with
  | nil => rfl
  | cons a as ih =>
    simp only [filterMap, value_bind, value_pure, ih, List.filterMap_cons]
    cases (f a).value <;> rfl

/-- A loop only depends on what its rounds do. -/
lemma filterMap_congr {f g : α → Logged (Option β)} {as : List α} (h : ∀ a ∈ as, f a = g a) :
    filterMap f as = filterMap g as := by
  induction as with
  | nil => rfl
  | cons a as ih =>
    rw [filterMap, filterMap, h a (by simp), ih fun b hb => h b (by simp [hb])]

/-- Loops over two lists are the same if their rounds are. -/
lemma filterMap_congr_forall₂ {R : α → γ → Prop} {f : α → Logged (Option β)}
    {g : γ → Logged (Option β)} {as : List α} {cs : List γ} (h : List.Forall₂ R as cs)
    (hfg : ∀ a ∈ as, ∀ c, R a c → f a = g c) : filterMap f as = filterMap g cs := by
  induction h with
  | nil => rfl
  | cons ha _ ih =>
    rw [filterMap, filterMap, hfg _ (by simp) _ ha, ih fun b hb => hfg b (by simp [hb])]

/-- A loop may leave out the items for which it does nothing. -/
lemma filterMap_filter {f : α → Logged (Option β)} {p : α → Bool}
    (h : ∀ a, p a = false → f a = pure none) (as : List α) :
    filterMap f (as.filter p) = filterMap f as := by
  induction as with
  | nil => rfl
  | cons a as ih =>
    by_cases hp : p a
    · rw [List.filter_cons_of_pos hp, filterMap, filterMap, ih]
    · rw [List.filter_cons_of_neg hp, filterMap, h a (by simpa using hp), ih]
      -- the round records nothing and gives nothing
      show filterMap f as = ⟨[] ++ ((filterMap f as).events ++ []), (filterMap f as).value⟩
      rw [List.nil_append, List.append_nil]

end Logged

/-- A computation that does not fail has a first step that does not fail, and goes on from its
value. -/
lemma exists_ok_of_bind {ε : Type} {x : Except ε α} {f : α → Except ε β} {b : β}
    (h : x.bind f = .ok b) : ∃ a, x = .ok a ∧ f a = .ok b := by
  cases x with
  | error e => simp [Except.bind] at h
  | ok a => exact ⟨a, rfl, h⟩

namespace Run

@[simp] lemma result_pure (a : α) : (pure a : Run α).result = .ok a := rfl

@[simp] lemma result_bind (x : Run α) (f : α → Run β) :
    (x >>= f).result = x.result.bind fun a => (f a).result := by
  obtain ⟨events, result⟩ := x
  cases result <;> rfl

@[simp] lemma result_log (e : Event) : (log e).result = .ok () := rfl

@[simp] lemma result_ofExcept (x : Except UnexpectedPattern α) : (ofExcept x).result = x := rfl

lemma bind_of_ok {x : Run α} {a : α} (h : x.result = .ok a) (f : α → Run β) :
    x >>= f = ⟨x.events ++ (f a).events, (f a).result⟩ := by
  obtain ⟨events, result⟩ := x
  obtain rfl : result = .ok a := h
  rfl

lemma bind_of_error {x : Run α} {e : UnexpectedPattern} (h : x.result = .error e) (f : α → Run β) :
    x >>= f = ⟨x.events, .error e⟩ := by
  obtain ⟨events, result⟩ := x
  obtain rfl : result = .error e := h
  rfl

/-- A loop of computations that cannot fail is a loop of runs. -/
lemma ofLogged_filterMap (f : α → Logged (Option β)) (as : List α) :
    ofLogged (Logged.filterMap f as) = filterMap (fun a => ofLogged (f a)) as := by
  induction as with
  | nil => rfl
  | cons a as ih =>
    rw [filterMap, ← ih]
    rfl

/-- A loop only depends on what its rounds do. -/
lemma filterMap_congr {f g : α → Run (Option β)} {as : List α} (h : ∀ a ∈ as, f a = g a) :
    filterMap f as = filterMap g as := by
  induction as with
  | nil => rfl
  | cons a as ih =>
    rw [filterMap, filterMap, h a (by simp), ih fun b hb => h b (by simp [hb])]

/-- Loops over two lists are the same if their rounds are. -/
lemma filterMap_congr_forall₂ {R : α → γ → Prop} {f : α → Run (Option β)}
    {g : γ → Run (Option β)} {as : List α} {cs : List γ} (h : List.Forall₂ R as cs)
    (hfg : ∀ a ∈ as, ∀ c, R a c → f a = g c) : filterMap f as = filterMap g cs := by
  induction h with
  | nil => rfl
  | cons ha _ ih =>
    rw [filterMap, filterMap, hfg _ (by simp) _ ha, ih fun b hb => hfg b (by simp [hb])]

/-- A loop over other items is a loop with other rounds. -/
lemma filterMap_map (f : β → Run (Option γ)) (g : α → β) (as : List α) :
    filterMap f (as.map g) = filterMap (fun a => f (g a)) as := by
  induction as with
  | nil => rfl
  | cons a as ih => rw [List.map_cons, filterMap, filterMap, ih]

/-- The outcome of a loop only depends on the outcomes of its rounds. -/
lemma result_filterMap_congr {f g : α → Run (Option β)} {as : List α}
    (h : ∀ a ∈ as, (f a).result = (g a).result) :
    (filterMap f as).result = (filterMap g as).result := by
  induction as with
  | nil => rfl
  | cons a as ih =>
    simp only [filterMap, result_bind, result_pure]
    rw [h a (by simp), ih fun b hb => h b (by simp [hb])]

/-- A loop whose rounds do not fail gives the values of its rounds. -/
lemma result_filterMap_of_ok {f : α → Run (Option β)} {g : α → Option β} {as : List α}
    (h : ∀ a ∈ as, (f a).result = .ok (g a)) : (filterMap f as).result = .ok (as.filterMap g) := by
  induction as with
  | nil => rfl
  | cons a as ih =>
    have hrest := ih fun b hb => h b (by simp [hb])
    simp only [filterMap, result_bind, result_pure, h a (by simp), hrest, List.filterMap_cons]
    cases g a <;> rfl

/-- A loop that does not fail gives the values of its rounds, none of which fails. -/
lemma filterMap_eq_ok {f : α → Run (Option β)} {as : List α} {bs : List β}
    (h : (filterMap f as).result = .ok bs) :
    ∃ g : α → Option β, bs = as.filterMap g ∧ ∀ a ∈ as, (f a).result = .ok (g a) := by
  -- a round is repeated for an item that occurs twice, so its value has to be a function of the
  -- item
  refine ⟨fun a => (f a).result.toOption.join, ?_⟩
  induction as generalizing bs with
  | nil =>
    obtain rfl : [] = bs := Except.ok.inj h
    simp
  | cons a as ih =>
    simp only [filterMap, result_bind, result_pure] at h
    obtain ⟨b, ha, h⟩ := exists_ok_of_bind h
    obtain ⟨bs', has, h⟩ := exists_ok_of_bind h
    obtain rfl := Except.ok.inj h
    obtain ⟨hbs', hrounds⟩ := ih has
    constructor
    · rw [List.filterMap_cons, ha, ← hbs']
      cases b <;> rfl
    · intro c hc
      rcases List.mem_cons.1 hc with rfl | hc
      · simp [ha, Except.toOption]
      · exact hrounds c hc

end Run

/-! ### Two computations side by side -/

/-- Two outcomes are the same failure, or values that stand in a relation. -/
inductive SameOutcome {ε : Type} (R : α → β → Prop) : Except ε α → Except ε β → Prop where
  | error (e : ε) : SameOutcome R (.error e) (.error e)
  | ok {a : α} {b : β} (h : R a b) : SameOutcome R (.ok a) (.ok b)

namespace SameOutcome

variable {ε : Type} {R : α → β → Prop} {S : γ → δ → Prop}

lemma bind {x : Except ε α} {y : Except ε β} {f : α → Except ε γ} {g : β → Except ε δ}
    (h : SameOutcome R x y) (hfg : ∀ a b, R a b → SameOutcome S (f a) (g b)) :
    SameOutcome S (x >>= f) (y >>= g) := by
  cases h with
  | error e => exact .error e
  | ok hab => exact hfg _ _ hab

lemma map {x : Except ε α} {y : Except ε β} {f : α → γ} {g : β → δ} (h : SameOutcome R x y)
    (hfg : ∀ a b, R a b → S (f a) (g b)) : SameOutcome S (x.map f) (y.map g) := by
  cases h with
  | error e => exact .error e
  | ok hab => exact .ok (hfg _ _ hab)

/-- An outcome is the same as itself. -/
lemma refl (x : Except ε α) : SameOutcome Eq x x := by
  cases x with
  | error e => exact .error e
  | ok a => exact .ok rfl

end SameOutcome

/-- Two runs record the same events, and their outcomes are the same up to a relation. -/
structure Run.Related (R : α → β → Prop) (x : Run α) (y : Run β) : Prop where
  events_eq : x.events = y.events
  outcome : SameOutcome R x.result y.result

namespace Run.Related

variable {R : α → β → Prop} {S : γ → δ → Prop}

lemma pure {a : α} {b : β} (h : R a b) : Related R (Pure.pure a) (Pure.pure b) := ⟨rfl, .ok h⟩

lemma log (e : Event) : Related Eq (Run.log e) (Run.log e) := ⟨rfl, .ok rfl⟩

lemma ofExcept {x : Except UnexpectedPattern α} {y : Except UnexpectedPattern β}
    (h : SameOutcome R x y) : Related R (Run.ofExcept x) (Run.ofExcept y) := ⟨rfl, h⟩

lemma ofLogged {x : Logged α} {y : Logged β} (he : x.events = y.events) (hv : R x.value y.value) :
    Related R (Run.ofLogged x) (Run.ofLogged y) := ⟨he, .ok hv⟩

lemma bind {x : Run α} {y : Run β} {f : α → Run γ} {g : β → Run δ} (h : Related R x y)
    (hfg : ∀ a b, R a b → Related S (f a) (g b)) : Related S (x >>= f) (y >>= g) := by
  obtain ⟨xe, xr⟩ := x
  obtain ⟨ye, yr⟩ := y
  obtain ⟨he, hr⟩ := h
  simp only at he hr
  subst he
  cases hr with
  | error e => exact ⟨rfl, .error e⟩
  | ok hab =>
    obtain ⟨he', hr'⟩ := hfg _ _ hab
    exact ⟨congrArg (xe ++ ·) he', hr'⟩

/-- Loops are related if their rounds are: the lists that they give correspond item by item. -/
lemma filterMap {f : α → Run (Option γ)} {g : α → Run (Option δ)} {as : List α}
    (h : ∀ a ∈ as, Related (Option.Rel S) (f a) (g a)) :
    Related (List.Forall₂ S) (Run.filterMap f as) (Run.filterMap g as) := by
  induction as with
  | nil => exact pure .nil
  | cons a as ih =>
    refine bind (h a (by simp)) fun b c hbc => ?_
    refine bind (ih fun a' ha' => h a' (by simp [ha'])) fun bs cs hbcs => ?_
    cases hbc with
    | none => exact pure hbcs
    | some hs => exact pure (.cons hs hbcs)

end Run.Related

end CodeOutline
