/-
Labels of patterns can be read back.

A label leaves out parts of a pattern.  What it keeps is the skeleton of the pattern: names, braces
and brackets with what stands inside of them, and dots.  Nothing of it is lost
(`labels_of_patterns_decodable`): two lists of patterns have the same label exactly if they have the
same skeletons.  Names cannot be taken for punctuation, since the two are tokens of different kinds.

A label is a prefix code for skeletons: whatever follows the label of a pattern, the label ends in
one place only (`Skeleton.tokens_append_inj`).  Inside of brackets a pattern is followed by a comma
or by the bracket that closes, and neither can be the first token of a pattern.
-/
import CodeOutline.Pattern
import CodeOutline.Proofs.Runs

namespace CodeOutline.Pattern

/-! ### Skeletons -/

/-- What a label shows of a pattern. -/
inductive Skeleton where
  | name (s : String)
  | object (members : List Skeleton)
  | array (elements : List Skeleton)
  | rest (argument : Skeleton)

mutual

/-- The skeleton of a pattern: without locations, default values and holes.  Other nodes have
none. -/
def skeleton? : Node → Option Skeleton
  | .identifier id => some (.name id.name)
  | .objectPattern _ properties => (memberSkeletons? properties).map .object
  | .arrayPattern _ elements => (elementSkeletons? elements).map .array
  | .assignmentPattern _ left => skeleton? left
  | .restElement _ argument => (skeleton? argument).map .rest
  | _ => none

/-- The skeletons of the members of an object pattern.  A property counts as its key. -/
def memberSkeletons? : List Node → Option (List Skeleton)
  | [] => some []
  | .property _ key _ _ :: rest => do return (← skeleton? key) :: (← memberSkeletons? rest)
  | n :: rest => do return (← skeleton? n) :: (← memberSkeletons? rest)

/-- The skeletons of the elements of an array pattern.  A hole does not count. -/
def elementSkeletons? : List (Option Node) → Option (List Skeleton)
  | [] => some []
  | none :: rest => elementSkeletons? rest
  | some n :: rest => do return (← skeleton? n) :: (← elementSkeletons? rest)

end

/-- The skeletons of patterns, if all of them are patterns. -/
def skeletons? : List Node → Option (List Skeleton)
  | [] => some []
  | n :: rest => do return (← skeleton? n) :: (← skeletons? rest)

namespace Skeleton

mutual

/-- The label of a pattern with the given skeleton. -/
def tokens : Skeleton → Label
  | .name s => [.param s]
  | .object members => .plain "\x7b" :: separated (tokensOfAll members) ++ [.plain "\x7d"]
  | .array elements => .plain "[" :: separated (tokensOfAll elements) ++ [.plain "]"]
  | .rest argument => .plain "..." :: tokens argument

/-- The labels of patterns with the given skeletons. -/
def tokensOfAll : List Skeleton → List Label
  | [] => []
  | s :: ss => tokens s :: tokensOfAll ss

end

end Skeleton

/-! ### Labels only depend on skeletons -/

open Skeleton (tokens tokensOfAll)

/-- What is shown of a value that may be missing: both are missing, or the value is shown. -/
lemma cases_of_toOption {α β ε : Type} {x : Except ε β} {s : Option α} {f : α → β}
    (h : x.toOption = s.map f) :
    (∃ e, x = .error e ∧ s = none) ∨ ∃ a, x = .ok (f a) ∧ s = some a := by
  cases x with
  | error e => exact .inl ⟨e, rfl, Option.map_eq_none_iff.1 h.symm⟩
  | ok b =>
    obtain ⟨a, ha, rfl⟩ := Option.map_eq_some_iff.1 h.symm
    exact .inr ⟨a, rfl, ha⟩

/-- A list of labels that is made from its head and its tail shows the skeletons, if both do. -/
lemma toOption_cons {x : Except UnexpectedPattern Label}
    {xs : Except UnexpectedPattern (List Label)} {s : Option Skeleton} {ss : Option (List Skeleton)}
    (hx : x.toOption = s.map tokens) (hxs : xs.toOption = ss.map tokensOfAll) :
    (do let l ← x; return l :: (← xs) : Except UnexpectedPattern (List Label)).toOption =
      (do return (← s) :: (← ss) : Option (List Skeleton)).map tokensOfAll := by
  rcases cases_of_toOption hx with ⟨e, rfl, rfl⟩ | ⟨s, rfl, rfl⟩
  · rfl
  · rcases cases_of_toOption hxs with ⟨e, rfl, rfl⟩ | ⟨ss, rfl, rfl⟩
    · rfl
    · rfl

/-- A label that is made from the value of one step shows the skeleton, if the step does. -/
lemma toOption_map {α β : Type} {x : Except UnexpectedPattern β} {s : Option α} {f : α → β}
    (g : β → Label) {h : α → Skeleton} (hx : x.toOption = s.map f)
    (hg : ∀ a, g (f a) = tokens (h a)) :
    (do return g (← x) : Except UnexpectedPattern Label).toOption = (s.map h).map tokens := by
  rcases cases_of_toOption hx with ⟨e, rfl, rfl⟩ | ⟨a, rfl, rfl⟩
  · rfl
  · exact congrArg some (hg a)

/-- A node has a label exactly if it has a skeleton, and the label is that of the skeleton.  The
induction follows the three functions that make the label. -/
lemma toOption_label_all :
    (∀ n, (label n).toOption = (skeleton? n).map tokens) ∧
      (∀ elements, (elementLabels elements).toOption =
        (elementSkeletons? elements).map tokensOfAll) ∧
        ∀ members, (memberLabels members).toOption =
          (memberSkeletons? members).map tokensOfAll := by
  refine label.mutual_induct _ _ _ ?_ ?_ ?_ ?_ ?_ ?_ ?_ ?_ ?_ ?_ ?_ ?_
  · intro id
    rfl
  · intro loc properties ih
    rw [label, skeleton?]
    exact toOption_map _ ih fun _ => by rw [tokens]
  · intro loc elements ih
    rw [label, skeleton?]
    exact toOption_map _ ih fun _ => by rw [tokens]
  · intro loc left ih
    rw [label, skeleton?]
    exact ih
  · intro loc argument ih
    rw [label, skeleton?]
    exact toOption_map _ ih fun _ => by rw [tokens]
  · intro n hid hobject harray hassignment hrest
    rw [label.eq_6 n hid hobject harray hassignment hrest,
      skeleton?.eq_6 n hid hobject harray hassignment hrest]
    rfl
  · rfl
  · intro loc key value shorthand rest ihkey ihrest
    rw [memberLabels, memberSkeletons?]
    exact toOption_cons ihkey ihrest
  · intro n rest hproperty ihn ihrest
    rw [memberLabels.eq_3 n rest hproperty, memberSkeletons?.eq_3 n rest hproperty]
    exact toOption_cons ihn ihrest
  · rfl
  · intro rest ih
    rw [elementLabels, elementSkeletons?]
    exact ih
  · intro n rest ihn ihrest
    rw [elementLabels, elementSkeletons?]
    exact toOption_cons ihn ihrest

lemma toOption_labels (patterns : List Node) :
    (labels patterns).toOption = (skeletons? patterns).map tokensOfAll := by
  induction patterns with
  | nil => rfl
  | cons n rest ih => exact toOption_cons (toOption_label_all.1 n) ih

/-- The label of a list of patterns is that of their skeletons. -/
lemma exists_skeletons {patterns : List Node} {l : Label} (h : listLabel patterns = .ok l) :
    ∃ ss, skeletons? patterns = some ss ∧ l = separated (tokensOfAll ss) := by
  obtain ⟨ls, hls, h⟩ := exists_ok_of_bind h
  obtain rfl := Except.ok.inj h
  have hshown := toOption_labels patterns
  rw [hls] at hshown
  obtain ⟨ss, hss, rfl⟩ := Option.map_eq_some_iff.1 hshown.symm
  exact ⟨ss, hss, rfl⟩

/-! ### Labels determine skeletons -/

/-- Labels after the first one, each with the comma and the blank before it. -/
def continued (ls : List Label) : Label := ls.flatMap fun l => .plain "," :: .space :: l

lemma separated_cons (l : Label) (ls : List Label) : separated (l :: ls) = l ++ continued ls := by
  induction ls generalizing l with
  | nil => simp [separated, continued]
  | cons l' ls ih =>
    rw [separated, ih l']
    · rfl
    · exact List.cons_ne_nil l' ls

/-- The tokens that end a list of patterns. -/
def closers : List Token := [.plain "\x7d", .plain "]", .plain ")"]

lemma comma_notMem_closers : Token.plain "," ∉ closers := by decide

/-- A pattern is shown by at least one token, and the first one does not end a list. -/
lemma Skeleton.exists_head (s : Skeleton) : ∃ t l, s.tokens = t :: l ∧ t ∉ closers := by
  cases s with
  | name s => exact ⟨_, _, rfl, by simp [closers, Token.param, Token.plain]⟩
  | object members => exact ⟨_, _, rfl, by decide⟩
  | array elements => exact ⟨_, _, rfl, by decide⟩
  | rest argument => exact ⟨_, _, rfl, by decide⟩

mutual

/-- Labels of patterns are a prefix code: what follows a label does not matter for where it ends. -/
lemma Skeleton.tokens_append_inj : ∀ (s s' : Skeleton) (r r' : Label),
    s.tokens ++ r = s'.tokens ++ r' → s = s' ∧ r = r'
  | .name a, s', r, r', h => by
    cases s' with
    | name b =>
      simp only [tokens, Token.param, List.cons_append, List.nil_append, List.cons.injEq,
        Token.mk.injEq, true_and] at h
      obtain ⟨rfl, rfl⟩ := h
      exact ⟨rfl, rfl⟩
    | _ => simp [tokens, Token.param, Token.plain] at h
  | .object members, s', r, r', h => by
    cases s' with
    | object members' =>
      simp only [tokens, List.cons_append, List.append_assoc, List.nil_append, List.cons.injEq,
        true_and] at h
      obtain ⟨rfl, rfl⟩ := separated_append_inj (by decide) members members' r r' h
      exact ⟨rfl, rfl⟩
    | _ => simp [tokens, Token.param, Token.plain] at h
  | .array elements, s', r, r', h => by
    cases s' with
    | array elements' =>
      simp only [tokens, List.cons_append, List.append_assoc, List.nil_append, List.cons.injEq,
        true_and] at h
      obtain ⟨rfl, rfl⟩ := separated_append_inj (by decide) elements elements' r r' h
      exact ⟨rfl, rfl⟩
    | _ => simp [tokens, Token.param, Token.plain] at h
  | .rest argument, s', r, r', h => by
    cases s' with
    | rest argument' =>
      simp only [tokens, List.cons_append, List.cons.injEq, true_and] at h
      obtain ⟨rfl, rfl⟩ := Skeleton.tokens_append_inj argument argument' r r' h
      exact ⟨rfl, rfl⟩
    | _ => simp [tokens, Token.param, Token.plain] at h

/-- A list up to the token that closes it determines its patterns. -/
lemma separated_append_inj {c : Token} (hc : c ∈ closers) :
    ∀ (ss ss' : List Skeleton) (r r' : Label),
    separated (tokensOfAll ss) ++ c :: r = separated (tokensOfAll ss') ++ c :: r' →
      ss = ss' ∧ r = r'
  | [], [], r, r', h => by
    simp only [tokensOfAll, separated, List.nil_append, List.cons.injEq, true_and] at h
    exact ⟨rfl, h⟩
  | [], s' :: ss', r, r', h => by
    -- the list that is not empty starts with a token that closes nothing
    obtain ⟨t, l, hs', ht⟩ := s'.exists_head
    simp only [tokensOfAll, separated_cons, hs', separated, List.nil_append, List.cons_append,
      List.cons.injEq] at h
    exact absurd hc (h.1 ▸ ht)
  | s :: ss, [], r, r', h => by
    obtain ⟨t, l, hs, ht⟩ := s.exists_head
    simp only [tokensOfAll, separated_cons, hs, separated, List.nil_append, List.cons_append,
      List.cons.injEq] at h
    exact absurd hc (h.1 ▸ ht)
  | s :: ss, s' :: ss', r, r', h => by
    simp only [tokensOfAll, separated_cons, List.append_assoc] at h
    obtain ⟨rfl, hrest⟩ := Skeleton.tokens_append_inj s s' _ _ h
    obtain ⟨rfl, rfl⟩ := continued_append_inj hc ss ss' r r' hrest
    exact ⟨rfl, rfl⟩

/-- After the first pattern of a list there is a comma, or the list is closed. -/
lemma continued_append_inj {c : Token} (hc : c ∈ closers) :
    ∀ (ss ss' : List Skeleton) (r r' : Label),
    continued (tokensOfAll ss) ++ c :: r = continued (tokensOfAll ss') ++ c :: r' →
      ss = ss' ∧ r = r'
  | [], [], r, r', h => by
    simp only [tokensOfAll, continued, List.flatMap_nil, List.nil_append, List.cons.injEq,
      true_and] at h
    exact ⟨rfl, h⟩
  | [], s' :: ss', r, r', h => by
    simp only [tokensOfAll, continued, List.flatMap_nil, List.flatMap_cons, List.nil_append,
      List.cons_append, List.cons.injEq] at h
    exact absurd (h.1 ▸ hc) comma_notMem_closers
  | s :: ss, [], r, r', h => by
    simp only [tokensOfAll, continued, List.flatMap_nil, List.flatMap_cons, List.nil_append,
      List.cons_append, List.cons.injEq] at h
    exact absurd (h.1 ▸ hc) comma_notMem_closers
  | s :: ss, s' :: ss', r, r', h => by
    simp only [tokensOfAll, continued, List.flatMap_cons, List.cons_append, List.append_assoc,
      List.cons.injEq, true_and] at h
    obtain ⟨rfl, hrest⟩ := Skeleton.tokens_append_inj s s' _ _ h
    obtain ⟨rfl, rfl⟩ := continued_append_inj hc ss ss' r r' hrest
    exact ⟨rfl, rfl⟩

end

/-- **Labels of patterns are uniquely decodable.**  Two lists of patterns have the same label
exactly if they have the same skeletons, whatever strings occur as names.  As parameters, a list of
nodes has the same label in parentheses, or fails in the same way. -/
theorem labels_of_patterns_decodable {xs ys : List Node} {lx ly : Label}
    (hx : listLabel xs = .ok lx) (hy : listLabel ys = .ok ly) :
    (∃ sx sy, skeletons? xs = some sx ∧ skeletons? ys = some sy ∧ (lx = ly ↔ sx = sy)) ∧
      ∀ zs, paramsLabel zs = (listLabel zs).map fun l => .plain "(" :: l ++ [.plain ")"] := by
  obtain ⟨sx, hsx, rfl⟩ := exists_skeletons hx
  obtain ⟨sy, hsy, rfl⟩ := exists_skeletons hy
  refine ⟨⟨sx, sy, hsx, hsy, fun hlabels => ?_, fun hsame => by rw [hsame]⟩, paramsLabel_eq_map⟩
  -- a list that nothing closes can be closed by any bracket
  have hclosed : separated (tokensOfAll sx) ++ [.plain ")"] = separated (tokensOfAll sy) ++
      [.plain ")"] := by
    rw [hlabels]
  exact (separated_append_inj (by decide) sx sy [] [] hclosed).1

/-- With `...` for the name `a`, the pattern `[, a = 1]` has the label of `[a]`: the hole and the
default value are not shown.  A rest of the empty name in brackets has the same text, but another
label. -/
theorem dots_as_name_decoded :
    let named (s : String) : Node := .identifier ⟨none, s⟩
    let xs : List Node := [.arrayPattern none [none, some (.assignmentPattern none (named "..."))]]
    let ys : List Node := [.arrayPattern none [some (named "...")]]
    let zs : List Node := [.arrayPattern none [some (.restElement none (named ""))]]
    (listLabel xs).map Label.text = (listLabel zs).map Label.text ∧
      ∃ lx ly lz, listLabel xs = .ok lx ∧ listLabel ys = .ok ly ∧ listLabel zs = .ok lz ∧
        lx = ly ∧ lx ≠ lz := by
  intro named xs ys zs
  refine ⟨by decide, _, _, _, rfl, rfl, rfl, ?_, ?_⟩
  · obtain ⟨⟨sx, sy, hsx, hsy, hiff⟩, -⟩ := @labels_of_patterns_decodable xs ys _ _ rfl rfl
    exact hiff.2 (Option.some.inj (hsx.symm.trans hsy))
  · obtain ⟨⟨sx, sz, hsx, hsz, hiff⟩, -⟩ := @labels_of_patterns_decodable xs zs _ _ rfl rfl
    have hskeletons : skeletons? xs ≠ skeletons? zs := by
      simp [xs, zs, named, skeletons?, skeleton?, elementSkeletons?]
    intro hsame
    exact hskeletons (by rw [hsx, hsz, hiff.1 hsame])

end CodeOutline.Pattern
