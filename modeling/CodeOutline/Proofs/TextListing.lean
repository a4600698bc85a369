/-
What a listing tells.

A listing has a line for each entry: the entries come in the order in which a walk from the top
meets them, and the blanks before a label tell the level of the entry (`exists_preorder_lines`).
Nothing else is written, so kinds, names and extents are lost, and so is the division of a label
into tokens.  But labels and shape can be told from the listing as long as labels keep to their
lines and do not start with blanks.  Then the blanks at the start of a line are exactly those of the
level, and the lines below an entry end where a line is not further to the right than the entry
itself.

So the lines of a forest can be told from any lines that follow it and are further to the left
(`listLines_append_inj`).  A report of several files is a special case: a header stands at the left
margin and every outline one level to the right of it.
-/
import CodeOutline.Report
import CodeOutline.Proofs.Provenance

namespace CodeOutline

/-! ### Forests of entries -/

namespace Entry

/-- What holds of a forest if it holds below its first entry and of the other entries holds of all
forests. -/
lemma forest_induction {motive : List Entry → Prop} (nil : motive [])
    (cons : ∀ e rest, motive e.children → motive rest → motive (e :: rest)) : ∀ es, motive es
  | [] => nil
  | ⟨kind, label, name, extent, children⟩ :: rest =>
    cons ⟨kind, label, name, extent, children⟩ rest (forest_induction nil cons children)
      (forest_induction nil cons rest)

lemma listLines_cons (level : Nat) (e : Entry) (rest : List Entry) :
    listLines level (e :: rest) =
      (indentation level ++ e.label.text) ::
        (listLines (level + 1) e.children ++ listLines level rest) := by
  obtain ⟨kind, label, name, extent, children⟩ := e
  rw [listLines]

end Entry

open Forest (at? shift)

/-! ### The order of the lines -/

/-- The addresses of all entries of an outline, in the order in which a walk meets the entries. -/
structure Outline.IsPreorder (o : Outline) (addresses : List (List Nat)) : Prop where
  sorted : addresses.Pairwise (· < ·)
  mem_iff : ∀ a, a ∈ addresses ↔ (o.entryAt? a).isSome

/-- The line of the entry at an address: two blanks for each level that the entry is below the top,
and the label. -/
def Outline.IsLineAt (o : Outline) (a : List Nat) (line : String) : Prop :=
  ∃ e, o.entryAt? a = some e ∧ line.toList = List.replicate (2 * (a.length - 1)) ' ' ++
    e.label.text.toList

namespace Entry

/-- The addresses of the entries of a forest: the first entry, the entries below it, and the other
ones. -/
def addresses : List Entry → List (List Nat)
  | [] => []
  | ⟨_, _, _, _, children⟩ :: rest =>
    [0] :: ((addresses children).map (0 :: ·) ++ (addresses rest).map (shift 1))

lemma addresses_cons (e : Entry) (rest : List Entry) :
    addresses (e :: rest) =
      [0] :: ((addresses e.children).map (0 :: ·) ++ (addresses rest).map (shift 1)) := by
  obtain ⟨kind, label, name, extent, children⟩ := e
  rw [addresses]

lemma mem_addresses_iff (es : List Entry) (a : List Nat) :
    a ∈ addresses es ↔ (at? children es a).isSome := by
  induction es using forest_induction generalizing a with
  | nil => simp [addresses]
  | cons e rest ihbelow ihrest =>
    simp only [addresses_cons, List.mem_cons, List.mem_append, List.mem_map, ihbelow, ihrest,
      Forest.isSome_at?_cons_iff]

lemma exists_cons_of_mem_addresses {es : List Entry} {a : List Nat} (h : a ∈ addresses es) :
    ∃ i rest, a = i :: rest := by
  obtain ⟨e, he⟩ := Option.isSome_iff_exists.1 ((mem_addresses_iff es a).1 h)
  obtain ⟨i, rest, rfl, -⟩ := Forest.exists_cons_of_at? he
  exact ⟨i, rest, rfl⟩

lemma pairwise_addresses (es : List Entry) : (addresses es).Pairwise (· < ·) := by
  induction es using forest_induction with
  | nil => simp [addresses]
  | cons e rest ihbelow ihrest =>
    rw [addresses_cons, List.pairwise_cons, List.pairwise_append, List.pairwise_map,
      List.pairwise_map]
    -- the other entries come after the first one and after all that is below it
    have hother : ∀ a, ∀ b ∈ (addresses rest).map (shift 1), 0 :: a < b := by
      intro a b hb
      obtain ⟨c, hc, rfl⟩ := List.mem_map.1 hb
      obtain ⟨i, path, rfl⟩ := exists_cons_of_mem_addresses hc
      exact List.cons_lt_cons_iff.2 (.inl (by omega))
    refine ⟨fun a ha => ?_, ihbelow.imp fun h => List.cons_lt_cons_iff.2 (.inr ⟨rfl, h⟩),
      ihrest.imp Forest.shift_lt_shift.2, fun a ha b hb => ?_⟩
    · rcases List.mem_append.1 ha with ha | ha
      · obtain ⟨b, hb, rfl⟩ := List.mem_map.1 ha
        obtain ⟨i, path, rfl⟩ := exists_cons_of_mem_addresses hb
        exact List.cons_lt_cons_iff.2 (.inr ⟨rfl, List.nil_lt_cons _ _⟩)
      · exact hother [] a ha
    · obtain ⟨a, -, rfl⟩ := List.mem_map.1 ha
      exact hother a b hb

/-- Each line belongs to the entry at the address in its place.  The level of the forest is added to
that of the entry. -/
lemma forall₂_listLines (level : Nat) (es : List Entry) :
    List.Forall₂ (fun a line => ∃ e, at? children es a = some e ∧
        line = indentation (level + (a.length - 1)) ++ e.label.text) (addresses es)
          (listLines level es) := by
  induction es using forest_induction generalizing level with
  | nil => simp [addresses, listLines]
  | cons e rest ihbelow ihrest =>
    rw [addresses_cons, listLines_cons]
    refine .cons ⟨e, rfl, rfl⟩ (List.rel_append ?_ ?_)
    · rw [List.forall₂_map_left_iff]
      refine (ihbelow (level + 1)).imp ?_
      rintro a line ⟨d, hd, rfl⟩
      obtain ⟨i, path, rfl, -⟩ := Forest.exists_cons_of_at? hd
      refine ⟨d, hd, ?_⟩
      have hlevel : level + 1 + ((i :: path).length - 1) =
          level + ((0 :: i :: path).length - 1) := by
        simp only [List.length_cons]
        omega
      rw [hlevel]
    · rw [List.forall₂_map_left_iff]
      refine (ihrest level).imp ?_
      rintro a line ⟨d, hd, rfl⟩
      have hshift : at? children (e :: rest) (shift 1 a) = at? children rest a :=
        Forest.at?_shift [e] rest a
      obtain ⟨i, path, rfl, -⟩ := Forest.exists_cons_of_at? hd
      exact ⟨d, hshift.trans hd, rfl⟩

end Entry

lemma toList_indentation (level : Nat) :
    (indentation level).toList = List.replicate (2 * level) ' ' := by
  rw [indentation, String.toList_ofList]

/-- An outline has one line for each entry, in the order of a walk, with its level and its label. -/
lemma Outline.exists_preorder_lines (o : Outline) :
    ∃ addresses, o.IsPreorder addresses ∧ List.Forall₂ o.IsLineAt addresses o.lines := by
  refine ⟨Entry.addresses o.entries, ⟨Entry.pairwise_addresses _, Entry.mem_addresses_iff _⟩, ?_⟩
  refine (Entry.forall₂_listLines 0 o.entries).imp ?_
  rintro a line ⟨e, he, rfl⟩
  refine ⟨e, he, ?_⟩
  rw [String.toList_append, toList_indentation, Nat.zero_add]

/-! ### Labels and shapes -/

/-- Two entries have the same label, and the entries below them have the same labels in the same
shape. -/
inductive Entry.SameLabels : Entry → Entry → Prop where
  | intro {e e' : Entry} (hlabel : e.label.text = e'.label.text)
      (hchildren : List.Forall₂ SameLabels e.children e'.children) : SameLabels e e'

/-- Two outlines have the same labels in the same shape. -/
def Outline.SameLabels (o o' : Outline) : Prop := List.Forall₂ Entry.SameLabels o.entries o'.entries

/-- A text without line feeds that does not start with a blank. -/
def IsPlain (s : String) : Prop := '\n' ∉ s.toList ∧ s.toList.head? ≠ some ' '

/-- Every label of an entry and below it is plain. -/
abbrev Entry.Plain : Entry → Prop := Forest.Throughout Entry.children fun e => IsPlain e.label.text

/-- Every label of an outline is plain. -/
def Outline.Plain (o : Outline) : Prop := ∀ e ∈ o.entries, e.Plain

/-- The path of a file and the labels of its outline are plain. -/
def FileOutline.Plain (f : FileOutline) : Prop := IsPlain f.path ∧ f.outline.Plain

/-- Two files have the same path, and their outlines have the same labels in the same shape. -/
def FileOutline.SameLabels (f f' : FileOutline) : Prop :=
  f.path = f'.path ∧ f.outline.SameLabels f'.outline

/-- The number of blanks at the start of a line. -/
def leadingBlanks (line : String) : Nat := (line.toList.takeWhile (· = ' ')).length

lemma leadingBlanks_of_head?_ne {s : String} (h : s.toList.head? ≠ some ' ') :
    leadingBlanks s = 0 := by
  unfold leadingBlanks
  cases hs : s.toList with
  | nil => rfl
  | cons c rest =>
    have hc : c ≠ ' ' := by simpa [hs] using h
    simp [hc]

/-- The line of an entry starts with the blanks of its level and no others. -/
lemma leadingBlanks_indentation_append {s : String} (h : s.toList.head? ≠ some ' ') (level : Nat) :
    leadingBlanks (indentation level ++ s) = 2 * level := by
  have hs : (s.toList.takeWhile (· = ' ')).length = 0 := leadingBlanks_of_head?_ne h
  rw [leadingBlanks, String.toList_append, toList_indentation,
    List.takeWhile_append_of_pos fun c hc => by simp [List.eq_of_mem_replicate hc],
    List.length_append, List.length_replicate, hs]
  rfl

/-- Lines that do not go on at a level or further to the right. -/
def LeftOf (level : Nat) (ls : List String) : Prop :=
  ∀ line, ls.head? = some line → leadingBlanks line < 2 * level

lemma leftOf_nil (level : Nat) : LeftOf level [] := by
  intro line h
  cases h

lemma LeftOf.succ {level : Nat} {ls : List String} (h : LeftOf level ls) :
    LeftOf (level + 1) ls := by
  intro line hline
  have hlt := h line hline
  omega

namespace Entry

variable {level : Nat} {es es' : List Entry}

/-- The lines of a forest are to the left of what would be below an entry before them. -/
lemma leftOf_listLines_append {rest : List String} (hes : ∀ e ∈ es, e.Plain)
    (hrest : LeftOf level rest) : LeftOf (level + 1) (listLines level es ++ rest) := by
  cases es with
  | nil =>
    rw [listLines, List.nil_append]
    exact hrest.succ
  | cons e tail =>
    obtain ⟨⟨-, hlabel⟩, -⟩ := hes e (by simp)
    rw [listLines_cons]
    intro line hline
    obtain rfl : indentation level ++ e.label.text = line := by simpa using hline
    rw [leadingBlanks_indentation_append hlabel]
    omega

/-- A forest that is not empty is not to the left of its own level. -/
lemma not_leftOf_listLines_cons {e : Entry} {tail : List Entry} {rest : List String}
    (he : e.Plain) : ¬ LeftOf level (listLines level (e :: tail) ++ rest) := by
  intro h
  obtain ⟨⟨-, hlabel⟩, -⟩ := he
  have hlt := h (indentation level ++ e.label.text) (by rw [listLines_cons]; rfl)
  rw [leadingBlanks_indentation_append hlabel] at hlt
  exact Nat.lt_irrefl _ hlt

/-- The lines of a forest and the lines after it can be told apart, and labels and shape can be told
from the lines of the forest. -/
lemma listLines_append_inj {rest rest' : List String} (hes : ∀ e ∈ es, e.Plain)
    (hes' : ∀ e ∈ es', e.Plain) (hrest : LeftOf level rest) (hrest' : LeftOf level rest')
    (h : listLines level es ++ rest = listLines level es' ++ rest') :
    List.Forall₂ SameLabels es es' ∧ rest = rest' := by
  induction es using forest_induction generalizing level es' rest rest' with
  | nil =>
    rw [listLines, List.nil_append] at h
    cases es' with
    | nil =>
      rw [listLines, List.nil_append] at h
      exact ⟨.nil, h⟩
    | cons e' tail' =>
      rw [h] at hrest
      exact absurd hrest (not_leftOf_listLines_cons (hes' e' (by simp)))
  | cons e tail ihbelow ihtail =>
    cases es' with
    | nil =>
      rw [listLines, List.nil_append] at h
      rw [← h] at hrest'
      exact absurd hrest' (not_leftOf_listLines_cons (hes e (by simp)))
    | cons e' tail' =>
      rw [List.forall_mem_cons] at hes hes'
      obtain ⟨⟨-, hbelow⟩, htail⟩ := hes
      obtain ⟨⟨-, hbelow'⟩, htail'⟩ := hes'
      simp only [listLines_cons, List.cons_append, List.append_assoc, List.cons.injEq] at h
      obtain ⟨hline, hlines⟩ := h
      have hlabel : e.label.text = e'.label.text := (String.append_right_inj _).1 hline
      -- what comes after the entries below `e` is at the level of `e` or further to the left
      obtain ⟨hchildren, hlines⟩ := ihbelow hbelow hbelow' (leftOf_listLines_append htail hrest)
        (leftOf_listLines_append htail' hrest') hlines
      obtain ⟨hsame, hrests⟩ := ihtail htail htail' hrest hrest' hlines
      exact ⟨.cons (.intro hlabel hchildren) hsame, hrests⟩

lemma listLines_congr (h : List.Forall₂ SameLabels es es') :
    listLines level es = listLines level es' := by
  induction es using forest_induction generalizing level es' with
  | nil =>
    cases h
    rfl
  | cons e rest ihbelow ihrest =>
    cases h with
    | cons he hrest =>
      obtain ⟨hlabel, hchildren⟩ := he
      rw [listLines_cons, listLines_cons, hlabel, ihbelow hchildren, ihrest hrest]

lemma lf_notMem_of_mem_listLines (hes : ∀ e ∈ es, e.Plain) :
    ∀ line ∈ listLines level es, '\n' ∉ line.toList := by
  induction es using forest_induction generalizing level with
  | nil => simp [listLines]
  | cons e rest ihbelow ihrest =>
    rw [List.forall_mem_cons] at hes
    obtain ⟨⟨⟨hlabel, -⟩, hbelow⟩, hrest⟩ := hes
    rw [listLines_cons, List.forall_mem_cons, List.forall_mem_append]
    refine ⟨?_, ihbelow hbelow, ihrest hrest⟩
    rw [String.toList_append, toList_indentation, List.mem_append, not_or]
    exact ⟨fun h => absurd (List.eq_of_mem_replicate h) (by decide), hlabel⟩

/-- Lines that are moved to the right are the lines of the next level. -/
lemma map_listLines (level : Nat) (es : List Entry) :
    (listLines level es).map (indentation 1 ++ ·) = listLines (level + 1) es := by
  have hindentation : ∀ level, indentation 1 ++ indentation level = indentation (level + 1) := by
    intro level
    rw [← String.toList_inj, String.toList_append, toList_indentation, toList_indentation,
      toList_indentation, List.replicate_append_replicate, Nat.mul_add, Nat.add_comm]
  induction es using forest_induction generalizing level with
  | nil => simp [listLines]
  | cons e rest ihbelow ihrest =>
    rw [listLines_cons, listLines_cons, List.map_cons, List.map_append, ihbelow, ihrest,
      ← String.append_assoc, hindentation]

end Entry

/-! ### Reports -/

namespace Report

lemma toList_unlines_cons (line : String) (ls : List String) :
    (unlines (line :: ls)).toList = line.toList ++ '\n' :: (unlines ls).toList := by
  simp [unlines, String.join_cons]

lemma unlines_cons_ne_nil (line : String) (ls : List String) :
    unlines (line :: ls) ≠ unlines [] := by
  intro h
  have hchars := congrArg String.toList h
  rw [toList_unlines_cons] at hchars
  simp [unlines] at hchars

/-- Lines without line feeds can be told from their text. -/
lemma unlines_inj {ls ls' : List String} (hls : ∀ line ∈ ls, '\n' ∉ line.toList)
    (hls' : ∀ line ∈ ls', '\n' ∉ line.toList) (h : unlines ls = unlines ls') : ls = ls' := by
  induction ls generalizing ls' with
  | nil =>
    cases ls' with
    | nil => rfl
    | cons line' rest' => exact absurd h.symm (unlines_cons_ne_nil line' rest')
  | cons line rest ih =>
    cases ls' with
    | nil => exact absurd h (unlines_cons_ne_nil line rest)
    | cons line' rest' =>
      rw [List.forall_mem_cons] at hls hls'
      have hchars := congrArg String.toList h
      rw [toList_unlines_cons, toList_unlines_cons] at hchars
      -- the first line ends at the first line feed on both sides
      have hline : line.toList = line'.toList := by
        have htake := congrArg (List.takeWhile (· ≠ '\n')) hchars
        rw [List.takeWhile_append_of_pos fun c hc => by simpa using ne_of_mem_of_not_mem hc hls.1,
          List.takeWhile_append_of_pos fun c hc => by simpa using ne_of_mem_of_not_mem hc hls'.1]
            at htake
        simpa using htake
      rw [hline, List.append_cancel_left_eq, List.cons.injEq, String.toList_inj] at hchars
      rw [String.toList_inj.1 hline, ih hls.2 hls'.2 hchars.2]

lemma fileLines_eq (f : FileOutline) :
    fileLines f = (f.path ++ ":") :: Entry.listLines 1 f.outline.entries := by
  rw [fileLines, Outline.lines, Entry.map_listLines]

variable {files files' : List FileOutline}

lemma lines_of_length_ne (h : files.length ≠ 1) : lines files = files.flatMap fileLines := by
  unfold lines
  split
  · exact absurd rfl h
  · rfl

/-- The header of a file stands at the left margin. -/
lemma leftOf_flatMap_fileLines (h : ∀ f ∈ files, f.Plain) : LeftOf 1 (files.flatMap fileLines) := by
  cases files with
  | nil => exact leftOf_nil 1
  | cons f rest =>
    obtain ⟨⟨-, hpath⟩, -⟩ := h f (by simp)
    intro line hline
    obtain rfl : f.path ++ ":" = line := by simpa [fileLines] using hline
    have hhead : (f.path ++ ":").toList.head? ≠ some ' ' := by
      cases hchars : f.path.toList with
      | nil => simp [hchars]
      | cons c chars =>
        rw [hchars] at hpath
        simpa [hchars] using hpath
    rw [leadingBlanks_of_head?_ne hhead]
    decide

/-- Paths, labels and shapes can be told from the lines of several files. -/
lemma flatMap_fileLines_inj (hfiles : ∀ f ∈ files, f.Plain) (hfiles' : ∀ f ∈ files', f.Plain)
    (h : files.flatMap fileLines = files'.flatMap fileLines) :
    List.Forall₂ FileOutline.SameLabels files files' := by
  induction files generalizing files' with
  | nil =>
    cases files' with
    | nil => exact .nil
    | cons f' rest' => simp [fileLines] at h
  | cons f rest ih =>
    cases files' with
    | nil => simp [fileLines] at h
    | cons f' rest' =>
      rw [List.forall_mem_cons] at hfiles hfiles'
      simp only [List.flatMap_cons, fileLines_eq, List.cons_append, List.cons.injEq] at h
      obtain ⟨hheader, hlines⟩ := h
      have hpath : f.path = f'.path := (String.append_left_inj _).1 hheader
      obtain ⟨hlabels, hrest⟩ := Entry.listLines_append_inj hfiles.1.2 hfiles'.1.2
        (leftOf_flatMap_fileLines hfiles.2) (leftOf_flatMap_fileLines hfiles'.2) hlines
      exact .cons ⟨hpath, hlabels⟩ (ih hfiles.2 hfiles'.2 hrest)

lemma flatMap_fileLines_congr (h : List.Forall₂ FileOutline.SameLabels files files') :
    files.flatMap fileLines = files'.flatMap fileLines := by
  induction h with
  | nil => rfl
  | cons hf _ ih =>
    obtain ⟨hpath, hlabels⟩ := hf
    rw [List.flatMap_cons, List.flatMap_cons, ih, fileLines_eq, fileLines_eq, hpath,
      Entry.listLines_congr hlabels]

lemma lf_notMem_of_mem_flatMap (h : ∀ f ∈ files, f.Plain) :
    ∀ line ∈ files.flatMap fileLines, '\n' ∉ line.toList := by
  intro line hline
  obtain ⟨f, hf, hline⟩ := List.mem_flatMap.1 hline
  obtain ⟨⟨hpath, -⟩, hlabels⟩ := h f hf
  rw [fileLines_eq] at hline
  rcases List.mem_cons.1 hline with rfl | hline
  · simp [hpath]
  · exact Entry.lf_notMem_of_mem_listLines hlabels line hline

/-- **A listing determines labels and shapes.**  An outline has one line for each entry, in the
order in which a walk meets the entries, and the line has two blanks for each level and then the
label.  If labels have no line feeds and do not start with blanks, two reports of one file are the
same text just if their outlines have the same labels in the same shape.  If that holds of paths
too, two reports of several files are the same text just if they have the same number of files with
the same paths, and their outlines have the same labels in the same shapes. -/
theorem render_text_determines_labels :
    (∀ o : Outline, ∃ addresses, o.IsPreorder addresses ∧
      List.Forall₂ o.IsLineAt addresses o.lines) ∧
      (∀ f f' : FileOutline, f.outline.Plain → f'.outline.Plain →
        (render .text [f] = render .text [f'] ↔ f.outline.SameLabels f'.outline)) ∧
      ∀ files files' : List FileOutline, 2 ≤ files.length → 2 ≤ files'.length →
        (∀ f ∈ files, f.Plain) → (∀ f ∈ files', f.Plain) →
          (render .text files = render .text files' ↔
            List.Forall₂ FileOutline.SameLabels files files') := by
  refine ⟨Outline.exists_preorder_lines, ?_, ?_⟩
  · intro f f' hf hf'
    constructor
    · intro h
      have hlines : f.outline.lines = f'.outline.lines :=
        unlines_inj (Entry.lf_notMem_of_mem_listLines hf) (Entry.lf_notMem_of_mem_listLines hf') h
      rw [Outline.lines, Outline.lines, ← List.append_nil (Entry.listLines 0 _),
        ← List.append_nil (Entry.listLines 0 f'.outline.entries)] at hlines
      exact (Entry.listLines_append_inj hf hf' (leftOf_nil 0) (leftOf_nil 0) hlines).1
    · intro h
      exact congrArg unlines (Entry.listLines_congr h)
  · intro files files' hlength hlength' hfiles hfiles'
    simp only [render, lines_of_length_ne (show files.length ≠ 1 by omega),
      lines_of_length_ne (show files'.length ≠ 1 by omega)]
    constructor
    · intro h
      exact flatMap_fileLines_inj hfiles hfiles'
        (unlines_inj (lf_notMem_of_mem_flatMap hfiles) (lf_notMem_of_mem_flatMap hfiles') h)
    · intro h
      rw [flatMap_fileLines_congr h]

/-- Listings with an empty outline, an empty path and empty labels.  Every report that is written
like them has the same paths, labels and shapes. -/
theorem listings_with_empty_labels_determined :
    let entry (text : String) (children : List Entry) : Entry :=
      ⟨.field, [.string text], none, ⟨⟨0, 0⟩, ⟨0, 0⟩⟩, children⟩
    let f : FileOutline := ⟨"", ⟨[entry "A" [entry "" [entry "m" []], entry "n" []], entry "" []]⟩⟩
    let files : List FileOutline := [⟨"a.js", ⟨[]⟩⟩, f]
    render .text [f] = "A\n  \n    m\n  n\n\n" ∧
      (∀ f' : FileOutline, f'.outline.Plain → render .text [f'] = "A\n  \n    m\n  n\n\n" →
        f.outline.SameLabels f'.outline) ∧
      render .text files = "a.js:\n:\n  A\n    \n      m\n    n\n  \n" ∧
      ∀ files' : List FileOutline, 2 ≤ files'.length → (∀ f ∈ files', f.Plain) →
        render .text files' = "a.js:\n:\n  A\n    \n      m\n    n\n  \n" →
          List.Forall₂ FileOutline.SameLabels files files' := by
  intro entry f files
  have hentry : ∀ text children, IsPlain text → (∀ c ∈ children, c.Plain) →
      (entry text children).Plain := by
    intro text children htext hchildren
    refine .intro ?_ hchildren
    simpa [entry, Label.text, Token.string] using htext
  have hblank : (entry "" []).Plain := hentry "" [] (by simp [IsPlain]) (by simp)
  have hm : (entry "m" []).Plain := hentry "m" [] (by simp [IsPlain]) (by simp)
  have hn : (entry "n" []).Plain := hentry "n" [] (by simp [IsPlain]) (by simp)
  have hunnamed : (entry "" [entry "m" []]).Plain :=
    hentry "" _ (by simp [IsPlain]) (by simpa using hm)
  have hA : (entry "A" [entry "" [entry "m" []], entry "n" []]).Plain :=
    hentry "A" _ (by simp [IsPlain]) (by simpa using ⟨hunnamed, hn⟩)
  have hf : f.outline.Plain := by
    intro e he
    rcases List.mem_cons.1 he with rfl | he
    · exact hA
    · rw [List.mem_singleton.1 he]
      exact hblank
  have hfiles : ∀ f ∈ files, f.Plain := by
    intro f' hf'
    rcases List.mem_cons.1 hf' with rfl | hf'
    · exact ⟨by simp [IsPlain], nofun⟩
    · rw [List.mem_singleton.1 hf']
      exact ⟨by simp [IsPlain, f], hf⟩
  have hone : render .text [f] = "A\n  \n    m\n  n\n\n" := by
    simp [render, lines, f, Outline.lines, entry, Entry.listLines, unlines, indentation,
      Label.text, Token.string, List.replicate]
  have htwo : render .text files = "a.js:\n:\n  A\n    \n      m\n    n\n  \n" := by
    simp [render, lines, files, f, fileLines_eq, entry, Entry.listLines, unlines, indentation,
      Label.text, Token.string, List.replicate]
  obtain ⟨-, hsingle, hseveral⟩ := render_text_determines_labels
  refine ⟨hone, fun f' hf' h => ?_, htwo, fun files' hlength hfiles' h => ?_⟩
  · exact (hsingle f f' hf hf').1 (hone.trans h.symm)
  · exact (hseveral files files' (by decide) hlength hfiles hfiles').1 (htwo.trans h.symm)

end Report

end CodeOutline
