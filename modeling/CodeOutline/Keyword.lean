/-
Keywords that a label may show, and which of them are shown.
-/
import CodeOutline.Node.Decoding

namespace CodeOutline

/-- A keyword that can be shown in labels. -/
inductive Keyword where
  | exportWord
  | defaultWord
  | constWord
  | varWord
  | letWord
  | classWord
  | functionWord
  | typeWord
deriving DecidableEq, Repr

namespace Keyword

/-- All keywords, in the order in which they are listed. -/
def all : List Keyword :=
  [.exportWord, .defaultWord, .constWord, .varWord, .letWord, .classWord, .functionWord, .typeWord]

/-- The word itself. -/
def name : Keyword → String
  | .exportWord => "export"
  | .defaultWord => "default"
  | .constWord => "const"
  | .varWord => "var"
  | .letWord => "let"
  | .classWord => "class"
  | .functionWord => "function"
  | .typeWord => "type"

/-- The keyword with the given word. -/
def ofName? (s : String) : Option Keyword := all.find? fun k => k.name = s

/-- The keyword with the given word, in small or capital letters. -/
def ofNameAnyCase? (s : String) : Option Keyword := ofName? (s.map Char.toLower)

/-- The keyword that a JSON value stands for. -/
def ofJson? : Json → Option Keyword := Json.case? ofName?

/-- The keyword that starts a variable declaration. -/
def ofDeclaration : DeclarationKind → Keyword
  | .constKind => .constWord
  | .letKind => .letWord
  | .varKind => .varWord

theorem mem_all (k : Keyword) : k ∈ all := by cases k <;> decide

theorem ofName?_name (k : Keyword) : ofName? k.name = some k := by cases k <;> rfl

end Keyword

/-- For each keyword, whether labels show it.  By default none is shown. -/
structure Visibility where
  exportWord : Bool := false
  defaultWord : Bool := false
  constWord : Bool := false
  varWord : Bool := false
  letWord : Bool := false
  classWord : Bool := false
  functionWord : Bool := false
  typeWord : Bool := false
deriving DecidableEq, Repr

namespace Visibility

/-- The visibility that shows the keywords for which a function is true. -/
def ofFlags (f : Keyword → Bool) : Visibility where
  exportWord := f .exportWord
  defaultWord := f .defaultWord
  constWord := f .constWord
  varWord := f .varWord
  letWord := f .letWord
  classWord := f .classWord
  functionWord := f .functionWord
  typeWord := f .typeWord

/-- Whether a keyword is shown. -/
def shows (v : Visibility) : Keyword → Bool
  | .exportWord => v.exportWord
  | .defaultWord => v.defaultWord
  | .constWord => v.constWord
  | .varWord => v.varWord
  | .letWord => v.letWord
  | .classWord => v.classWord
  | .functionWord => v.functionWord
  | .typeWord => v.typeWord

/-- Shows or hides one keyword. -/
def set (v : Visibility) (k : Keyword) (visible : Bool) : Visibility :=
  ofFlags fun k' => if k' = k then visible else v.shows k'

/-- No keyword is shown. -/
def none : Visibility := {}

/-- Every keyword is shown. -/
def all : Visibility := ofFlags fun _ => true

@[simp] theorem shows_ofFlags (f : Keyword → Bool) (k : Keyword) : (ofFlags f).shows k = f k := by
  cases k <;> rfl

theorem ext_shows {v w : Visibility} (h : ∀ k, v.shows k = w.shows k) : v = w := by
  have := h .exportWord
  have := h .defaultWord
  have := h .constWord
  have := h .varWord
  have := h .letWord
  have := h .classWord
  have := h .functionWord
  have := h .typeWord
  cases v
  cases w
  simp_all [shows]

@[simp] theorem shows_none (k : Keyword) : none.shows k = false := by cases k <;> rfl

@[simp] theorem shows_all (k : Keyword) : all.shows k = true := by simp [all]

theorem shows_set (v : Visibility) (k k' : Keyword) (b : Bool) :
    (v.set k b).shows k' = if k' = k then b else v.shows k' := by
  simp [set]

end Visibility

end CodeOutline
