/-
Outlines read straight from a JSON text.

Fields that an outline does not have are skipped: only their grammar is checked.  A field that an
outline has may be given once, and what is read may not lie within more than `nestingLimit`
brackets.
-/
import CodeOutline.Json.Reader
import CodeOutline.Outline.Json

namespace CodeOutline

/-- How many brackets may be open at once where a text is read. -/
def nestingLimit : Nat := 127

open Json (Document)

/-- The fields of a point that are read from a document. -/
def Point.read? : Document → Option Json :=
  Document.record? [("row", Document.value?), ("column", Document.value?)]

/-- The fields of a token that are read from a document. -/
def Token.read? : Document → Option Json :=
  Document.record? [("kind", Document.value?), ("value", Document.value?)]

/-- The fields of an entry that are read from a document, with entries below it to a number of
levels. -/
def Entry.read? : Nat → Document → Option Json
  | 0, _ => none
  | levels + 1, d =>
    d.record? [("kind", Document.value?), ("tokenizedText", Document.list? Token.read?),
      ("representativeName", Document.value?), ("startPosition", Point.read?),
      ("endPosition", Point.read?), ("children", Document.list? (Entry.read? levels))]

namespace Outline

/-- The fields of an outline that are read from a document, with entries to a number of levels. -/
def read? (levels : Nat) : Document → Option Json :=
  Document.record? [("outlineTrees", Document.list? (Entry.read? levels))]

/-- The outline in a document, if what is read of it lies within at most `limit` brackets. -/
def ofDocument? (limit : Nat) (d : Document) : Option Outline := do
  let v ← read? limit d
  if v.depth ≤ limit then ofJson? v else none

/-- The outline in a JSON text, if what is read of it lies within at most `limit` brackets. -/
def ofTextWithin? (limit : Nat) (text : String) : Option Outline := do
  ofDocument? limit (← (Document.readLax text).toOption)

/-- The outline in a JSON text. -/
def ofText? : String → Option Outline := ofTextWithin? nestingLimit

end Outline

end CodeOutline
