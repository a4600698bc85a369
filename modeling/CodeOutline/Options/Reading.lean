/-
Options read straight from a JSON text.

Fields that options do not have are skipped: only their grammar is checked.  A field that they have
may be given once.  No limit on nesting is needed, because a container in the place of a field is no
option anyway.
-/
import CodeOutline.Json.Reader
import CodeOutline.Options.Basic

namespace CodeOutline

open Json (Document)

/-- The keywords that are read from a document. -/
def Visibility.read? : Document → Option Json :=
  Document.record? (Keyword.all.map fun k => (k.name, Document.value?))

namespace Options

/-- The fields of options that are read from a document. -/
def read? : Document → Option Json :=
  Document.record? [("show_keywords", Visibility.read?), ("show_function_args", Document.value?),
    ("max_depth", Document.value?)]

/-- The options in a JSON text. -/
def ofText? (text : String) : Option Options := do
  let document ← (Document.readLax text).toOption
  ofJson? false (← read? document)

end Options

end CodeOutline
