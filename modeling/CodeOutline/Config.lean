/-
Options in a configuration file.

The file is a TOML text whose tables are the records of the options.  An array in the place of a
record may have more items than the record has fields.
-/
import CodeOutline.Options.Basic
import CodeOutline.Toml.Reader

namespace CodeOutline

/-- The options in a configuration text. -/
def Options.ofConfig? (text : String) : Option Options := do
  let entries ← Toml.parse? text
  Options.ofJson? true (.object (Toml.entriesToJson entries))

end CodeOutline
