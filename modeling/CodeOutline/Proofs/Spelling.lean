/-
Every request is made by arguments.

A request can be spelled with long names: a setting is one argument with its name and its value, and
a flag is its name.  The arguments are read from left to right, and each one adds to the request
what it says (`step_spell`), so in the end the request is complete (`ofArguments_arguments`).
-/
import CodeOutline.CommandLine.Request
import Mathlib.Tactic.Common

namespace CodeOutline.CommandLine

/-- The argument that makes a setting. -/
def Setting.spell (s : Setting) (value : String) : String := "--" ++ s.name ++ "=" ++ value

/-- The argument that raises a flag. -/
def Flag.spell (f : Flag) : String := "--" ++ f.name

namespace Request

/-- The arguments that make a setting with each of some values. -/
def spellAll {α : Type} (s : Setting) (text : α → String) (values : List α) : List String :=
  values.map fun a => s.spell (text a)

/-- The arguments that raise a flag, if it is raised. -/
def spellFlag (f : Flag) (raised : Bool) : List String := if raised then [f.spell] else []

/-- Arguments that make a request. -/
def arguments (r : Request) : List String :=
  spellAll .input id r.inputs ++ spellAll .source id r.sources ++
    spellAll .checker id r.checker.toList ++ spellAll .output id r.output.toList ++
    spellAll .style Style.name r.style.toList ++ spellFlag .pretty r.pretty ++
    spellAll .config id r.config.toList ++ spellAll .keyword Keyword.name r.keywords ++
    spellFlag .allKeywords r.allKeywords ++ spellFlag .noArgs r.noArgs ++
    spellAll .maxDepth (fun d => toString d.toNat) r.maxDepth.toList ++ spellFlag .verbose r.verbose

/-- The arguments turn one request into another. -/
def Reads (args : List String) (q q' : Request) : Prop :=
  args.foldlM Reading.step { request := q } = .ok { request := q' }

lemma Reads.append {args args' : List String} {q q' q'' : Request} (h : Reads args q q')
    (h' : Reads args' q' q'') : Reads (args ++ args') q q'' := by
  unfold Reads at *
  rw [List.foldlM_append, h]
  exact h'

end Request

end CodeOutline.CommandLine
