/-
The help for command lines.

Every switch has an entry: a line with its letter, its long name and a word for its value, and below
it a line that says what it is for.
-/
import CodeOutline.CommandLine.Request

namespace CodeOutline.CommandLine

/-- The word for the value of a setting. -/
def Setting.placeholder : Setting → String
  | .input => "INPUT"
  | .source => "SOURCE"
  | .checker => "FLOW_BIN"
  | .output => "OUTPUT"
  | .style => "FORMAT"
  | .config => "CONFIG"
  | .keyword => "SHOW_KEYWORDS"
  | .maxDepth => "MAX_DEPTH"

namespace Switch

/-- What a switch is for. -/
def purpose : Switch → String
  | .setting .input => "AST JSON file produced by `flow ast` (can specify multiple)"
  | .setting .source => "JavaScript source file to run through the checker (can specify multiple)"
  | .setting .checker => "Checker binary used for --source files"
  | .setting .output => "Output file path (defaults to stdout)"
  | .setting .style => "Output format"
  | .flag .pretty => "Pretty-print JSON output"
  | .setting .config => "TOML file with outline options"
  | .setting .keyword => "Show a keyword in labels (can specify multiple)"
  | .flag .allKeywords => "Show every keyword"
  | .flag .noArgs => "Do not render function parameter lists"
  | .setting .maxDepth => "Maximum nesting depth of the outline"
  | .flag .verbose => "Log debug output to stderr"
  | .help => "Print help"
  | .version => "Print version"

/-- The value that a switch has if it is not there. -/
def default? : Switch → Option String
  | .setting .checker => some ({} : Checker).program
  | .setting .style => some Style.json.name
  | _ => none

/-- The values that a switch can have, if they can be listed. -/
def choices : Switch → List String
  | .setting .style => Style.all.map Style.name
  | .setting .keyword => Keyword.all.map Keyword.name
  | _ => []

/-- How a switch is written. -/
def synopsis (switch : Switch) : String :=
  let letter := match switch.letter? with
    | some c => "-" ++ c.toString ++ ", "
    | none => "    "
  let value := match switch with
    | .setting s => " <" ++ s.placeholder ++ ">"
    | _ => ""
  letter ++ "--" ++ switch.name ++ value

/-- What is said about a switch. -/
def description (switch : Switch) : String :=
  let byDefault := match switch.default? with
    | some value => " [default: " ++ value ++ "]"
    | none => ""
  let among := match switch.choices with
    | [] => ""
    | names => " [possible values: " ++ ", ".intercalate names ++ "]"
  switch.purpose ++ byDefault ++ among

/-- The entry of a switch. -/
def entry (switch : Switch) : List String :=
  ["  " ++ switch.synopsis, "          " ++ switch.description]

end Switch

/-- The help. -/
def helpText : String :=
  let about :=
    "Flow outline - turns Flow/ESTree ASTs into navigable symbol outlines: classes, methods, " ++
    "functions, variables, type aliases and test specs."
  let usage := ["", "Usage: flow-outline [OPTIONS]", "", "Options:"]
  Report.unlines (about :: usage ++ Switch.all.flatMap Switch.entry)

end CodeOutline.CommandLine
