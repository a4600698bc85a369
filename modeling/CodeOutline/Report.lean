/-
Outlines of files as texts.

A report of exactly one file is the outline alone.  Any other number of files is a list in which
each outline comes with the path of its file.
-/
import CodeOutline.Json.Printer
import CodeOutline.Outline.Json

namespace CodeOutline

/-- The outline of a file. -/
structure FileOutline where
  path : String
  outline : Outline

/-- How a report is written. -/
inductive ReportFormat where
  | json (layout : Json.Layout)
  | text
deriving DecidableEq, Repr

namespace Report

/-- A file as a JSON object. -/
def fileToJson (f : FileOutline) : Json := .object (("path", .string f.path) :: f.outline.members)

/-- A report as a JSON value. -/
def toJson : List FileOutline → Json
  | [f] => f.outline.toJson
  | files => .array (files.map fileToJson)

/-- The lines of a file among others: its path with a colon, and its outline one level deeper. -/
def fileLines (f : FileOutline) : List String :=
  (f.path ++ ":") :: f.outline.lines.map (indentation 1 ++ ·)

/-- The lines of a report. -/
def lines : List FileOutline → List String
  | [f] => f.outline.lines
  | files => files.flatMap fileLines

/-- Lines as a text in which each line ends with a line feed. -/
def unlines (ls : List String) : String := String.join (ls.map (· ++ "\n"))

/-- The text of a report. -/
def render (format : ReportFormat) (files : List FileOutline) : String :=
  match format with
  | .json layout => (toJson files).print layout ++ "\n"
  | .text => unlines (lines files)

end Report

end CodeOutline
