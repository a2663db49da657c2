/-! # Lines of a text

* `Lines.join`           the text of lines
* `Lines.number`         lines as a numbered list
* `Lines.padTo`          a text in a column
* `Lines.indentBreaks`   a text of several lines in a place that is indented -/

namespace RecordRules.Lines

/-- The text of lines, each of which ends with a line break. -/
def join (lines : List String) : String :=
  String.join (lines.map (· ++ "\n"))

/-- Lines with their numbers, from one on. -/
def number (lines : List String) : List String :=
  lines.zipIdx.map fun (line, i) => "  " ++ toString (i + 1) ++ ". " ++ line

/-- A text with blanks behind it, up to a width in characters. -/
def padTo (width : Nat) (text : String) : String :=
  text ++ String.ofList (List.replicate (width - text.length) ' ')

/-- A text whose lines after the first are indented by a width. -/
def indentBreaks (width : Nat) (text : String) : String :=
  String.ofList <| text.toList.flatMap fun c =>
    if c = '\n' then '\n' :: List.replicate width ' ' else [c]

end RecordRules.Lines
