import RecordRules.Issue
import RecordRules.Json.Printer
import RecordRules.Text.Lines

/-! # Listing rules with their issues

* `RuleListing.toText`   the listing for readers
* `RuleListing.toJson`   the listing as a JSON value -/

namespace RecordRules

/-- Rules with what is wrong with them. -/
structure RuleListing where
  rules : List Rule
  issues : List Issue

namespace RuleListing

/-- The listing of rules. -/
def ofRules (rules : List Rule) : RuleListing :=
  ⟨rules, Issue.ofRules rules⟩

/-- Whether nothing is wrong. -/
def isValid (l : RuleListing) : Bool :=
  l.issues.isEmpty

/-- How many rules there are, and how many are enabled. -/
def counts (rules : List Rule) : String :=
  toString rules.length ++ " rules (" ++ toString (rules.countP Rule.enabled) ++ " enabled)"

/-- The line of a rule. -/
def ruleLine (r : Rule) : String :=
  "  " ++ Lines.padTo 20 r.id ++ " " ++ Lines.padTo 13 r.ruleType ++ " " ++
    Lines.padTo 20 r.target ++ " " ++ r.severity ++ if r.enabled then "" else " (disabled)"

/-- The lines behind those of the rules. -/
def issueLines (l : RuleListing) : List String :=
  if l.isValid then ["✓ Rule set is valid"]
  else "Issues:" :: Lines.number (l.issues.map (·.message))

/-- The listing for readers. -/
def toText (l : RuleListing) : String :=
  Lines.join <|
    ["ℹ Rule set loaded: " ++ counts l.rules, "", "Rules:"] ++ l.rules.map ruleLine ++
      [""] ++ l.issueLines

/-- What is told of the issues apart from the listing. -/
def complaint (l : RuleListing) : String :=
  if l.isValid then ""
  else "✗ Rule set has " ++ toString l.issues.length ++ " issue(s)\n"

/-- A rule of the listing as a JSON value. -/
def ruleJson (r : Rule) : Json :=
  .ofMembers [
    ("id", .text r.id), ("name", .text r.name), ("ruleType", .text r.ruleType),
    ("target", .text r.target), ("severity", .text r.severity), ("enabled", .boolean r.enabled)]

/-- The listing as a JSON value. -/
def toJson (l : RuleListing) : Json :=
  .ofMembers [
    ("valid", .boolean l.isValid),
    ("rules", .array (l.rules.map ruleJson)),
    ("issues", .array (l.issues.map fun i => .text i.message))]

end RuleListing
end RecordRules
