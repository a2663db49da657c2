import RecordRules.CommandLine.Command
import RecordRules.Proofs.Document.Extension
import RecordRules.Proofs.Except
import RecordRules.Proofs.RuleSet.Verdict

/-!
# The code of a validation

A program that calls this one goes by the code that a run ends with.  A validation ends with 0 if
both of its files can be read and no rule condemns the record, and with 1 in all other cases.
The report that it writes as JSON agrees with its code.

## Key results

- `Document.rulesAt_eq_ok`, `Document.recordAt_eq_ok`: what can be read of a file
- `Command.run?_validate_eq_ok`: a validation comes to its report if both files can be read
- `run_validate`: the code of a validation, and what its output says of it
-/

namespace RecordRules

/-! ### Reading files -/

namespace Document

/-- A file holds something if its path tells a format and its text is read so in that format. -/
def Holds {α : Type} (read : DocumentFormat → String → Except DocumentFault α)
    (source : TextSource) (path : String) (a : α) : Prop :=
  ∃ format text, DocumentFormat.ofPath path = .ok format ∧ source path = .ok text ∧
    read format text = .ok a

variable {source : TextSource} {path : String}

/-- A file holds one thing only. -/
theorem Holds.unique {α : Type} {read : DocumentFormat → String → Except DocumentFault α} {a b : α}
    (ha : Holds read source path a) (hb : Holds read source path b) : a = b := by
  obtain ⟨format, text, hformat, htext, hread⟩ := ha
  obtain ⟨format', text', hformat', htext', hread'⟩ := hb
  -- the path tells one format, the file has one text, and reading is a function
  obtain rfl := Except.ok.inj (hformat.symm.trans hformat')
  obtain rfl := Except.ok.inj (htext.symm.trans htext')
  exact Except.ok.inj (hread.symm.trans hread')

/-- A text is found if the path tells a format and the file has a text. -/
theorem textAt_eq_ok {format : DocumentFormat} {text : String} :
    textAt source path = .ok (format, text) ↔
      DocumentFormat.ofPath path = .ok format ∧ source path = .ok text := by
  unfold textAt
  simp only [Except.bind_eq_ok, Except.mapError_eq_ok]
  constructor
  · rintro ⟨f, hformat, t, htext, heq⟩
    obtain ⟨rfl, rfl⟩ := Prod.mk.inj (Except.ok.inj heq)
    exact ⟨hformat, htext⟩
  · rintro ⟨hformat, htext⟩
    exact ⟨format, hformat, text, htext, rfl⟩

/-- Rules are found in a file if it holds them. -/
theorem rulesAt_eq_ok {rules : List Rule} :
    rulesAt source path = .ok rules ↔ Holds DocumentFormat.readRules source path rules := by
  unfold rulesAt Holds
  simp only [Except.bind_eq_ok, Prod.exists, textAt_eq_ok, and_assoc]

/-- A record is found in a file if it holds it. -/
theorem recordAt_eq_ok {r : Record} :
    recordAt source path = .ok r ↔ Holds DocumentFormat.readRecord source path r := by
  unfold recordAt Holds
  simp only [Except.bind_eq_ok, Prod.exists, textAt_eq_ok, and_assoc]

end Document

namespace CommandLine

variable {source : TextSource} {rulesPath recordPath : String} {style : OutputStyle}
  {showPassed : Bool}

/-- A validation comes to its report exactly when both of its files can be read. -/
theorem Command.run?_validate_eq_ok {ending : Ending} :
    (Command.validate rulesPath recordPath style showPassed).run? source = .ok ending ↔
      ∃ rules r, Document.Holds DocumentFormat.readRules source rulesPath rules ∧
        Document.Holds DocumentFormat.readRecord source recordPath r ∧
        CommandLine.validate rules r style showPassed = ending := by
  unfold run? rulesAt recordAt
  simp only [Except.bind_eq_ok, Except.mapError_eq_ok, Document.rulesAt_eq_ok,
    Document.recordAt_eq_ok]
  -- the rules are read first, then the record, and then nothing can fail any more
  constructor
  · rintro ⟨rules, hrules, r, hrecord, heq⟩
    exact ⟨rules, r, hrules, hrecord, Except.ok.inj heq⟩
  · rintro ⟨rules, r, hrules, hrecord, rfl⟩
    exact ⟨rules, hrules, r, hrecord, rfl⟩

/-- A validation whose files can be read is that of what they hold. -/
theorem Command.run_validate_of_holds {rules : List Rule} {r : Record}
    (hrules : Document.Holds DocumentFormat.readRules source rulesPath rules)
    (hrecord : Document.Holds DocumentFormat.readRecord source recordPath r) :
    (Command.validate rulesPath recordPath style showPassed).run source =
      CommandLine.validate rules r style showPassed := by
  have hrun : (Command.validate rulesPath recordPath style showPassed).run? source =
      .ok (CommandLine.validate rules r style showPassed) :=
    run?_validate_eq_ok.mpr ⟨rules, r, hrules, hrecord, rfl⟩
  rw [Command.run, hrun]

/-- A validation that cannot read both of its files ends with 1. -/
theorem Command.code_run_validate_of_not_holds
    (h : ∀ rules r, Document.Holds DocumentFormat.readRules source rulesPath rules →
      ¬ Document.Holds DocumentFormat.readRecord source recordPath r) :
    ((Command.validate rulesPath recordPath style showPassed).run source).code = 1 := by
  unfold run
  -- a run that comes to a report has read both files
  split
  · next hrun =>
    obtain ⟨rules, r, hrules, hrecord, _⟩ := run?_validate_eq_ok.mp hrun
    exact absurd hrecord (h rules r hrules)
  · rfl

/-! ### The code -/

theorem codeOf_eq_zero {well : Bool} : codeOf well = 0 ↔ well = true := by
  cases well <;> decide

theorem decide_codeOf_eq_zero (well : Bool) : decide (codeOf well = 0) = well := by
  cases well <;> rfl

theorem codeOf_eq_one {well : Bool} : codeOf well ≠ 0 → codeOf well = 1 := by
  cases well <;> decide

/-- A validation ends with 0 exactly when no rule condemns the record. -/
theorem code_validate (rules : List Rule) (r : Record) :
    (validate rules r style showPassed).code = 0 ↔ ∀ rule ∈ rules, ¬ rule.Condemns r .empty :=
  codeOf_eq_zero.trans (Engine.passed_report_load {} rules r)

/-- The code of a validation.  It is 0 exactly when both files can be read in the formats that their
    paths tell, and no rule in the one condemns the record in the other; it is 1 otherwise.  If both
    can be read and JSON is asked for, the output tells whether the code is 0, and its counts of
    errors, warnings and passed results add up to that of all results. -/
theorem run_validate (source : TextSource) {arguments : List String}
    (h : Invocation.ofArguments arguments =
      some (.command (.validate rulesPath recordPath style showPassed))) :
    ((run source arguments).code = 0 ↔
      ∃ rules r, Document.Holds DocumentFormat.readRules source rulesPath rules ∧
        Document.Holds DocumentFormat.readRecord source recordPath r ∧
        ∀ rule ∈ rules, ¬ rule.Condemns r .empty) ∧
    ((run source arguments).code ≠ 0 → (run source arguments).code = 1) ∧
    ∀ rules r, Document.Holds DocumentFormat.readRules source rulesPath rules →
      Document.Holds DocumentFormat.readRecord source recordPath r → style = .json →
      (run source arguments).output = jsonText ((({} : Engine).load rules).report r).toJson ∧
      ∃ entries, Report.Tells ((({} : Engine).load rules).report r).toJson
        (decide ((run source arguments).code = 0)) entries := by
  -- what the arguments ask for is this validation
  have hrun : run source arguments =
      (Command.validate rulesPath recordPath style showPassed).run source := by
    rw [run, h]
  rw [hrun]
  -- what the files hold is one thing only, so it does not matter in which part it is named
  by_cases hread : ∃ rules r, Document.Holds DocumentFormat.readRules source rulesPath rules ∧
      Document.Holds DocumentFormat.readRecord source recordPath r
  · obtain ⟨rules, r, hrules, hrecord⟩ := hread
    rw [Command.run_validate_of_holds hrules hrecord]
    refine ⟨?_, codeOf_eq_one, ?_⟩
    · rw [code_validate]
      constructor
      · exact fun hnone => ⟨rules, r, hrules, hrecord, hnone⟩
      · rintro ⟨rules', r', hrules', hrecord', hnone⟩
        rw [hrules.unique hrules', hrecord.unique hrecord']
        exact hnone
    · rintro rules' r' hrules' hrecord' rfl
      obtain rfl := hrules.unique hrules'
      obtain rfl := hrecord.unique hrecord'
      -- the code and the flag of the report are made of one truth value
      have hcode : decide ((validate rules r .json showPassed).code = 0) =
          ((({} : Engine).load rules).report r).passed := decide_codeOf_eq_zero _
      rw [hcode]
      exact ⟨rfl, _, Report.tells_toJson _ _⟩
  -- without both files the run ends before there is a report
  · have hnone : ∀ rules r, Document.Holds DocumentFormat.readRules source rulesPath rules →
        ¬ Document.Holds DocumentFormat.readRecord source recordPath r :=
      fun rules r hrules hrecord => hread ⟨rules, r, hrules, hrecord⟩
    rw [Command.code_run_validate_of_not_holds hnone]
    refine ⟨⟨nofun, ?_⟩, fun _ => rfl, ?_⟩
    · rintro ⟨rules, r, hrules, hrecord, _⟩
      exact absurd hrecord (hnone rules r hrules)
    · intro rules r hrules hrecord
      exact absurd hrecord (hnone rules r hrules)

/-- A code is used once. -/
private def orderRule : Rule :=
  { id := "code", name := "Code", target := "code", check := .uniqueness {} }

/-- Files with that rule, and with an order that has one code twice. -/
private def orderFiles : TextSource
  | "rules.yaml" =>
    .ok "- id: code\n  name: Code\n  ruleType: uniqueness\n  target:\n    field: code\n"
  | "order.yaml" => .ok "code: A7\nold code: A7\n"
  | _ => .error .missing

/-- Arguments to validate that order. -/
private def orderArguments : List String :=
  ["validate", "--format", "json", "rules.yaml", "order.yaml"]

/-- The order is condemned, and the output says so as well. -/
theorem run_validate_orderFiles :
    Invocation.ofArguments orderArguments =
      some (.command (.validate "rules.yaml" "order.yaml" .json false)) ∧
    (run orderFiles orderArguments).code = 1 ∧
    ∃ report, (run orderFiles orderArguments).output = jsonText report ∧
      report.get? "passed" = some (.boolean false) := by
  have harguments : Invocation.ofArguments orderArguments =
      some (.command (.validate "rules.yaml" "order.yaml" .json false)) := by decide +kernel
  obtain ⟨hzero, hone, hjson⟩ := run_validate orderFiles harguments
  -- the extensions tell the format, and the texts are read by evaluation
  have hyaml : DocumentFormat.ofExtension? "yaml" = some .yaml := rfl
  have hrules : Document.Holds DocumentFormat.readRules orderFiles "rules.yaml" [orderRule] :=
    ⟨.yaml, _, DocumentFormat.ofPath_eq_ok (by decide +kernel) hyaml, rfl,
      Except.toOption_eq_some.mp (by decide +kernel)⟩
  have hread : (DocumentFormat.readRecord .yaml "code: A7\nold code: A7\n").toOption.map
      Record.fields = some [("code", .text "A7"), ("old code", .text "A7")] := by decide +kernel
  obtain ⟨r, hr, hfields⟩ := Option.map_eq_some_iff.mp hread
  have hrecord : Document.Holds DocumentFormat.readRecord orderFiles "order.yaml" r :=
    ⟨.yaml, _, DocumentFormat.ofPath_eq_ok (by decide +kernel) hyaml, rfl,
      Except.toOption_eq_some.mp hr⟩
  -- the code stands in two fields, so it is not unique
  have hcondemns : orderRule.Condemns r .empty := by
    obtain ⟨fields, hnodup⟩ := r
    cases hfields
    exact ⟨rfl, by decide, "code", List.mem_cons_self, by decide, _, rfl, rfl⟩
  have hcode : (run orderFiles orderArguments).code = 1 := by
    -- a run that ends with 0 would have no rule that condemns the order
    refine hone fun hpassed => ?_
    obtain ⟨rules, r', hrules', hrecord', hnone⟩ := hzero.mp hpassed
    obtain rfl := hrules.unique hrules'
    obtain rfl := hrecord.unique hrecord'
    exact hnone orderRule List.mem_cons_self hcondemns
  obtain ⟨houtput, _, htells⟩ := hjson _ _ hrules hrecord rfl
  refine ⟨harguments, hcode, _, houtput, ?_⟩
  have hpassed := htells.passed
  rw [hcode] at hpassed
  exact hpassed

end CommandLine
end RecordRules
