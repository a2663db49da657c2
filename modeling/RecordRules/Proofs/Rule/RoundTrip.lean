import RecordRules.Proofs.Document.Range
import RecordRules.Proofs.Rule.CheckRoundTrip

/-!
# Rules are read back as they were written

A rule is written as its parts next to the type and the configuration of its check.

## Key results

- `Rule.read_members`: a rule with a legible check is read back, its members in any order
- `RuleDocument.isLegible_of_read`: every rule of a document has a legible check
- `read_write_of_read`: whatever is read is read again after it is written
-/

namespace RecordRules

open Decode

namespace WrittenRule

/-- The keys of a rule. -/
def names : List String :=
  ["id", "name", "description", "ruleType", "target", "configuration", "severity", "enabled"]

/-- The parts of a rule are read back from its members. -/
theorem codec : Codec (fun _ => True) {} slots names members where
  initial := trivial
  keeps := .of_forall fun _ => trivial
  independent := by simp [slots, Slot.optional, Slot.mandatory]
  nodup := by decide
  complete w := by
    -- a description may be left out, and is then none to begin with
    obtain ⟨_, _, description, _, _, _, _, _⟩ := w
    cases description <;> rfl
  reads w _ := by
    simp only [members, List.cons_append, List.nil_append]
    refine .member rfl rfl ?_
    refine .member rfl rfl ?_
    refine .optionalMember rfl (optionalOf_text _) rfl ?_
    refine .member rfl rfl ?_
    refine .member rfl rfl ?_
    refine .member rfl rfl ?_
    refine .member rfl rfl ?_
    refine .member rfl rfl ?_
    exact .nil _ _

/-- The configuration of a rule is a part of the value that the rule is read from. -/
theorem inRange_of_read {j : Json} (hj : j.InRange) {w : WrittenRule} (h : read j = .ok w) :
    w.configuration.InRange := by
  have hkept : Kept (fun w : WrittenRule => w.configuration.InRange) slots := by
    -- five slots, the configuration and two more
    iterate 5 refine .cons_of_set (fun _ _ hw => hw) ?_
    refine .cons_of_read (fun j c w hj hc _ => Except.ok.inj hc ▸ hj) ?_
    iterate 2 refine .cons_of_set (fun _ _ hw => hw) ?_
    exact .nil
  exact structure?_inv (P := fun w : WrittenRule => w.configuration.InRange) hkept .null hj h

/-- A rule with a legible check is what its written form says. -/
theorem toRule_ofRule {rule : Rule} (h : rule.check.IsLegible) :
    (ofRule rule).toRule = .ok rule :=
  Except.bind_eq_ok.mpr ⟨rule.check, Check.read_write h, rfl⟩

end WrittenRule

namespace Rule

/-- A rule with a legible check is read back from its members, in whatever order they stand. -/
theorem read_members {rule : Rule} (h : rule.check.IsLegible) {ms : List (String × Json)}
    (hp : ms.Perm rule.members) : read (.object ms) = .ok rule :=
  Except.bind_eq_ok.mpr
    ⟨_, WrittenRule.codec.read_of_perm trivial hp, WrittenRule.toRule_ofRule h⟩

/-- Every rule that is read from a value whose numbers fit has a legible check. -/
theorem isLegible_of_read {j : Json} (hj : j.InRange) {rule : Rule} (h : read j = .ok rule) :
    rule.check.IsLegible := by
  -- the parts are read first, then the check from two of them
  obtain ⟨w, hw, h⟩ := Except.bind_eq_ok.mp h
  obtain ⟨check, hcheck, h⟩ := Except.bind_eq_ok.mp h
  obtain rfl := Except.ok.inj h
  exact Check.isLegible_of_read (WrittenRule.inRange_of_read hj hw) hcheck

end Rule

namespace RuleDocument

/-- The items of a document whose numbers fit have numbers that fit. -/
theorem inRange_of_items? {j : Json} (hj : j.InRange) {items : List Json}
    (h : items? j = .ok items) : ∀ item ∈ items, item.InRange := by
  -- the items stand in a list, or in a list under `rules`
  unfold items? at h
  split at h
  · exact Except.ok.inj h ▸ hj.items
  · split at h
    · next hm => exact Except.ok.inj h ▸ (hj.of_member? hm).items
    · exact nomatch h
    · exact nomatch h
  · exact nomatch h

/-- The rules that are read one after the other have legible checks. -/
private theorem isLegible_of_readItems {number : Nat} {items : List Json}
    (hitems : ∀ item ∈ items, item.InRange) {rules : List Rule}
    (h : readItems number items = .ok rules) : ∀ rule ∈ rules, rule.check.IsLegible := by
  -- each item is read on its own, and the numbers of the items only count
  induction items generalizing number rules with
  | nil =>
    obtain rfl := Except.ok.inj h
    exact fun _ hrule => nomatch hrule
  | cons item items ih =>
    rw [List.forall_mem_cons] at hitems
    unfold readItems at h
    split at h
    · exact nomatch h
    · next rule hrule =>
      obtain ⟨rest, hrest, rfl⟩ := Except.map_eq_ok.mp h
      exact List.forall_mem_cons.mpr ⟨rule.isLegible_of_read hitems.1 hrule, ih hitems.2 hrest⟩

/-- Every rule of a value whose numbers fit has a legible check. -/
theorem isLegible_of_read {j : Json} (hj : j.InRange) {rules : List Rule}
    (h : read j = .ok rules) : ∀ rule ∈ rules, rule.check.IsLegible := by
  obtain ⟨items, hitems, h⟩ := Except.bind_eq_ok.mp h
  exact isLegible_of_readItems (inRange_of_items? hj hitems) h

end RuleDocument

/-- Every rule of a document has a legible check, whatever the format. -/
theorem DocumentFormat.isLegible_of_readRules {format : DocumentFormat} {text : String}
    {rules : List Rule} (h : format.readRules text = .ok rules) :
    ∀ rule ∈ rules, rule.check.IsLegible := by
  obtain ⟨j, hj, h⟩ := Except.bind_eq_ok.mp h
  exact RuleDocument.isLegible_of_read (readValue_inRange hj) (Except.mapError_eq_ok.mp h)

/-- Reading inverts writing on everything that reading gives: on the check of any type name and
    any configuration whose numbers are those of JSON, and on the rules of any document.  A rule
    is written as parts, and these as the members of an object, whose order does not matter. -/
theorem read_write_of_read :
    (∀ (ruleType : String) (j : Json) (c : Check), j.InRange → Check.read ruleType j = .ok c →
      Check.read c.write.1 c.write.2 = .ok c) ∧
    ∀ (format : DocumentFormat) (text : String) (rules : List Rule),
      format.readRules text = .ok rules → ∀ rule ∈ rules,
        (WrittenRule.ofRule rule).toRule = .ok rule ∧
        ∀ ms : List (String × Json), ms.Perm rule.members → Rule.read (.object ms) = .ok rule := by
  refine ⟨fun ruleType j c hj h => Check.read_write (Check.isLegible_of_read hj h), ?_⟩
  intro format text rules h rule hrule
  have hlegible := format.isLegible_of_readRules h rule hrule
  exact ⟨WrittenRule.toRule_ofRule hlegible, fun ms hp => Rule.read_members hlegible hp⟩

/-- A document whose one rule compares with an operator that there is not. -/
private def moduloText : String :=
  "[\x7b\"id\": \"sum\", \"name\": \"Sum\", \"ruleType\": \"crossField\", " ++
    "\"target\": \x7b\"field\": \"total\"\x7d, \"configuration\": " ++
    "\x7b\"type\": \"comparison\", \"field1\": \"a\", \"comparisonOperator\": \"modulo\"\x7d\x7d]"

/-- The rule of that document. -/
private def moduloRule : Rule where
  id := "sum"
  name := "Sum"
  target := "total"
  check := .crossField (.comparison { field1 := "a", comparisonOperator := some .unsupported })

/-- A required value that is null is none at all, and an operator that there is not stays so. -/
theorem read_write_of_read_null_and_unsupported :
    Check.read "crossField" (.object [("requiredValue", .null), ("type", .text "dependency")]) =
      .ok (.crossField (.dependency {})) ∧
    Check.read "crossField" (Check.crossField (.dependency {})).write.2 =
      .ok (.crossField (.dependency {})) ∧
    DocumentFormat.json.readRules moduloText = .ok [moduloRule] ∧
    (WrittenRule.ofRule moduloRule).toRule = .ok moduloRule ∧
    Rule.read (.object moduloRule.members.reverse) = .ok moduloRule := by
  have hnumbers : (Json.object [("requiredValue", .null), ("type", .text "dependency")]).InRange :=
    .object fun m hm => by
      simp only [List.mem_cons, List.not_mem_nil, or_false] at hm
      rcases hm with rfl | rfl
      · exact .null
      · exact .text _
  have hcheck : Check.read "crossField"
      (.object [("requiredValue", .null), ("type", .text "dependency")]) =
      .ok (.crossField (.dependency {})) := by rfl
  have hrules : DocumentFormat.json.readRules moduloText = .ok [moduloRule] :=
    Except.toOption_eq_some.mp (by decide +kernel)
  have hrule := read_write_of_read.2 .json moduloText _ hrules moduloRule (by simp)
  exact ⟨hcheck, read_write_of_read.1 "crossField" _ _ hnumbers hcheck, hrules, hrule.1,
    hrule.2 _ moduloRule.members.reverse_perm⟩

end RecordRules
