import RecordRules.Proofs.Coercion.Equality
import RecordRules.Proofs.RuleSet.FieldOrder

/-!
# Uniqueness finds the duplicates

A uniqueness check counts how often the value of a field occurs in the record, the field itself
included, and fails from two occurrences on.  Every name is there once, strict equality is
symmetric, and a value that equals anything at all equals itself.  So the check fails on a field
exactly when another field repeats its value, also where the value is a NaN and the field itself
is not counted; and where one field fails, the one that repeats it fails too.

## Key results

- `Record.repeats_comm`: fields repeat each other
- `Record.countP_isRepeated_ne_one`: so that never one alone is repeated
- `UniquenessCheck.occurrences_le_one_iff`: a value occurs at most once exactly when no other field
  holds an equal one
- `UniquenessCheck.fields_of_failed_results`: the fields that fail are those that are repeated
- `UniquenessCheck.finds_duplicates`: when a field fails, and that never one alone does
-/

namespace RecordRules

open Coercion (strictEq StrictlyEqual strictEq_iff strictEq_comm isNullish)

/-! ### Values that equal something -/

namespace Coercion

variable {a b : Option Value}

/-- What equals anything equals itself; a NaN does neither. -/
theorem StrictlyEqual.self (h : StrictlyEqual a b) : StrictlyEqual a a := by
  rcases h.trans_or_confuses h.symm with hself | ⟨m, n, x, ha, -, hc, hne, -⟩
  · exact hself
  · -- the two integers that a real confuses would be one
    rw [ha, Option.some.injEq, Value.integer.injEq] at hc
    exact absurd hc hne

/-- Fields that are equal are null or absent together. -/
theorem StrictlyEqual.isNullish_eq (h : StrictlyEqual a b) : isNullish a = isNullish b := by
  cases h <;> rfl

end Coercion

/-! ### Fields that repeat each other -/

namespace Record

variable {r : Record} {f g : String}

/-- Whether two fields of different names hold strictly equal values, and not null. -/
def repeats (r : Record) (f g : String) : Bool :=
  f ≠ g && !isNullish (r.get? f) && strictEq (r.get? f) (r.get? g)

/-- Whether a field is repeated by another one. -/
def isRepeated (r : Record) (f : String) : Bool :=
  r.names.any (r.repeats f)

theorem repeats_iff :
    r.repeats f g = true ↔
      f ≠ g ∧ isNullish (r.get? f) = false ∧ strictEq (r.get? f) (r.get? g) = true := by
  simp only [repeats, Bool.and_eq_true, Bool.not_eq_true', decide_eq_true_eq, and_assoc]

/-- Fields repeat each other. -/
theorem repeats_comm (r : Record) (f g : String) : r.repeats f g = r.repeats g f := by
  -- equality is symmetric, and equal fields are null together
  have hhalf : ∀ {f g : String}, r.repeats f g = true → r.repeats g f = true := by
    intro f g h
    obtain ⟨hne, hpresent, hequal⟩ := repeats_iff.mp h
    refine repeats_iff.mpr ⟨hne.symm, ?_, ?_⟩
    · rw [← (strictEq_iff.mp hequal).isNullish_eq]
      exact hpresent
    · rw [strictEq_comm]
      exact hequal
  rw [Bool.eq_iff_iff]
  exact ⟨hhalf, hhalf⟩

/-- What repeats a field is a field of the record. -/
theorem mem_names_of_repeats (h : r.repeats f g = true) : g ∈ r.names := by
  rw [repeats_comm] at h
  obtain ⟨-, hpresent, -⟩ := repeats_iff.mp h
  rw [← r.isSome_get? g]
  cases hg : r.get? g with
  | none =>
    rw [hg] at hpresent
    exact absurd hpresent Bool.noConfusion
  | some v => rfl

/-- A field is repeated if some field repeats it, which is then one of the record. -/
theorem isRepeated_iff : r.isRepeated f = true ↔ ∃ g, r.repeats f g = true := by
  rw [isRepeated, List.any_eq_true]
  constructor
  · rintro ⟨g, -, h⟩
    exact ⟨g, h⟩
  · rintro ⟨g, h⟩
    exact ⟨g, mem_names_of_repeats h, h⟩

/-- A field with a value that is not null is repeated by the other fields with an equal value. -/
theorem isRepeated_iff_of_present {v : Value} (hf : r.get? f = some v)
    (hpresent : isNullish (r.get? f) = false) :
    r.isRepeated f = true ↔
      ∃ g w, g ≠ f ∧ r.get? g = some w ∧ strictEq (some w) (some v) = true := by
  rw [isRepeated_iff]
  constructor
  · rintro ⟨g, hg⟩
    obtain ⟨hne, -, hequal⟩ := repeats_iff.mp hg
    -- a field that repeats another one is in the record, so it has a value
    obtain ⟨w, hw⟩ := Option.isSome_iff_exists.mp
      ((r.isSome_get? g).mpr (mem_names_of_repeats hg))
    rw [hf, hw, strictEq_comm] at hequal
    exact ⟨g, w, hne.symm, hw, hequal⟩
  · rintro ⟨g, w, hne, hg, hequal⟩
    refine ⟨g, repeats_iff.mpr ⟨hne.symm, hpresent, ?_⟩⟩
    rw [hf, hg, strictEq_comm]
    exact hequal

/-- The fields that are repeated are never a single one: it would have to repeat itself. -/
theorem countP_isRepeated_ne_one (r : Record) : r.names.countP r.isRepeated ≠ 1 := by
  intro hone
  rw [List.countP_eq_length_filter, List.length_eq_one_iff] at hone
  obtain ⟨f, hf⟩ := hone
  have honly : ∀ g ∈ r.names, r.isRepeated g = true → g = f := by
    intro g hmem hrepeated
    have hg : g ∈ r.names.filter r.isRepeated := List.mem_filter.mpr ⟨hmem, hrepeated⟩
    rw [hf] at hg
    exact List.mem_singleton.mp hg
  have hself : f ∈ r.names.filter r.isRepeated := by
    rw [hf]
    exact List.mem_singleton.mpr rfl
  obtain ⟨g, hg⟩ := isRepeated_iff.mp (List.mem_filter.mp hself).2
  -- what repeats the only field that is repeated is repeated as well
  have hback : r.isRepeated g = true := isRepeated_iff.mpr ⟨f, by rw [repeats_comm]; exact hg⟩
  have hsame : g = f := honly g (mem_names_of_repeats hg) hback
  exact (repeats_iff.mp hg).1 hsame.symm

end Record

/-! ### Counting occurrences -/

namespace UniquenessCheck

variable {r : Record} {f : String} {v : Value}

/-- Nothing equals a NaN, so none of its occurrences is counted. -/
theorem occurrences_of_nan (r : Record) : occurrences (.real .nan) r = 0 := by
  rw [occurrences, List.countP_eq_zero]
  intro w _ hequal
  exact Coercion.strictEq_self_iff.mp (strictEq_iff.mpr (strictEq_iff.mp hequal).symm.self) rfl

/-- A value that a field holds occurs at most once exactly when no other field holds an equal
    one. -/
theorem occurrences_le_one_iff (hf : r.get? f = some v) :
    occurrences v r ≤ 1 ↔
      ∀ g w, g ≠ f → r.get? g = some w → strictEq (some w) (some v) = false := by
  obtain ⟨front, back, hfields⟩ := List.append_of_mem (Record.mem_of_get? hf)
  have hnodup := r.nodup
  rw [hfields, List.map_append, List.map_cons, List.nodup_middle, List.nodup_cons] at hnodup
  obtain ⟨hname, -⟩ := hnodup
  -- the other fields are those in front and those behind
  have hothers : ∀ g w, (g ≠ f ∧ r.get? g = some w) ↔ (g, w) ∈ front ++ back := by
    intro g w
    rw [Record.get?_eq_some_iff, hfields]
    constructor
    · rintro ⟨hne, hmem⟩
      simp only [List.mem_append, List.mem_cons, Prod.mk.injEq] at hmem ⊢
      rcases hmem with hmem | ⟨heq, -⟩ | hmem
      · exact .inl hmem
      · exact absurd heq hne
      · exact .inr hmem
    · intro hmem
      refine ⟨?_, ?_⟩
      · rintro rfl
        apply hname
        rw [← List.map_append]
        exact List.mem_map.mpr ⟨(g, w), hmem, rfl⟩
      · simp only [List.mem_append, List.mem_cons] at hmem ⊢
        exact hmem.elim .inl fun h => .inr (.inr h)
  -- an occurrence is the field itself or one of the others
  have hcount : occurrences v r =
      (front ++ back).countP (fun field => strictEq (some field.2) (some v)) +
        if strictEq (some v) (some v) = true then 1 else 0 := by
    have hfieldwise : occurrences v r =
        r.fields.countP fun field => strictEq (some field.2) (some v) := List.countP_map
    rw [hfieldwise, hfields]
    simp only [List.countP_append, List.countP_cons]
    omega
  -- no occurrence among the others means that no other field holds an equal value
  have hnone : (front ++ back).countP (fun field => strictEq (some field.2) (some v)) = 0 ↔
      ∀ g w, g ≠ f → r.get? g = some w → strictEq (some w) (some v) = false := by
    rw [List.countP_eq_zero]
    constructor
    · intro h g w hne hg
      exact (Bool.not_eq_true _).mp (h (g, w) ((hothers g w).mp ⟨hne, hg⟩))
    · intro h (g, w) hmem
      obtain ⟨hne, hg⟩ := (hothers g w).mpr hmem
      exact (Bool.not_eq_true _).mpr (h g w hne hg)
  rw [← hnone]
  by_cases hself : strictEq (some v) (some v) = true
  · -- the field itself is counted, so a second occurrence is another field
    rw [hcount, if_pos hself]
    omega
  · -- a NaN, which no other field can equal
    obtain rfl : v = .real .nan := by
      simpa [Coercion.strictEq_self_iff] using hself
    have hzero := occurrences_of_nan r
    omega

/-- The check fails on a field exactly when another field repeats it, and says so. -/
theorem outcome_get? (c : UniquenessCheck) (r : Record) (f : String) :
    c.outcome (r.get? f) r =
      if r.isRepeated f then
        .fail ("Value '" ++ Coercion.display (r.get? f) ++ "' is not unique within the dataset")
      else .pass := by
  cases hnullish : isNullish (r.get? f) with
  | true =>
    -- nothing is asked of the field, and nothing repeats it
    have hunrepeated : r.isRepeated f = false := by
      rw [← Bool.not_eq_true, Record.isRepeated_iff]
      rintro ⟨g, hg⟩
      rw [(Record.repeats_iff.mp hg).2.1] at hnullish
      exact absurd hnullish Bool.false_ne_true
    rw [hunrepeated]
    rcases Coercion.isNullish_iff.mp hnullish with hf | hf <;> rw [hf] <;> rfl
  | false =>
    obtain ⟨v, hf, hpresent⟩ : ∃ v, r.get? f = some v ∧ present? (some v) = some v := by
      cases hf : r.get? f with
      | none =>
        rw [hf] at hnullish
        exact absurd hnullish Bool.noConfusion
      | some v =>
        refine ⟨v, rfl, ?_⟩
        cases v with
        | null =>
          rw [hf] at hnullish
          exact absurd hnullish Bool.noConfusion
        | boolean | integer | real | text => rfl
    -- more than one occurrence is a repetition
    have hcount : decide (occurrences v r ≤ 1) = !r.isRepeated f := by
      rw [Bool.eq_iff_iff, decide_eq_true_eq, occurrences_le_one_iff hf, Bool.not_eq_true',
        ← Bool.not_eq_true, Record.isRepeated_iff_of_present hf hnullish]
      simp only [not_exists, not_and, Bool.not_eq_true]
    rw [hf]
    simp only [outcome, hpresent, hcount]
    cases r.isRepeated f <;> rfl

/-- The fields that a uniqueness rule fails on are those that are repeated, among those that it is
    aimed at. -/
theorem fields_of_failed_results {rule : Rule} {c : UniquenessCheck}
    (hcheck : rule.check = .uniqueness c) (henabled : rule.enabled = true) (r : Record)
    (patterns : PatternCache) (functions : Registry) :
    ((rule.results r patterns functions).filter fun result => !result.passed).map Result.field =
      r.names.filter fun f => (Target.ofPattern rule.target).selects f && r.isRepeated f := by
  have hresult : ∀ f, ∃ result, RuleSet.result? rule r patterns functions f = some result ∧
      result.field = f ∧ result.passed = !r.isRepeated f := by
    intro f
    refine ⟨_, by rw [RuleSet.result?, Rule.outcome?, hcheck]; rfl, rfl, ?_⟩
    show (c.outcome (r.get? f) r).passed = _
    rw [outcome_get?]
    cases r.isRepeated f <;> rfl
  -- over the names only, since whether one of them is repeated depends on the whole record
  rw [Rule.results, if_pos henabled, Target.resolve_eq_filter]
  generalize r.names = names
  induction names with
  | nil => rfl
  | cons f names ih =>
    obtain ⟨result, hsome, hfield, hpassed⟩ := hresult f
    by_cases hselects : (Target.ofPattern rule.target).selects f = true
    · rw [List.filter_cons_of_pos hselects, List.filterMap_cons_some hsome, List.filter_cons,
        List.filter_cons, hselects, Bool.true_and, hpassed, Bool.not_not]
      split
      · rw [List.map_cons, ih, hfield]
      · exact ih
    · rw [List.filter_cons_of_neg hselects, List.filter_cons_of_neg (by simp [hselects])]
      exact ih

/-- A uniqueness check finds the duplicates of a record.  On a field with a value that is not null
    it fails exactly when another field holds a strictly equal value, so that fields fail because of
    each other; null and absent fields pass, and the scope decides nothing.  Of the rules of an
    engine, an enabled one that checks all fields fails on those that are repeated, and never on one
    alone. -/
theorem finds_duplicates (e : Engine) (rules : List Rule) (r : Record) :
    (∀ (c : UniquenessCheck) (f : String) (v : Value) (patterns : PatternCache)
        (functions : Registry), r.get? f = some v → v ≠ .null →
      ∃ o, (Check.uniqueness c).outcome? f r patterns functions = some o ∧
        (o.passed = false ↔
          ∃ g w, g ≠ f ∧ r.get? g = some w ∧ strictEq (some w) (some v) = true)) ∧
    (∀ f g, r.repeats f g = r.repeats g f) ∧
    (∀ (c : UniquenessCheck) (f : String) (patterns : PatternCache) (functions : Registry),
      r.get? f = none ∨ r.get? f = some .null →
        (Check.uniqueness c).outcome? f r patterns functions = some .pass) ∧
    (∀ (c c' : UniquenessCheck) (f : String) (patterns : PatternCache) (functions : Registry),
      (Check.uniqueness c).outcome? f r patterns functions =
        (Check.uniqueness c').outcome? f r patterns functions) ∧
    (e.load rules).validate r = rules.flatMap (·.results r (.ofRules rules) e.functions) ∧
    ∀ rule ∈ rules, ∀ c, rule.check = .uniqueness c → rule.enabled = true → rule.target = "*" →
      ((rule.results r (.ofRules rules) e.functions).filter fun result => !result.passed).map
          Result.field = r.names.filter r.isRepeated ∧
      (rule.results r (.ofRules rules) e.functions).countP (fun result => !result.passed) ≠ 1 := by
  refine ⟨?fails, r.repeats_comm, ?passes, ?scope, RuleSet.results_eq_flatMap rules e.functions r,
    ?failed⟩
  case fails =>
    intro c f v patterns functions hf hnull
    refine ⟨c.outcome (r.get? f) r, rfl, ?_⟩
    have hpresent : isNullish (r.get? f) = false := by
      rw [hf, ← Bool.not_eq_true, Coercion.isNullish_iff]
      simpa using hnull
    have hrepeated : (c.outcome (r.get? f) r).passed = false ↔ r.isRepeated f = true := by
      rw [outcome_get?]
      cases r.isRepeated f <;> simp
    rw [hrepeated, Record.isRepeated_iff_of_present hf hpresent]
  case passes =>
    intro c f patterns functions hf
    show some (c.outcome (r.get? f) r) = some .pass
    rcases hf with hf | hf <;> rw [hf] <;> rfl
  case scope =>
    intro c c' f patterns functions
    show some (c.outcome (r.get? f) r) = some (c'.outcome (r.get? f) r)
    rw [outcome_get?, outcome_get?]
  case failed =>
    intro rule _ c hcheck henabled htarget
    have hfields := fields_of_failed_results hcheck henabled r (.ofRules rules) e.functions
    have hall : Target.ofPattern rule.target = .all := by
      rw [htarget]
      rfl
    simp only [hall, Target.selects, Bool.true_and] at hfields
    refine ⟨hfields, ?_⟩
    rw [List.countP_eq_length_filter, ← List.length_map Result.field, hfields,
      ← List.countP_eq_length_filter]
    exact r.countP_isRepeated_ne_one

/-- A part with the same number as an integer and as a real, one spelled out, and one that is
    none. -/
private def part : Record :=
  .ofList [("label", .text "7"), ("count", .integer 7), ("gauge", .real .nan), ("note", .null),
    ("ratio", .real 7), ("remark", .null)]

/-- No two entries of a part are alike. -/
private def partRule : Rule :=
  { id := "unique", name := "Unique", check := .uniqueness { scope := some .collection } }

/-- The two numbers fail because of each other; the text, the NaN and the nulls pass. -/
theorem finds_duplicates_part :
    (∃ o, (Check.uniqueness {}).outcome? "count" part .empty .empty = some o ∧ o.passed = false) ∧
    (Check.uniqueness {}).outcome? "note" part .empty .empty = some .pass ∧
    ((partRule.results part (.ofRules [partRule]) .empty).filter fun result => !result.passed).map
      Result.field = ["count", "ratio"] := by
  obtain ⟨hfails, -, hpasses, -, -, hfailed⟩ := finds_duplicates {} [partRule] part
  have hratio : part.get? "ratio" = some (.real 7) := by decide +kernel
  have hequal : strictEq (some (.real 7)) (some (.integer 7)) = true := by decide +kernel
  obtain ⟨o, ho, hiff⟩ := hfails {} "count" (.integer 7) .empty .empty (by decide +kernel) nofun
  refine ⟨⟨o, ho, hiff.mpr ⟨"ratio", .real 7, by decide, hratio, hequal⟩⟩, ?_, ?_⟩
  · exact hpasses {} "note" .empty .empty (.inr (by decide +kernel))
  · have hfields := (hfailed partRule List.mem_cons_self _ rfl rfl rfl).1
    have hrepeated : part.names.filter part.isRepeated = ["count", "ratio"] := by decide +kernel
    exact hfields.trans hrepeated

end UniquenessCheck
end RecordRules
