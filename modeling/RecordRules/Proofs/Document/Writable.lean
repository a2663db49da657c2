import Mathlib.Data.List.Basic
import RecordRules.Document.Writing

/-!
# Which rules can be written

JSON and YAML hold every value.  TOML has no null, so that rules with a null anywhere in their
configurations have no text there, and these are the only ones.

## Key results

- `Toml.render?_eq_none_iff`: a value has no TOML text exactly if it holds null
- `DocumentFormat.writeRules_eq_error_iff`: the rules that cannot be written in a format
-/

namespace RecordRules

namespace Json

/-- Null is somewhere in a value. -/
inductive HoldsNull : Json → Prop
  | null : HoldsNull .null
  | item {items : List Json} {j : Json} (hmem : j ∈ items) (h : HoldsNull j) :
    HoldsNull (.array items)
  | member {ms : List (String × Json)} {m : String × Json} (hmem : m ∈ ms) (h : HoldsNull m.2) :
    HoldsNull (.object ms)

@[simp] theorem not_holdsNull_boolean (b : Bool) : ¬ HoldsNull (.boolean b) :=
  nofun

@[simp] theorem not_holdsNull_text (s : String) : ¬ HoldsNull (.text s) :=
  nofun

theorem holdsNull_array {items : List Json} :
    HoldsNull (.array items) ↔ ∃ j ∈ items, j.HoldsNull := by
  constructor
  · intro h
    cases h with
    | item hmem h => exact ⟨_, hmem, h⟩
  · rintro ⟨j, hmem, h⟩
    exact .item hmem h

theorem holdsNull_object {ms : List (String × Json)} :
    HoldsNull (.object ms) ↔ ∃ m ∈ ms, m.2.HoldsNull := by
  constructor
  · intro h
    cases h with
    | member hmem h => exact ⟨_, hmem, h⟩
  · rintro ⟨m, hmem, h⟩
    exact .member hmem h

end Json

/-! ### Values as TOML -/

namespace Toml

open Json

/-- Two parts are there unless one of them is missing. -/
private theorem both_eq_none_iff {α β γ : Type} {x : Option α} {y : Option β} (f : α → β → γ) :
    (do let a ← x; let b ← y; return f a b) = none ↔ x = none ∨ y = none := by
  cases x <;> cases y <;> simp

mutual

/-- A value has no text on one line exactly if it holds null. -/
theorem inline?_eq_none_iff : ∀ j : Json, inline? j = none ↔ j.HoldsNull
  | .null => iff_of_true rfl .null
  | .boolean _ | .integer _ | .real _ | .text _ => iff_of_false nofun nofun
  | .array items => by
    -- the three functions call each other, so their statements are proved together
    rw [inline?, Option.map_eq_none_iff, inlineItems?_eq_none_iff items, holdsNull_array]
  | .object members => by
    rw [inline?, Option.map_eq_none_iff, inlineMembers?_eq_none_iff members, holdsNull_object]

/-- A list has no text on one line exactly if one of its items holds null. -/
theorem inlineItems?_eq_none_iff :
    ∀ items : List Json, inlineItems? items = none ↔ ∃ j ∈ items, j.HoldsNull
  | [] => iff_of_false nofun nofun
  | item :: rest => by
    rw [inlineItems?, both_eq_none_iff, inline?_eq_none_iff item, inlineItems?_eq_none_iff rest,
      List.exists_mem_cons_iff]

/-- An object has no text on one line exactly if one of its members holds null. -/
theorem inlineMembers?_eq_none_iff :
    ∀ ms : List (String × Json), inlineMembers? ms = none ↔ ∃ m ∈ ms, m.2.HoldsNull
  | [] => iff_of_false nofun nofun
  | (key, value) :: rest => by
    rw [inlineMembers?, both_eq_none_iff, inline?_eq_none_iff value,
      inlineMembers?_eq_none_iff rest, List.exists_mem_cons_iff]

end

/-- The lines of a table are missing exactly if a member that is no table holds null. -/
theorem bodyLines?_eq_none_iff {ms : List (String × Json)} :
    bodyLines? ms = none ↔ ∃ m ∈ ms, isTabular m.2 = false ∧ m.2.HoldsNull := by
  rw [bodyLines?, Option.map_eq_none_iff, inlineMembers?_eq_none_iff]
  simp [and_assoc]

mutual

/-- A value has no tables exactly if it should have some and holds null. -/
theorem tables?_eq_none_iff (path : List String) (repeated : Bool) :
    ∀ j : Json, tables? path repeated j = none ↔ isTabular j = true ∧ j.HoldsNull
  | .null | .boolean _ | .integer _ | .real _ | .text _ => iff_of_false nofun nofun
  | .object ms => by
    rw [tables?, both_eq_none_iff, bodyLines?_eq_none_iff, innerTables?_eq_none_iff path ms,
      holdsNull_object, ← exists_or]
    -- a member stands behind its key or is a table
    simp only [isTabular, true_and, ← and_or_left, ← or_and_right]
    refine exists_congr fun m => and_congr_right fun _ => and_iff_right ?_
    cases isTabular m.2 <;> simp
  | .array items => by
    rw [tables?]
    split
    · next htabular =>
      -- a row holds nothing but objects
      have hobjects : ∀ j ∈ items, isTabular j = true := by
        intro j hj
        have hall : items.all isObject = true := (Bool.and_eq_true_iff.mp htabular).2
        have hobject := List.all_eq_true.mp hall j hj
        cases j <;> first | rfl | exact nomatch hobject
      rw [rowTables?_eq_none_iff path items, holdsNull_array, and_iff_right htabular]
      exact exists_congr fun j => and_congr_right fun hj => and_iff_right (hobjects j hj)
    · next htabular => exact iff_of_false nofun fun h => htabular h.1

/-- The tables in a table are missing exactly if one of them holds null. -/
theorem innerTables?_eq_none_iff (path : List String) :
    ∀ ms : List (String × Json),
      innerTables? path ms = none ↔ ∃ m ∈ ms, isTabular m.2 = true ∧ m.2.HoldsNull
  | [] => iff_of_false nofun nofun
  | (key, value) :: rest => by
    rw [innerTables?, both_eq_none_iff, tables?_eq_none_iff _ _ value,
      innerTables?_eq_none_iff path rest, List.exists_mem_cons_iff]

/-- The rows of an array of tables are missing exactly if one of them holds null. -/
theorem rowTables?_eq_none_iff (path : List String) :
    ∀ items : List Json,
      rowTables? path items = none ↔ ∃ j ∈ items, isTabular j = true ∧ j.HoldsNull
  | [] => iff_of_false nofun nofun
  | item :: rest => by
    rw [rowTables?, both_eq_none_iff, tables?_eq_none_iff _ _ item,
      rowTables?_eq_none_iff path rest, List.exists_mem_cons_iff]

end

/-- The members of a document have no text exactly if null is somewhere in them. -/
theorem render?_eq_none_iff {ms : List (String × Json)} :
    render? ms = none ↔ ∃ m ∈ ms, m.2.HoldsNull := by
  -- the members make one object, which has tables wherever it stands
  have htables : tables? [] false (.object ms) = none ↔ (Json.object ms).HoldsNull :=
    (tables?_eq_none_iff _ _ _).trans (and_iff_right rfl)
  rw [← holdsNull_object, ← htables, render?]
  cases tables? [] false (.object ms) <;> simp

end Toml

/-! ### Rules -/

/-- Null in a rule is null in its configuration: all other members are texts or truth values. -/
theorem Rule.holdsNull_write (rule : Rule) :
    rule.write.HoldsNull ↔ rule.check.configuration.HoldsNull := by
  -- the description and the target are texts, so they cannot hold null
  have hdescription : ¬ ∃ m ∈ optionalMember "description" .text rule.description,
      m.2.HoldsNull := by
    cases rule.description <;> simp [optionalMember]
  have htarget : ¬ (Json.object [("field", .text rule.target)]).HoldsNull := by
    simp [Json.holdsNull_object]
  have hmembers : rule.members =
      [("id", .text rule.id), ("name", .text rule.name)] ++
        optionalMember "description" .text rule.description ++
        [("ruleType", .text rule.check.ruleType),
         ("target", .object [("field", .text rule.target)]),
         ("configuration", rule.check.configuration), ("severity", .text rule.severity),
         ("enabled", .boolean rule.enabled)] := rfl
  rw [write, Json.holdsNull_object, hmembers]
  simp only [List.mem_append, or_and_right, exists_or, hdescription]
  simp [htarget]

namespace DocumentFormat

/-- The rules that cannot be written are those with null in a configuration, and only in TOML. -/
theorem writeRules_eq_error_iff {format : DocumentFormat} {rules : List Rule}
    {fault : DocumentFault} :
    format.writeRules rules = .error fault ↔
      format = .toml ∧ fault = .toml ∧ ∃ rule ∈ rules, rule.check.configuration.HoldsNull := by
  cases format with
  -- these two formats write whatever rules they are given
  | json | yaml => exact iff_of_false nofun nofun
  | toml =>
    -- the document has one member, the list of the rules
    have hrender : Toml.render? [RuleDocument.member rules] = none ↔
        ∃ rule ∈ rules, rule.check.configuration.HoldsNull := by
      rw [Toml.render?_eq_none_iff]
      simp [RuleDocument.member, Json.holdsNull_array, Rule.holdsNull_write]
    rw [← hrender, writeRules]
    cases Toml.render? [RuleDocument.member rules] with
    | none => simp [eq_comm]
    | some text => simp

end DocumentFormat
end RecordRules
