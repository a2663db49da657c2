import RecordRules.Proofs.Rule.CheckRoundTrip
import RecordRules.Proofs.Wire.Acceptance

/-!
# When a tagged cross-field configuration is read as a textual one

A cross-field configuration that names its mode should be read in that mode or be refused.  But
a configuration that its mode refuses is tried once more as a condition written as text, and
that one takes any object whose two keys hold texts or nothing.  The tables of this module tell
which values the keys of every mode permit, and with them which configurations lose their mode.

## Key results

- `CrossFieldMode.read_isOk`: a mode reads exactly the objects whose members it permits
- `Check.read_tagged_iff`: when a tagged configuration keeps its mode, loses it, or is refused
- `Check.tagged_may_lose_mode`: some lose it
-/

namespace RecordRules

open Decode

/-! ### What the keys permit -/

namespace TargetCondition

/-- The values that the keys of a demand permit. -/
def table : Table :=
  [("type", Json.isNameOrNull), ("pattern", Json.isTextOrNull), ("min", Json.isNumberOrNull),
   ("max", Json.isNumberOrNull)]

/-- The slots of a demand take what the table permits. -/
theorem slots_follow : Slot.Follow slots table :=
  .cons ⟨rfl, rfl, Slot.takes_of_read (optional_named_isOk _)⟩ <|
  .cons ⟨rfl, rfl, Slot.takes_of_read optional_text_isOk⟩ <|
  .cons ⟨rfl, rfl, Slot.takes_of_read optional_real_isOk⟩ <|
  .cons ⟨rfl, rfl, Slot.takes_of_read optional_real_isOk⟩ .nil

/-- What an optional demand can be read from. -/
def fitsOrNull : Json → Bool
  | .null => true
  | j => table.fits j

/-- A demand is read from what fits its table, and null is read as none. -/
theorem optional_read_isOk (j : Json) : (Decode.optional read j).isOk = fitsOrNull j := by
  have hread : (read j).isOk = table.fits j := structure?_isOk slots_follow "TargetCondition" {} j
  -- null is no demand at all, and the table is not asked about it
  cases j with
  | null => rfl
  | _ => exact (optional_isOk read (by nofun)).trans hread

end TargetCondition

namespace ConditionalCheck

/-- The values that the keys of a configuration permit. -/
def table : Table :=
  [("conditionField", Json.isTextOrNull), ("conditionValue", Json.isScalar),
   ("conditionOperator", Json.isName), ("targetField", Json.isTextOrNull),
   ("targetCondition", TargetCondition.fitsOrNull)]

theorem slots_follow : Slot.Follow slots table :=
  .cons ⟨rfl, rfl, Slot.takes_of_read optional_text_isOk⟩ <|
  .cons ⟨rfl, rfl, Slot.takes_of_read optional_scalar_isOk⟩ <|
  .cons ⟨rfl, rfl, Slot.takes_of_read (named_isOk _)⟩ <|
  .cons ⟨rfl, rfl, Slot.takes_of_read optional_text_isOk⟩ <|
  .cons ⟨rfl, rfl, Slot.takes_of_read TargetCondition.optional_read_isOk⟩ .nil

end ConditionalCheck

namespace ComparisonCheck

/-- The values that the keys of a configuration permit. -/
def table : Table :=
  [("field1", Json.isTextOrNull), ("field2", Json.isTextOrNull),
   ("comparisonOperator", Json.isNameOrNull), ("expectedSum", Json.isNumberOrNull)]

theorem slots_follow : Slot.Follow slots table :=
  .cons ⟨rfl, rfl, Slot.takes_of_read optional_text_isOk⟩ <|
  .cons ⟨rfl, rfl, Slot.takes_of_read optional_text_isOk⟩ <|
  .cons ⟨rfl, rfl, Slot.takes_of_read (optional_named_isOk _)⟩ <|
  .cons ⟨rfl, rfl, Slot.takes_of_read optional_real_isOk⟩ .nil

end ComparisonCheck

namespace DependencyCheck

/-- The values that the keys of a configuration permit. -/
def table : Table :=
  [("dependentField", Json.isTextOrNull), ("requiredValue", Json.isScalar),
   ("targetField", Json.isTextOrNull)]

theorem slots_follow : Slot.Follow slots table :=
  .cons ⟨rfl, rfl, Slot.takes_of_read optional_text_isOk⟩ <|
  .cons ⟨rfl, rfl, Slot.takes_of_read optional_scalar_isOk⟩ <|
  .cons ⟨rfl, rfl, Slot.takes_of_read optional_text_isOk⟩ .nil

end DependencyCheck

namespace BusinessRule

/-- The values that the keys of a configuration permit. -/
def table : Table :=
  [("businessRule", Json.isNameOrNull)]

theorem slots_follow : Slot.Follow slots table :=
  .cons ⟨rfl, rfl, Slot.takes_of_read (optional_named_isOk _)⟩ .nil

end BusinessRule

namespace TextCondition

/-- The values that the keys of a configuration permit. -/
def table : Table :=
  [("dependentField", Json.isTextOrNull), ("condition", Json.isTextOrNull)]

theorem slots_follow : Slot.Follow slots table :=
  .cons ⟨rfl, rfl, Slot.takes_of_read optional_text_isOk⟩ <|
  .cons ⟨rfl, rfl, Slot.takes_of_read optional_text_isOk⟩ .nil

end TextCondition

/-! ### What the modes read -/

namespace CrossFieldMode

/-- The values that the keys of a mode permit. -/
def table : CrossFieldMode → Table
  | conditional => ConditionalCheck.table
  | comparison => ComparisonCheck.table
  | dependency => DependencyCheck.table
  | business => BusinessRule.table

/-- A mode reads exactly the values that fit its table. -/
theorem read_isOk (mode : CrossFieldMode) (j : Json) : (mode.read j).isOk = mode.table.fits j := by
  cases mode with
  | conditional => exact (isOk_map _ _).trans (structure?_isOk ConditionalCheck.slots_follow _ _ j)
  | comparison => exact (isOk_map _ _).trans (structure?_isOk ComparisonCheck.slots_follow _ _ j)
  | dependency => exact (isOk_map _ _).trans (structure?_isOk DependencyCheck.slots_follow _ _ j)
  | business => exact (isOk_map _ _).trans (structure?_isOk BusinessRule.slots_follow _ _ j)

/-- No mode reads the tag, so it does not matter what stands there. -/
theorem permits_type (mode : CrossFieldMode) (j : Json) : mode.table.permits "type" j = true := by
  cases mode <;> rfl

end CrossFieldMode

namespace CrossFieldCheck

/-- The mode of a configuration, none for a textual one. -/
def mode? : CrossFieldCheck → Option CrossFieldMode
  | conditional _ => some .conditional
  | comparison _ => some .comparison
  | dependency _ => some .dependency
  | business _ => some .business
  | textual _ => none

/-- What a mode reads is a configuration of that mode. -/
theorem mode?_of_read {mode : CrossFieldMode} {j : Json} {c : CrossFieldCheck}
    (h : mode.read j = .ok c) : c.mode? = some mode := by
  cases mode <;> obtain ⟨_, _, rfl⟩ := Except.map_eq_ok.mp h <;> rfl

/-- A tagged configuration is read in its mode exactly when its members are permitted there. -/
theorem readTyped?_tagged {mode : CrossFieldMode} {ms : List (String × Json)}
    (htag : Json.member? "type" ms = some (.text mode.name)) :
    if ms.all (fun m => mode.table.permits m.1 m.2) then
      ∃ c, readTyped? (.object ms) = some c ∧ c.mode? = some mode
    else readTyped? (.object ms) = none := by
  have hread := mode.read_isOk (.object (ms.filter (·.1 ≠ "type")))
  -- the table is asked about the members beside the tag
  have hfits : mode.table.fits (.object (ms.filter (·.1 ≠ "type"))) =
      ms.all fun m => mode.table.permits m.1 m.2 := by
    rw [Table.fits, List.all_filter]
    congr 1
    funext m
    -- the tag is filtered out, and would be permitted anyway
    by_cases hm : m.1 = "type"
    · simp [hm, mode.permits_type]
    · simp [hm]
  have htyped : readTyped? (.object ms) =
      (mode.read (.object (ms.filter (·.1 ≠ "type")))).toOption := by
    simp [readTyped?, splitTag?, htag]
  rw [← hfits, ← hread, htyped]
  cases hc : mode.read (.object (ms.filter (·.1 ≠ "type"))) with
  | ok c => exact ⟨c, rfl, mode?_of_read hc⟩
  | error fault => rfl

end CrossFieldCheck

namespace Check

/-- What becomes of a configuration that names its mode. -/
private theorem read_tagged {mode : CrossFieldMode} {ms : List (String × Json)}
    (htag : Json.member? "type" ms = some (.text mode.name)) :
    if ms.all (fun m => mode.table.permits m.1 m.2) then
      ∃ c, read "crossField" (.object ms) = .ok (.crossField c) ∧ c.mode? = some mode
    else if ms.all (fun m => TextCondition.table.permits m.1 m.2) then
      ∃ c, read "crossField" (.object ms) = .ok (.crossField (.textual c))
    else read "crossField" (.object ms) =
      .error (.configuration "crossField" (.noVariant "CrossFieldConfig")) := by
  have htyped := CrossFieldCheck.readTyped?_tagged htag
  -- the textual condition reads the object with its tag, which its table does not mention
  have htext : (TextCondition.read (.object ms)).isOk =
      ms.all fun m => TextCondition.table.permits m.1 m.2 :=
    structure?_isOk TextCondition.slots_follow "LegacyConfig" {} (.object ms)
  have hread : read "crossField" (.object ms) =
      ((CrossFieldCheck.read (.object ms)).map crossField).mapError
        (.configuration "crossField") := rfl
  rw [hread, CrossFieldCheck.read, ← htext]
  -- the mode is tried first, and the textual condition only if it refuses
  split at htyped
  · next hall =>
    obtain ⟨c, hc, hmode⟩ := htyped
    rw [if_pos hall, hc]
    exact ⟨c, rfl, hmode⟩
  · next hall =>
    rw [if_neg hall, htyped]
    cases TextCondition.read (.object ms) with
    | ok c => exact ⟨c, rfl⟩
    | error fault => rfl

/-- A configuration that names its mode keeps it exactly when the mode permits its members.  If
    it does not, and the two keys of a textual condition hold a text or nothing each, then the
    mode is silently lost; and only if one of the two holds something else is the configuration
    refused. -/
theorem read_tagged_iff (mode : CrossFieldMode) (ms : List (String × Json))
    (htag : Json.member? "type" ms = some (.text mode.name)) :
    ((∃ c, read "crossField" (.object ms) = .ok (.crossField c) ∧ c.mode? = some mode) ↔
      ms.all (fun m => mode.table.permits m.1 m.2) = true) ∧
    ((∃ c, read "crossField" (.object ms) = .ok (.crossField (.textual c))) ↔
      ms.all (fun m => mode.table.permits m.1 m.2) = false ∧
        ms.all (fun m => TextCondition.table.permits m.1 m.2) = true) ∧
    (read "crossField" (.object ms) =
        .error (.configuration "crossField" (.noVariant "CrossFieldConfig")) ↔
      ms.all (fun m => mode.table.permits m.1 m.2) = false ∧
        ms.all (fun m => TextCondition.table.permits m.1 m.2) = false) := by
  have hread := read_tagged htag
  -- the three outcomes exclude each other, so one of them decides all three statements
  split at hread
  · next hall =>
    obtain ⟨c, hc, hmode⟩ := hread
    -- a configuration with a mode is no textual one
    have htextual (d : TextCondition) : c ≠ .textual d := by
      rintro rfl
      simp [CrossFieldCheck.mode?] at hmode
    simp [hc, hall, hmode, htextual]
  · next hall =>
    split at hread
    · next htext =>
      obtain ⟨c, hc⟩ := hread
      simp [hc, hall, htext, CrossFieldCheck.mode?]
    · next htext => simp [hread, hall, htext]

/-- A comparison whose expected sum is a text. -/
private def misspelledSum : List (String × Json) :=
  [("type", .text "comparison"), ("field1", .text "a"), ("field2", .text "b"),
   ("comparisonOperator", .text "sumEquals"), ("expectedSum", .text "ten")]

/-- The mistyped sum makes the comparison a textual condition without any condition. -/
theorem read_tagged_iff_misspelledSum :
    Json.member? "type" misspelledSum = some (.text CrossFieldMode.comparison.name) ∧
    ∃ c, read "crossField" (.object misspelledSum) = .ok (.crossField (.textual c)) :=
  ⟨rfl, (read_tagged_iff .comparison misspelledSum rfl).2.1.mpr ⟨by decide, by decide⟩⟩

/-- A tagged configuration need neither keep its mode nor be refused. -/
theorem tagged_may_lose_mode :
    ¬ ∀ (mode : CrossFieldMode) (ms : List (String × Json)),
      Json.member? "type" ms = some (.text mode.name) →
      (∃ c, read "crossField" (.object ms) = .ok (.crossField c) ∧ c.mode? = some mode) ∨
      ∃ fault, read "crossField" (.object ms) = .error fault := by
  intro h
  have hread : read "crossField" (.object misspelledSum) = .ok (.crossField (.textual {})) := by
    rfl
  -- what is read has no mode, and it is not refused either
  rcases h .comparison misspelledSum rfl with ⟨c, hc, hmode⟩ | ⟨fault, hfault⟩
  · obtain rfl := crossField.inj (Except.ok.inj (hread.symm.trans hc))
    exact nomatch hmode
  · exact nomatch hread.symm.trans hfault

end Check
end RecordRules
