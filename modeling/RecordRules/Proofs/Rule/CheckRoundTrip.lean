import RecordRules.Proofs.Rule.Codecs

/-!
# Checks are read back as they were written

A cross-field configuration is read by the mode that its tag names, or else as a condition
written as text.  Which of the two it is has to survive writing: a mode is written with its
tag, and a textual condition without one.

## Key results

- `CrossFieldCheck.read_ofMembers`: a cross-field configuration is read back in its mode
- `Check.read_write`: a legible check is read back
- `Check.isLegible_of_read`: every check that is read is legible
-/

namespace RecordRules

open Decode

/-! ## Cross-field configurations -/

namespace CrossFieldMode

@[simp] theorem ofTag?_name (mode : CrossFieldMode) : ofTag? (.text mode.name) = some mode := by
  cases mode <;> rfl

end CrossFieldMode

namespace CrossFieldCheck

/-- The configuration of the mode is read back. -/
def IsLegible : CrossFieldCheck → Prop
  | conditional c => c.IsLegible
  | comparison c => c.IsFinite
  | dependency c => c.IsLegible
  | business _ | textual _ => True

/-- A tag and what stands beside it. -/
theorem splitTag?_perm {tag : Json} {ms ms' : List (String × Json)}
    (hn : (ms.map Prod.fst).Nodup) (htype : "type" ∉ ms.map Prod.fst)
    (hp : ms'.Perm (("type", tag) :: ms)) :
    ∃ rest, splitTag? (.object ms') = some (tag, .object rest) ∧ rest.Perm ms := by
  have hnodup : (ms'.map Prod.fst).Nodup :=
    (hp.map Prod.fst).nodup_iff.mpr (List.nodup_cons.mpr ⟨htype, hn⟩)
  have htag : Json.member? "type" ms' = some tag :=
    Named.lookup_of_mem hnodup (hp.mem_iff.mpr List.mem_cons_self)
  -- no member beside the tag has its key, so none is filtered out
  have hrest : ms.filter (·.1 ≠ "type") = ms := by
    refine List.filter_eq_self.mpr fun m hm => ?_
    have hne : m.1 ≠ "type" := fun h => htype (h ▸ List.mem_map_of_mem hm)
    simpa using hne
  refine ⟨ms'.filter (·.1 ≠ "type"), by rw [splitTag?, htag]; rfl, ?_⟩
  have hfilter := hp.filter (fun m => decide (m.1 ≠ "type"))
  rwa [List.filter_cons_of_neg (by simp), hrest] at hfilter

/-- A configuration that is written with the tag of its mode is read by that mode, as what the
    mode reads from its members. -/
theorem read_mode {σ : Type} {P : σ → Prop} {start : σ} {slots : List (Slot σ)}
    {names : List String} {members : σ → List (String × Json)} {c c' : σ} {title : String}
    {make : σ → CrossFieldCheck} (mode : CrossFieldMode)
    (hmode : ∀ j, mode.read j = (structure? title slots start j).map make)
    (h : Codec P start slots names members) (hc : Reads slots names (members c) start c')
    (hnames : "type" ∉ names) :
    read (.ofMembers (tagMember mode ++ members c)) = .ok (make c') := by
  have hn := hc.keys.nodup h.nodup
  have htype := hc.notMem_keys hnames
  have hp : (Json.sorted (tagMember mode ++ members c)).Perm
      (("type", .text mode.name) :: members c) :=
    Json.sorted_perm (List.nodup_cons.mpr ⟨htype, hn⟩)
  -- sorting moves the tag, but leaves the other members what the mode is written as
  obtain ⟨rest, hsplit, hrest⟩ := splitTag?_perm hn htype hp
  have hread : mode.read (.object rest) = .ok (make c') := by
    rw [hmode, hc.read_of_perm h.independent h.nodup (h.complete c) hrest]
    rfl
  have htyped : readTyped? (.ofMembers (tagMember mode ++ members c)) = some (make c') := by
    simp only [readTyped?, Json.ofMembers_eq, hsplit, Option.bind_eq_bind, Option.bind_some,
      CrossFieldMode.ofTag?_name, hread]
    rfl
  rw [read, htyped]

/-- A cross-field configuration is read back, in the mode that it was written for. -/
theorem read_ofMembers {c : CrossFieldCheck} (hc : c.IsLegible) :
    read (.ofMembers c.members) = .ok c := by
  -- each mode is written with its tag and read through its own slots
  cases c with
  | conditional c =>
    have hcodec := ConditionalCheck.codec
    exact read_mode .conditional (fun _ => rfl) hcodec (hcodec.reads c hc) (by decide)
  | comparison c =>
    have hcodec := ComparisonCheck.codec
    exact read_mode .comparison (fun _ => rfl) hcodec (hcodec.reads c hc) (by decide)
  | dependency c =>
    have hcodec := DependencyCheck.codec
    exact read_mode .dependency (fun _ => rfl) hcodec (hcodec.reads c hc) (by decide)
  | business b =>
    have hcodec := BusinessRule.codec
    exact read_mode .business (fun _ => rfl) hcodec (hcodec.reads b trivial) (by decide)
  | textual c =>
    -- without a tag no mode is tried
    have hreads := TextCondition.codec.reads c trivial
    have hp := Json.sorted_perm (hreads.keys.nodup TextCondition.codec.nodup)
    have htype : "type" ∉ (Json.sorted c.members).map Prod.fst := fun hmem =>
      hreads.notMem_keys (by decide) ((hp.map Prod.fst).mem_iff.mp hmem)
    have htyped : readTyped? (.ofMembers c.members) = none := by
      rw [readTyped?, Json.ofMembers_eq, splitTag?, Json.member?, Named.lookup_eq_none htype]
      rfl
    have htext : TextCondition.read (.ofMembers c.members) = .ok c :=
      TextCondition.codec.read_ofMembers trivial
    rw [read, members, htyped]
    simp only [htext]

/-- The configuration beside a tag has numbers that fit if there are no others. -/
theorem inRange_of_splitTag? {j tag rest : Json} (hj : j.InRange)
    (h : splitTag? j = some (tag, rest)) : rest.InRange := by
  -- an object keeps its other members, and a list the items behind the first
  unfold splitTag? at h
  split at h
  · obtain ⟨_, _, heq⟩ := Option.map_eq_some_iff.mp h
    obtain ⟨-, rfl⟩ := Prod.mk.inj heq
    exact .object fun m hm => hj.members m (List.mem_filter.mp hm).1
  · obtain ⟨rfl, rfl⟩ := Prod.mk.inj (Option.some.inj h)
    exact .array fun i hi => hj.items i (List.mem_cons_of_mem _ hi)
  · exact nomatch h

/-- What a mode reads from numbers that fit is legible. -/
theorem isLegible_of_mode {mode : CrossFieldMode} {j : Json} (hj : j.InRange)
    {c : CrossFieldCheck} (h : mode.read j = .ok c) : c.IsLegible := by
  cases mode with
  | conditional =>
    obtain ⟨d, hd, rfl⟩ := Except.map_eq_ok.mp h
    exact ConditionalCheck.codec.of_read hj hd
  | comparison =>
    obtain ⟨d, hd, rfl⟩ := Except.map_eq_ok.mp h
    exact ComparisonCheck.codec.of_read hj hd
  | dependency =>
    obtain ⟨d, hd, rfl⟩ := Except.map_eq_ok.mp h
    exact DependencyCheck.codec.of_read hj hd
  | business =>
    obtain ⟨_, _, rfl⟩ := Except.map_eq_ok.mp h
    trivial

/-- Every cross-field configuration that is read is legible. -/
theorem isLegible_of_read {j : Json} (hj : j.InRange) {c : CrossFieldCheck}
    (h : read j = .ok c) : c.IsLegible := by
  -- the configuration is read by a mode, or as a textual one
  unfold read at h
  split at h
  · next htyped =>
    obtain rfl := Except.ok.inj h
    simp only [readTyped?, Option.bind_eq_bind, Option.bind_eq_some_iff] at htyped
    obtain ⟨⟨tag, rest⟩, hsplit, mode, -, hmode⟩ := htyped
    exact isLegible_of_mode (inRange_of_splitTag? hj hsplit) (Except.toOption_eq_some.mp hmode)
  · split at h
    · obtain rfl := Except.ok.inj h
      trivial
    · exact nomatch h

end CrossFieldCheck

/-! ## Checks -/

namespace Check

/-- The names of the types of rules. -/
def ruleTypes : List String :=
  ["format", "range", "completeness", "uniqueness", "crossField", "custom"]

/-- The configuration is read back as it is written, in the type that it is written with. -/
def IsLegible : Check → Prop
  | format _ | completeness _ | uniqueness _ | custom _ => True
  | range c => c.IsFinite
  | crossField c => c.IsLegible
  | unknown ruleType j => ruleType ∉ ruleTypes ∧ j ≠ .null

/-- A type of another name is kept with its configuration. -/
theorem readAs_of_notMem {ruleType : String} (h : ruleType ∉ ruleTypes) (j : Json) :
    readAs ruleType j = .ok (unknown ruleType j) := by
  simp only [ruleTypes, List.mem_cons, List.not_mem_nil, or_false, not_or] at h
  obtain ⟨hformat, hrange, hcompleteness, huniqueness, hcrossField, hcustom⟩ := h
  -- each branch but the last is for one of the known names
  unfold readAs
  split
  · exact absurd rfl hformat
  · exact absurd rfl hrange
  · exact absurd rfl hcompleteness
  · exact absurd rfl huniqueness
  · exact absurd rfl hcrossField
  · exact absurd rfl hcustom
  · rfl

/-- A legible check is read back from the type and the configuration that it is written as. -/
theorem read_write {c : Check} (hc : c.IsLegible) :
    read c.write.1 c.write.2 = .ok c := by
  refine Except.mapError_eq_ok.mpr ?_
  -- each type of check has its own codec
  cases c with
  | format c => exact congrArg (Except.map format) (FormatCheck.codec.read_ofMembers trivial)
  | range c => exact congrArg (Except.map range) (RangeCheck.codec.read_ofMembers hc)
  | completeness c =>
    exact congrArg (Except.map completeness) (CompletenessCheck.codec.read_ofMembers trivial)
  | uniqueness c =>
    exact congrArg (Except.map uniqueness) (UniquenessCheck.codec.read_ofMembers trivial)
  | crossField c => exact congrArg (Except.map crossField) (CrossFieldCheck.read_ofMembers hc)
  | custom c => exact congrArg (Except.map custom) (CustomCheck.codec.read_ofMembers trivial)
  | unknown ruleType j =>
    have hj : normalize j = j := by
      unfold normalize
      split
      · exact absurd rfl hc.2
      · rfl
    exact hj.symm ▸ readAs_of_notMem hc.1 j

/-- An empty object in the place of null brings no number in. -/
theorem inRange_normalize {j : Json} (hj : j.InRange) : (normalize j).InRange := by
  unfold normalize
  split
  · exact .object fun m hm => nomatch hm
  · exact hj

theorem normalize_ne_null (j : Json) : normalize j ≠ .null := by
  unfold normalize
  split
  · exact nofun
  · next h => exact h

/-- Every check that is read from a value whose numbers fit is legible. -/
theorem isLegible_of_read {ruleType : String} {j : Json} (hj : j.InRange) {c : Check}
    (h : read ruleType j = .ok c) : c.IsLegible := by
  have hj' := inRange_normalize hj
  replace h := Except.mapError_eq_ok.mp h
  -- a known type reads its configuration, and an unknown one keeps it
  by_cases hmem : ruleType ∈ ruleTypes
  · simp only [ruleTypes, List.mem_cons, List.not_mem_nil, or_false] at hmem
    rcases hmem with rfl | rfl | rfl | rfl | rfl | rfl <;>
      obtain ⟨d, hd, rfl⟩ := Except.map_eq_ok.mp h
    · trivial
    · exact RangeCheck.codec.of_read hj' hd
    · trivial
    · trivial
    · exact CrossFieldCheck.isLegible_of_read hj' hd
    · trivial
  · rw [readAs_of_notMem hmem] at h
    obtain rfl := Except.ok.inj h
    exact ⟨hmem, normalize_ne_null j⟩

end Check
end RecordRules
