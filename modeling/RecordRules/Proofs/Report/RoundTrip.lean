import RecordRules.Engine
import RecordRules.Proofs.Document.Range
import RecordRules.Proofs.Json.ObjectText
import RecordRules.Proofs.Json.Overflow
import RecordRules.Proofs.RuleSet.Composition
import RecordRules.Report.Codec

/-!
# Results are read back from their JSON text

The text of a result is read as a result with the same rule, field, severity, verdict and message.
Its value comes back too, with its kind, except in two cases: a null is written, but is read as no
value at all, and a real of many digits may come back as one of its neighbours, because the reader
rounds twice.

## Key results

- `Result.read_write`: what the text of any result is read as
- `Value.reread_eq_ok_iff`, `Value.reread_isOk`: which values come back as they were, and that the
  others are read all the same
- `Engine.validate_reread`: the results that an engine has for the record of a document
-/

namespace RecordRules

/-! ### Values -/

/-- What the JSON text of a value is read as. -/
def Value.reread : Value → Decoded (Option Value)
  | .real (.finite s u _) =>
    ((JsonNumber.toReal s (Binary64.written u).1 (Binary64.written u).2).map
      (some ∘ Value.real)).mapError .syntaxError
  | .null | .real _ => .ok none
  | v => .ok (some v)

/-- A value comes back from its JSON text.  Null does not, and a real does if its digits, scaled by
    their power of ten, are worth the real again. -/
def Value.Survives : Value → Prop
  | .real (.finite s u hr) =>
    JsonNumber.toReal s (Binary64.written u).1 (Binary64.written u).2 = .ok (.finite s u hr)
  | .null | .real _ => False
  | _ => True

namespace Value

instance : DecidablePred Survives
  | .real (.finite s u hr) => inferInstanceAs (Decidable
      (JsonNumber.toReal s (Binary64.written u).1 (Binary64.written u).2 = .ok (.finite s u hr)))
  | .null | .real .nan | .real (.infinity _) => inferInstanceAs (Decidable False)
  | .boolean _ | .integer _ | .text _ => inferInstanceAs (Decidable True)

/-- The values that come back are those that survive. -/
theorem reread_eq_ok_iff {v : Value} : v.reread = .ok (some v) ↔ v.Survives := by
  cases v with
  | real x =>
    cases x with
    | finite s u hr =>
      show ((JsonNumber.toReal s (Binary64.written u).1 (Binary64.written u).2).map
        (some ∘ real)).mapError _ = _ ↔ JsonNumber.toReal _ _ _ = _
      -- the text of the real is refused, or read as some real
      cases JsonNumber.toReal s (Binary64.written u).1 (Binary64.written u).2 with
      | ok x =>
        show Except.ok (some (real x)) = _ ↔ _
        simp only [Except.ok.injEq, Option.some.injEq, real.injEq]
      | error fault => constructor <;> intro h <;> cases h
    | nan | infinity _ => simp [reread, Survives]
  | null => simp [reread, Survives]
  | boolean _ | integer _ | text _ => exact ⟨fun _ => trivial, fun _ => rfl⟩

/-- Finite values are read as values of their kind, but a null is read as no value. -/
theorem reread_isOk {v : Value} (h : v.IsFinite) :
    ∃ w, v.reread = .ok w ∧ (w = none ↔ v = .null) ∧ ∀ v' ∈ w, v'.kindName = v.kindName := by
  -- a value that is read as itself has its own kind
  have hsame (v' : Value) (hkind : v'.kindName = v.kindName) :
      ∀ w ∈ some v', w.kindName = v.kindName := by
    intro w hw
    exact Option.some.inj hw ▸ hkind
  cases v with
  | real x =>
    cases x with
    | finite s u hr =>
      -- a number is refused only if it is too large, and no real is written as one that is
      obtain ⟨y, hy⟩ := JsonNumber.toReal_written_isOk hr s
      refine ⟨some (.real y), ?_, ⟨nofun, nofun⟩, hsame _ rfl⟩
      show ((JsonNumber.toReal s (Binary64.written u).1 (Binary64.written u).2).map
        (some ∘ real)).mapError _ = _
      rw [hy]
      rfl
    | nan | infinity _ => exact absurd h Bool.false_ne_true
  | null =>
    exact ⟨none, rfl, ⟨fun _ => rfl, fun _ => rfl⟩, fun _ hv => absurd hv (Option.not_mem_none _)⟩
  | boolean _ | integer _ | text _ => exact ⟨_, rfl, ⟨nofun, nofun⟩, hsame _ rfl⟩

/-- A value whose text shows few digits and a small power of ten, if it is a real. -/
def IsShort : Value → Prop
  | .real (.finite _ u _) =>
    (Binary64.written u).1 ≤ twoTo 53 ∧ (Binary64.written u).2.natAbs ≤ 22
  | .real _ => False
  | _ => True

instance : DecidablePred IsShort
  | .real (.finite _ u _) => inferInstanceAs (Decidable
      ((Binary64.written u).1 ≤ twoTo 53 ∧ (Binary64.written u).2.natAbs ≤ 22))
  | .real .nan | .real (.infinity _) => inferInstanceAs (Decidable False)
  | .null | .boolean _ | .integer _ | .text _ => inferInstanceAs (Decidable True)

/-- Short values come back, unless they are null. -/
theorem IsShort.survives {v : Value} (h : v.IsShort) (hnull : v ≠ .null) : v.Survives := by
  cases v with
  | real x =>
    cases x with
    | finite s u hr => exact JsonNumber.toReal_written hr h.1 h.2
    | nan | infinity _ => exact h.elim
  | null => exact absurd rfl hnull
  | boolean _ | integer _ | text _ => trivial

/-- With seventeen digits a real may come back as the next one. -/
example : (real 7205759403792795).Survives ∧ ¬ (real 7205759403792796).Survives := by
  decide +kernel

/-- The JSON of a value has no list and no object, and no number that JSON lacks. -/
theorem toJson_isPlain (v : Value) : v.toJson.IsPlain := by
  cases v with
  | integer n => exact isSigned64_toInt n
  | real x =>
    show (Json.ofReal x).IsPlain
    -- a real that is not finite is written as null
    unfold Json.ofReal
    split
    · next hx => exact hx
    · trivial
  | _ => trivial

/-- A value is read from the draft that its JSON text gives, if the text is not refused. -/
theorem reread_toJson (v : Value) :
    v.reread = (v.toJson.reread.mapError .syntaxError >>= fun d =>
      Stream.whole d >>= Decode.optional Decode.scalar) := by
  cases v with
  | integer n =>
    -- a word stays an integer when it is read
    have hfits : Decode.scalar? (.integer n.toInt) = some (integer n) := by
      rw [Decode.scalar?, if_pos (isSigned64_toInt n), Int64.ofInt_toInt]
    show _ = (Decode.scalar (.integer n.toInt)).map some
    rw [Decode.scalar_eq, hfits]
    rfl
  | real x =>
    cases x with
    | finite s u hr =>
      show ((JsonNumber.toReal s (Binary64.written u).1 (Binary64.written u).2).map
        (some ∘ real)).mapError _ =
          (((JsonNumber.toReal s (Binary64.written u).1 (Binary64.written u).2).map
            Json.Draft.real).mapError _ >>= _)
      cases JsonNumber.toReal s (Binary64.written u).1 (Binary64.written u).2 <;> rfl
    | nan | infinity _ => rfl
  | _ => rfl

end Value

/-! ### Results -/

namespace Result

/-- The members of a result hold plain values. -/
theorem members_isPlain (result : Result) : ∀ m ∈ result.members, m.2.IsPlain := by
  intro m hm
  simp only [members, List.mem_append, List.mem_cons, List.not_mem_nil, or_false,
    Option.mem_toList, Option.map_eq_some_iff] at hm
  rcases hm with (((rfl | rfl | rfl) | ⟨v, -, rfl⟩) | rfl | rfl) | ⟨message, -, rfl⟩
  case inl.inl.inr => exact v.toJson_isPlain
  all_goals trivial

/-- The members of a draft are put into their places; a draft of a value may be there or not. -/
theorem read_drafts (result : Result) (value : Option Json.Draft) :
    read (.object
      ([("ruleId", .text result.ruleId), ("ruleName", .text result.ruleName),
          ("field", .text result.field)] ++ (value.map fun d => ("value", d)).toList ++
        [("severity", .text result.severity), ("passed", .boolean result.passed)] ++
        (result.message.map fun m => ("message", .text m)).toList) none) =
      (value.elim (.ok none) fun d => Stream.whole d >>= Decode.optional Decode.scalar).map
        fun v => { result with value := v } := by
  obtain ⟨ruleId, ruleName, field, value', severity, passed, message⟩ := result
  cases value with
  | none => cases message <;> rfl
  | some d =>
    -- the value is the only part that may be refused, and the parts behind it are put in after it
    have hvalue (more : List (String × Json.Draft)) :
        Stream.fromMembers slots [] (("ruleId", .text ruleId) :: ("ruleName", .text ruleName) ::
            ("field", .text field) :: ("value", d) :: more) {} =
          (Stream.whole d >>= fun j => (Decode.optional Decode.scalar j).map fun v =>
            ({ ruleId, ruleName, field, value := v } : Result)) >>= fun result =>
              Stream.fromMembers slots ["value", "field", "ruleName", "ruleId"] more result := rfl
    unfold read Stream.structure?
    simp only [List.cons_append, List.nil_append, Option.map_some, Option.toList_some,
      Option.elim_some, hvalue]
    cases Stream.whole d with
    | error fault => rfl
    | ok j =>
      show (((Decode.optional Decode.scalar j).map _ >>= _) >>= _) =
        (Decode.optional Decode.scalar j).map _
      cases Decode.optional Decode.scalar j with
      | error fault => rfl
      | ok v => cases message <;> rfl

/-- What the text of a result is read as: the result with what its value is read as. -/
theorem read_write (result : Result) :
    Stream.ofText read result.write.compact =
      (result.value.elim (.ok none) Value.reread).map fun v => { result with value := v } := by
  have htext := Json.Draft.ofText_compact result.members_isPlain
  -- nothing is left over behind the object, so its members decide
  have hwhole : Stream.ofText read result.write.compact =
      read (.object (Json.rereadMembers result.members) none) := by
    unfold Stream.ofText write
    rw [htext]
    show (read (.object (Json.rereadMembers result.members) none) >>= fun a => .ok a) = _
    cases read (.object (Json.rereadMembers result.members) none) <;> rfl
  have hdrafts := result.read_drafts
  rw [hwhole]
  obtain ⟨ruleId, ruleName, field, value, severity, passed, message⟩ := result
  cases value with
  | none =>
    refine Eq.trans ?_ (hdrafts none)
    cases message <;> rfl
  | some v =>
    rw [Option.elim_some, v.reread_toJson]
    -- the members behind the value are read only if the value is
    have hmembers : Json.rereadMembers
          (members ⟨ruleId, ruleName, field, some v, severity, passed, message⟩) =
        ("ruleId", .text ruleId) :: ("ruleName", .text ruleName) :: ("field", .text field) ::
          Json.rereadMembers (("value", v.toJson) :: ("severity", .text severity) ::
            ("passed", .boolean passed) :: (message.map fun m => ("message", .text m)).toList) := by
      cases message <;> rfl
    rw [hmembers, Json.rereadMembers]
    cases v.toJson.reread with
    | ok d =>
      refine Eq.trans ?_ (hdrafts (some d))
      cases message <;> rfl
    | error fault => rfl

end Result

/-! ### Results of an engine -/

/-- A result of an engine shows the value of its field. -/
theorem Engine.value_of_mem_validate {e : Engine} {rules : List Rule} {r : Record} {result : Result}
    (h : result ∈ (e.load rules).validate r) :
    ∃ v, result.value = some v ∧ r.get? result.field = some v := by
  have hresults : (e.load rules).validate r =
      rules.flatMap (·.results r (.ofRules rules) e.functions) :=
    RuleSet.results_eq_flatMap rules e.functions r
  rw [hresults, List.mem_flatMap] at h
  obtain ⟨rule, -, hrule⟩ := h
  obtain ⟨-, field, hfield, -, hresult⟩ := Rule.mem_results.mp hrule
  obtain ⟨outcome, -, rfl⟩ := Option.map_eq_some_iff.mp hresult
  -- a rule is evaluated on fields of the record only, and these have values
  obtain ⟨v, hv⟩ := Option.isSome_iff_exists.mp ((r.isSome_get? field).mpr hfield)
  exact ⟨v, hv, hv⟩

/-- Whatever rules are loaded, the text of each result for the record of a document is read back, as
    the result with some value `w` in place of its own.  Null becomes no value, and everything else
    keeps its kind.  Texts, truth values and integers are not changed, and neither is a real if its
    text shows few digits and a small power of ten. -/
theorem Engine.validate_reread {format : DocumentFormat} {text : String} {r : Record}
    (hr : format.readRecord text = .ok r) (e : Engine) (rules : List Rule) :
    ∀ result ∈ (e.load rules).validate r, ∃ v w, result.value = some v ∧
      Stream.ofText Result.read result.write.compact = .ok { result with value := w } ∧
      (w = none ↔ v = .null) ∧ (∀ v' ∈ w, v'.kindName = v.kindName) ∧
      (w = some v ↔ v.Survives) ∧ (v.IsShort → v ≠ .null → w = some v) := by
  intro result hresult
  obtain ⟨v, hvalue, hv⟩ := Engine.value_of_mem_validate hresult
  -- no document has a NaN or an infinity in it, so the value has a text
  have hfinite : v.IsFinite := DocumentFormat.readRecord_isFinite hr result.field v hv
  obtain ⟨w, hw, hnull, hkind⟩ := Value.reread_isOk hfinite
  have hsurvives : w = some v ↔ v.Survives := by
    rw [← Value.reread_eq_ok_iff, hw, Except.ok.injEq]
  -- only the value may differ, so the result is read with what the value is read as
  refine ⟨v, w, hvalue, ?_, hnull, hkind, hsurvives, ?_⟩
  · rw [Result.read_write, hvalue, Option.elim_some, hw]
    rfl
  · intro hshort hne
    exact hsurvives.mpr (hshort.survives hne)

/-- Two entries are never alike. -/
private def unlikeRule : Rule :=
  { id := "unlike", name := "Unlike", check := .uniqueness {} }

/-- A document with an integer, a real and a null in it. -/
private def measured : String :=
  "\x7b\"count\": 3, \"ratio\": 0.25, \"note\": null\x7d"

private def measuredRecord : Record :=
  .ofList [("count", .integer 3), ("ratio", .real (.ofRatio false 1 4)), ("note", .null)]

/-- The document is read as the record. -/
private theorem readRecord_measured :
    DocumentFormat.json.readRecord measured = .ok measuredRecord := by
  have hfields : (DocumentFormat.json.readRecord measured).toOption.map Record.fields =
      some measuredRecord.fields := by
    decide +kernel
  obtain ⟨r, hr, hsame⟩ := Option.map_eq_some_iff.mp hfields
  obtain rfl : r = measuredRecord :=
    match r, measuredRecord, hsame with
    | ⟨_, _⟩, ⟨_, _⟩, rfl => rfl
  exact Except.toOption_eq_some.mp hr

/-- The integer and the real come back, the null does not. -/
theorem Engine.validate_reread_measured :
    DocumentFormat.json.readRecord measured = .ok measuredRecord ∧
    ((({} : Engine).load [unlikeRule]).validate measuredRecord).map Result.value =
      [some (.integer 3), some (.real (.ofRatio false 1 4)), some .null] ∧
    ∀ result ∈ (({} : Engine).load [unlikeRule]).validate measuredRecord,
      Stream.ofText Result.read result.write.compact =
        .ok (if result.value = some .null then { result with value := none } else result) := by
  have hvalues : ((({} : Engine).load [unlikeRule]).validate measuredRecord).map Result.value =
      [some (.integer 3), some (.real (.ofRatio false 1 4)), some .null] := by
    decide +kernel
  have hshort : ∀ value ∈ ((({} : Engine).load [unlikeRule]).validate measuredRecord).map
      Result.value, ∀ v ∈ value, v.IsShort := by
    decide +kernel
  refine ⟨readRecord_measured, hvalues, fun result hresult => ?_⟩
  obtain ⟨v, w, hvalue, hread, hnull, -, -, hsame⟩ :=
    Engine.validate_reread readRecord_measured {} [unlikeRule] result hresult
  have hv : v.IsShort := hshort _ (List.mem_map_of_mem hresult) v hvalue
  rw [hread, hvalue]
  by_cases hv' : v = .null
  · rw [hnull.mpr hv', if_pos (congrArg some hv')]
  · have hw : w = some v := hsame hv hv'
    rw [hw, ← hvalue, if_neg (by rw [hvalue]; exact fun h => hv' (Option.some.inj h))]

/-- A result with a null in it does not come back. -/
theorem Engine.nulls_do_not_come_back :
    ¬ ∀ (format : DocumentFormat) (text : String) (r : Record), format.readRecord text = .ok r →
      ∀ (e : Engine) (rules : List Rule), ∀ result ∈ (e.load rules).validate r,
        Stream.ofText Result.read result.write.compact = .ok result := by
  intro h
  -- a field that no rule finds fault with has a result with its value, also when this is null
  have hmem : (⟨"unlike", "Unlike", "note", some .null, "error", true, none⟩ : Result) ∈
      (({} : Engine).load [unlikeRule]).validate measuredRecord := by
    decide +kernel
  have hread := h _ _ _ readRecord_measured {} [unlikeRule] _ hmem
  rw [Result.read_write] at hread
  exact nomatch congrArg Result.value (Except.ok.inj hread)

end RecordRules
