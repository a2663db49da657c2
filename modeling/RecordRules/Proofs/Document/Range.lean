import Mathlib.Data.Option.Basic
import RecordRules.Document.Reading
import RecordRules.Proofs.Json.Reading
import RecordRules.Proofs.Wire.Structure

/-!
# Numbers of documents fit

Documents are written as JSON, YAML or TOML.  Whatever the format, the value that is read from
a document has integers of 64-bit words and finite reals only: YAML and TOML refuse larger
integers, and their infinities and NaNs become null.  So a record that is read from a document has
finite values.

## Key results

- `DocumentFormat.readValue_inRange`, `DocumentFormat.readFields_inRange`: numbers of documents fit
- `DocumentFormat.readRecord_isFinite`: no value of a record is a NaN or an infinity
-/

namespace RecordRules

namespace Yaml

open Json

/-- The integer that a plain YAML scalar denotes fits, as larger ones are refused. -/
private theorem integerValue?_inRange {cs : List Char} {j : Json}
    (h : Scalar.integerValue? cs = some (some j)) : j.InRange := by
  obtain ⟨n, -, hn⟩ := Option.bind_eq_some_iff.mp h
  -- of the integers that do not fit none gives a value
  split at hn
  · next hfits =>
    obtain rfl := Option.some.inj (Option.some.inj hn)
    exact .integer (by simpa using hfits)
  · split at hn
    · exact nomatch Option.some.inj hn
    · exact nomatch hn

/-- What a plain YAML scalar denotes fits, whichever of the readings it has. -/
private theorem meaning?_inRange {s : String} {j : Json} (h : Scalar.meaning? s = some j) :
    j.InRange := by
  -- null, truth values, integers and reals are tried in this order, and the rest is text
  unfold Scalar.meaning? at h
  split at h
  · exact Option.some.inj h ▸ .null
  · split at h
    · exact Option.some.inj h ▸ .boolean _
    · split at h
      · next hv => exact integerValue?_inRange (h ▸ hv)
      · split at h
        · exact Option.some.inj h ▸ .text s
        · split at h
          · exact Option.some.inj h ▸ inRange_ofReal _
          · exact Option.some.inj h ▸ .text s

/-- What a YAML scalar denotes under a tag fits. -/
private theorem tagged?_inRange {tag : List Char} {s : String} {j : Json}
    (h : Scalar.tagged? tag s = some j) : j.InRange := by
  -- the tag decides the kind, and an unknown tag leaves the text
  unfold Scalar.tagged? at h
  split at h
  · obtain ⟨b, -, rfl⟩ := Option.map_eq_some_iff.mp h
    exact .boolean b
  · split at h
    · exact integerValue?_inRange (Option.join_eq_some_iff.mp h)
    · split at h
      · obtain ⟨x, -, rfl⟩ := Option.map_eq_some_iff.mp h
        exact inRange_ofReal x
      · split at h
        · split at h
          · exact Option.some.inj h ▸ .null
          · exact nomatch h
        · exact Option.some.inj h ▸ .text s

/-- The value of a YAML scalar fits, tagged or plain or quoted. -/
private theorem scalarValue_inRange {tag : Option (List Char)} {plain : Bool} {text : String}
    {j : Json} (h : scalarValue tag plain text = some j) : j.InRange := by
  unfold scalarValue at h
  split at h
  · exact tagged?_inRange h
  · split at h
    · exact meaning?_inRange h
    · exact Option.some.inj h ▸ .text text

/-- Two steps in a row give a result exactly when the first gives one that the second goes on from.
    -/
private theorem run_bind_eq_some {α β : Type} {x : Following α} {f : α → Following β} {n : Nat}
    {r : β × Nat} :
    (x >>= f).run n = some r ↔ ∃ a n₁, x.run n = some (a, n₁) ∧ (f a).run n₁ = some r := by
  simp only [StateT.run_bind, Option.bind_eq_bind, Option.bind_eq_some_iff, Prod.exists]

/-- What a reader gives of every item holds of the list that is read. -/
private theorem readEach_forall {α β : Type} {P : β → Prop} {read : α → Following β}
    (hread : ∀ a n b n', (read a).run n = some (b, n') → P b) {as : List α} {bs : List β}
    {n n' : Nat} (h : (readEach read as).run n = some (bs, n')) : ∀ b ∈ bs, P b := by
  -- the counter differs from item to item, so the induction is for all counters
  induction as generalizing bs n n' with
  | nil =>
    obtain ⟨rfl, -⟩ := Prod.mk.inj (Option.some.inj h)
    exact fun _ hb => nomatch hb
  | cons a as ih =>
    obtain ⟨b, n₁, hb, h⟩ := run_bind_eq_some.mp h
    obtain ⟨bs', n₂, hbs, h⟩ := run_bind_eq_some.mp h
    obtain ⟨rfl, -⟩ := Prod.mk.inj (Option.some.inj h)
    exact List.forall_mem_cons.mpr ⟨hread a n b n₁ hb, ih hbs⟩

/-- The value of an entry fits if the values of nodes do. -/
private theorem readEntry_inRange {refs : References} {read : Node → Following Json}
    (hread : ∀ node n j n', (read node).run n = some (j, n') → j.InRange)
    (entry : Node × Node) (n : Nat) (m : String × Json) (n' : Nat)
    (h : (readEntry refs read entry).run n = some (m, n')) : m.2.InRange := by
  obtain ⟨name, n₁, -, h⟩ := run_bind_eq_some.mp h
  obtain ⟨j, n₂, hj, h⟩ := run_bind_eq_some.mp h
  obtain ⟨rfl, -⟩ := Prod.mk.inj (Option.some.inj h)
  exact hread entry.2 n₁ j n₂ hj

/-- The values of nodes fit when those of the nodes one level below do. -/
private theorem readValue_inRange_step {refs : References} {depth : Nat}
    (hbelow : ∀ d, depth = d + 1 → ∀ node n j n',
      (readValue refs d node).run n = some (j, n') → j.InRange)
    (node : Node) (n : Nat) (j : Json) (n' : Nat)
    (h : (readValue refs depth node).run n = some (j, n')) : j.InRange := by
  unfold readValue at h
  obtain ⟨target, n₁, -, h⟩ := run_bind_eq_some.mp h
  split at h
  -- the target of the node is missing, a scalar, a sequence or a mapping
  · exact nomatch h
  · obtain ⟨_, n₂, -, h⟩ := run_bind_eq_some.mp h
    obtain ⟨v, hv, h⟩ := Option.bind_eq_some_iff.mp h
    obtain ⟨rfl, -⟩ := Prod.mk.inj (Option.some.inj h)
    exact scalarValue_inRange hv
  · obtain ⟨_, n₂, -, h⟩ := run_bind_eq_some.mp h
    cases depth with
    | zero => exact nomatch h
    | succ d =>
      obtain ⟨items, n₃, hitems, h⟩ := run_bind_eq_some.mp h
      obtain ⟨rfl, -⟩ := Prod.mk.inj (Option.some.inj h)
      exact .array (readEach_forall (hbelow d rfl) hitems)
  · obtain ⟨_, n₂, -, h⟩ := run_bind_eq_some.mp h
    cases depth with
    | zero => exact nomatch h
    | succ d =>
      obtain ⟨ms, n₃, hms, h⟩ := run_bind_eq_some.mp h
      obtain ⟨rfl, -⟩ := Prod.mk.inj (Option.some.inj h)
      exact inRange_ofMembers (readEach_forall (readEntry_inRange (hbelow d rfl)) hms)

/-- The value of a node fits, however deep the node stands. -/
private theorem readValue_inRange {refs : References} {depth : Nat} (node : Node) (n : Nat)
    (j : Json) (n' : Nat) (h : (readValue refs depth node).run n = some (j, n')) :
    j.InRange := by
  -- the depth is the one bound that falls from a node to the nodes in it
  induction depth generalizing node n j n' with
  | zero =>
    refine readValue_inRange_step (fun d hd => ?_) node n j n' h
    exact absurd hd.symm (Nat.succ_ne_zero d)
  | succ depth ih =>
    refine readValue_inRange_step (fun d hd => ?_) node n j n' h
    obtain rfl := Nat.succ.inj hd
    exact ih

/-- The numbers in the value of a YAML text fit. -/
theorem valueOfText?_inRange {text : String} {j : Json} (h : valueOfText? text = some j) :
    j.InRange := by
  obtain ⟨root, -, h⟩ := Option.bind_eq_some_iff.mp h
  -- an empty document is null
  split at h
  · exact Option.some.inj h ▸ .null
  · obtain ⟨⟨j', n⟩, hj, rfl⟩ := Option.map_eq_some_iff.mp h
    exact readValue_inRange _ _ _ _ hj

/-- The numbers in the entries of a YAML text fit. -/
theorem membersOfText?_inRange {text : String} {ms : List (String × Json)}
    (h : membersOfText? text = some ms) : ∀ m ∈ ms, m.2.InRange := by
  have hnone : ∀ m ∈ ([] : List (String × Json)), m.2.InRange := fun _ hm => nomatch hm
  obtain ⟨root, -, h⟩ := Option.bind_eq_some_iff.mp h
  split at h
  · exact Option.some.inj h ▸ hnone
  · exact Option.some.inj h ▸ hnone
  · obtain ⟨⟨ms', n⟩, hms, rfl⟩ := Option.map_eq_some_iff.mp h
    exact readEach_forall (readEntry_inRange readValue_inRange) hms
  · exact nomatch h

end Yaml

namespace Toml

open Json

variable {inRange : Int → Bool}

/-- A TOML scalar fits as JSON if the integers that are let through do. -/
private theorem scalar_inRange (hrange : ∀ n, inRange n → isSigned64 n ∨ isUnsigned64 n)
    {s : Scalar} {j : Json} (h : s.toJson? inRange = some j) : j.InRange := by
  cases s with
  | text s => exact Option.some.inj h ▸ .text s
  | integer n =>
    simp only [Scalar.toJson?] at h
    split at h
    · next hfits => exact Option.some.inj h ▸ .integer (hrange n hfits)
    · exact nomatch h
  | real x => exact Option.some.inj h ▸ inRange_ofReal x
  | boolean b => exact Option.some.inj h ▸ .boolean b
  | moment s =>
    -- a date is an object with one member, which holds its text
    refine Option.some.inj h ▸ .object fun m hm => ?_
    rw [List.mem_singleton.mp hm]
    exact .text s

mutual

/-- The numbers in the value of a part of a TOML document fit. -/
theorem Value.toJson?_inRange (hrange : ∀ n, inRange n → isSigned64 n ∨ isUnsigned64 n) :
    ∀ (v : Value) {j : Json}, v.toJson? inRange = some j → j.InRange
  | .scalar s, j, h => scalar_inRange hrange h
  | .array items, j, h | .tables items, j, h => by
    obtain ⟨js, hjs, rfl⟩ := Option.map_eq_some_iff.mp h
    exact .array (itemsToJson?_inRange hrange items hjs)
  | .table _ entries, j, h => by
    obtain ⟨ms, hms, rfl⟩ := Option.map_eq_some_iff.mp h
    exact inRange_ofMembers (entriesToJson?_inRange hrange entries hms)

/-- The items of a TOML array fit. -/
theorem itemsToJson?_inRange (hrange : ∀ n, inRange n → isSigned64 n ∨ isUnsigned64 n) :
    ∀ (items : List Value) {js : List Json}, itemsToJson? inRange items = some js →
      ∀ j ∈ js, j.InRange
  | [], js, h => by
    obtain rfl := Option.some.inj h
    exact fun _ hj => nomatch hj
  | item :: rest, js, h => by
    obtain ⟨j, hj, h⟩ := Option.bind_eq_some_iff.mp h
    obtain ⟨js', hjs, h⟩ := Option.bind_eq_some_iff.mp h
    obtain rfl := Option.some.inj h
    exact List.forall_mem_cons.mpr
      ⟨item.toJson?_inRange hrange hj, itemsToJson?_inRange hrange rest hjs⟩

/-- The entries of a TOML table fit. -/
theorem entriesToJson?_inRange (hrange : ∀ n, inRange n → isSigned64 n ∨ isUnsigned64 n) :
    ∀ (entries : List (String × Value)) {ms : List (String × Json)},
      entriesToJson? inRange entries = some ms → ∀ m ∈ ms, m.2.InRange
  | [], ms, h => by
    obtain rfl := Option.some.inj h
    exact fun _ hm => nomatch hm
  | (key, item) :: rest, ms, h => by
    obtain ⟨j, hj, h⟩ := Option.bind_eq_some_iff.mp h
    obtain ⟨ms', hms, h⟩ := Option.bind_eq_some_iff.mp h
    obtain rfl := Option.some.inj h
    exact List.forall_mem_cons.mpr
      ⟨item.toJson?_inRange hrange hj, entriesToJson?_inRange hrange rest hms⟩

end

/-- The integers that rules may have are those of words with and without a sign. -/
private theorem inRange_isRuleInteger (n : Int) (h : isRuleInteger n) :
    isSigned64 n ∨ isUnsigned64 n := by
  simpa [isRuleInteger] using h

/-- The numbers in the value of a TOML text fit. -/
theorem valueOfText?_inRange {text : String} {j : Json} (h : valueOfText? text = some j) :
    j.InRange := by
  obtain ⟨entries, -, h⟩ := Option.bind_eq_some_iff.mp h
  obtain ⟨ms, hms, h⟩ := Option.bind_eq_some_iff.mp h
  exact Option.some.inj h ▸
    inRange_ofMembers (entriesToJson?_inRange inRange_isRuleInteger entries hms)

/-- The numbers in the entries of a TOML text fit. -/
theorem membersOfText?_inRange {text : String} {ms : List (String × Json)}
    (h : membersOfText? text = some ms) : ∀ m ∈ ms, m.2.InRange := by
  obtain ⟨entries, -, h⟩ := Option.bind_eq_some_iff.mp h
  obtain ⟨ms', hms, h⟩ := Option.bind_eq_some_iff.mp h
  obtain rfl := Option.some.inj h
  have hentries := entriesToJson?_inRange (fun _ => .inl) entries hms
  intro m hm
  obtain ⟨⟨entry, m'⟩, hentry, rfl⟩ := List.mem_map.mp hm
  -- a date has become a text
  unfold field
  split
  · exact .text _
  · next heq =>
    obtain ⟨rfl, rfl⟩ := Prod.mk.inj heq
    exact hentries _ (List.of_mem_zip hentry).2

end Toml

/-- The numbers in the value of a document fit, whatever its format. -/
theorem DocumentFormat.readValue_inRange {format : DocumentFormat} {text : String} {j : Json}
    (h : format.readValue text = .ok j) : j.InRange := by
  cases format with
  | json => exact Json.ofText_inRange (Except.mapError_eq_ok.mp h)
  | yaml =>
    unfold readValue at h
    cases hv : Yaml.valueOfText? text with
    | none => rw [hv] at h; exact nomatch h
    | some v =>
      rw [hv] at h
      exact Except.ok.inj h ▸ Yaml.valueOfText?_inRange hv
  | toml =>
    unfold readValue at h
    cases hv : Toml.valueOfText? text with
    | none => rw [hv] at h; exact nomatch h
    | some v =>
      rw [hv] at h
      exact Except.ok.inj h ▸ Toml.valueOfText?_inRange hv

namespace Fields

/-- The numbers in the members of the object that a JSON text holds fit. -/
theorem ofJsonText_inRange {text : String} {ms : List (String × Json)}
    (h : ofJsonText text = .ok ms) : ∀ m ∈ ms, m.2.InRange := by
  have hdraft := Json.Draft.ofText_inRange text
  unfold ofJsonText at h
  generalize Json.Draft.ofText text = parsed at h hdraft
  obtain ⟨draft, after⟩ := parsed
  -- only an object has members, and each of them is a value that fits
  cases hdraft with
  | object cut hms =>
    simp only at h
    split at h
    · exact nomatch h
    · next hvalues =>
      split at h
      · exact nomatch h
      · exact Except.ok.inj h ▸ Json.Draft.InRange.membersToJson hms hvalues
  | _ => exact nomatch h

end Fields

/-- The numbers in the fields of a document fit, whatever its format. -/
theorem DocumentFormat.readFields_inRange {format : DocumentFormat} {text : String}
    {ms : List (String × Json)} (h : format.readFields text = .ok ms) : ∀ m ∈ ms, m.2.InRange := by
  cases format with
  | json => exact Fields.ofJsonText_inRange (Except.mapError_eq_ok.mp h)
  | yaml =>
    unfold readFields at h
    cases hms : Yaml.membersOfText? text with
    | none => rw [hms] at h; exact nomatch h
    | some ms' =>
      rw [hms] at h
      exact Except.ok.inj h ▸ Yaml.membersOfText?_inRange hms
  | toml =>
    unfold readFields at h
    cases hms : Toml.membersOfText? text with
    | none => rw [hms] at h; exact nomatch h
    | some ms' =>
      rw [hms] at h
      exact Except.ok.inj h ▸ Toml.membersOfText?_inRange hms

/-! ### Records -/

/-- A scalar whose number fits is finite. -/
theorem Decode.isFinite_of_scalar? {j : Json} (hj : j.InRange) {v : Value}
    (h : scalar? j = some v) : v.IsFinite := by
  cases hj with
  | integer hn =>
    simp only [scalar?] at h
    split at h
    · exact Option.some.inj h ▸ trivial
    · -- an integer that does not fit has become a real
      exact Option.some.inj h ▸ (Binary64.moderate_ofInt hn).isFinite
  | real hx => exact Option.some.inj h ▸ hx
  | null | boolean _ | text _ => exact Option.some.inj h ▸ trivial
  | array _ | object _ => cases h

/-- No value of a record is a NaN or an infinity. -/
def Record.IsFinite (r : Record) : Prop :=
  ∀ name, ∀ v ∈ r.get? name, v.IsFinite

/-- A record stays finite when a finite value is put into it. -/
theorem Record.IsFinite.put {r : Record} (hr : r.IsFinite) (name : String) {v : Value}
    (hv : v.IsFinite) : (r.put name v).IsFinite := by
  intro other w hw
  -- the field is the one that is put, or one that was there
  -- the field is the one that is put, or one that was there
  by_cases hother : other = name
  · rw [hother, get?_put_self] at hw
    exact Option.some.inj hw ▸ hv
  · rw [get?_put_of_ne r v hother] at hw
    exact hr other w hw

namespace Fields

/-- Members with each name once are members all the same. -/
theorem mem_of_mem_distinct {ms : List (String × Json)} {m : String × Json}
    (hm : m ∈ distinct ms) : m ∈ ms := by
  -- the fields that are put already have to be named for the induction
  have hfold : ∀ (ms fields : List (String × Json)),
      m ∈ ms.foldl (fun fields field => Named.put field.1 field.2 fields) fields →
        m ∈ ms ∨ m ∈ fields := by
    intro ms
    induction ms with
    | nil => exact fun _ => .inr
    | cons first ms ih =>
      intro fields hm
      rcases ih _ hm with hm | hm
      · exact .inl (List.mem_cons_of_mem _ hm)
      · rcases Named.mem_put hm with rfl | hm
        · exact .inl List.mem_cons_self
        · exact .inr hm
  exact (hfold ms [] hm).resolve_right List.not_mem_nil

/-- Members that fit keep a record finite. -/
theorem readFrom_isFinite {r r' : Record} (hr : r.IsFinite) {ms : List (String × Json)}
    (hms : ∀ m ∈ ms, m.2.InRange) (h : readFrom r ms = .ok r') : r'.IsFinite := by
  induction ms generalizing r with
  | nil => exact Except.ok.inj h ▸ hr
  | cons m ms ih =>
    obtain ⟨name, j⟩ := m
    rw [List.forall_mem_cons] at hms
    obtain ⟨v, hv, h⟩ := Except.bind_eq_ok.mp h
    -- a member that is no scalar ends the reading
    unfold scalar at hv
    split at hv
    · next w hscalar =>
      obtain rfl := Except.ok.inj hv
      exact ih (hr.put name (Decode.isFinite_of_scalar? hms.1 hscalar)) hms.2 h
    · exact nomatch hv

end Fields

/-- The values of the record that a document holds are finite, whatever its format. -/
theorem DocumentFormat.readRecord_isFinite {format : DocumentFormat} {text : String} {r : Record}
    (h : format.readRecord text = .ok r) : r.IsFinite := by
  obtain ⟨ms, hms, h⟩ := Except.bind_eq_ok.mp h
  have hfields := readFields_inRange hms
  have hempty : Record.empty.IsFinite := fun _ v hv => absurd hv (Option.not_mem_none v)
  exact Fields.readFrom_isFinite hempty
    (fun m hm => hfields m (Fields.mem_of_mem_distinct hm)) h

end RecordRules
