import RecordRules.Json.Reader
import RecordRules.Proofs.Except
import RecordRules.Proofs.Json.Range

/-!
# Numbers of JSON texts fit

Whatever value is read from a JSON text, its integers are those of 64-bit words and its reals
are finite.  For a real this rests on the significand: it has at most 64 bits, and from there
every step of the scaling divides by two or more, or checks what it has multiplied.
-/

namespace RecordRules

namespace JsonNumber

open Binary64

/-- A number of a text fits. -/
def Parsed.InRange : Parsed → Prop
  | integer n => isSigned64 n ∨ isUnsigned64 n
  | real x => x.isFinite

/-- Scaling a moderate number gives a finite one. -/
private theorem scale_isFinite {fuel : Nat} {x y : Binary64} {e : Int} (hx : x.Moderate)
    (h : scale fuel x e = .ok y) : y.isFinite := by
  -- each round divides a moderate number, which stays moderate
  induction fuel generalizing x e with
  | zero =>
    obtain rfl := Except.ok.inj h
    exact hx.isFinite
  | succ fuel ih =>
    unfold scale at h
    split at h
    · next hsmall =>
      simp only at h
      split at h
      · -- a product may overflow, and is refused if it does
        split at h
        · next hfin =>
          obtain rfl := Except.ok.inj h
          exact hfin
        · exact nomatch h
      · next hneg =>
        -- a quotient by a power of ten does not grow
        obtain rfl := Except.ok.inj h
        exact (hx.div (atLeastTwo_tenTo (by omega) hsmall)).isFinite
    · split at h
      · obtain rfl := Except.ok.inj h
        exact hx.isFinite
      · split at h
        · exact nomatch h
        · exact ih (hx.div (atLeastTwo_tenTo (by decide) (by decide))) h

private theorem isFinite_negate {x : Binary64} (h : x.isFinite) : x.negate.isFinite := by
  cases x with
  | finite => rfl
  | _ => exact nomatch h

/-- A significand of 64 bits, scaled and with a sign, is a finite number. -/
private theorem toReal_isFinite {negative : Bool} {n : Nat} {e : Int} {x : Binary64}
    (hn : n < twoTo 64) (h : toReal negative n e = .ok x) : x.isFinite := by
  obtain ⟨y, hy, hx⟩ := Except.bind_eq_ok.mp h
  have hfin := scale_isFinite (moderate_ofRatio false hn) hy
  obtain rfl := Except.ok.inj hx
  split
  · exact isFinite_negate hfin
  · exact hfin

/-- Digits are taken only as long as the significand has 64 bits. -/
private theorem takeDigits_lt {n count : Nat} {cs : List Char} (hn : n < twoTo 64) :
    (takeDigits n count cs).1 < twoTo 64 := by
  -- a digit more is taken only if the significand with it fits, which the reader checks
  induction cs generalizing n count with
  | nil => simpa only [takeDigits] using hn
  | cons c cs ih =>
    simp only [takeDigits]
    split
    · split
      · next hfits => exact ih (isUnsigned64_natCast.mp hfits)
      · exact hn
    · exact hn

/-- A number with an exponent is finite. -/
private theorem exponent_isFinite {negative : Bool} {n : Nat} {start : Int} {cs rest : List Char}
    {x : Binary64} (hn : n < twoTo 64) (h : exponent negative n start cs = .ok (x, rest)) :
    x.isFinite := by
  unfold exponent at h
  simp only at h
  split at h
  · exact nomatch h
  · split at h
    · exact nomatch h
    · split at h
      · split at h
        · exact nomatch h
        -- an exponent that is too large is refused, or belongs to a zero
        · obtain ⟨rfl, -⟩ := Prod.mk.inj (Except.ok.inj h)
          rfl
      · obtain ⟨y, hy, hx⟩ := Except.bind_eq_ok.mp h
        obtain ⟨rfl, -⟩ := Prod.mk.inj (Except.ok.inj hx)
        exact toReal_isFinite hn hy

/-- A number is finite, with an exponent or without. -/
private theorem optionalExponent_isFinite {negative : Bool} {n : Nat} {start : Int}
    {cs rest : List Char} {x : Binary64} (hn : n < twoTo 64)
    (h : optionalExponent negative n start cs = .ok (x, rest)) : x.isFinite := by
  unfold optionalExponent at h
  split at h
  · exact exponent_isFinite hn h
  · exact exponent_isFinite hn h
  · obtain ⟨y, hy, hx⟩ := Except.map_eq_ok.mp h
    obtain ⟨rfl, -⟩ := Prod.mk.inj hx
    exact toReal_isFinite hn hy

/-- A number with a fraction is finite, however many of its digits are dropped. -/
private theorem fraction_isFinite {negative : Bool} {n dropped : Nat} {cs rest : List Char}
    {x : Binary64} (hn : n < twoTo 64) (h : fraction negative n dropped cs = .ok (x, rest)) :
    x.isFinite := by
  have hm := @takeDigits_lt n 0 cs hn
  unfold fraction at h
  simp only at h
  -- a fraction has a digit, or one that was dropped
  split at h
  · exact nomatch h
  · split at h
    · exact optionalExponent_isFinite hm h
    · exact nomatch h
  · exact optionalExponent_isFinite hm h

/-- A number fits, whatever follows its whole digits. -/
private theorem afterWhole_inRange {negative : Bool} {n dropped : Nat} {cs rest : List Char}
    {p : Parsed} (hn : n < twoTo 64) (h : afterWhole negative n dropped cs = .ok (p, rest)) :
    p.InRange := by
  unfold afterWhole at h
  split at h
  · obtain ⟨⟨x, r⟩, hx, hp⟩ := Except.map_eq_ok.mp h
    obtain ⟨rfl, -⟩ := Prod.mk.inj hp
    exact fraction_isFinite hn hx
  · obtain ⟨⟨x, r⟩, hx, hp⟩ := Except.map_eq_ok.mp h
    obtain ⟨rfl, -⟩ := Prod.mk.inj hp
    exact exponent_isFinite hn hx
  · obtain ⟨⟨x, r⟩, hx, hp⟩ := Except.map_eq_ok.mp h
    obtain ⟨rfl, -⟩ := Prod.mk.inj hp
    exact exponent_isFinite hn hx
  · -- an integer, unless its sign makes it too small for a word
    split at h
    · obtain ⟨rfl, -⟩ := Prod.mk.inj (Except.ok.inj h)
      exact .inr (isUnsigned64_natCast.mpr hn)
    · split at h
      · next hneg =>
        obtain ⟨rfl, -⟩ := Prod.mk.inj (Except.ok.inj h)
        exact .inl (isSigned64_neg_natCast.mpr hneg.2.2)
      · obtain ⟨x, hx, hp⟩ := Except.map_eq_ok.mp h
        obtain ⟨rfl, -⟩ := Prod.mk.inj hp
        exact toReal_isFinite hn hx

/-- A number of a JSON text is an integer of a 64-bit word or a finite real. -/
theorem read_inRange {cs rest : List Char} {p : Parsed} (h : read cs = .ok (p, rest)) :
    p.InRange := by
  have hzero : 0 < twoTo 64 := twoTo_pos 64
  have hunsigned {negative : Bool} {cs : List Char}
      (h : unsigned negative cs = .ok (p, rest)) : p.InRange := by
    -- a zero stands alone, and any other digit begins the digits that are taken
    unfold unsigned at h
    split at h
    · exact nomatch h
    · split at h
      · split at h
        · exact nomatch h
        · exact afterWhole_inRange hzero h
      · exact afterWhole_inRange hzero h
    · next c cs _ =>
      split at h
      · have hm := @takeDigits_lt 0 0 (c :: cs) hzero
        generalize takeDigits 0 0 (c :: cs) = taken at h hm
        exact afterWhole_inRange hm h
      · exact nomatch h
  unfold read at h
  split at h
  · exact hunsigned h
  · exact hunsigned h

end JsonNumber

namespace Json

/-- The numbers in a draft fit. -/
inductive Draft.InRange : Draft → Prop
  | null : InRange .null
  | boolean (b : Bool) : InRange (.boolean b)
  | integer {n : Int} (h : isSigned64 n ∨ isUnsigned64 n) : InRange (.integer n)
  | real {x : Binary64} (h : x.isFinite) : InRange (.real x)
  | text (s : String) : InRange (.text s)
  | array {items : List Draft} (cut : Option JsonFault) (h : ∀ d ∈ items, InRange d) :
    InRange (.array items cut)
  | object {ms : List (String × Draft)} (cut : Option JsonFault) (h : ∀ m ∈ ms, InRange m.2) :
    InRange (.object ms cut)
  | broken (fault : JsonFault) : InRange (.broken fault)

namespace Draft

/-- A name such as `true` is read as what it stands for, or is refused. -/
private theorem literal_inRange {d : Draft} (hd : d.InRange) (letters : String)
    (cs : List Char) : (literal d letters cs).1.InRange := by
  unfold literal
  cases ident letters.toList cs with
  | ok rest => exact hd
  | error fault => exact .broken fault

private theorem string_inRange (cs : List Char) : (scalar .text (string cs)).1.InRange := by
  cases string cs with
  | ok p => exact .text p.1
  | error fault => exact .broken fault

/-- The draft of a number holds that number. -/
private theorem number_inRange (cs : List Char) :
    (scalar ofNumber (JsonNumber.read cs)).1.InRange := by
  cases h : JsonNumber.read cs with
  | ok p =>
    obtain ⟨p, rest⟩ := p
    have hp := JsonNumber.read_inRange h
    cases p with
    | integer n => exact .integer hp
    | real x => exact .real hp
  | error fault => exact .broken fault

/-! Values, items and members are read with one unit of fuel less inside: each of the next three
lemmas is the step for one of them. -/

/-- What is read as a value fits if the items and the members in it do. -/
private theorem value_inRange_succ {fuel : Nat}
    (hitems : ∀ depth first cs, ∀ d ∈ (items fuel depth first cs).1, d.InRange)
    (hmembers : ∀ depth first cs, ∀ m ∈ (members fuel depth first cs).1, m.2.InRange)
    (depth : Nat) (cs : List Char) : (value (fuel + 1) depth cs).1.InRange := by
  -- the first character tells the kind of the value
  unfold value
  split
  · exact .broken _
  · exact literal_inRange .null _ _
  · exact literal_inRange (.boolean true) _ _
  · exact literal_inRange (.boolean false) _ _
  · exact string_inRange _
  · split
    · exact .broken _
    · exact .broken _
    · simp only
      split <;> exact .array _ (hitems _ _ _)
  · split
    · exact .broken _
    · exact .broken _
    · simp only
      split <;> exact .object _ (hmembers _ _ _)
  · split
    · exact number_inRange _
    · exact .broken _

/-- The items of a list fit if the first does as a value, and the others as items. -/
private theorem items_inRange_succ {fuel : Nat}
    (hvalue : ∀ depth cs, (value fuel depth cs).1.InRange)
    (hitems : ∀ depth first cs, ∀ d ∈ (items fuel depth first cs).1, d.InRange)
    (depth : Nat) (first : Bool) (cs : List Char) :
    ∀ d ∈ (items (fuel + 1) depth first cs).1, d.InRange := by
  unfold items
  -- behind a comma the next item is read in the same way as the first one
  extract_lets next
  have hnil : ∀ d ∈ ([] : List Draft), d.InRange := fun _ hd => nomatch hd
  have hnext (cs : List Char) : ∀ d ∈ (next cs).1, d.InRange := by
    have hitem := hvalue depth cs
    unfold next
    generalize value fuel depth cs = read at hitem ⊢
    obtain ⟨item, rest⟩ := read
    cases rest with
    | none => simpa using hitem
    | some rest => exact List.forall_mem_cons.mpr ⟨hitem, hitems depth false rest⟩
  repeat' split
  all_goals first | exact hnil | exact hnext _

/-- The members of an object fit if the value of the first does, and the others as members. -/
private theorem members_inRange_succ {fuel : Nat}
    (hvalue : ∀ depth cs, (value fuel depth cs).1.InRange)
    (hmembers : ∀ depth first cs, ∀ m ∈ (members fuel depth first cs).1, m.2.InRange)
    (depth : Nat) (first : Bool) (cs : List Char) :
    ∀ m ∈ (members (fuel + 1) depth first cs).1, m.2.InRange := by
  unfold members
  -- behind a comma the next member is read in the same way as the first one
  extract_lets next
  have hnil : ∀ m ∈ ([] : List (String × Draft)), m.2.InRange := fun _ hm => nomatch hm
  have hnext (cs : List Char) : ∀ m ∈ (next cs).1, m.2.InRange := by
    unfold next
    split
    · exact hnil
    · split
      · exact hnil
      · next rest _ =>
        have hitem := hvalue depth rest
        generalize value fuel depth rest = read at hitem ⊢
        obtain ⟨item, rest⟩ := read
        cases rest with
        | none => simpa using hitem
        | some rest => exact List.forall_mem_cons.mpr ⟨hitem, hmembers depth false rest⟩
      · exact hnil
  repeat' split
  all_goals first | exact hnil | exact hnext _

/-- What a text holds from a place on fits, whether it is read as a value, as the items of a
    list or as the members of an object. -/
private theorem value_items_members_inRange (fuel : Nat) :
    (∀ depth cs, (value fuel depth cs).1.InRange) ∧
    (∀ depth first cs, ∀ d ∈ (items fuel depth first cs).1, d.InRange) ∧
    (∀ depth first cs, ∀ m ∈ (members fuel depth first cs).1, m.2.InRange) := by
  -- the three call each other with less fuel, so they are proved together
  induction fuel with
  | zero =>
    refine ⟨fun _ _ => .broken _, fun _ _ _ d hd => ?_, fun _ _ _ m hm => ?_⟩
    · exact nomatch hd
    · exact nomatch hm
  | succ fuel ih =>
    obtain ⟨hvalue, hitems, hmembers⟩ := ih
    exact ⟨value_inRange_succ hitems hmembers, items_inRange_succ hvalue hitems,
      members_inRange_succ hvalue hmembers⟩

/-- The values of items fit if the value of each draft does. -/
private theorem itemsToJson_inRange {ds : List Draft} {js : List Json}
    (hd : ∀ d ∈ ds, ∀ j, d.toJson = .ok j → j.InRange) (h : itemsToJson ds = .ok js) :
    ∀ j ∈ js, j.InRange := by
  -- the first item has a value, and the rest have theirs
  induction ds generalizing js with
  | nil =>
    obtain rfl := Except.ok.inj h
    exact fun _ hj => nomatch hj
  | cons d ds ih =>
    obtain ⟨j, hj, h⟩ := Except.bind_eq_ok.mp h
    obtain ⟨js', hjs, h⟩ := Except.bind_eq_ok.mp h
    obtain rfl := Except.ok.inj h
    rw [List.forall_mem_cons] at hd ⊢
    exact ⟨hd.1 j hj, ih hd.2 hjs⟩

/-- The values of members fit if the value of each draft does. -/
private theorem membersToJson_inRange {ds : List (String × Draft)} {ms : List (String × Json)}
    (hd : ∀ d ∈ ds, ∀ j, d.2.toJson = .ok j → j.InRange) (h : membersToJson ds = .ok ms) :
    ∀ m ∈ ms, m.2.InRange := by
  induction ds generalizing ms with
  | nil =>
    obtain rfl := Except.ok.inj h
    exact fun _ hm => nomatch hm
  | cons d ds ih =>
    obtain ⟨key, d⟩ := d
    obtain ⟨j, hj, h⟩ := Except.bind_eq_ok.mp h
    obtain ⟨ms', hms, h⟩ := Except.bind_eq_ok.mp h
    obtain rfl := Except.ok.inj h
    rw [List.forall_mem_cons] at hd ⊢
    exact ⟨hd.1 j hj, ih hd.2 hms⟩

/-- The value of a draft whose numbers fit has numbers that fit. -/
theorem InRange.toJson {d : Draft} (hd : d.InRange) {j : Json} (h : d.toJson = .ok j) :
    j.InRange := by
  -- by induction on why the numbers of the draft fit; a draft that was cut gives no value
  induction hd generalizing j with
  | null => exact Except.ok.inj h ▸ .null
  | boolean b => exact Except.ok.inj h ▸ .boolean b
  | integer hn => exact Except.ok.inj h ▸ .integer hn
  | real hx => exact Except.ok.inj h ▸ .real hx
  | text s => exact Except.ok.inj h ▸ .text s
  | array cut _ ih =>
    obtain ⟨js, hjs, h⟩ := Except.bind_eq_ok.mp h
    cases cut with
    | none => exact Except.ok.inj h ▸ .array (itemsToJson_inRange (fun d hd _ => ih d hd) hjs)
    | some fault => exact nomatch h
  | object cut _ ih =>
    obtain ⟨ms, hms, h⟩ := Except.bind_eq_ok.mp h
    cases cut with
    | none =>
      exact Except.ok.inj h ▸ inRange_ofMembers (membersToJson_inRange (fun d hd _ => ih d hd) hms)
    | some fault => exact nomatch h
  | broken fault => exact nomatch h

/-- The values of members whose numbers fit have numbers that fit. -/
theorem InRange.membersToJson {ds : List (String × Draft)} (hd : ∀ d ∈ ds, d.2.InRange)
    {ms : List (String × Json)} (h : membersToJson ds = .ok ms) : ∀ m ∈ ms, m.2.InRange :=
  membersToJson_inRange (fun d hmem _ => (hd d hmem).toJson) h

/-- The numbers in the draft of a JSON text fit. -/
theorem ofText_inRange (s : String) : (ofText s).1.InRange := by
  have hvalue := (value_items_members_inRange (2 * s.toList.length + 2)).1 maxDepth s.toList
  unfold ofText
  simp only
  split <;> exact hvalue

end Draft

/-- The numbers in the value of a JSON text fit. -/
theorem ofText_inRange {s : String} {j : Json} (h : ofText s = .ok j) : j.InRange := by
  obtain ⟨v, hv, h⟩ := Except.bind_eq_ok.mp h
  have hin := (Draft.ofText_inRange s).toJson hv
  split at h
  · exact nomatch h
  · exact Except.ok.inj h ▸ hin

end Json
end RecordRules
