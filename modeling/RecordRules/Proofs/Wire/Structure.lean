import Mathlib.Data.List.Pairwise
import RecordRules.Check.Range
import RecordRules.Proofs.Except
import RecordRules.Proofs.Json.Range
import RecordRules.Rule.CheckCodec

/-!
# Reading structures: order of members, and what every slot keeps

A structure is read member by member.  When putting values into two slots commutes, the order
of distinct members does not matter (`structure?_perm`), so that a structure can be read from
its sorted members as if they stood in the order in which they are written.  A property that
every slot keeps holds of whatever is read (`structure?_inv`).

## Key results

- `fromMembers_perm`, `structure?_perm`: members may stand in any order
- `Reads.optionalMember`: reading a member that is written only when it has a value
- `Reads.read_of_perm`: members that turn the initial structure into one are read as it
- `structure?_inv`: a property of the parts is one of the structure
- `Codec.read_of_perm`, `Codec.of_read`: what is written is read back, and what is read can be
  written
-/

namespace RecordRules

/-- A value is no NaN and no infinity. -/
def Value.IsFinite : Value → Prop
  | .real x => x.isFinite
  | _ => True

namespace Decode

variable {σ α β : Type}

/-! ## Order of members -/

/-- Values can be put into two slots in either order. -/
def Slot.Independent (a b : Slot σ) : Prop :=
  ∀ i j s t, (a.put i s >>= b.put j) = .ok t ↔ (b.put j s >>= a.put i) = .ok t

instance : Std.Symm (@Slot.Independent σ) :=
  ⟨fun _ _ h i j s t => (h j i s t).symm⟩

/-- Setters that commute make independent slots.  Slots that set one part each have setters that
    commute by definition, so for the list of the slots of a structure `simp` needs only this. -/
@[simp] theorem Slot.independent_of_comm {nameA nameB : String} {requiredA requiredB : Bool}
    {readA : Json → Decoded α} {readB : Json → Decoded β} {setA : α → σ → σ} {setB : β → σ → σ}
    (hcomm : ∀ x y s, setB y (setA x s) = setA x (setB y s)) :
    Slot.Independent ⟨nameA, requiredA, fun j s => (readA j).map (setA · s)⟩
      ⟨nameB, requiredB, fun j s => (readB j).map (setB · s)⟩ := by
  intro i j s t
  cases hA : readA i <;> cases hB : readB j <;>
    simp [hA, hB, bind, Except.bind, Except.map, hcomm]

/-- Puts one member into its slot, if there is one. -/
def putMember (slots : List (Slot σ)) (s : σ) (m : String × Json) : Decoded σ :=
  (slots.find? (·.name = m.1)).elim (.ok s) (·.put m.2 s)

/-- Reading members is putting one after the other into its slot. -/
theorem fromMembers_eq_foldlM (slots : List (Slot σ)) (ms : List (String × Json)) (s : σ) :
    fromMembers slots ms s = ms.foldlM (putMember slots) s := by
  induction ms generalizing s with
  | nil => rfl
  | cons m ms ih =>
    obtain ⟨key, j⟩ := m
    rw [fromMembers, List.foldlM_cons]
    cases hf : slots.find? (·.name = key) with
    | none => simpa [putMember, hf, bind, Except.bind] using ih s
    | some slot => simp [putMember, hf, ih]

/-- Two members with different keys can be put in either order. -/
private theorem putMember_comm {slots : List (Slot σ)} (hi : slots.Pairwise Slot.Independent)
    {m m' : String × Json} (hne : m.1 ≠ m'.1) {s u t : σ} (hu : putMember slots s m = .ok u)
    (ht : putMember slots u m' = .ok t) :
    ∃ u', putMember slots s m' = .ok u' ∧ putMember slots u' m = .ok t := by
  unfold putMember at *
  -- a member without a slot leaves the structure alone, before and after
  cases ha : slots.find? (·.name = m.1) with
  | none =>
    rw [ha] at hu
    obtain rfl := Except.ok.inj hu
    exact ⟨t, ht, rfl⟩
  | some a =>
    rw [ha] at hu
    cases hb : slots.find? (·.name = m'.1) with
    | none =>
      rw [hb] at ht
      obtain rfl := Except.ok.inj ht
      exact ⟨s, rfl, hu⟩
    | some b =>
      rw [hb] at ht
      have hna : a.name = m.1 := by simpa using List.find?_some ha
      have hnb : b.name = m'.1 := by simpa using List.find?_some hb
      have hab : a ≠ b := fun hab => hne (by rw [← hna, ← hnb, hab])
      -- the keys differ, so these are two slots of the structure, and independent
      have hind := hi.forall (List.mem_of_find?_eq_some ha) (List.mem_of_find?_eq_some hb) hab
      exact Except.bind_eq_ok.mp ((hind m.2 m'.2 s t).mp (Except.bind_eq_ok.mpr ⟨u, hu, ht⟩))

/-- Members with distinct keys can be read in any order. -/
theorem fromMembers_perm {slots : List (Slot σ)} (hi : slots.Pairwise Slot.Independent)
    {ms ms' : List (String × Json)} (hp : ms.Perm ms') (hn : (ms.map Prod.fst).Nodup) {s t : σ}
    (h : fromMembers slots ms s = .ok t) : fromMembers slots ms' s = .ok t := by
  rw [fromMembers_eq_foldlM] at h ⊢
  -- the induction is on why the two lists are permutations of each other
  induction hp generalizing s with
  | nil => exact h
  | cons m _ ih =>
    rw [List.foldlM_cons, Except.bind_eq_ok] at h ⊢
    obtain ⟨u, hu, h⟩ := h
    exact ⟨u, hu, ih (List.nodup_cons.mp hn).2 h⟩
  | swap m m' ms =>
    -- two members change places; their keys differ, so they go into different slots
    have hne : m'.1 ≠ m.1 := by
      simp only [List.map_cons, List.nodup_cons, List.mem_cons, not_or] at hn
      exact hn.1.1
    simp only [List.foldlM_cons, Except.bind_eq_ok] at h ⊢
    obtain ⟨u, hu, v, hv, h⟩ := h
    obtain ⟨u', hu', hv'⟩ := putMember_comm hi hne hu hv
    exact ⟨u', hu', v, hv', h⟩
  | trans hp _ ih ih' => exact ih' ((hp.map Prod.fst).nodup_iff.mp hn) (ih hn h)

/-- Whether a mandatory member is missing does not depend on their order. -/
theorem missing?_perm (slots : List (Slot σ)) {ms ms' : List (String × Json)}
    (hp : ms.Perm ms') : missing? slots ms = missing? slots ms' := by
  -- a slot asks whether some member has its name
  have hany (slot : Slot σ) :
      ms.any (fun m => decide (m.1 = slot.name)) = ms'.any (fun m => decide (m.1 = slot.name)) :=
    hp.any_eq
  simp only [missing?, hany]

/-- A structure may be read from its members in any order. -/
theorem structure?_perm {title : String} {slots : List (Slot σ)} {start t : σ}
    (hi : slots.Pairwise Slot.Independent) {ms ms' : List (String × Json)} (hp : ms.Perm ms')
    (hn : (ms.map Prod.fst).Nodup) (h : structure? title slots start (.object ms) = .ok t) :
    structure? title slots start (.object ms') = .ok t := by
  simp only [structure?, Except.bind_eq_ok, missing?_perm slots hp] at h ⊢
  obtain ⟨u, hu, h⟩ := h
  exact ⟨u, fromMembers_perm hi hp hn hu, h⟩

/-! ## Reading what was written -/

/-- What an optional part is read as, given what stands under its key if anything does. -/
def optionalOf (read : Json → Decoded α) : Option Json → Decoded (Option α)
  | none => .ok none
  | some j => optional read j

/-- Members with keys among `names`, each at most once, turn the structure `s` into `t`. -/
structure Reads (slots : List (Slot σ)) (names : List String) (ms : List (String × Json))
    (s t : σ) : Prop where
  keys : (ms.map Prod.fst).Sublist names
  value : fromMembers slots ms s = .ok t

theorem Reads.nil (slots : List (Slot σ)) (s : σ) : Reads slots [] [] s s where
  keys := .slnil
  value := rfl

/-- A key may be left out. -/
theorem Reads.skip {slots : List (Slot σ)} {names : List String} {ms : List (String × Json)}
    {s t : σ} (h : Reads slots names ms s t) (name : String) :
    Reads slots (name :: names) ms s t :=
  ⟨h.keys.cons name, h.value⟩

/-- A member is put into its slot. -/
theorem Reads.member {slots : List (Slot σ)} {name : String} {required : Bool}
    {read : Json → Decoded α} {set : α → σ → σ} {names : List String} {j : Json}
    {ms : List (String × Json)} {a : α} {s t : σ}
    (hf : slots.find? (·.name = name) = some ⟨name, required, fun j s => (read j).map (set · s)⟩)
    (hj : read j = .ok a) (h : Reads slots names ms (set a s) t) :
    Reads slots (name :: names) ((name, j) :: ms) s t where
  keys := h.keys.cons_cons name
  -- the slot is found by the key of the member, and the value is put there
  value := by
    rw [fromMembers, hf]
    simp only [hj]
    exact h.value

/-- A member that is written only when it has a value is put into its slot, or is missing
    where its slot has no value. -/
theorem Reads.optionalMember {slots : List (Slot σ)} {name : String} {read : Json → Decoded α}
    {set : Option α → σ → σ} {write : β → Json} {names : List String} {v : Option β}
    {ms : List (String × Json)} {w : Option α} {s t : σ}
    (hf : slots.find? (·.name = name) = some (Slot.optional name (optional read) set))
    (hv : optionalOf read (v.map write) = .ok w) (hs : set none s = s)
    (h : Reads slots names ms (set w s) t) :
    Reads slots (name :: names) (RecordRules.optionalMember name write v ++ ms) s t := by
  -- the member is there exactly if there is a value
  cases v with
  | none =>
    -- nothing was written, and nothing is what the slot starts with
    obtain rfl := Except.ok.inj hv
    rw [hs] at h
    exact h.skip name
  | some b => exact h.member hf hv

/-- Other keys do not occur. -/
theorem Reads.notMem_keys {slots : List (Slot σ)} {names : List String}
    {ms : List (String × Json)} {s t : σ} (h : Reads slots names ms s t) {name : String}
    (hname : name ∉ names) : name ∉ ms.map Prod.fst :=
  fun hmem => hname (h.keys.subset hmem)

/-- A structure is read from the members that turn the initial one into it, in whatever order
    they stand. -/
theorem Reads.read_of_perm {slots : List (Slot σ)} {names : List String}
    {ms ms' : List (String × Json)} {start t : σ} {title : String}
    (h : Reads slots names ms start t) (hi : slots.Pairwise Slot.Independent)
    (hn : names.Nodup) (hm : missing? slots ms = none) (hp : ms'.Perm ms) :
    structure? title slots start (.object ms') = .ok t := by
  -- the members as they are written are read, and their order does not matter
  refine structure?_perm hi hp.symm (h.keys.nodup hn) ?_
  simp only [structure?, h.value, hm]
  rfl

/-! ## Parts that are written and read -/

theorem optionalOf_text (v : Option String) : optionalOf text (v.map .text) = .ok v := by
  cases v <;> rfl

/-- An optional name is read back if its text tells which one it is. -/
theorem optionalOf_named {ofName : String → α} {name : α → String}
    (hname : ∀ a, ofName (name a) = a) (emptyObject : Bool) (v : Option α) :
    optionalOf (named emptyObject (.ok ∘ ofName)) (v.map (.text ∘ name)) = .ok v := by
  cases v with
  | none => rfl
  | some a => simp [optionalOf, optional, named, Except.map, hname]

/-- An optional real is read back if it is finite. -/
theorem optionalOf_real {v : Option Binary64} (h : ∀ x ∈ v, x.isFinite) :
    optionalOf real (v.map Json.ofReal) = .ok v := by
  cases v with
  | none => rfl
  | some x => simp [optionalOf, optional, Json.ofReal, h x rfl, real, Except.map]

theorem optionalOf_size (v : Option Nat) :
    optionalOf size (v.map fun n : Nat => Json.integer n) = .ok v := by
  cases v <;> simp [optionalOf, optional, size, Except.map]

/-- Scalars are read back as they were, but an explicit null is no value. -/
theorem optionalOf_scalar {v : Option Value} (h : ∀ w ∈ v, w.IsFinite) :
    optionalOf scalar (v.map Value.toJson) = .ok (present? v) := by
  cases v with
  | none => rfl
  | some w =>
    -- every kind of scalar is written as itself
    cases w with
    | integer n =>
      simp [optionalOf, optional, Value.toJson, scalar_eq, scalar?, isSigned64_toInt, Except.map,
        present?]
    | real x =>
      have hx : x.isFinite := h _ rfl
      simp [optionalOf, optional, Value.toJson, Json.ofReal, hx, scalar_eq, scalar?, Except.map,
        present?]
    | _ => rfl

/-! ## What every slot keeps -/

/-- A slot keeps a property of structures when values whose numbers fit are put into it. -/
def Slot.Keeps (P : σ → Prop) (slot : Slot σ) : Prop :=
  ∀ j s t, j.InRange → P s → slot.put j s = .ok t → P t

/-- All slots keep a property of structures. -/
def Kept (P : σ → Prop) (slots : List (Slot σ)) : Prop :=
  ∀ slot ∈ slots, slot.Keeps P

namespace Kept

variable {P : σ → Prop} {slots : List (Slot σ)} {name : String} {required : Bool}
  {read : Json → Decoded α} {set : α → σ → σ}

/-- Without slots nothing changes. -/
theorem nil : Kept P [] :=
  fun _ hslot => absurd hslot List.not_mem_nil

/-- A property of all structures is kept. -/
theorem of_forall (h : ∀ s, P s) : Kept P slots :=
  fun _ _ _ _ t _ _ _ => h t

/-- A slot whose part the property speaks of keeps it if it is kept by setting the part to
    anything that is read. -/
theorem cons_of_read (h : ∀ j a s, j.InRange → read j = .ok a → P s → P (set a s))
    (hslots : Kept P slots) :
    Kept P (⟨name, required, fun j s => (read j).map (set · s)⟩ :: slots) := by
  refine List.forall_mem_cons.mpr ⟨fun j s t hj hs ht => ?_, hslots⟩
  -- a value is put into the slot only if it is read
  obtain ⟨a, ha, rfl⟩ := Except.map_eq_ok.mp ht
  exact h j a s hj ha hs

/-- A slot whose part the property does not speak of keeps it, whatever is read. -/
theorem cons_of_set (h : ∀ a s, P s → P (set a s)) (hslots : Kept P slots) :
    Kept P (⟨name, required, fun j s => (read j).map (set · s)⟩ :: slots) :=
  hslots.cons_of_read fun _ a s _ _ hs => h a s hs

end Kept

/-- What all slots keep is kept by reading members. -/
private theorem fromMembers_inv {P : σ → Prop} {slots : List (Slot σ)}
    (hk : Kept P slots) {ms : List (String × Json)}
    (hm : ∀ m ∈ ms, m.2.InRange) {s t : σ} (hs : P s)
    (h : fromMembers slots ms s = .ok t) : P t := by
  induction ms generalizing s with
  | nil => exact Except.ok.inj h ▸ hs
  | cons m ms ih =>
    obtain ⟨key, j⟩ := m
    rw [List.forall_mem_cons] at hm
    unfold fromMembers at h
    -- a member without a slot is passed over
    split at h
    · next slot hf =>
      obtain ⟨u, hu, h⟩ := Except.bind_eq_ok.mp h
      exact ih hm.2 (hk slot (List.mem_of_find?_eq_some hf) j s u hm.1 hs hu) h
    · exact ih hm.2 hs h

/-- What all slots keep is kept by reading items. -/
private theorem fromItems_inv {P : σ → Prop} {expected : String} {slots : List (Slot σ)}
    (hk : Kept P slots) {index : Nat} {items rest : List Json}
    (hm : ∀ j ∈ items, j.InRange) {s t : σ} (hs : P s)
    (h : fromItems expected slots index items s = .ok (t, rest)) : P t := by
  induction slots generalizing index items s with
  | nil => exact (Prod.mk.inj (Except.ok.inj h)).1 ▸ hs
  | cons slot slots ih =>
    obtain ⟨hslot, hslots⟩ := List.forall_mem_cons.mp hk
    -- slots behind the last item are passed over, if they may be
    cases items with
    | nil =>
      unfold fromItems at h
      split at h
      · exact nomatch h
      · exact ih hslots hm hs h
    | cons j items =>
      rw [List.forall_mem_cons] at hm
      obtain ⟨u, hu, h⟩ := Except.bind_eq_ok.mp h
      exact ih hslots hm.2 (hslot j s u hm.1 hs hu) h

/-- A property that all slots keep holds of the structure that is read. -/
theorem structure?_inv {P : σ → Prop} {title : String} {slots : List (Slot σ)} {start t : σ}
    (hk : Kept P slots) (hs : P start) {j : Json} (hj : j.InRange)
    (h : structure? title slots start j = .ok t) : P t := by
  unfold structure? at h
  -- a structure is read from an object or from a list
  split at h
  · obtain ⟨u, hu, h⟩ := Except.bind_eq_ok.mp h
    split at h
    · exact nomatch h
    · exact Except.ok.inj h ▸ fromMembers_inv hk hj.members hs hu
  · obtain ⟨⟨u, rest⟩, hu, h⟩ := Except.bind_eq_ok.mp h
    simp only at h
    split at h
    · exact Except.ok.inj h ▸ fromItems_inv hk hj.items hs hu
    · exact nomatch h
  · exact nomatch h

/-! ## Parts whose numbers fit -/

/-- An optional part is none, or what the part is read as. -/
theorem optional_eq_ok {read : Json → Decoded α} {j : Json} {v : Option α}
    (h : optional read j = .ok v) : v = none ∨ ∃ a, read j = .ok a ∧ v = some a := by
  -- null is none, and anything else is read
  unfold optional at h
  split at h
  · exact .inl (Except.ok.inj h).symm
  · obtain ⟨a, ha, rfl⟩ := Except.map_eq_ok.mp h
    exact .inr ⟨a, ha, rfl⟩

/-- An optional real that is read from a number that fits is finite. -/
theorem isFinite_of_real {j : Json} (hj : j.InRange) {v : Option Binary64}
    (h : optional real j = .ok v) : ∀ x ∈ v, x.isFinite := by
  rcases optional_eq_ok h with rfl | ⟨x, hx, rfl⟩
  · exact fun _ hx => nomatch hx
  · intro y hy
    obtain rfl := Option.mem_some_iff.mp hy
    cases hj with
    | integer hn => exact Except.ok.inj hx ▸ (Binary64.moderate_ofInt hn).isFinite
    | real hfin => exact Except.ok.inj hx ▸ hfin
    | _ => exact nomatch hx

/-- A scalar that is read is finite, and it is null only where none is read. -/
theorem isFinite_of_scalar {j : Json} (hj : j.InRange) {v : Option Value}
    (h : optional scalar j = .ok v) : (∀ w ∈ v, w.IsFinite) ∧ present? v = v := by
  -- the number fits, so it is a word or a finite real
  cases hj with
  | null =>
    obtain rfl := Except.ok.inj h
    exact ⟨by rintro _ ⟨⟩, rfl⟩
  | integer hn =>
    simp only [optional, scalar_eq, scalar?] at h
    split at h <;> obtain rfl := Except.ok.inj h
    · exact ⟨fun w hw => Option.mem_some_iff.mp hw ▸ trivial, rfl⟩
    · exact ⟨fun w hw => Option.mem_some_iff.mp hw ▸ (Binary64.moderate_ofInt hn).isFinite, rfl⟩
  | real hx =>
    obtain rfl := Except.ok.inj h
    exact ⟨fun w hw => Option.mem_some_iff.mp hw ▸ hx, rfl⟩
  | boolean b | text s =>
    obtain rfl := Except.ok.inj h
    exact ⟨fun w hw => Option.mem_some_iff.mp hw ▸ trivial, rfl⟩
  | array _ => exact nomatch h
  | @object members _ => cases members <;> exact nomatch h

/-! ## Codecs -/

/-- The members that a structure is written as fit the slots that it is read through, for
    structures with the property `P`; and what is read has that property. -/
structure Codec (P : σ → Prop) (start : σ) (slots : List (Slot σ)) (names : List String)
    (members : σ → List (String × Json)) : Prop where
  initial : P start
  keeps : Kept P slots
  independent : slots.Pairwise Slot.Independent
  nodup : names.Nodup
  complete : ∀ c, missing? slots (members c) = none
  reads : ∀ c, P c → Reads slots names (members c) start c

namespace Codec

variable {P : σ → Prop} {start : σ} {slots : List (Slot σ)} {names : List String}
  {members : σ → List (String × Json)} {title : String} {c : σ}

/-- The keys of a written structure are distinct. -/
theorem keys_nodup (h : Codec P start slots names members) (hc : P c) :
    ((members c).map Prod.fst).Nodup :=
  (h.reads c hc).keys.nodup h.nodup

/-- A written structure is read back from its members, in whatever order they stand. -/
theorem read_of_perm (h : Codec P start slots names members) (hc : P c)
    {ms : List (String × Json)} (hp : ms.Perm (members c)) :
    structure? title slots start (.object ms) = .ok c :=
  (h.reads c hc).read_of_perm h.independent h.nodup (h.complete c) hp

/-- A written structure is read back from its sorted members. -/
theorem read_ofMembers (h : Codec P start slots names members) (hc : P c) :
    structure? title slots start (.ofMembers (members c)) = .ok c :=
  h.read_of_perm hc (Json.sorted_perm (h.keys_nodup hc))

/-- A structure read from a value whose numbers fit has the property. -/
theorem of_read (h : Codec P start slots names members) {j : Json} (hj : j.InRange)
    (hread : structure? title slots start j = .ok c) : P c :=
  structure?_inv h.keeps h.initial hj hread

end Codec
end Decode
end RecordRules
