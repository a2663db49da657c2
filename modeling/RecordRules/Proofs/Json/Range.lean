import RecordRules.Proofs.Binary64.Magnitude
import RecordRules.Proofs.Json.Members

/-!
# JSON values whose numbers fit

JSON numbers are integers of 64-bit words or finite reals.  `Json.InRange` says so of a value
and of all that it holds.
-/

namespace RecordRules

/-- The integers in a value are those of 64-bit words, with a sign or without, and its reals
    are finite. -/
inductive Json.InRange : Json → Prop
  | null : InRange .null
  | boolean (b : Bool) : InRange (.boolean b)
  | integer {n : Int} (h : isSigned64 n ∨ isUnsigned64 n) : InRange (.integer n)
  | real {x : Binary64} (h : x.isFinite) : InRange (.real x)
  | text (s : String) : InRange (.text s)
  | array {items : List Json} (h : ∀ j ∈ items, InRange j) : InRange (.array items)
  | object {ms : List (String × Json)} (h : ∀ m ∈ ms, InRange m.2) : InRange (.object ms)

namespace Json

/-- A real that is read becomes null if it is not finite, so what is left fits. -/
theorem inRange_ofReal (x : Binary64) : (ofReal x).InRange := by
  unfold ofReal
  split
  · next h => exact .real h
  · exact .null

theorem InRange.items {items : List Json} (h : (Json.array items).InRange) :
    ∀ j ∈ items, j.InRange := by
  cases h with
  | array h => exact h

theorem InRange.members {ms : List (String × Json)} (h : (Json.object ms).InRange) :
    ∀ m ∈ ms, m.2.InRange := by
  cases h with
  | object h => exact h

/-- Sorting the members of an object brings no number in. -/
theorem inRange_ofMembers {ms : List (String × Json)} (h : ∀ m ∈ ms, m.2.InRange) :
    (ofMembers ms).InRange :=
  .object fun m hm => h m (mem_of_mem_sorted hm)

/-- What is found in an object whose numbers fit has numbers that fit. -/
theorem InRange.of_member? {key : String} {ms : List (String × Json)} {j : Json}
    (h : (Json.object ms).InRange) (hj : member? key ms = some j) : j.InRange :=
  h.members _ (Named.mem_of_lookup hj)

end Json
end RecordRules
