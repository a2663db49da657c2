import RecordRules.Binary64.Basic

/-! # JSON values

A JSON value whose objects list their members.  Values that stand for a whole document keep
the members sorted by key, one member to a key; `Json.ofMembers` brings a list of members
into that form, the last of equal keys winning.

* `Json.member?`, `Json.get?`   looking members up -/

namespace RecordRules

/-- A JSON value.  Integers are those of 64-bit words, reals are finite. -/
inductive Json where
  | null
  | boolean (b : Bool)
  | integer (n : Int)
  | real (x : Binary64)
  | text (s : String)
  | array (items : List Json)
  | object (members : List (String × Json))
  deriving Inhabited

namespace Json

mutual

/-- Equality of values can be decided. -/
def decEq : (a b : Json) → Decidable (a = b)
  | null, null => isTrue rfl
  | boolean a, boolean b => decidable_of_iff (a = b) (by simp)
  | integer a, integer b => decidable_of_iff (a = b) (by simp)
  | real a, real b => decidable_of_iff (a = b) (by simp)
  | text a, text b => decidable_of_iff (a = b) (by simp)
  | array a, array b =>
    have := decEqItems a b
    decidable_of_iff (a = b) (by simp)
  | object a, object b =>
    have := decEqMembers a b
    decidable_of_iff (a = b) (by simp)
  | null, boolean _ | null, integer _ | null, real _ | null, text _ | null, array _
  | null, object _ | boolean _, null | boolean _, integer _ | boolean _, real _
  | boolean _, text _ | boolean _, array _ | boolean _, object _ | integer _, null
  | integer _, boolean _ | integer _, real _ | integer _, text _ | integer _, array _
  | integer _, object _ | real _, null | real _, boolean _ | real _, integer _
  | real _, text _ | real _, array _ | real _, object _ | text _, null | text _, boolean _
  | text _, integer _ | text _, real _ | text _, array _ | text _, object _ | array _, null
  | array _, boolean _ | array _, integer _ | array _, real _ | array _, text _
  | array _, object _ | object _, null | object _, boolean _ | object _, integer _
  | object _, real _ | object _, text _ | object _, array _ =>
    isFalse (by simp)

/-- Equality of items can be decided. -/
def decEqItems : (a b : List Json) → Decidable (a = b)
  | [], [] => isTrue rfl
  | x :: xs, y :: ys =>
    have := decEq x y
    have := decEqItems xs ys
    decidable_of_iff (x = y ∧ xs = ys) (by simp)
  | [], _ :: _ | _ :: _, [] => isFalse (by simp)

/-- Equality of members can be decided. -/
def decEqMembers : (a b : List (String × Json)) → Decidable (a = b)
  | [], [] => isTrue rfl
  | (k, x) :: xs, (l, y) :: ys =>
    have := decEq x y
    have := decEqMembers xs ys
    decidable_of_iff (k = l ∧ x = y ∧ xs = ys) (by simp [and_assoc])
  | [], _ :: _ | _ :: _, [] => isFalse (by simp)

end

instance : DecidableEq Json := decEq

/-- Puts a member into sorted members, in the place of a member with its key. -/
def insertMember (key : String) (value : Json) : List (String × Json) → List (String × Json)
  | [] => [(key, value)]
  | (k, v) :: rest =>
    if key < k then (key, value) :: (k, v) :: rest
    else if key = k then (key, value) :: rest
    else (k, v) :: insertMember key value rest

/-- The object with the given members: sorted by key, the last of equal keys. -/
def ofMembers (members : List (String × Json)) : Json :=
  .object (members.foldl (fun sorted (k, v) => insertMember k v sorted) [])

/-- The value of the first member with a key. -/
def member? (key : String) (members : List (String × Json)) : Option Json :=
  members.lookup key

/-- The value of a member of an object. -/
def get? (key : String) : Json → Option Json
  | .object members => member? key members
  | _ => none

/-- The text of a text value. -/
def text? : Json → Option String
  | .text s => some s
  | _ => none

/-- A real as a value; JSON has no NaN and no infinities, which become null. -/
def ofReal (x : Binary64) : Json :=
  if x.isFinite then .real x else .null

end Json
end RecordRules
