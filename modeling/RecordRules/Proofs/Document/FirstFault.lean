import Mathlib.Data.List.Forall2
import RecordRules.Document.Fields
import RecordRules.Document.Rules
import RecordRules.Proofs.Binary64.Magnitude
import RecordRules.Proofs.Except
import RecordRules.Proofs.Wire.Acceptance

/-!
# Documents are read whole, or refused for their first fault

The rules of a document and the fields of a record are read one after the other.  Either all of
them are read, and nothing is lost or moved, or the first one that is not tells why.

## Key results

- `ReadsInOrder.eq_ok_iff`, `ReadsInOrder.eq_error_iff`: what reading one after the other comes to
- `RuleDocument.read_whole_or_refused_by_name`: the rules of a document
- `Decode.scalar_eq_ok_iff`, `Fields.scalar_eq_ok_iff`: both readers of scalars are one relation
- `Fields.toRecord_lossless`: the record of fields with distinct names
-/

namespace RecordRules

/-! ### Reading one after the other -/

section

variable {α β ε φ : Type} {read : α → Except ε β}

/-- Every element of a list is read, in order. -/
abbrev ReadsAll (read : α → Except ε β) (xs : List α) (ys : List β) : Prop :=
  List.Forall₂ (fun x y => read x = .ok y) xs ys

/-- The first element of a list that is refused, what stands before and after it, and the cause. -/
structure FirstRefused (read : α → Except ε β) (xs before : List α) (x : α) (after : List α)
    (cause : ε) : Prop where
  split : xs = before ++ x :: after
  readsBefore : ∀ y ∈ before, ∃ b, read y = .ok b
  refused : read x = .error cause

/-- If not all elements of a list are read, one of them is the first that is refused. -/
theorem readsAll_or_firstRefused (read : α → Except ε β) (xs : List α) :
    (∃ ys, ReadsAll read xs ys) ∨
      ∃ before x after cause, FirstRefused read xs before x after cause := by
  -- the first element is refused itself, or the search goes on behind it
  induction xs with
  | nil => exact .inl ⟨[], .nil⟩
  | cons first rest ih =>
    cases hfirst : read first with
    | error cause => exact .inr ⟨[], first, rest, cause, rfl, (fun _ hy => nomatch hy), hfirst⟩
    | ok b =>
      rcases ih with ⟨ys, hys⟩ | ⟨before, x, after, cause, rfl, hbefore, hcause⟩
      · exact .inl ⟨b :: ys, .cons hfirst hys⟩
      · have hbefore' : ∀ y ∈ first :: before, ∃ b, read y = .ok b :=
          List.forall_mem_cons.mpr ⟨⟨b, hfirst⟩, hbefore⟩
        exact .inr ⟨first :: before, x, after, cause, rfl, hbefore', hcause⟩

/-- A list is read whole exactly when each of its elements is read. -/
theorem exists_readsAll_iff {xs : List α} :
    (∃ ys, ReadsAll read xs ys) ↔ ∀ x ∈ xs, ∃ y, read x = .ok y := by
  constructor
  · rintro ⟨ys, hys⟩
    induction hys with
    | nil => exact fun _ hx => nomatch hx
    | cons hread _ ih => exact List.forall_mem_cons.mpr ⟨⟨_, hread⟩, ih⟩
  · intro hall
    -- else there would be a first element that is refused, and all of them are read
    refine (readsAll_or_firstRefused read xs).resolve_right ?_
    rintro ⟨before, x, after, cause, rfl, -, hcause⟩
    obtain ⟨y, hy⟩ := hall x (List.mem_append_right _ List.mem_cons_self)
    exact nomatch hcause.symm.trans hy

/-- A run reads a list in order: it gives what is read, and else blames the first element that is
    refused. -/
structure ReadsInOrder (read : α → Except ε β) (xs : List α) (blame : List α → α → ε → φ)
    (run : Except φ (List β)) : Prop where
  ok : ∀ {ys}, ReadsAll read xs ys → run = .ok ys
  error : ∀ {before x after cause}, FirstRefused read xs before x after cause →
    run = .error (blame before x cause)

namespace ReadsInOrder

variable {xs : List α} {blame : List α → α → ε → φ} {run : Except φ (List β)}

/-- Such a run gives nothing else. -/
theorem eq_ok_iff (h : ReadsInOrder read xs blame run) {ys : List β} :
    run = .ok ys ↔ ReadsAll read xs ys := by
  refine ⟨fun hrun => ?_, h.ok⟩
  -- a list that is not read whole is blamed, and a run does not do both
  rcases readsAll_or_firstRefused read xs with ⟨ys', hall⟩ | ⟨before, x, after, cause, hfirst⟩
  · obtain rfl := Except.ok.inj (hrun.symm.trans (h.ok hall))
    exact hall
  · exact nomatch hrun.symm.trans (h.error hfirst)

/-- Nor does it blame anything else. -/
theorem eq_error_iff (h : ReadsInOrder read xs blame run) {fault : φ} :
    run = .error fault ↔
      ∃ before x after cause, FirstRefused read xs before x after cause ∧
        fault = blame before x cause := by
  constructor
  · intro hrun
    rcases readsAll_or_firstRefused read xs with ⟨ys, hall⟩ | ⟨before, x, after, cause, hfirst⟩
    · exact nomatch hrun.symm.trans (h.ok hall)
    · exact ⟨before, x, after, cause, hfirst, Except.error.inj (hrun.symm.trans (h.error hfirst))⟩
  · rintro ⟨before, x, after, cause, hfirst, rfl⟩
    exact h.error hfirst

end ReadsInOrder

end

/-! ### Rules -/

namespace RuleDocument

/-- A document lists its rules itself or under `rules`, next to whatever other members. -/
inductive Lists : Json → List Json → Prop where
  | itself (items : List Json) : Lists (.array items) items
  | underRules {members : List (String × Json)} {items : List Json}
      (h : Json.member? "rules" members = some (.array items)) : Lists (.object members) items

/-- What a rule is called: by its identifier if that is a text, else by its number. -/
inductive Called (number : Nat) (item : Json) : String → Prop where
  | byId {id : String} (h : item.get? "id" = some (.text id)) :
      Called number item ("rule '" ++ id ++ "'")
  | byNumber (h : ∀ id, item.get? "id" ≠ some (.text id)) :
      Called number item ("rule #" ++ toString number)

/-- The items that are found in a document are those that it lists, in either form. -/
theorem items?_eq_ok_iff {document : Json} {items : List Json} :
    items? document = .ok items ↔ Lists document items := by
  constructor
  · intro h
    unfold items? at h
    -- the three cases are a list, an object and anything else
    split at h
    · obtain rfl := Except.ok.inj h
      exact .itself _
    · split at h
      · next hrules =>
        obtain rfl := Except.ok.inj h
        exact .underRules hrules
      · exact nomatch h
      · exact nomatch h
    · exact nomatch h
  · rintro (_ | hrules)
    · rfl
    · simp only [items?, hrules]

/-- The label of an item is the one name it is called by. -/
theorem eq_label_iff {number : Nat} {item : Json} {name : String} :
    name = label number item ↔ Called number item name := by
  -- the label is one of the names, and no item has two names
  have hlabel : Called number item (label number item) := by
    unfold label
    split
    · next id hid =>
      obtain ⟨j, hj, htext⟩ := Option.bind_eq_some_iff.mp hid
      cases j with
      | text s =>
        obtain rfl := Option.some.inj htext
        exact .byId hj
      | _ => exact nomatch htext
    · next hnone =>
      refine .byNumber fun id hid => ?_
      rw [hid] at hnone
      exact nomatch hnone
  constructor
  · rintro rfl
    exact hlabel
  · intro hname
    cases hname with
    | byId hid => rw [label, hid]; rfl
    | byNumber hnone =>
      -- both names come from the same question, whether the identifier is a text
      generalize hshown : label number item = shown at hlabel
      cases hlabel with
      | byId hid => exact absurd hid (hnone _)
      | byNumber _ => rfl

/-- Items that are all rules are read as these rules, whatever number the first one has. -/
theorem readItems_of_readsAll {items : List Json} {rules : List Rule}
    (h : ReadsAll Rule.read items rules) (number : Nat) : readItems number items = .ok rules := by
  -- the number is one greater behind each item, so the induction is for all numbers
  induction h generalizing number with
  | nil => rfl
  | cons hread _ ih =>
    rw [readItems, hread]
    dsimp only
    rw [ih]
    rfl

/-- Items with one that is no rule are refused for the first such item.  Its number counts the items
    before it. -/
theorem readItems_of_firstRefused {items before after : List Json} {item : Json}
    {cause : DecodeFault} (h : FirstRefused Rule.read items before item after cause)
    (number : Nat) :
    readItems number items =
      .error (.rule ⟨label (number + before.length) item, cause⟩) := by
  obtain ⟨rfl, hbefore, hcause⟩ := h
  -- the induction is on the items before the one that is refused, for all numbers
  induction before generalizing number with
  | nil =>
    rw [List.nil_append, readItems, hcause]
    rfl
  | cons first before ih =>
    rw [List.forall_mem_cons] at hbefore
    obtain ⟨⟨rule, hrule⟩, hbefore⟩ := hbefore
    -- one item less stands before, and the number is one greater
    have hnumber : number + 1 + before.length = number + (first :: before).length := by
      rw [List.length_cons]
      omega
    rw [List.cons_append, readItems, hrule]
    dsimp only
    rw [ih (number + 1) hbefore, hnumber]
    rfl

/-- The items of a list are read in order.  The one that is blamed has its number from the place
    where it stands. -/
theorem readsInOrder_read (items : List Json) :
    ReadsInOrder Rule.read items
      (fun before item cause => .rule ⟨label (1 + before.length) item, cause⟩)
      (read (.array items)) where
  ok hall := readItems_of_readsAll hall 1
  error hfirst := readItems_of_firstRefused hfirst 1

/-- A document that lists items is read as the list of these items is: the other members do not
    count. -/
theorem read_of_lists {document : Json} {items : List Json} (h : Lists document items) :
    read document = read (.array items) := by
  unfold read
  rw [items?_eq_ok_iff.mpr h]
  rfl

/-- A document is read whole exactly when it lists items, in either form, and all of them are rules.
    A list with other items in it is refused for the first of them, by its name. -/
theorem read_whole_or_refused_by_name (document : Json) :
    ((∃ rules, read document = .ok rules) ↔
      ∃ items, Lists document items ∧ ∀ item ∈ items, ∃ rule, Rule.read item = .ok rule) ∧
    ∀ items, Lists document items →
      read document = read (.array items) ∧
      (∀ rules, read document = .ok rules ↔
        List.Forall₂ (fun item rule => Rule.read item = .ok rule) items rules) ∧
      ∀ fault, read document = .error fault ↔ ∃ before item after cause name,
        items = before ++ item :: after ∧ (∀ i ∈ before, ∃ rule, Rule.read i = .ok rule) ∧
        Rule.read item = .error cause ∧ Called (before.length + 1) item name ∧
        fault = .rule ⟨name, cause⟩ ∧
        (DocumentFault.ruleSet fault).message =
          "Invalid rule set: " ++ (name ++ ": " ++ cause.message) := by
  refine ⟨⟨?_, ?_⟩, fun items hlists => ⟨read_of_lists hlists, fun rules => ?_, fun fault => ?_⟩⟩
  · rintro ⟨rules, hread⟩
    -- the items are found first, and then each is read
    obtain ⟨items, hitems, hrules⟩ := Except.bind_eq_ok.mp hread
    have hall : ReadsAll Rule.read items rules := (readsInOrder_read items).eq_ok_iff.mp hrules
    exact ⟨items, items?_eq_ok_iff.mp hitems, exists_readsAll_iff.mp ⟨rules, hall⟩⟩
  · rintro ⟨items, hlists, hall⟩
    obtain ⟨rules, hrules⟩ := exists_readsAll_iff.mpr hall
    exact ⟨rules, (read_of_lists hlists).trans ((readsInOrder_read items).eq_ok_iff.mpr hrules)⟩
  · rw [read_of_lists hlists, (readsInOrder_read items).eq_ok_iff]
  · rw [read_of_lists hlists, (readsInOrder_read items).eq_error_iff]
    constructor
    · rintro ⟨before, item, after, cause, ⟨hsplit, hbefore, hcause⟩, rfl⟩
      exact ⟨before, item, after, cause, _, hsplit, hbefore, hcause,
        eq_label_iff.mp (congrArg (label · item) (Nat.add_comm 1 _)), rfl, rfl⟩
    · rintro ⟨before, item, after, cause, name, hsplit, hbefore, hcause, hname, rfl, -⟩
      obtain rfl := eq_label_iff.mpr hname
      rw [Nat.add_comm]
      exact ⟨before, item, after, cause, ⟨hsplit, hbefore, hcause⟩, rfl⟩

/-- A rule for a code, and one that has no identifier. -/
private def codeItems : List Json :=
  [.object [("id", .text "code"), ("name", .text "Code"), ("ruleType", .text "required"),
    ("target", .object [("field", .text "code")])],
   .object [("name", .text "Code")]]

/-- A document with both of them under `rules`. -/
private def codeDocument : Json :=
  .object [("id", .text "codes"), ("rules", .array codeItems)]

/-- The second rule is called by its number, and not by the identifier of the document. -/
theorem read_codeDocument :
    Lists codeDocument codeItems ∧
    read codeDocument = .error (.rule ⟨"rule #2", .missingField "id"⟩) := by
  have hlists : Lists codeDocument codeItems := .underRules rfl
  have hbefore : ∀ item ∈ codeItems.take 1, ∃ rule, Rule.read item = .ok rule :=
    List.forall_mem_cons.mpr ⟨⟨_, rfl⟩, fun _ hitem => nomatch hitem⟩
  have hname : Called 2 (.object [("name", .text "Code")]) "rule #2" := .byNumber fun _ => nofun
  obtain ⟨-, -, herror⟩ := (read_whole_or_refused_by_name codeDocument).2 codeItems hlists
  exact ⟨hlists, (herror _).mpr ⟨_, _, [], _, _, rfl, hbefore, rfl, hname, rfl, rfl⟩⟩

end RuleDocument

/-! ### Scalars -/

/-- What a scalar is read as.  An integer of 64 bits stays an integer, and every other number is a
    real. -/
inductive Json.Gives : Json → Value → Prop where
  | null : Gives .null .null
  | boolean (b : Bool) : Gives (.boolean b) (.boolean b)
  | integer (n : Int64) : Gives (.integer n.toInt) (.integer n)
  | large {n : Int} (h : ∀ m : Int64, m.toInt ≠ n) : Gives (.integer n) (.real (.ofInt n))
  | real (x : Binary64) : Gives (.real x) (.real x)
  | text (s : String) : Gives (.text s) (.text s)

/-- Every scalar gives a value, and no list or object does. -/
theorem Json.exists_gives_iff {j : Json} : (∃ v, j.Gives v) ↔ j.isScalar = true := by
  constructor
  · rintro ⟨v, hv⟩
    cases hv <;> rfl
  · intro hj
    cases j with
    | null => exact ⟨_, .null⟩
    | boolean b => exact ⟨_, .boolean b⟩
    | integer n =>
      -- an integer stays one exactly if a word has its value
      by_cases hn : ∃ m : Int64, m.toInt = n
      · obtain ⟨m, rfl⟩ := hn
        exact ⟨_, .integer m⟩
      · exact ⟨_, .large (not_exists.mp hn)⟩
    | real x => exact ⟨_, .real x⟩
    | text s => exact ⟨_, .text s⟩
    | array _ | object _ => exact absurd hj Bool.false_ne_true

namespace Decode

/-- The reader of scalars gives the value that the relation names, and no other. -/
theorem scalar?_eq_some_iff {j : Json} {v : Value} : scalar? j = some v ↔ j.Gives v := by
  constructor
  · intro h
    cases j with
    | integer n =>
      rw [scalar?] at h
      split at h
      · next hword =>
        obtain rfl := Option.some.inj h
        obtain ⟨m, rfl⟩ := isSigned64_iff.mp hword
        rw [Int64.ofInt_toInt]
        exact .integer m
      · next hword =>
        obtain rfl := Option.some.inj h
        exact .large fun m hm => hword (isSigned64_iff.mpr ⟨m, hm⟩)
    | null => exact Option.some.inj h ▸ .null
    | boolean b => exact Option.some.inj h ▸ .boolean b
    | real x => exact Option.some.inj h ▸ .real x
    | text s => exact Option.some.inj h ▸ .text s
    | array _ | object _ => cases h
  · rintro (_ | _ | m | hlarge | _ | _)
    case integer => rw [scalar?, if_pos (isSigned64_toInt m), Int64.ofInt_toInt]
    -- a word with this value would make the integer fit
    case large =>
      have hword : ¬ isSigned64 _ = true := fun h => not_exists.mpr hlarge (isSigned64_iff.mp h)
      rw [scalar?, if_neg hword]
    all_goals rfl

/-- Trying the kinds one after the other gives nothing else. -/
theorem scalar_eq_ok_iff {j : Json} {v : Value} : scalar j = .ok v ↔ j.Gives v := by
  rw [scalar_eq, ← scalar?_eq_some_iff]
  cases scalar? j <;> simp

end Decode

/-! ### Records -/

namespace Fields

/-- The first name behind a list of names is none of them. -/
theorem notMem_of_nodup_append {names rest : List String} {name : String}
    (h : (names ++ name :: rest).Nodup) : name ∉ names :=
  fun hmem => (List.nodup_append.mp h).2.2 name hmem name List.mem_cons_self rfl

/-- Members with new and distinct names come behind the fields that are there. -/
theorem foldl_put_of_nodup (fields : List (String × Json)) {members : List (String × Json)}
    (h : (fields.map Prod.fst ++ members.map Prod.fst).Nodup) :
    members.foldl (fun fields m => Named.put m.1 m.2 fields) fields = fields ++ members := by
  induction members generalizing fields with
  | nil => exact (List.append_nil fields).symm
  | cons m members ih =>
    -- the first member is new, so it is put at the end of the fields
    have hnew : m.1 ∉ fields.map Prod.fst := notMem_of_nodup_append h
    have hrest : ((fields ++ [m]).map Prod.fst ++ members.map Prod.fst).Nodup := by
      rwa [List.map_append, List.append_assoc]
    rw [List.foldl_cons, Named.put_of_notMem m.2 hnew, ih (fields ++ [m]) hrest,
      ← List.append_cons]

/-- Members with distinct names stay as they are. -/
theorem distinct_eq_self {members : List (String × Json)} (h : (members.map Prod.fst).Nodup) :
    distinct members = members :=
  foldl_put_of_nodup [] h

/-- The field of a record that a member is read as. -/
def field (m : String × Json) : Except DocumentFault (String × Value) :=
  (scalar m.1 m.2).map (m.1, ·)

/-- The reader of the fields of a record gives the same values of scalars. -/
theorem scalar_eq_ok_iff {name : String} {j : Json} {v : Value} :
    scalar name j = .ok v ↔ j.Gives v := by
  rw [scalar, ← Decode.scalar?_eq_some_iff]
  cases Decode.scalar? j <;> simp

/-- A member is read as a field of its own name, with the value that its scalar gives. -/
theorem field_eq_ok_iff {m : String × Json} {f : String × Value} :
    field m = .ok f ↔ f.1 = m.1 ∧ m.2.Gives f.2 := by
  obtain ⟨name, v⟩ := f
  simp only [field, Except.map_eq_ok, scalar_eq_ok_iff, Prod.mk.injEq]
  constructor
  · rintro ⟨v, hv, rfl, rfl⟩
    exact ⟨rfl, hv⟩
  · rintro ⟨rfl, hv⟩
    exact ⟨v, hv, rfl, rfl⟩

/-- The members that are read as fields are those that hold scalars. -/
theorem exists_field_iff {m : String × Json} : (∃ f, field m = .ok f) ↔ m.2.isScalar = true := by
  rw [← Json.exists_gives_iff]
  simp only [field_eq_ok_iff, Prod.exists, exists_and_left, exists_eq_left]

/-- A member that holds a list or an object is refused by its name. -/
theorem field_eq_error_iff {m : String × Json} {fault : DocumentFault} :
    field m = .error fault ↔ m.2.isScalar = false ∧ fault = .nested m.1 := by
  -- being a scalar and giving a value are one question
  have hscalar : m.2.isScalar = (Decode.scalar? m.2).isSome := by
    rw [Bool.eq_iff_iff, Option.isSome_iff_exists, ← Json.exists_gives_iff]
    simp only [Decode.scalar?_eq_some_iff]
  rw [hscalar, field, scalar]
  cases Decode.scalar? m.2 with
  | some v => simp [Except.map]
  | none => simp [Except.map, eq_comm]

/-- Members with names that the record does not have yet come behind its fields, one field each. -/
theorem readFrom_of_readsAll {members : List (String × Json)} {entries : List (String × Value)}
    (h : ReadsAll field members entries) (r : Record)
    (hnames : (r.names ++ members.map Prod.fst).Nodup) :
    (readFrom r members).map Record.fields = .ok (r.fields ++ entries) := by
  induction h generalizing r with
  | nil => exact congrArg Except.ok (List.append_nil _).symm
  | @cons m f members entries hfield _ ih =>
    obtain ⟨name, v⟩ := f
    obtain ⟨rfl, hv⟩ := field_eq_ok_iff.mp hfield
    -- the names of the rest are distinct from the new one, which is all that the rest asks for
    have hnew : m.1 ∉ r.names := notMem_of_nodup_append hnames
    have hput : (r.put m.1 v).fields = r.fields ++ [(m.1, v)] := Named.put_of_notMem v hnew
    have hrest : ((r.put m.1 v).names ++ members.map Prod.fst).Nodup := by
      rwa [Record.names_put, if_neg hnew, List.append_assoc]
    rw [readFrom, scalar_eq_ok_iff.mpr hv]
    show (readFrom (r.put m.1 v) members).map Record.fields = _
    rw [ih (r.put m.1 v) hrest, hput, ← List.append_cons]

/-- Members are refused for the first that is no field, whatever the record has before. -/
theorem readFrom_of_firstRefused {members before after : List (String × Json)} {m : String × Json}
    {fault : DocumentFault} (h : FirstRefused field members before m after fault) (r : Record) :
    readFrom r members = .error fault := by
  obtain ⟨rfl, hbefore, hrefused⟩ := h
  -- the members before are read, and the record grows by each of them
  induction before generalizing r with
  | nil =>
    rw [List.nil_append, readFrom]
    unfold field at hrefused
    cases hscalar : scalar m.1 m.2 with
    | ok v =>
      rw [hscalar] at hrefused
      exact nomatch hrefused
    | error cause =>
      rw [hscalar] at hrefused
      exact congrArg Except.error (Except.error.inj hrefused)
  | cons first before ih =>
    rw [List.forall_mem_cons] at hbefore
    obtain ⟨⟨f, hfirst⟩, hbefore⟩ := hbefore
    obtain ⟨-, hv⟩ := field_eq_ok_iff.mp hfirst
    rw [List.cons_append, readFrom, scalar_eq_ok_iff.mpr hv]
    exact ih (r.put first.1 f.2) hbefore

/-- Members with distinct names are read in order. -/
theorem readsInOrder_toRecord {members : List (String × Json)}
    (hnames : (members.map Prod.fst).Nodup) :
    ReadsInOrder field members (fun _ _ fault => fault) ((toRecord members).map Record.fields) := by
  rw [toRecord, distinct_eq_self hnames]
  exact ⟨fun hall => readFrom_of_readsAll hall .empty hnames,
    fun hfirst => Except.map_eq_error.mpr (readFrom_of_firstRefused hfirst .empty)⟩

/-- The record of members with distinct names has one field for each member, in the same order. -/
theorem toRecord_eq_ok_iff {members : List (String × Json)}
    (hnames : (members.map Prod.fst).Nodup) {r : Record} :
    toRecord members = .ok r ↔ ReadsAll field members r.fields := by
  rw [← (readsInOrder_toRecord hnames).eq_ok_iff, Except.map_eq_ok]
  constructor
  · exact fun h => ⟨r, h, rfl⟩
  · rintro ⟨⟨fields, hnodup⟩, h, rfl⟩
    exact h

/-- A record is read whole exactly when no member holds a list or an object.  It has a field for
    each member, in order, with the value that the reader of scalars in rules and results gives as
    well. Other members are refused for the first that is nested, by its name. -/
theorem toRecord_lossless {members : List (String × Json)}
    (hnames : (members.map Prod.fst).Nodup) :
    ((∃ r, toRecord members = .ok r) ↔ ∀ m ∈ members, m.2.isScalar = true) ∧
    (∀ r, toRecord members = .ok r ↔
      List.Forall₂ (fun m f => f.1 = m.1 ∧ m.2.Gives f.2 ∧ Decode.scalar m.2 = .ok f.2)
        members r.fields) ∧
    ∀ fault, toRecord members = .error fault ↔ ∃ before m after,
      members = before ++ m :: after ∧ (∀ b ∈ before, b.2.isScalar = true) ∧
      m.2.isScalar = false ∧ fault = .nested m.1 ∧
      fault.message = "Invalid record: field '" ++ m.1 ++ "' holds a nested value" := by
  refine ⟨?_, fun r => ?_, fun fault => ?_⟩
  -- a record is there exactly if its fields are
  · have hread : (∃ r, toRecord members = .ok r) ↔
        ∃ fields, (toRecord members).map Record.fields = .ok fields := by
      simp only [Except.map_eq_ok]
      exact ⟨fun ⟨r, hr⟩ => ⟨_, r, hr, rfl⟩, fun ⟨_, r, hr, _⟩ => ⟨r, hr⟩⟩
    simp only [hread, (readsInOrder_toRecord hnames).eq_ok_iff, exists_readsAll_iff,
      exists_field_iff]
  · simp only [toRecord_eq_ok_iff hnames, ReadsAll, field_eq_ok_iff, Decode.scalar_eq_ok_iff,
      and_self]
  · rw [← Except.map_eq_error (f := Record.fields), (readsInOrder_toRecord hnames).eq_error_iff]
    constructor
    · rintro ⟨before, m, after, _, ⟨hsplit, hbefore, hrefused⟩, rfl⟩
      obtain ⟨hnested, rfl⟩ := field_eq_error_iff.mp hrefused
      exact ⟨before, m, after, hsplit, fun b hb => exists_field_iff.mp (hbefore b hb), hnested,
        rfl, rfl⟩
    · rintro ⟨before, m, after, hsplit, hbefore, hnested, rfl, -⟩
      exact ⟨before, m, after, _, ⟨hsplit, fun b hb => exists_field_iff.mpr (hbefore b hb),
        field_eq_error_iff.mpr ⟨hnested, rfl⟩⟩, rfl⟩

/-- An account, with a total that is one too large for a word with a sign. -/
private def accountMembers : List (String × Json) :=
  [("balance", .integer (-3)), ("total", .integer 9223372036854775808), ("note", .null)]

/-- The total becomes a real, and the balance stays an integer. -/
theorem toRecord_accountMembers :
    (accountMembers.map Prod.fst).Nodup ∧
    toRecord accountMembers =
      .ok (.ofList [("balance", .integer (-3)), ("total", .real (.ofInt 9223372036854775808)),
        ("note", .null)]) := by
  have hnames : (accountMembers.map Prod.fst).Nodup := by decide
  have hlarge : Json.Gives (.integer 9223372036854775808) (.real (.ofInt 9223372036854775808)) := by
    refine .large fun m hm => ?_
    have := Int64.toInt_lt m
    omega
  refine ⟨hnames, ((toRecord_lossless hnames).2.1 _).mpr ?_⟩
  refine .cons ⟨rfl, .integer (-3), rfl⟩ (.cons ⟨rfl, hlarge, ?_⟩ (.cons ⟨rfl, .null, rfl⟩ .nil))
  exact Decode.scalar_eq_ok_iff.mpr hlarge

/-- The first of two nested fields is blamed. -/
example :
    toRecord [("name", .text "Ada"), ("tags", .array []), ("address", .object [])] =
      .error (.nested "tags") := rfl

end Fields

end RecordRules
