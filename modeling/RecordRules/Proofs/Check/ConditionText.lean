import Mathlib.Data.List.TakeWhile
import RecordRules.Check.Condition
import RecordRules.Proofs.Numeral.Integer

/-!
# Conditions are read as they are written

The operators are looked for one after the other, each anywhere in the text.  An operator that is
written first, with a blank behind it, is therefore the one that is found if none of those that are
looked for before it occurs in what follows.  Behind the blank, quoted text is read as that text,
whatever it consists of, a name in braces as a reference, and the text of an integer, a truth value
or null as that value.

## Key results

- `Text.splitAt?_eq_none_iff`: nothing is found exactly when there is no occurrence
- `Condition.splitOperator?_eq_some_iff`: which operator is found
- `Operand.parse_quoted`, `Operand.parse_braced`, `Operand.bareValue_integerText`: what an operand
  is read as
- `Condition.parse_written`: conditions are read as they are written
-/

namespace RecordRules

/-! ### Finding an operator -/

namespace Text

/-- A text cannot be cut behind what does not occur in it, and behind whatever occurs it can. -/
theorem splitAt?_eq_none_iff {token cs : List Char} :
    splitAt? token cs = none ↔ ¬ token <:+: cs := by
  -- on the text: what occurs in it begins with it, or occurs in the rest
  induction cs with
  | nil => simp [splitAt?]
  | cons c rest ih =>
    rw [splitAt?, List.infix_cons_iff, ← List.isPrefixOf_iff_prefix]
    by_cases hstart : token.isPrefixOf (c :: rest) = true
    · simp [hstart]
    · rw [if_neg hstart, Option.map_eq_none_iff, ih]
      simp [hstart]

/-- A text that begins with what is looked for is cut right behind it. -/
theorem splitAt?_append {token : List Char} (h : token ≠ []) (rest : List Char) :
    splitAt? token (token ++ rest) = some ([], rest) := by
  obtain ⟨c, cs, rfl⟩ := List.exists_cons_of_ne_nil h
  have hstart : (c :: cs).isPrefixOf (c :: (cs ++ rest)) = true := by
    rw [List.isPrefixOf_iff_prefix]
    exact List.prefix_append (c :: cs) rest
  rw [List.cons_append, splitAt?, if_pos hstart]
  simp

/-- What does not contain a character occurs before or behind it. -/
theorem infix_or_infix_of_notMem {token before after : List Char} {c : Char} (hc : c ∉ token)
    (h : token <:+: before ++ c :: after) : token <:+: before ∨ token <:+: after := by
  obtain ⟨left, right, h⟩ := h
  rw [List.append_assoc, List.append_eq_append_iff] at h
  obtain ⟨gap, rfl, h⟩ | ⟨gap, rfl, h⟩ := h
  · -- it begins before the character, and then ends before it too
    rw [List.append_eq_append_iff] at h
    obtain ⟨tail, rfl, -⟩ | ⟨tail, htoken, h⟩ := h
    · exact .inl ⟨left, tail, by simp⟩
    · cases tail with
      | nil => exact .inl ⟨left, [], by simp [htoken]⟩
      | cons d tail =>
        obtain ⟨rfl, -⟩ := List.cons.inj h
        exact absurd (by simp [htoken]) hc
  · -- it begins behind the text before the character
    cases gap with
    | nil =>
      cases token with
      | nil => exact .inl (List.nil_infix)
      | cons d token =>
        obtain ⟨rfl, -⟩ := List.cons.inj h
        exact absurd List.mem_cons_self hc
    | cons d gap =>
      obtain ⟨rfl, rfl⟩ := List.cons.inj h
      exact .inr ⟨gap, right, by simp⟩

end Text

namespace Relation

/-- The operators that are looked for before an operator. -/
def before (o : Relation) : List Relation :=
  inOrder.takeWhile (· ≠ o)

/-- The operators that are looked for before an operator, and those after it. -/
theorem inOrder_eq (o : Relation) : ∃ after, inOrder = o.before ++ o :: after := by
  -- there are as many cases as operators
  cases o <;> exact ⟨_, rfl⟩

/-- Whatever stands in front of an operator, those that are looked for before it are among it. -/
theorem mem_of_mem_before {o p : Relation} {front back : List Relation}
    (h : inOrder = front ++ o :: back) (hp : p ∈ o.before) : p ∈ front := by
  rw [before, h, List.takeWhile_append] at hp
  -- the front is a part of the list, up to the operator at the latest
  split at hp
  · simpa using hp
  · exact (List.takeWhile_sublist _).subset hp

theorem token_ne_nil (o : Relation) : o.token.toList ≠ [] := by
  cases o <;> decide

/-- Signs that operators begin with, the last one apart. -/
def signs : List Char := ['=', '!', '>', '<']

/-- The operators that are looked for before others consist of signs. -/
theorem mem_signs_of_before {o p : Relation} (hp : p ∈ o.before) :
    ∀ c ∈ p.token.toList, c ∈ signs := by
  have hall : (o.before.all fun p => p.token.toList.all (· ∈ signs)) = true := by
    cases o <;> decide
  intro c hc
  exact of_decide_eq_true (List.all_eq_true.mp (List.all_eq_true.mp hall p hp) c hc)

/-- No operator occurs in one that is looked for after it. -/
theorem not_infix_of_before {o p : Relation} (hp : p ∈ o.before) :
    ¬ p.token.toList <:+: o.token.toList := by
  rw [← Text.splitAt?_eq_none_iff]
  -- the pairs of operators are few enough to be looked through
  revert p
  cases o <;> decide +kernel

/-- What has no signs in it contains none of the operators that are looked for before others. -/
theorem not_infix_of_noSigns {o p : Relation} (hp : p ∈ o.before) {cs : List Char}
    (h : ∀ c ∈ cs, c ∉ signs) : ¬ p.token.toList <:+: cs := by
  intro hinside
  obtain ⟨c, hc⟩ := List.exists_mem_of_ne_nil _ p.token_ne_nil
  exact h c (hinside.subset hc) (mem_signs_of_before hp c hc)

end Relation

namespace Condition

/-- An operator is found if it occurs and none that is looked for before it does; it is then the
    first occurrence that counts. -/
theorem splitOperator?_eq_some_iff {cs after : List Char} {o : Relation} :
    splitOperator? cs = some (o, after) ↔
      (∀ p ∈ o.before, ¬ p.token.toList <:+: cs) ∧
        ∃ before, Text.splitAt? o.token.toList cs = some (before, after) := by
  rw [splitOperator?, List.findSome?_eq_some_iff]
  constructor
  · rintro ⟨front, p, back, hinOrder, hp, hfront⟩
    -- `front` failed, so nothing of it occurs; the list may hold the operator only once
    obtain ⟨⟨before, rest⟩, hsplit, heq⟩ := Option.map_eq_some_iff.mp hp
    obtain ⟨rfl, rfl⟩ := Prod.mk.inj heq
    refine ⟨fun q hq => ?_, before, hsplit⟩
    rw [← Text.splitAt?_eq_none_iff, ← Option.map_eq_none_iff]
    exact hfront q (Relation.mem_of_mem_before hinOrder hq)
  · rintro ⟨hbefore, before, hsplit⟩
    obtain ⟨back, hinOrder⟩ := o.inOrder_eq
    refine ⟨o.before, o, back, hinOrder, ?_, fun p hp => ?_⟩
    · rw [hsplit, Option.map_some]
    · rw [Option.map_eq_none_iff, Text.splitAt?_eq_none_iff]
      exact hbefore p hp

/-- An operator that is written first is found, if none that is looked for before it occurs behind
    the blank that follows. -/
theorem splitOperator?_token (o : Relation) {rest : List Char}
    (h : ∀ p ∈ o.before, ¬ p.token.toList <:+: rest) :
    splitOperator? (o.token.toList ++ ' ' :: rest) = some (o, ' ' :: rest) := by
  refine splitOperator?_eq_some_iff.mpr
    ⟨fun p hp => ?_, [], Text.splitAt?_append o.token_ne_nil (' ' :: rest)⟩
  -- no operator has a blank in it, so it would occur before the blank or behind it
  have hblank : ' ' ∉ p.token.toList := fun hc =>
    absurd (Relation.mem_signs_of_before hp ' ' hc) (by decide)
  intro hinside
  obtain hbefore | hafter := Text.infix_or_infix_of_notMem hblank hinside
  · exact Relation.not_infix_of_before hp hbefore
  · exact h p hp hafter

end Condition

/-! ### Reading an operand -/

/-- What has no blanks at its ends is not trimmed. -/
theorem trimBlanks_eq_self {cs : List Char} (hhead : ∀ c ∈ cs.head?, isBlank c = false)
    (hlast : ∀ c ∈ cs.getLast?, isBlank c = false) : trimBlanks cs = cs := by
  -- the same is said of both ends, the second one of the reversed text
  have hfront : ∀ {ds : List Char}, (∀ c ∈ ds.head?, isBlank c = false) →
      ds.dropWhile isBlank = ds := by
    intro ds h
    cases ds with
    | nil => rfl
    | cons d rest => rw [List.dropWhile_cons, h d rfl, if_neg Bool.false_ne_true]
  rw [trimBlanks, hfront hhead, hfront (by rwa [List.head?_reverse]), List.reverse_reverse]

/-- A blank in front is trimmed. -/
theorem trimBlanks_blank_cons (cs : List Char) : trimBlanks (' ' :: cs) = trimBlanks cs := by
  have hblank : isBlank ' ' = true := by decide
  rw [trimBlanks, List.dropWhile_cons, if_pos hblank, ← trimBlanks]

/-- Nothing is left of a text exactly when there are only blanks in it. -/
theorem trimBlanks_eq_nil_iff {cs : List Char} :
    trimBlanks cs = [] ↔ ∀ c ∈ cs, isBlank c = true := by
  have hreverse : trimBlanks cs = [] ↔ ∀ c ∈ cs.dropWhile isBlank, isBlank c = true := by
    rw [trimBlanks, List.reverse_eq_nil_iff, List.dropWhile_eq_nil_iff]
    simp only [List.mem_reverse]
  rw [hreverse]
  constructor
  · intro h c hc
    -- blanks in front are dropped first, and the rest has to be blank as well
    rw [← List.takeWhile_append_dropWhile (p := isBlank) (l := cs), List.mem_append] at hc
    exact hc.elim List.mem_takeWhile_imp (h c)
  · exact fun h c hc => h c ((List.dropWhile_sublist _).subset hc)

namespace Operand

/-- The characters that text may be put between. -/
def IsQuote (c : Char) : Prop := c = '"' ∨ c = '\''

/-- Quotes are taken off a quoted text. -/
theorem unquote?_quoted (quote : Char) (cs : List Char) :
    unquote? quote (quote :: (cs ++ [quote])) = some cs := by
  -- an empty text between its quotes has nothing behind the first character but the quote
  cases cs with
  | nil => simp [unquote?]
  | cons c rest => simp [unquote?, List.getLast?_cons, List.dropLast_cons_of_ne_nil]

/-- A text that does not begin with the quote is not quoted. -/
theorem unquote?_of_head_ne {quote c : Char} (h : c ≠ quote) (cs : List Char) :
    unquote? quote (c :: cs) = none := by
  cases cs with
  | nil => rfl
  | cons d rest => simp [unquote?, h]

/-- Text in quotes is read as the text. -/
theorem parse_quoted {quote : Char} (h : IsQuote quote) (cs : List Char) (whole : String) :
    parse (quote :: (cs ++ [quote])) whole = .ok (.literal (.text (String.ofList cs))) := by
  obtain rfl | rfl := h
  · simp [parse, unquote?_quoted]
  · simp [parse, unquote?_quoted, unquote?_of_head_ne]

/-- A name in braces is read as a reference, unless there are blanks around the name. -/
theorem parse_braced {name : List Char} (hname : name ≠ []) (htrim : trimBlanks name = name)
    (whole : String) :
    parse ('{' :: (name ++ ['}'])) whole = .ok (.field (String.ofList name)) := by
  simp [parse, htrim, hname]

/-- Characters that mean nothing but themselves in a condition. -/
def IsPlain (c : Char) : Prop :=
  isBlank c = false ∧ c ∉ Relation.signs ∧ c ∉ ['{', '"', '\'']

instance (c : Char) : Decidable (IsPlain c) :=
  inferInstanceAs (Decidable (_ ∧ _ ∧ _))

/-- Text that begins with a plain character stands for a value without quotes or braces. -/
theorem parse_plain {c : Char} (hc : IsPlain c) (cs : List Char) (whole : String) :
    parse (c :: cs) whole = .ok (.literal (bareValue (c :: cs))) := by
  obtain ⟨-, -, hc⟩ := hc
  simp only [List.mem_cons, List.not_mem_nil, or_false, not_or] at hc
  obtain ⟨hbrace, hdouble, hsingle⟩ := hc
  simp [parse, hbrace, unquote?_of_head_ne hdouble, unquote?_of_head_ne hsingle]

/-- Plain characters can be told one by one. -/
theorem isPlain_of_all {cs : List Char} (h : (cs.all fun c => IsPlain c) = true) :
    ∀ c ∈ cs, IsPlain c :=
  fun c hc => of_decide_eq_true (List.all_eq_true.mp h c hc)

/-- Digits are plain. -/
theorem isPlain_of_isDigit {c : Char} (h : c.isDigit = true) : IsPlain c := by
  -- digits have codes between 48 and 57, where there are neither blanks nor signs
  have hrange : 48 ≤ c.toNat ∧ c.toNat ≤ 57 := by
    rw [Char.isDigit, Bool.and_eq_true, decide_eq_true_eq, decide_eq_true_eq] at h
    exact h
  refine ⟨?_, ?_, ?_⟩
  · simp only [isBlank, Bool.or_eq_false_iff, Bool.and_eq_false_iff, beq_eq_false_iff_ne,
      decide_eq_false_iff_not]
    omega
  · intro hc
    simp only [Relation.signs, List.mem_cons, List.not_mem_nil, or_false] at hc
    obtain rfl | rfl | rfl | rfl := hc <;> exact absurd h (by decide)
  · intro hc
    simp only [List.mem_cons, List.not_mem_nil, or_false] at hc
    obtain rfl | rfl | rfl := hc <;> exact absurd h (by decide)

/-- So are all characters of the text of an integer. -/
theorem isPlain_of_mem_integerText {n : Int64} {c : Char}
    (h : c ∈ (Value.integerText n).toList) : IsPlain c := by
  obtain rfl | hdigit := Value.eq_minus_or_isDigit_of_mem_integerText h
  · exact ⟨by decide, by decide, by decide⟩
  · exact isPlain_of_isDigit hdigit

/-- The text of an integer stands for the integer. -/
theorem bareValue_integerText (n : Int64) :
    bareValue (Value.integerText n).toList = .integer n := by
  -- the words that stand for other values have letters in them
  have hword : ∀ {word : String}, 'e' ∈ word.toList ∨ 'l' ∈ word.toList →
      String.ofList (Value.integerText n).toList ≠ word := by
    rintro word hletter rfl
    rw [String.toList_ofList] at hletter
    obtain h | h := hletter <;>
      obtain h | h := Value.eq_minus_or_isDigit_of_mem_integerText h <;>
      exact absurd h (by decide)
  unfold bareValue
  split
  · next h => exact absurd h (hword (by decide))
  · next h => exact absurd h (hword (by decide))
  · next h => exact absurd h (hword (by decide))
  · rw [Numeral.integer?_integerText]

end Operand

/-! ### Reading a condition -/

namespace Condition

open Operand

/-- A condition that begins with an operator and a blank is that operator with what the rest is read
    as. -/
theorem parse_token (rest : List Char) {o : Relation} {operand : Operand} {text : String}
    (htext : text.toList = o.token.toList ++ ' ' :: rest)
    (hpriority : ∀ p ∈ o.before, ¬ p.token.toList <:+: rest) (hne : rest ≠ [])
    (htrim : trimBlanks rest = rest) (hoperand : Operand.parse rest text = .ok operand) :
    parse text = .ok ⟨o, operand⟩ := by
  -- the blank behind the operator is trimmed, and what is left is not empty
  have hempty : rest.isEmpty = false := List.isEmpty_eq_false_iff.mpr hne
  rw [parse, htext, splitOperator?_token o hpriority]
  simp only [trimBlanks_blank_cons, htrim, hempty, hoperand]
  rfl

/-- Text between two characters that no operator has in it contains an operator only if an operator
    is in the text itself. -/
theorem not_infix_enclosed {o : Relation} {first last : Char} (hfirst : first ∉ Relation.signs)
    (hlast : last ∉ Relation.signs) {cs : List Char}
    (h : ∀ p ∈ o.before, ¬ p.token.toList <:+: cs) :
    ∀ p ∈ o.before, ¬ p.token.toList <:+: first :: (cs ++ [last]) := by
  intro p hp hinside
  have hnone : ¬ p.token.toList <:+: [] := fun hnil => p.token_ne_nil (List.infix_nil.mp hnil)
  have hnotMem : ∀ c ∉ Relation.signs, c ∉ p.token.toList := fun c hc hmem =>
    hc (Relation.mem_signs_of_before hp c hmem)
  -- first the character in front is taken off, then the one behind
  have hinside : p.token.toList <:+: [] ++ first :: (cs ++ [last]) := hinside
  obtain hinside | hinside := Text.infix_or_infix_of_notMem (hnotMem _ hfirst) hinside
  · exact hnone hinside
  · obtain hinside | hinside := Text.infix_or_infix_of_notMem (hnotMem _ hlast) hinside
    · exact h p hp hinside
    · exact hnone hinside

/-- What is enclosed by characters that are no blanks is not trimmed. -/
theorem trimBlanks_enclosed {first last : Char} (hfirst : isBlank first = false)
    (hlast : isBlank last = false) (cs : List Char) :
    trimBlanks (first :: (cs ++ [last])) = first :: (cs ++ [last]) := by
  refine trimBlanks_eq_self ?_ ?_
  · simpa using hfirst
  · rw [← List.cons_append, List.getLast?_concat]
    simpa using hlast

/-- A value whose text is plain is read from its text. -/
theorem parse_display (o : Relation) {v : Value} (hne : v.display.toList ≠ [])
    (hplain : ∀ c ∈ v.display.toList, IsPlain c)
    (hbare : bareValue v.display.toList = v) :
    parse (o.token ++ " " ++ v.display) = .ok ⟨o, .literal v⟩ := by
  refine parse_token v.display.toList (by simp) ?_ hne ?_ ?_
  · exact fun p hp => Relation.not_infix_of_noSigns hp fun c hc => (hplain c hc).2.1
  · refine trimBlanks_eq_self ?_ ?_
    · exact fun c hc => (hplain c (List.mem_of_mem_head? hc)).1
    · exact fun c hc => (hplain c (List.mem_of_getLast? hc)).1
  -- the first character of the text decides that it is neither quoted nor in braces
  · obtain ⟨c, cs, hcs⟩ := List.exists_cons_of_ne_nil hne
    have hc : IsPlain c := hplain c (by rw [hcs]; exact List.mem_cons_self)
    have hread := parse_plain hc cs (o.token ++ " " ++ v.display)
    rwa [← hcs, hbare] at hread

/-- Conditions are read as they are written.  Behind an operator and a blank, text in quotes is
    read as the text and a name in braces as a reference, unless an operator that is looked for
    before occurs in it, and the text of an integer, of a truth value or of null as the value. -/
theorem parse_written (o : Relation) :
    (∀ (quote : Char) (s : String), IsQuote quote →
      (∀ p ∈ o.before, ¬ p.token.toList <:+: s.toList) →
      parse (o.token ++ " " ++ String.singleton quote ++ s ++ String.singleton quote) =
        .ok ⟨o, .literal (.text s)⟩) ∧
    (∀ name : String, name ≠ "" → trim name = name →
      (∀ p ∈ o.before, ¬ p.token.toList <:+: name.toList) →
      parse (o.token ++ " \x7b" ++ name ++ "\x7d") = .ok ⟨o, .field name⟩) ∧
    (∀ n : Int64,
      parse (o.token ++ " " ++ (Value.integer n).display) = .ok ⟨o, .literal (.integer n)⟩) ∧
    (∀ b : Bool,
      parse (o.token ++ " " ++ (Value.boolean b).display) = .ok ⟨o, .literal (.boolean b)⟩) ∧
    parse (o.token ++ " " ++ Value.null.display) = .ok ⟨o, .literal .null⟩ := by
  refine ⟨?quoted, ?braced, ?integer, ?boolean, ?null⟩
  case quoted =>
    intro quote s hquote hpriority
    -- quotes are no signs and no blanks, so they neither hide an operator nor are trimmed
    have hplace : isBlank quote = false ∧ quote ∉ Relation.signs := by
      obtain rfl | rfl := hquote <;> decide
    refine parse_token (quote :: (s.toList ++ [quote])) (by simp) ?_ nofun ?_ ?_
    · exact not_infix_enclosed hplace.2 hplace.2 hpriority
    · exact trimBlanks_enclosed hplace.1 hplace.1 _
    · rw [parse_quoted hquote, String.ofList_toList]
  case braced =>
    intro name hne htrim hpriority
    have hname : name.toList ≠ [] := fun h => hne (String.toList_eq_nil_iff.mp h)
    -- trimming a text is trimming its characters
    have htrimmed : trimBlanks name.toList = name.toList := by
      rw [← String.toList_ofList (l := trimBlanks name.toList)]
      exact congrArg String.toList htrim
    refine parse_token ('{' :: (name.toList ++ ['}'])) (by simp) ?_ nofun ?_ ?_
    · exact not_infix_enclosed (by decide) (by decide) hpriority
    · exact trimBlanks_enclosed (by decide) (by decide) _
    · rw [parse_braced hname htrimmed, String.ofList_toList]
  case integer =>
    intro n
    exact parse_display o (v := .integer n) (Value.integerText_ne_empty n)
      (fun c hc => isPlain_of_mem_integerText hc) (bareValue_integerText n)
  case boolean =>
    intro b
    cases b with
    | true =>
      exact parse_display o (v := .boolean true) (by decide) (isPlain_of_all (by decide))
        (by decide)
    | false =>
      exact parse_display o (v := .boolean false) (by decide) (isPlain_of_all (by decide))
        (by decide)
  case null =>
    exact parse_display o (v := .null) (by decide) (isPlain_of_all (by decide)) (by decide)

/-- Text with quotes, braces and operators in it. -/
private def remark : String := "'\x7bé\x7d\" is < 1 and includes 2"

/-- The name of a field with operators in it. -/
private def ratio : String := "a\x7d > b"

/-- Operators that are looked for later may stand in text and in names. -/
theorem parse_written_remark :
    (∀ p ∈ Relation.ge.before, ¬ p.token.toList <:+: remark.toList) ∧
    parse (">= '" ++ remark ++ "'") = .ok ⟨.ge, .literal (.text remark)⟩ ∧
    (∀ p ∈ Relation.le.before, ¬ p.token.toList <:+: ratio.toList) ∧ trim ratio = ratio ∧
    parse ("<= \x7b" ++ ratio ++ "\x7d") = .ok ⟨.le, .field ratio⟩ := by
  have hremark : ∀ p ∈ Relation.ge.before, ¬ p.token.toList <:+: remark.toList := by
    simp only [← Text.splitAt?_eq_none_iff]
    decide
  have hratio : ∀ p ∈ Relation.le.before, ¬ p.token.toList <:+: ratio.toList := by
    simp only [← Text.splitAt?_eq_none_iff]
    decide
  have htrim : trim ratio = ratio := by decide
  refine ⟨hremark, ?_, hratio, htrim, ?_⟩
  · exact (parse_written .ge).1 '\'' remark (.inr rfl) hremark
  · exact (parse_written .le).2.1 ratio (by decide) htrim hratio

end Condition
end RecordRules
