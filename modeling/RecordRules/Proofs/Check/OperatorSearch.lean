import RecordRules.Proofs.Check.ConditionText
import RecordRules.Proofs.Except

/-!
# Which operator of a text is read

The operators are looked for one after the other, each anywhere in the text, and of the one that is
found the first occurrence counts.  What is read is therefore never a part of a longer operator, but
other signs may stand right next to it: the text `!== x` is read as `== x`.

## Key results

- `Text.not_infix_of_splitAt?`: what is found is the first occurrence
- `Condition.exists_readAt`: every condition is read at some place of its text
- `Condition.ReadAt.eq_of_longer`: it is not read from within a longer operator
- `Condition.reads_whole_operator`: which signs may stand next to an operator that is read
- `Condition.reads_next_to_signs`: there are such signs
-/

namespace RecordRules

namespace Text

/-- The first occurrence is found: there is none that ends before it does. -/
theorem not_infix_of_splitAt? {token cs before after : List Char} (hne : token ≠ [])
    (h : splitAt? token cs = some (before, after)) : ¬ token <:+: before ++ token.dropLast := by
  -- on the text that is searched; the part before the cut grows by one character
  induction cs generalizing before after with
  | nil =>
    have hempty : token.isEmpty = false := List.isEmpty_eq_false_iff.mpr hne
    rw [splitAt?, hempty] at h
    cases h
  | cons c rest ih =>
    rw [splitAt?] at h
    split at h
    · -- an occurrence at the very beginning, too long to end before it does
      obtain ⟨rfl, -⟩ := Prod.mk.inj (Option.some.inj h)
      intro hinside
      have hlength := hinside.length_le
      rw [List.nil_append, List.length_dropLast] at hlength
      have := List.length_pos_iff.mpr hne
      omega
    · next hstart =>
      obtain ⟨⟨before, after⟩, hrest, heq⟩ := Option.map_eq_some_iff.mp h
      obtain ⟨rfl, rfl⟩ := Prod.mk.inj heq
      rw [List.cons_append, List.infix_cons_iff]
      rintro (hstarts | hinside)
      · -- then the text would begin with what is looked for
        refine hstart (List.isPrefixOf_iff_prefix.mpr (hstarts.trans ?_))
        rw [eq_of_splitAt? hrest, List.append_assoc]
        have htoken : token.dropLast <+: token ++ after :=
          (List.dropLast_prefix token).trans (List.prefix_append token after)
        exact (List.prefix_append_right_inj (c :: before)).mpr htoken
      · exact ih hrest hinside

end Text

namespace Relation

/-- The signs that may stand right before an operator that is read. -/
def signsBefore : Relation → List Char
  | eq => ['!', '>', '<']
  | ne | ge | le => ['=', '!', '>', '<']
  | gt => ['=', '!', '<']
  | lt | includes => ['=', '!']

/-- The signs that may stand right after an operator that is read. -/
def signsAfter : Relation → List Char
  | eq => ['=', '!', '>', '<']
  | ne | ge | le | gt => ['!', '>', '<']
  | lt => ['!', '<']
  | includes => ['=', '!']

/-- An operator with another one inside it is looked for before that one. -/
theorem mem_before_of_infix {o p : Relation} (h : o.token.toList <:+: p.token.toList)
    (hne : p ≠ o) : p ∈ o.before := by
  refine Decidable.byContradiction fun hnot => ?_
  -- two operators of which the first is not looked for before the second: none is inside
  have hnone : Text.splitAt? o.token.toList p.token.toList = none := by
    revert hnot hne
    cases o <;> cases p <;> decide
  exact Text.splitAt?_eq_none_iff.mp hnone h

/-- What holds of each of the four signs.  Deciding it at once would run through all characters. -/
theorem forall_mem_signs {P : Char → Prop} (h : P '=' ∧ P '!' ∧ P '>' ∧ P '<') :
    ∀ s ∈ signs, P s := by
  simpa only [signs, List.forall_mem_cons, List.not_mem_nil, false_implies, implies_true,
    and_true] using h

/-- A sign right before an operator makes up an operator that is looked for before, or the operator
    itself, unless it is one of those that may stand there. -/
theorem mem_signsBefore {o : Relation} {s : Char} (hs : s ∈ signs)
    (hbefore : ∀ p ∈ o.before, ¬ p.token.toList <:+: s :: o.token.toList)
    (hself : ¬ o.token.toList <:+: s :: o.token.toList.dropLast) : s ∈ o.signsBefore := by
  simp only [← Text.splitAt?_eq_none_iff] at hbefore hself
  -- for one operator there are four signs, each of which can be tried
  have hall : ∀ s ∈ signs,
      (∀ p ∈ o.before, Text.splitAt? p.token.toList (s :: o.token.toList) = none) →
      Text.splitAt? o.token.toList (s :: o.token.toList.dropLast) = none → s ∈ o.signsBefore :=
    forall_mem_signs (by cases o <;> decide)
  exact hall s hs hbefore hself

/-- A sign right after an operator makes up an operator that is looked for before, unless it is one
    of those that may stand there. -/
theorem mem_signsAfter {o : Relation} {s : Char} (hs : s ∈ signs)
    (hbefore : ∀ p ∈ o.before, ¬ p.token.toList <:+: o.token.toList ++ [s]) :
    s ∈ o.signsAfter := by
  simp only [← Text.splitAt?_eq_none_iff] at hbefore
  have hall : ∀ s ∈ signs,
      (∀ p ∈ o.before, Text.splitAt? p.token.toList (o.token.toList ++ [s]) = none) →
      s ∈ o.signsAfter :=
    forall_mem_signs (by cases o <;> decide)
  exact hall s hs hbefore

end Relation

namespace Condition

/-- A text is read as a condition whose operator stands between the given parts of the text. -/
structure ReadAt (text : String) (c : Condition) (before after : List Char) : Prop where
  parse : Condition.parse text = .ok c
  parts : text.toList = before ++ c.relation.token.toList ++ after
  chosen : splitOperator? text.toList = some (c.relation, after)

/-- Every condition is read at some place of its text. -/
theorem exists_readAt {text : String} {c : Condition} (h : parse text = .ok c) :
    ∃ before after, ReadAt text c before after := by
  have hparse := h
  rw [parse] at h
  split at h
  · cases h
  · next o after hchosen =>
    dsimp only at h
    split at h
    · cases h
    · obtain ⟨operand, -, rfl⟩ := Except.map_eq_ok.mp h
      -- the operator that was chosen tells where the text was cut
      obtain ⟨-, before, hsplit⟩ := splitOperator?_eq_some_iff.mp hchosen
      exact ⟨before, after, hparse, Text.eq_of_splitAt? hsplit, hchosen⟩

namespace ReadAt

variable {text : String} {c : Condition} {before after : List Char}

/-- No operator that is looked for before the one that is read occurs in the text. -/
theorem not_infix_of_mem_before (h : ReadAt text c before after) {p : Relation}
    (hp : p ∈ c.relation.before) : ¬ p.token.toList <:+: text.toList :=
  (splitOperator?_eq_some_iff.mp h.chosen).1 p hp

/-- The operator that is read is the first of its kind. -/
theorem isFirst (h : ReadAt text c before after) :
    ¬ c.relation.token.toList <:+: before ++ c.relation.token.toList.dropLast := by
  obtain ⟨-, before', hsplit⟩ := splitOperator?_eq_some_iff.mp h.chosen
  -- what follows the operator is the same, so what precedes it is the same too
  have hbefore : before' = before := by
    have hparts := (Text.eq_of_splitAt? hsplit).symm.trans h.parts
    exact List.append_cancel_right (List.append_cancel_right hparts)
  rw [← hbefore]
  exact Text.not_infix_of_splitAt? c.relation.token_ne_nil hsplit

/-- The operator that is read is not a part of a longer one that stands there. -/
theorem eq_of_longer (h : ReadAt text c before after) {p : Relation} {left right : List Char}
    (hp : p.token.toList = left ++ c.relation.token.toList ++ right) (hleft : left <:+ before)
    (hright : right <+: after) : p = c.relation := by
  refine Decidable.byContradiction fun hne => ?_
  -- another operator with this one inside it would have been found in its place
  have hmem : p ∈ c.relation.before :=
    Relation.mem_before_of_infix ⟨left, right, hp.symm⟩ hne
  obtain ⟨front, rfl⟩ := hleft
  obtain ⟨back, rfl⟩ := hright
  refine h.not_infix_of_mem_before hmem ⟨front, back, ?_⟩
  rw [h.parts, hp]
  simp only [List.append_assoc]

/-- A sign that stands right before the operator that is read is one of those that may. -/
theorem mem_signsBefore {s : Char} (h : ReadAt text c (before ++ [s]) after)
    (hs : s ∈ Relation.signs) : s ∈ c.relation.signsBefore := by
  refine Relation.mem_signsBefore hs (fun p hp hinside => ?_) fun hinside => ?_
  · -- the sign would make up an operator that is looked for before
    refine h.not_infix_of_mem_before hp (hinside.trans ⟨before, after, ?_⟩)
    rw [h.parts]
    simp only [List.append_assoc, List.cons_append, List.nil_append]
  · -- the sign would begin an occurrence of the operator itself
    refine h.isFirst (hinside.trans ⟨before, [], ?_⟩)
    simp only [List.append_assoc, List.cons_append, List.nil_append, List.append_nil]

/-- A sign that stands right after it is one of those that may. -/
theorem mem_signsAfter {s : Char} (h : ReadAt text c before (s :: after))
    (hs : s ∈ Relation.signs) : s ∈ c.relation.signsAfter := by
  refine Relation.mem_signsAfter hs fun p hp hinside => ?_
  refine h.not_infix_of_mem_before hp (hinside.trans ⟨before, after, ?_⟩)
  rw [h.parts]
  simp only [List.append_assoc, List.cons_append, List.nil_append]

end ReadAt

/-! ### Signs next to an operator -/

/-- Whatever does not begin with a brace can be an operand. -/
theorem exists_operand {c : Char} (hc : c ≠ '{') (cs : List Char) (whole : String) :
    ∃ operand, Operand.parse (c :: cs) whole = .ok operand := by
  unfold Operand.parse
  split
  · next heq => exact absurd (List.cons.inj heq).1 hc
  · split <;> exact ⟨_, rfl⟩

/-- Whatever follows an operator that is found, it is read there if the rest can be an operand. -/
theorem exists_readAt_of_chosen {o : Relation} {before after rest : List Char} {c : Char}
    (hchosen : splitOperator? (before ++ o.token.toList ++ after) = some (o, after))
    (htrim : trimBlanks after = c :: rest) (hc : c ≠ '{') :
    ∃ text operand, ReadAt text ⟨o, operand⟩ before after := by
  have htext : (String.ofList (before ++ o.token.toList ++ after)).toList =
      before ++ o.token.toList ++ after := String.toList_ofList
  obtain ⟨operand, hoperand⟩ :=
    exists_operand hc rest (String.ofList (before ++ o.token.toList ++ after))
  refine ⟨.ofList (before ++ o.token.toList ++ after), operand, ?_, htext, by rw [htext, hchosen]⟩
  rw [parse, htext, hchosen]
  simp only [htrim, List.isEmpty_cons, Bool.false_eq_true, if_false, hoperand]
  rfl

/-- The table lists just the signs that some condition has right before the operator. -/
theorem mem_signsBefore_iff {o : Relation} {s : Char} (hs : s ∈ Relation.signs) :
    s ∈ o.signsBefore ↔
      ∃ text operand before after, ReadAt text ⟨o, operand⟩ (before ++ [s]) after := by
  constructor
  · intro hmem
    -- every sign of the table does stand there in a text of one sign, the operator and a letter
    have hchosen : ∀ s ∈ Relation.signs, s ∈ o.signsBefore →
        splitOperator? ([s] ++ o.token.toList ++ [' ', 'x']) = some (o, [' ', 'x']) :=
      Relation.forall_mem_signs (by cases o <;> decide)
    obtain ⟨text, operand, h⟩ := exists_readAt_of_chosen (hchosen s hs hmem) rfl (by decide)
    exact ⟨text, operand, [], _, h⟩
  · rintro ⟨text, operand, before, after, h⟩
    exact h.mem_signsBefore hs

/-- The other table lists just those that some condition has right after it. -/
theorem mem_signsAfter_iff {o : Relation} {s : Char} (hs : s ∈ Relation.signs) :
    s ∈ o.signsAfter ↔
      ∃ text operand before after, ReadAt text ⟨o, operand⟩ before (s :: after) := by
  constructor
  · intro hmem
    -- here the sign stands between the operator and the operand
    have hchosen : ∀ s ∈ Relation.signs, s ∈ o.signsAfter →
        splitOperator? ([] ++ o.token.toList ++ [s, ' ', 'x']) = some (o, [s, ' ', 'x']) :=
      Relation.forall_mem_signs (by cases o <;> decide)
    have htrim : ∀ s ∈ Relation.signs, trimBlanks [s, ' ', 'x'] = [s, ' ', 'x'] ∧ s ≠ '{' :=
      Relation.forall_mem_signs (by decide)
    obtain ⟨text, operand, h⟩ :=
      exists_readAt_of_chosen (hchosen s hs hmem) (htrim s hs).1 (htrim s hs).2
    exact ⟨text, operand, [], _, h⟩
  · rintro ⟨text, operand, before, after, h⟩
    exact h.mem_signsAfter hs

/-- Every condition is read at a place of its text.  No operator that is looked for before occurs
    in the text, the occurrence that is read is the first of its operator, and it is not a part of a
    longer operator.  Other signs may stand next to it, and the tables say which. -/
theorem reads_whole_operator :
    (∀ text c, parse text = .ok c → ∃ before after, ReadAt text c before after) ∧
    (∀ text c before after, ReadAt text c before after →
      (∀ p ∈ c.relation.before, ¬ p.token.toList <:+: text.toList) ∧
      (¬ c.relation.token.toList <:+: before ++ c.relation.token.toList.dropLast) ∧
      (∀ (p : Relation) (left right : List Char),
        p.token.toList = left ++ c.relation.token.toList ++ right →
          left <:+ before → right <+: after → p = c.relation)) ∧
    (∀ o : Relation, ∀ s ∈ Relation.signs,
      (s ∈ o.signsBefore ↔
        ∃ text operand before after, ReadAt text ⟨o, operand⟩ (before ++ [s]) after) ∧
      (s ∈ o.signsAfter ↔
        ∃ text operand before after, ReadAt text ⟨o, operand⟩ before (s :: after))) := by
  refine ⟨fun text c => exists_readAt, fun text c before after h => ⟨?_, h.isFirst, ?_⟩,
    fun o s hs => ⟨mem_signsBefore_iff hs, mem_signsAfter_iff hs⟩⟩
  · exact fun p hp => h.not_infix_of_mem_before hp
  · exact fun p left right => h.eq_of_longer

/-- The text `due =>= 5` asks for `>=`: what is read is neither its `>` nor its `=`, and the sign
    before it is in the table. -/
theorem reads_whole_operator_due :
    ∃ before after, ReadAt "due =>= 5" ⟨.ge, .literal (.integer 5)⟩ before after ∧
      (∀ p ∈ Relation.before .ge, ¬ p.token.toList <:+: "due =>= 5".toList) ∧
      '=' ∈ Relation.signsBefore .ge := by
  obtain ⟨hplace, hwhole, htables⟩ := reads_whole_operator
  have hread : ReadAt "due =>= 5" ⟨.ge, .literal (.integer 5)⟩ "due =".toList " 5".toList :=
    ⟨rfl, rfl, rfl⟩
  obtain ⟨before, after, h⟩ := hplace _ _ hread.parse
  exact ⟨before, after, h, (hwhole _ _ _ _ h).1,
    (htables .ge '=' (by decide)).1.mpr ⟨_, _, "due ".toList, _, hread⟩⟩

/-- The operator that is read may stand next to another sign. -/
theorem reads_next_to_signs :
    ¬ ∀ text c before after, ReadAt text c before after → c.relation ≠ .includes →
      (∀ s ∈ before.getLast?, s ∉ Relation.signs) ∧ (∀ s ∈ after.head?, s ∉ Relation.signs) := by
  intro h
  have hread : ReadAt "!== x" ⟨.eq, .literal (.text "x")⟩ ['!'] [' ', 'x'] :=
    ⟨rfl, rfl, rfl⟩
  exact (h _ _ _ _ hread nofun).1 '!' rfl (by decide)

end Condition
end RecordRules
