import RecordRules.Json.Printer
import RecordRules.Json.Reader
import RecordRules.Proofs.Binary64.Magnitude
import RecordRules.Proofs.Json.RealText

/-!
# The text of an object is read back

An object without lists and objects in it is written on one line.  Its text is read member by
member: texts come back through their escapes, names and integers as they are, and a real comes
back as what its digits are worth after scaling (`Json.reread`).  A real may in principle be
refused; then the text is cut short behind it.

## Key results

- `Json.Draft.string_escaped`: a text is read back
- `Json.Draft.value_scalarText`: a scalar is read back, a real up to scaling
- `Json.Draft.ofText_compact`: an object of scalars is read back, member by member
-/

namespace RecordRules.Json

/-- A value that is no list, no object and no real outside the number line.  Its integers are those
    of 64-bit words. -/
def IsPlain : Json → Prop
  | .integer n => isSigned64 n = true
  | .real x => x.isFinite = true
  | .array _ | .object _ => False
  | _ => True

/-- What the text of a value is read as, if the value is plain. -/
def reread : Json → Except JsonFault Draft
  | .null => .ok .null
  | .boolean b => .ok (.boolean b)
  | .integer n => .ok (.integer n)
  | .real (.finite s u _) =>
    (JsonNumber.toReal s (Binary64.written u).1 (Binary64.written u).2).map .real
  | .text s => .ok (.text s)
  | .real _ | .array _ | .object _ => .error .expectedValue

/-- What the members of an object are read as, up to the first one that is refused. -/
def rereadMembers : List (String × Json) → List (String × Draft)
  | [] => []
  | (key, j) :: rest =>
    match j.reread with
    | .ok d => (key, d) :: rereadMembers rest
    | .error fault => [(key, .broken fault)]

namespace Draft

/-! ### Texts -/

/-- The two digits of an escaped control character. -/
theorem hexEscape_control {n : Nat} (hn : n < 32) (rest : List Char) :
    hexEscape ('0' :: '0' :: hexDigit (n / 16) :: hexDigit (n % 16) :: rest) = .ok (n, rest) := by
  -- there are only 32 of them
  have hall : ∀ n < 32, ['0', '0', hexDigit (n / 16), hexDigit (n % 16)].foldl
        (fun n c => n + c.utf8Size) 0 = 4 ∧
      Numeral.natural? 16 ['0', '0', hexDigit (n / 16), hexDigit (n % 16)] = some n := by
    decide
  obtain ⟨hbytes, hvalue⟩ := hall n hn
  unfold hexEscape
  simp only [List.take_succ_cons, List.take_zero, hbytes, hvalue]
  rfl

/-- A character is read back from its escape. -/
theorem stringFrom_escape (fuel : Nat) (acc rest : List Char) (c : Char) :
    stringFrom (fuel + 1) acc (escape c ++ rest) = stringFrom fuel (c :: acc) rest := by
  unfold escape
  split
  -- all other characters have escapes of two letters, which the reader knows by name
  case h_8 _ hquote hslash _ _ _ _ _ =>
    split
    · next hcontrol =>
      -- the digits of the escape are those of the character
      have hhigh : ¬ (0xDC00 ≤ c.toNat ∧ c.toNat ≤ 0xDFFF) := by omega
      have hlow : c.toNat < 0xD800 ∨ 0xDFFF < c.toNat := by omega
      have hunicode : unicodeEscape
          ('0' :: '0' :: hexDigit (c.toNat / 16) :: hexDigit (c.toNat % 16) :: rest) =
            .ok (c, rest) := by
        unfold unicodeEscape
        rw [hexEscape_control hcontrol]
        show (if _ then _ else _) = _
        rw [if_neg hhigh, if_pos hlow, Char.ofNat_toNat]
      show (unicodeEscape
        ('0' :: '0' :: hexDigit (c.toNat / 16) :: hexDigit (c.toNat % 16) :: rest) >>= _) = _
      rw [hunicode]
      rfl
    · next hplain =>
      rw [List.singleton_append, stringFrom.eq_def]
      dsimp only
      rw [if_neg hquote, if_neg hslash, if_neg hplain]
  all_goals rfl

/-- The escapes of a text are at least as many characters as the text. -/
theorem length_le_flatMap_escape (cs : List Char) : cs.length ≤ (cs.flatMap escape).length := by
  induction cs with
  | nil => exact Nat.le_refl _
  | cons c cs ih =>
    -- every escape has a first character
    have hone : 1 ≤ (escape c).length := by
      unfold escape
      split
      case h_8 => split <;> exact Nat.succ_le_succ (Nat.zero_le _)
      all_goals exact Nat.succ_le_succ (Nat.zero_le _)
    rw [List.flatMap_cons, List.length_append, List.length_cons]
    omega

/-- The characters of a text are read back from their escapes, up to the closing quote. -/
theorem stringFrom_escaped {fuel : Nat} {cs acc rest : List Char} (h : cs.length < fuel) :
    stringFrom fuel acc (cs.flatMap escape ++ '"' :: rest) = .ok (cs.reverse ++ acc, rest) := by
  -- a character takes one step, however long its escape is
  induction cs generalizing fuel acc with
  | nil =>
    obtain ⟨fuel, rfl⟩ := Nat.exists_eq_add_one_of_ne_zero (Nat.ne_of_gt h)
    rfl
  | cons c cs ih =>
    rw [List.length_cons] at h
    obtain ⟨fuel, rfl⟩ := Nat.exists_eq_add_one_of_ne_zero (Nat.ne_zero_of_lt h)
    rw [List.flatMap_cons, List.append_assoc, stringFrom_escape, ih (by omega),
      List.reverse_cons, List.append_assoc]
    rfl

/-- A text is read back from what stands between its quotes. -/
theorem string_escaped (s : String) (rest : List Char) :
    string (s.toList.flatMap escape ++ '"' :: rest) = .ok (s, rest) := by
  -- no escape is empty, so there is fuel for every character
  have hlength := length_le_flatMap_escape s.toList
  have hfuel : s.toList.length < (s.toList.flatMap escape ++ '"' :: rest).length + 1 := by
    rw [List.length_append]
    omega
  unfold string
  rw [stringFrom_escaped hfuel, List.append_nil]
  show Except.ok (String.ofList s.toList.reverse.reverse, rest) = _
  rw [List.reverse_reverse, String.ofList_toList]

theorem toList_quote (s : String) :
    (quote s).toList = '"' :: (s.toList.flatMap escape ++ ['"']) := by
  rw [quote, String.toList_ofList]
  rfl

/-! ### Scalars -/

/-- What begins with a digit or a sign is read as a number. -/
theorem value_number {c : Char} (hc : c.isDigit = true ∨ c = '-') (fuel depth : Nat)
    (cs : List Char) :
    value (fuel + 1) depth (c :: cs) = scalar ofNumber (JsonNumber.read (c :: cs)) := by
  have hne (c' : Char) (hc' : (c'.isDigit || c' = '-') = false) : c ≠ c' := by
    rintro rfl
    rw [Bool.or_eq_false_iff, decide_eq_false_iff_not] at hc'
    exact hc.elim (fun h => Bool.false_ne_true (hc'.1.symm.trans h)) hc'.2
  -- a digit or a sign is no space, so nothing is skipped
  have hskip : skipSpace (c :: cs) = c :: cs := by
    have hspace : isSpace c = false := by
      simp only [isSpace, Bool.or_eq_false_iff, decide_eq_false_iff_not]
      exact ⟨⟨⟨hne ' ' (by decide), hne '\n' (by decide)⟩, hne '\t' (by decide)⟩,
        hne '\r' (by decide)⟩
    exact List.dropWhile_cons_of_neg (by rw [hspace]; exact Bool.false_ne_true)
  have hnumber : (c.isDigit || c = '-') = true := by
    rw [Bool.or_eq_true, decide_eq_true_eq]
    exact hc
  unfold value
  rw [hskip]
  split
  case h_8 heq =>
    obtain ⟨rfl, rfl⟩ := List.cons.inj heq
    exact if_pos hnumber
  case h_1 heq => exact nomatch heq
  -- no name, text, list or object begins like a number
  all_goals
    next heq => exact absurd (List.cons.inj heq).1 (hne _ (by decide))

/-- The text of an integer is read as a number, whether it begins with a digit or with a sign. -/
theorem value_integer {n : Int} (hn : isSigned64 n = true) (fuel depth : Nat) {rest : List Char}
    (hrest : JsonNumber.Ends rest) :
    value (fuel + 1) depth ((if n < 0 then ['-'] else []) ++ decimalDigits n.natAbs ++ rest) =
      (.integer n, some rest) := by
  have hread := JsonNumber.read_integer hn hrest
  -- the reader decides on the first character, so this one has to be named
  obtain ⟨c, cs, hcs, hc⟩ : ∃ c cs,
      (if n < 0 then ['-'] else []) ++ decimalDigits n.natAbs ++ rest = c :: cs ∧
        (c.isDigit = true ∨ c = '-') := by
    by_cases hneg : n < 0
    · rw [if_pos hneg]
      exact ⟨'-', _, rfl, .inr rfl⟩
    · obtain ⟨c, ds, hds⟩ := List.exists_cons_of_ne_nil (decimalDigits_ne_nil n.natAbs)
      have hc : c.isDigit = true :=
        Numeral.isDigit_of_mem_decimalDigits (by rw [hds]; exact List.mem_cons_self)
      rw [if_neg hneg, hds]
      exact ⟨c, _, rfl, .inl hc⟩
  rw [hcs] at hread ⊢
  rw [value_number hc, hread]
  rfl

/-- The text of a real is read as a number, up to scaling. -/
theorem value_real {negative : Bool} {u : Nat} (hr : Representable u) (fuel depth : Nat)
    {rest : List Char} (hrest : JsonNumber.Ends rest) :
    value (fuel + 1) depth
        ((if negative then ['-'] else []) ++ Binary64.renderUnits .json u ++ rest) =
      scalar .real ((JsonNumber.toReal negative (Binary64.written u).1
        (Binary64.written u).2).map (·, rest)) := by
  have hread := @JsonNumber.read_real negative rest u hr hrest
  -- the first character is a sign, or a digit of the magnitude
  obtain ⟨c, cs, hcs, hc⟩ :
      ∃ c cs, (if negative then ['-'] else []) ++ Binary64.renderUnits .json u ++ rest = c :: cs ∧
        (c.isDigit = true ∨ c = '-') := by
    cases negative with
    | true => exact ⟨'-', _, rfl, .inr rfl⟩
    | false =>
      obtain ⟨c, cs, hcs, hc⟩ := JsonNumber.isDigit_head_renderUnits u
      rw [hcs]
      exact ⟨c, _, rfl, .inl hc⟩
  rw [hcs] at hread ⊢
  rw [value_number hc, hread]
  cases JsonNumber.toReal negative (Binary64.written u).1 (Binary64.written u).2 <;> rfl

/-- A scalar is read back from its text. -/
theorem value_scalarText {j : Json} (hj : j.IsPlain) (fuel depth : Nat) {rest : List Char}
    (hrest : JsonNumber.Ends rest) :
    value (fuel + 1) depth (j.scalarText.toList ++ rest) =
      scalar id (j.reread.map (·, rest)) := by
  cases j with
  | null => rfl
  | boolean b => cases b <;> rfl
  | integer n =>
    rw [scalarText, String.toList_ofList]
    exact value_integer hj fuel depth hrest
  | real x =>
    cases x with
    | finite negative u hr =>
      rw [scalarText, Binary64.render, String.toList_ofList, value_real hr fuel depth hrest, reread]
      cases JsonNumber.toReal negative (Binary64.written u).1 (Binary64.written u).2 <;> rfl
    | nan | infinity _ => exact absurd hj Bool.false_ne_true
  | text s =>
    rw [scalarText, toList_quote, List.cons_append, List.append_assoc]
    show scalar .text (string (s.toList.flatMap escape ++ '"' :: rest)) = _
    rw [string_escaped]
    rfl
  | array _ | object _ => exact hj.elim

/-! ### Objects -/

/-- The text of a member with a scalar. -/
def memberText (m : String × Json) : List Char :=
  (quote m.1).toList ++ ':' :: m.2.scalarText.toList

/-- The texts of the members behind the first one, up to the closing brace. -/
def moreText (ms : List (String × Json)) (rest : List Char) : List Char :=
  ms.flatMap (fun m => ',' :: memberText m) ++ '\x7d' :: rest

/-- What follows a member is a comma or a brace, so it ends a number. -/
theorem moreText_ends (ms : List (String × Json)) (rest : List Char) :
    JsonNumber.Ends (moreText ms rest) := by
  cases ms with
  | nil => exact .cons (by decide) (by decide) rest
  | cons m ms => exact .cons (by decide) (by decide) _

theorem moreText_cons (m : String × Json) (ms : List (String × Json)) (rest : List Char) :
    moreText (m :: ms) rest = ',' :: (memberText m ++ moreText ms rest) := by
  simp only [moreText, List.flatMap_cons, List.append_assoc, List.cons_append]

/-- The text has more characters than members. -/
theorem length_lt_moreText (ms : List (String × Json)) (rest : List Char) :
    ms.length < (moreText ms rest).length := by
  -- each member brings a comma, and there is a brace behind the last
  induction ms with
  | nil => exact Nat.succ_pos _
  | cons m ms ih =>
    rw [moreText_cons, List.length_cons, List.length_cons, List.length_append]
    omega

/-- How the reading of an object goes on behind a member. -/
def afterMember (key : String) (j : Json)
    (more : List (String × Draft) × Except (Option JsonFault) (List Char)) :
    List (String × Draft) × Except (Option JsonFault) (List Char) :=
  match j.reread with
  | .ok d => ((key, d) :: more.1, more.2)
  | .error fault => ([(key, .broken fault)], .error none)

/-- One member is read, and then the rest, unless the value of the member is refused. -/
theorem members_cons {key : String} {j : Json} (hj : j.IsPlain) (fuel depth : Nat) (first : Bool)
    {rest : List Char} (hrest : JsonNumber.Ends rest) :
    members (fuel + 2) depth first
        ((if first then [] else [',']) ++ (memberText (key, j) ++ rest)) =
      afterMember key j (members (fuel + 1) depth false rest) := by
  have hvalue := value_scalarText hj fuel depth hrest
  have htext : memberText (key, j) ++ rest =
      '"' :: (key.toList.flatMap escape ++ '"' :: ':' :: (j.scalarText.toList ++ rest)) := by
    simp only [memberText, toList_quote, List.cons_append, List.append_assoc, List.nil_append]
  -- only the member is unfolded, not what is behind it
  generalize hmore : members (fuel + 1) depth false rest = more
  unfold members
  extract_lets next
  have hnext : next (key.toList.flatMap escape ++ '"' :: ':' :: (j.scalarText.toList ++ rest)) =
      afterMember key j more := by
    have hcolon : skipSpace (':' :: (j.scalarText.toList ++ rest)) =
        ':' :: (j.scalarText.toList ++ rest) := rfl
    unfold next afterMember
    rw [string_escaped]
    dsimp only
    rw [hcolon]
    simp only [hvalue]
    cases j.reread with
    | ok d => exact congrArg (fun m => ((key, d) :: m.1, m.2)) hmore
    | error fault => rfl
  rw [htext]
  cases first
  · exact hnext
  · exact hnext

/-- Members are read back one by one, up to the first one that is refused.  Either all of them are
    read, or the text is cut short in the middle of a value. -/
theorem members_moreText {ms : List (String × Json)} (hms : ∀ m ∈ ms, m.2.IsPlain) {fuel : Nat}
    (hfuel : ms.length < fuel) (depth : Nat) (rest : List Char) :
    ∃ cut, members (fuel + 1) depth false (moreText ms rest) = (rereadMembers ms, cut) ∧
      (cut = .ok rest ∨ cut = .error none) := by
  -- the fuel falls by one with each member, so the induction is for all fuel
  induction ms generalizing fuel with
  | nil => exact ⟨_, rfl, .inl rfl⟩
  | cons m ms ih =>
    obtain ⟨key, j⟩ := m
    rw [List.forall_mem_cons] at hms
    rw [List.length_cons] at hfuel
    obtain ⟨fuel, rfl⟩ := Nat.exists_eq_add_one_of_ne_zero (Nat.ne_zero_of_lt hfuel)
    obtain ⟨cut, hmore, hcut⟩ := ih hms.2 (Nat.lt_of_succ_lt_succ hfuel)
    have hone := @members_cons key j hms.1 fuel depth false _ (moreText_ends ms rest)
    rw [if_neg Bool.false_ne_true, hmore] at hone
    rw [moreText_cons, ← List.singleton_append, hone]
    unfold afterMember
    rw [rereadMembers]
    -- a member that is refused is the last one, so what is behind it is not looked at
    cases j.reread with
    | ok d => exact ⟨cut, rfl, hcut⟩
    | error fault => exact ⟨_, rfl, .inr rfl⟩

/-- The text of an object: its members between braces, with commas between them. -/
theorem toList_compact_object {ms : List (String × Json)} (hms : ∀ m ∈ ms, m.2.IsPlain) :
    (compact (.object ms)).toList =
      '\x7b' :: match ms with
        | [] => ['\x7d']
        | m :: ms => memberText m ++ moreText ms [] := by
  have hscalar {j : Json} (hj : j.IsPlain) : j.compact = j.scalarText := by
    cases j with
    | array _ | object _ => exact hj.elim
    | _ => rfl
  have hmembers : (compactMembers ms).map String.toList = ms.map memberText := by
    induction ms with
    | nil => rfl
    | cons m ms ih =>
      rw [List.forall_mem_cons] at hms
      rw [compactMembers, List.map_cons, List.map_cons, ih hms.2, String.toList_append,
        String.toList_append, hscalar hms.1, List.append_assoc]
      rfl
  -- the printer puts commas between members, the reader expects one in front of each but the first
  have hbetween (m : String × Json) (ms : List (String × Json)) :
      [','].intercalate ((m :: ms).map memberText) =
        memberText m ++ ms.flatMap (fun m => ',' :: memberText m) := by
    induction ms generalizing m with
    | nil => simp
    | cons m' ms ih =>
      rw [List.map_cons, List.map_cons, List.intercalate_cons_cons, ← List.map_cons, ih,
        List.flatMap_cons]
      simp only [List.append_assoc, List.cons_append, List.nil_append]
  rw [compact, String.toList_append, String.toList_append, String.toList_intercalate, hmembers]
  cases ms with
  | nil => rfl
  | cons m ms =>
    show '\x7b' :: ([','].intercalate ((m :: ms).map memberText) ++ ['\x7d']) = _
    rw [hbetween, List.append_assoc]
    rfl

/-- The object of members, by how it ends. -/
def closed (ms : List (String × Draft)) : Except (Option JsonFault) (List Char) → Draft × Rest
  | .ok rest => (.object ms none, some rest)
  | .error fault => (.object ms fault, none)

/-- What begins with a brace is read as an object. -/
theorem value_object {fuel depth : Nat} {cs : List Char} {ms : List (String × Draft)}
    {cut : Except (Option JsonFault) (List Char)}
    (h : members fuel (depth + 1) true cs = (ms, cut)) :
    value (fuel + 1) (depth + 2) ('\x7b' :: cs) = closed ms cut := by
  have hread : value (fuel + 1) (depth + 2) ('\x7b' :: cs) =
      closed (members fuel (depth + 1) true cs).1 (members fuel (depth + 1) true cs).2 := by
    rw [value]
    show (match (members fuel (depth + 1) true cs).2 with
      | .ok rest => (Draft.object (members fuel (depth + 1) true cs).1 none, some rest)
      | .error fault => (.object (members fuel (depth + 1) true cs).1 fault, none)) = _
    -- the object ends, or its text is cut short
    cases (members fuel (depth + 1) true cs).2 <;> rfl
  rw [hread, h]

/-- An object of scalars is read back from its text on one line, member by member, up to the first
    member that is refused.  Nothing is left over. -/
theorem ofText_compact {ms : List (String × Json)} (hms : ∀ m ∈ ms, m.2.IsPlain) :
    ofText (compact (.object ms)) = (.object (rereadMembers ms) none, none) := by
  unfold ofText
  rw [toList_compact_object hms]
  have hdepth : maxDepth = 126 + 2 := rfl
  rw [hdepth]
  cases ms with
  | nil =>
    have hfuel : 2 * ['\x7b', '\x7d'].length + 2 = 5 + 1 := rfl
    have hread : members 5 127 true ['\x7d'] = ([], .ok []) := rfl
    dsimp only
    rw [hfuel, value_object hread]
    rfl
  | cons m ms =>
    obtain ⟨key, j⟩ := m
    rw [List.forall_mem_cons] at hms
    dsimp only
    have hlength := length_lt_moreText ms []
    have hmore : (moreText ms []).length ≤ (memberText (key, j) ++ moreText ms []).length := by
      rw [List.length_append]
      omega
    -- fuel is left for each of them
    obtain ⟨fuel, hfuel⟩ : ∃ fuel,
        2 * ('\x7b' :: (memberText (key, j) ++ moreText ms [])).length + 2 = fuel + 3 ∧
          ms.length < fuel :=
      ⟨2 * (memberText (key, j) ++ moreText ms []).length + 1, by rw [List.length_cons]; omega,
        by omega⟩
    obtain ⟨cut, hread, hcut⟩ := members_moreText hms.2 hfuel.2 127 []
    have hfirst := @members_cons key j hms.1 fuel 127 true _ (moreText_ends ms [])
    rw [if_pos rfl, List.nil_append, hread, afterMember] at hfirst
    rw [hfuel.1, rereadMembers]
    cases hj : j.reread with
    | error fault =>
      rw [hj] at hfirst
      rw [value_object hfirst]
      rfl
    | ok d =>
      rw [hj] at hfirst
      rw [value_object hfirst]
      rcases hcut with rfl | rfl <;> rfl

end Draft
end RecordRules.Json
