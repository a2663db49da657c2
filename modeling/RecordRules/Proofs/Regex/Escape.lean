import RecordRules.Proofs.Except
import RecordRules.Regex.Parser
import RecordRules.Regex.Tree

/-!
# Reading patterns that are put together from texts

A pattern may be put together from texts whose characters are to stand for themselves (`escape`)
and a few signs between them.  The parser takes such a pattern piece by piece: wherever a piece
stands, it is taken as the same parts (`Scans`), so what a pattern is read as follows from what
its pieces are read as.

## Key results

- `Scans.append`: pieces one after the other are read one after the other
- `Scans.escape`: escaped text is read as its characters
- `Scans.parse`: a pattern that is made of such pieces is read without a fault
-/

namespace RecordRules.Regex

/-- A text as a pattern in which every character stands for itself. -/
def escape (text : List Char) : List Char :=
  text.flatMap fun c => if Parse.isMeta c then ['\\', c] else [c]

namespace Parse

/-! ## Steps of the parser -/

section

variable {α β : Type}

/-- After a step that succeeds the next one goes on from its cursor. -/
theorem bind_ok {step : Parse α} {next : α → Parse β} {s t : Cursor} {a : α}
    (h : step s = .ok (a, t)) : (step >>= next) s = next a t := by
  show StateT.bind step next s = next a t
  simp only [StateT.bind, h, bind, Except.bind]

end

variable {cur : Cursor}

theorem char?_apply : char? cur = .ok (cur.chars[cur.pos]?, cur) := rfl

theorem pos_apply : pos cur = .ok (cur.pos, cur) := rfl

theorem charSpan_apply : charSpan cur = .ok (⟨cur.pos, cur.pos + 1⟩, cur) := rfl

/-- Spaces are not skipped unless the flags ask for it. -/
theorem skipSpace_apply (h : cur.ignoreSpace = false) : skipSpace cur = .ok ((), cur) := by
  -- the flag decides where the cursor comes to stand
  have hskip : skipSpace cur = .ok ((), if cur.ignoreSpace then
      { cur with pos := spaceEnd cur.chars (cur.chars.size + 1) cur.pos } else cur) := rfl
  rw [hskip, h, if_neg Bool.false_ne_true]

theorem atEnd_apply : atEnd cur = .ok (cur.chars[cur.pos]?.isNone, cur) := rfl

theorem get_apply : (get : Parse Cursor) cur = .ok (cur, cur) := rfl

theorem set_apply (next : Cursor) : (set next : Parse PUnit) cur = .ok (⟨⟩, next) := rfl

/-- The cursor moves over a character, and tells whether another one follows. -/
theorem bump_apply (h : cur.pos < cur.chars.size) :
    bump cur = .ok (cur.chars[cur.pos + 1]?.isSome, { cur with pos := cur.pos + 1 }) := by
  unfold bump
  rw [bind_ok get_apply]
  dsimp only
  -- the cursor is inside the pattern, so it moves
  rw [if_pos h, bind_ok (set_apply _), bind_ok atEnd_apply, Option.not_isNone]
  rfl

/-- Signs that open, close or repeat something. -/
def signs : List Char := ['(', ')', '|', '[', '?', '*', '+', '\x7b']

/-- A character that is no sign begins a single item. -/
theorem loop_primitive (hspace : cur.ignoreSpace = false) {c : Char} (hc : c ∉ signs)
    (hchar : cur.chars[cur.pos]? = some c) (fuel : Nat) (s : Sequence) (stack : List Frame) :
    loop (fuel + 1) s stack cur =
      (primitive c >>= fun part => loop fuel { s with parts := part :: s.parts } stack) cur := by
  conv => lhs; unfold loop
  rw [bind_ok (skipSpace_apply hspace), bind_ok char?_apply, hchar]
  generalize ho : some c = o
  -- of the cases of the loop only the last one is for a character that is no sign
  split
  case h_1 => exact nomatch ho
  case h_10 =>
    obtain rfl := Option.some.inj ho
    rfl
  all_goals
    obtain rfl := Option.some.inj ho
    exact absurd (by decide) hc

/-- An asterisk repeats the item before it any number of times. -/
theorem loop_asterisk (hspace : cur.ignoreSpace = false) (hchar : cur.chars[cur.pos]? = some '*')
    (fuel : Nat) (s : Sequence) (stack : List Frame) :
    loop (fuel + 1) s stack cur =
      (repetition 0 none s >>= fun s => loop fuel s stack) cur := by
  conv => lhs; unfold loop
  rw [bind_ok (skipSpace_apply hspace), bind_ok char?_apply, hchar]
  rfl

/-- At the end of the pattern everything read is one sequence. -/
theorem loop_end (hspace : cur.ignoreSpace = false) (hchar : cur.chars[cur.pos]? = none)
    (fuel : Nat) (s : Sequence) :
    loop (fuel + 1) s [] cur = .ok (s.toAst cur.pos, cur) := by
  unfold loop
  rw [bind_ok (skipSpace_apply hspace), bind_ok char?_apply, hchar]
  rfl

/-- A character without a meaning of its own is a literal. -/
theorem primitive_literal {c : Char} (hc : isMeta c = false) (hpos : cur.pos < cur.chars.size) :
    primitive c cur =
      .ok (.literal ⟨⟨cur.pos, cur.pos + 1⟩, c, false⟩, { cur with pos := cur.pos + 1 }) := by
  unfold primitive
  rw [bind_ok charSpan_apply]
  -- the other cases are for characters with a meaning
  split
  case h_5 =>
    rw [bind_ok (bump_apply hpos)]
    rfl
  all_goals exact absurd hc (by decide)

theorem primitive_dot (hpos : cur.pos < cur.chars.size) :
    primitive '.' cur =
      .ok (.dot ⟨cur.pos, cur.pos + 1⟩, { cur with pos := cur.pos + 1 }) :=
  (bind_ok charSpan_apply).trans (bind_ok (bump_apply hpos))

theorem primitive_start (hpos : cur.pos < cur.chars.size) :
    primitive '^' cur =
      .ok (.assertion ⟨cur.pos, cur.pos + 1⟩ .startLine, { cur with pos := cur.pos + 1 }) :=
  (bind_ok charSpan_apply).trans (bind_ok (bump_apply hpos))

theorem primitive_end (hpos : cur.pos < cur.chars.size) :
    primitive '$' cur =
      .ok (.assertion ⟨cur.pos, cur.pos + 1⟩ .endLine, { cur with pos := cur.pos + 1 }) :=
  (bind_ok charSpan_apply).trans (bind_ok (bump_apply hpos))

/-- No character with a meaning of its own begins another kind of escape. -/
theorem not_escape_of_isMeta {c : Char} (hc : isMeta c = true) :
    c.isDigit = false ∧ ¬ (c = 'x' ∨ c = 'u' ∨ c = 'U') ∧ ¬ (c = 'p' ∨ c = 'P') := by
  -- the characters with a meaning are few, and each of them is looked at
  have hall : ("\\.+*?()|[]\x7b\x7d^$#&-~".toList.all fun c =>
      c.isDigit = false ∧ ¬ (c = 'x' ∨ c = 'u' ∨ c = 'U') ∧ ¬ (c = 'p' ∨ c = 'P')) = true := by
    decide
  exact of_decide_eq_true (List.all_eq_true.mp hall c (List.contains_iff_mem.mp hc))

/-- A character with a meaning of its own is a literal behind a backslash. -/
theorem escape_apply {c : Char} (hc : isMeta c = true) (hchar : cur.chars[cur.pos + 1]? = some c) :
    escape cur =
      .ok (.literal ⟨⟨cur.pos, cur.pos + 2⟩, c, false⟩, { cur with pos := cur.pos + 2 }) := by
  have hlt : cur.pos + 1 < cur.chars.size := (Array.getElem?_eq_some_iff.mp hchar).1
  obtain ⟨hdigit, hhex, hclass⟩ := not_escape_of_isMeta hc
  have hescapable : isEscapable c = true := by
    unfold isEscapable
    rw [hc]
    rfl
  unfold escape
  rw [bind_ok pos_apply, bind_ok (bump_apply (Nat.lt_of_succ_lt hlt)), hchar, Option.isSome_some,
    Bool.not_true, if_neg Bool.false_ne_true]
  dsimp only
  rw [bind_ok char?_apply]
  dsimp only
  rw [hchar]
  dsimp only
  -- each kind of escape is ruled out by the character, up to the last
  rw [hdigit, if_neg Bool.false_ne_true, if_neg hhex, if_neg hclass, bind_ok (bump_apply hlt),
    bind_ok pos_apply, if_pos hescapable]
  rfl

/-- A backslash begins an escape. -/
theorem primitive_escape {c : Char} (hc : isMeta c = true)
    (hchar : cur.chars[cur.pos + 1]? = some c) :
    primitive '\\' cur =
      .ok (.literal ⟨⟨cur.pos, cur.pos + 2⟩, c, false⟩, { cur with pos := cur.pos + 2 }) :=
  (bind_ok charSpan_apply).trans (escape_apply hc hchar)

/-- A sign that repeats the item before it, when it is not made lazy. -/
theorem repetition_apply {s : Sequence} {part : Ast} {before : List Ast}
    (hpart : repeated s cur = .ok ((part, before), cur)) (hpos : cur.pos < cur.chars.size)
    (hnext : cur.chars[cur.pos + 1]? ≠ some '?') (least : Nat) (most : Option Nat) :
    repetition least most s cur =
      .ok ({ s with
              parts := .repetition ⟨part.span.first, cur.pos + 1⟩ least most part :: before },
        { cur with pos := cur.pos + 1 }) := by
  unfold repetition
  rw [bind_ok hpart]
  dsimp only
  -- a question mark behind the sign would be taken as well
  rw [bind_ok (bump_apply hpos), bind_ok char?_apply, if_neg fun h => hnext h.2]
  rfl

end Parse

/-! ## Parts that stand for trees -/

/-- A sequence is read when its first part is, and then the others under the flags that it leaves.
    -/
theorem Mode.readAll_cons {m m₁ : Mode} {part : Ast} {rest : List Ast} {trees : List Tree} :
    m.readAll (part :: rest) = .ok (trees, m₁) ↔
      ∃ tree n others, m.read part = .ok (tree, n) ∧ n.readAll rest = .ok (others, m₁) ∧
        trees = tree :: others := by
  rw [Mode.readAll]
  simp only [Except.bind_eq_ok, Prod.exists]
  constructor
  · rintro ⟨tree, n, hread, others, _, hrest, hpure⟩
    obtain ⟨rfl, rfl⟩ := Prod.mk.inj (Except.ok.inj hpure)
    exact ⟨tree, n, others, hread, hrest, rfl⟩
  · rintro ⟨tree, n, others, hread, hrest, rfl⟩
    exact ⟨tree, n, hread, others, m₁, hrest, rfl⟩

/-- Two sequences are read one after the other. -/
theorem Mode.readAll_append {m m₁ m₂ : Mode} {parts more : List Ast} {trees others : List Tree}
    (hparts : m.readAll parts = .ok (trees, m₁)) (hmore : m₁.readAll more = .ok (others, m₂)) :
    m.readAll (parts ++ more) = .ok (trees ++ others, m₂) := by
  -- the flags may change from part to part, so the induction is for all of them
  induction parts generalizing m trees with
  | nil =>
    obtain ⟨rfl, rfl⟩ := Prod.mk.inj (Except.ok.inj hparts)
    exact hmore
  | cons part parts ih =>
    obtain ⟨tree, n, rest, hread, hrest, rfl⟩ := Mode.readAll_cons.mp hparts
    exact Mode.readAll_cons.mpr ⟨tree, n, rest ++ others, hread, ih hrest, rfl⟩

theorem Mode.length_readAll {m m₁ : Mode} {parts : List Ast} {trees : List Tree}
    (h : m.readAll parts = .ok (trees, m₁)) : parts.length = trees.length := by
  induction parts generalizing m trees with
  | nil =>
    obtain ⟨rfl, -⟩ := Prod.mk.inj (Except.ok.inj h)
    rfl
  | cons part parts ih =>
    obtain ⟨tree, n, rest, -, hrest, rfl⟩ := Mode.readAll_cons.mp h
    rw [List.length_cons, List.length_cons, ih hrest]

/-- A sequence is shallow when its first part is and the others are. -/
theorem checkDepths_cons {depth : Nat} {part : Ast} {rest : List Ast} :
    checkDepths depth (part :: rest) = .ok () ↔
      checkDepth depth part = .ok () ∧ checkDepths depth rest = .ok () := by
  rw [checkDepths, Except.bind_eq_ok]
  exact ⟨fun ⟨_, hpart, hrest⟩ => ⟨hpart, hrest⟩, fun ⟨hpart, hrest⟩ => ⟨(), hpart, hrest⟩⟩

theorem checkDepths_append {depth : Nat} {parts more : List Ast}
    (hparts : checkDepths depth parts = .ok ()) (hmore : checkDepths depth more = .ok ()) :
    checkDepths depth (parts ++ more) = .ok () := by
  induction parts with
  | nil => exact hmore
  | cons part parts ih =>
    obtain ⟨hpart, hparts⟩ := checkDepths_cons.mp hparts
    exact checkDepths_cons.mpr ⟨hpart, ih hparts⟩

/-- Parts of a sequence stand for trees, under flags that they leave as they are. -/
structure ReadsAs (m : Mode) (parts : List Ast) (trees : List Tree) : Prop where
  read : m.readAll parts = .ok (trees, m)
  shallow : checkDepths 1 parts = .ok ()

theorem ReadsAs.nil (m : Mode) : ReadsAs m [] [] :=
  ⟨rfl, rfl⟩

/-- Parts one after the other stand for their trees one after the other. -/
theorem ReadsAs.append {m : Mode} {parts more : List Ast} {trees others : List Tree}
    (h : ReadsAs m parts trees) (h' : ReadsAs m more others) :
    ReadsAs m (parts ++ more) (trees ++ others) :=
  ⟨Mode.readAll_append h.read h'.read, checkDepths_append h.shallow h'.shallow⟩

/-- One part stands for its tree. -/
theorem ReadsAs.singleton {m : Mode} {part : Ast} {tree : Tree}
    (hread : m.read part = .ok (tree, m)) (hdepth : checkDepth 1 part = .ok ()) :
    ReadsAs m [part] [tree] :=
  ⟨Mode.readAll_cons.mpr ⟨tree, m, [], hread, rfl, rfl⟩, checkDepths_cons.mpr ⟨hdepth, rfl⟩⟩

/-! ## Pieces of patterns -/

/-- Wherever it stands, a piece of a pattern is taken as parts that stand for trees.  A question
    mark behind the piece might belong to it, so none may follow. -/
structure Scans (m : Mode) (piece : List Char) (trees : List Tree) : Prop where
  head : piece.head? ≠ some '?'
  scan (chars : List Char) (pos first : Nat) (before : List Ast) (behind : List Char) :
    chars.drop pos = piece ++ behind → behind.head? ≠ some '?' →
      ∃ rounds ≤ piece.length, ∃ parts, ReadsAs m parts trees ∧ ∀ fuel,
        Parse.loop (fuel + rounds) ⟨first, before⟩ [] { chars := chars.toArray, pos } =
          Parse.loop fuel ⟨first, parts.reverse ++ before⟩ []
            { chars := chars.toArray, pos := pos + piece.length }

namespace Scans

variable {m : Mode}

theorem nil (m : Mode) : Scans m [] [] where
  head := nofun
  scan _ _ _ _ _ _ _ := ⟨0, Nat.le_refl 0, [], .nil m, fun _ => rfl⟩

/-- Pieces that follow each other. -/
theorem append {piece more : List Char} {trees others : List Tree} (h : Scans m piece trees)
    (h' : Scans m more others) : Scans m (piece ++ more) (trees ++ others) where
  head := by
    cases piece with
    | nil => exact h'.head
    | cons c piece => exact h.head
  scan chars pos first before behind hdrop hbehind := by
    rw [List.append_assoc] at hdrop
    -- what follows the first piece is the second one, or what stands behind both
    have hfollow : (more ++ behind).head? ≠ some '?' := by
      cases more with
      | nil => exact hbehind
      | cons c more => exact h'.head
    obtain ⟨rounds, hrounds, parts, hparts, hloop⟩ := h.scan chars pos first before _ hdrop hfollow
    have hdrop' : chars.drop (pos + piece.length) = more ++ behind := by
      rw [← List.drop_drop, hdrop, List.drop_left]
    obtain ⟨rounds', hrounds', parts', hparts', hloop'⟩ :=
      h'.scan chars (pos + piece.length) first (parts.reverse ++ before) _ hdrop' hbehind
    refine ⟨rounds' + rounds, ?_, parts ++ parts', hparts.append hparts', fun fuel => ?_⟩
    · rw [List.length_append]
      omega
    · rw [← Nat.add_assoc, hloop, hloop', List.reverse_append, List.append_assoc,
        List.length_append, Nat.add_assoc]

/-- The characters of a pattern at a place and behind it. -/
theorem getElem?_of_drop {chars cs : List Char} {pos : Nat} {c : Char}
    (h : chars.drop pos = c :: cs) : chars.toArray[pos]? = some c ∧ chars.drop (pos + 1) = cs := by
  constructor
  · rw [List.getElem?_toArray, ← List.head?_drop, h, List.head?_cons]
  · rw [← List.drop_drop, h, List.drop_one, List.tail_cons]

/-- A single item that is taken in one round. -/
theorem primitive {piece : List Char} {c : Char} {tree : Tree} (hhead : piece.head? = some c)
    (hsign : c ∉ Parse.signs)
    (hread : ∀ (chars behind : List Char) (pos : Nat), chars.drop pos = piece ++ behind →
      ∃ part, m.read part = .ok (tree, m) ∧ checkDepth 1 part = .ok () ∧
        Parse.primitive c { chars := chars.toArray, pos } =
          .ok (part, { chars := chars.toArray, pos := pos + piece.length })) :
    Scans m piece [tree] where
  head := by
    rw [hhead]
    rintro ⟨⟩
    exact hsign (by decide)
  scan chars pos first before behind hdrop _ := by
    obtain ⟨part, htree, hdepth, hprimitive⟩ := hread chars behind pos hdrop
    -- the piece begins with the character that the loop looks at
    obtain ⟨cs, rfl⟩ : ∃ cs, piece = c :: cs := List.head?_eq_some_iff.mp hhead
    have hchar := (getElem?_of_drop hdrop).1
    refine ⟨1, Nat.succ_le_succ (Nat.zero_le _), [part], .singleton htree hdepth, fun fuel => ?_⟩
    rw [Parse.loop_primitive rfl hsign hchar, Parse.bind_ok hprimitive]
    rfl

/-- The place of a piece that is not empty is a place of the pattern. -/
theorem lt_size_of_drop {chars cs : List Char} {pos : Nat} {c : Char}
    (h : chars.drop pos = c :: cs) : pos < chars.toArray.size :=
  (Array.getElem?_eq_some_iff.mp (getElem?_of_drop h).1).1

/-- A character that stands for itself. -/
theorem char {c : Char} {tree : Tree} (hread : ∀ span, m.literal ⟨span, c, false⟩ = .ok tree) :
    Scans m (escape [c]) [tree] := by
  have htree (span : Span) : m.read (.literal ⟨span, c, false⟩) = .ok (tree, m) := by
    rw [Mode.read, hread]
    rfl
  have hescape : escape [c] = if Parse.isMeta c then ['\\', c] else [c] :=
    List.append_nil _
  rw [hescape]
  -- a character with a meaning of its own stands behind a backslash
  cases hmeta : Parse.isMeta c with
  | true =>
    refine primitive (c := '\\') rfl (by decide) fun chars behind pos hdrop => ?_
    have hchar := (getElem?_of_drop (getElem?_of_drop hdrop).2).1
    exact ⟨_, htree _, rfl, Parse.primitive_escape hmeta hchar⟩
  | false =>
    have hsign : c ∉ Parse.signs := fun hc => by
      have hsigns : Parse.signs.all Parse.isMeta = true := by decide
      rw [List.all_eq_true.mp hsigns c hc] at hmeta
      exact nomatch hmeta
    refine primitive (c := c) rfl hsign fun chars behind pos hdrop => ?_
    exact ⟨_, htree _, rfl, Parse.primitive_literal hmeta (lt_size_of_drop hdrop)⟩

/-- A text whose characters stand for themselves. -/
theorem escape {tree : Char → Tree} (hread : ∀ c span, m.literal ⟨span, c, false⟩ = .ok (tree c))
    (text : List Char) : Scans m (Regex.escape text) (text.map tree) := by
  -- a text is its first character and the rest, each a piece of its own
  induction text with
  | nil => exact nil m
  | cons c text ih =>
    have hcons : Regex.escape (c :: text) = Regex.escape [c] ++ Regex.escape text := by
      simp only [Regex.escape, List.flatMap_cons, List.flatMap_nil, List.append_nil]
    rw [hcons]
    exact (char (hread c)).append ih

/-- The condition for the beginning. -/
theorem start : Scans m ['^'] [.look (m.look .startLine)] :=
  primitive rfl (by decide) fun _ _ _ hdrop =>
    ⟨_, rfl, rfl, Parse.primitive_start (lt_size_of_drop hdrop)⟩

/-- The condition for the end. -/
theorem finish : Scans m ['$'] [.look (m.look .endLine)] :=
  primitive rfl (by decide) fun _ _ _ hdrop =>
    ⟨_, rfl, rfl, Parse.primitive_end (lt_size_of_drop hdrop)⟩

/-- Any characters, any number of them. -/
theorem anything {tree : Tree} (hread : ∀ span, m.dot span = .ok tree) :
    Scans m ['.', '*'] [.repetition 0 none tree] where
  head := nofun
  scan chars pos first before behind hdrop hbehind := by
    obtain ⟨hdot, hdrop'⟩ := getElem?_of_drop hdrop
    obtain ⟨hasterisk, hrest⟩ := getElem?_of_drop hdrop'
    -- a question mark behind the asterisk would make it lazy
    have hnext : chars.toArray[pos + 1 + 1]? ≠ some '?' := by
      rw [List.getElem?_toArray, ← List.head?_drop, hrest]
      exact hbehind
    have htree (span dotSpan : Span) : m.read (.repetition span 0 none (.dot dotSpan)) =
        .ok (.repetition 0 none tree, m) := by
      rw [Mode.read, Mode.read, hread]
      rfl
    refine ⟨2, Nat.le_refl 2, [_], .singleton (htree ⟨pos, pos + 2⟩ ⟨pos, pos + 1⟩) rfl,
      fun fuel => ?_⟩
    -- the dot is an item of its own until the asterisk takes it
    rw [Parse.loop_primitive rfl (by decide) hdot,
      Parse.bind_ok (Parse.primitive_dot (lt_size_of_drop hdrop)),
      Parse.loop_asterisk rfl hasterisk,
      Parse.bind_ok (Parse.repetition_apply rfl (lt_size_of_drop hdrop') hnext 0 none)]
    rfl

/-- A pattern that is made of pieces is read as the sequence of their trees. -/
theorem parse {text : List Char} {trees : List Tree} (h : Scans m text trees)
    (hlength : 2 ≤ trees.length) :
    ∃ ast, Regex.parse (String.ofList text) = .ok ast ∧
      m.read ast = .ok (.concat trees, m) := by
  obtain ⟨rounds, hrounds, parts, hparts, hloop⟩ :=
    h.scan text 0 0 [] [] (List.append_nil text).symm nofun
  have hend : text.toArray[0 + text.length]? = none := by simp
  obtain ⟨fuel, hfuel⟩ : ∃ fuel, 2 * text.toArray.size + 2 = fuel + 1 + rounds :=
    ⟨2 * text.length + 1 - rounds, by rw [List.size_toArray]; omega⟩
  -- two parts or more make a sequence, and the parser keeps a single one as it is
  have hshape : ∃ a b rest, parts = a :: b :: rest := by
    have hlength' := Mode.length_readAll hparts.read
    match parts, hlength' with
    | a :: b :: rest, _ => exact ⟨a, b, rest, rfl⟩
    | [_], hlength' | [], hlength' => simp at hlength'; omega
  obtain ⟨a, b, rest, rfl⟩ := hshape
  -- the rounds of the pieces are taken first, and one round more sees the end
  have hrun : Parse.loop (2 * text.toArray.size + 2) ⟨0, []⟩ [] { chars := text.toArray } =
      .ok (.concat ⟨0, 0 + text.length⟩ (a :: b :: rest),
        { chars := text.toArray, pos := 0 + text.length }) := by
    rw [hfuel, hloop, Parse.loop_end rfl hend, Parse.Sequence.toAst, List.append_nil,
      List.reverse_reverse]
    rfl
  refine ⟨.concat ⟨0, 0 + text.length⟩ (a :: b :: rest), ?_, ?_⟩
  · have hdepth : checkDepth 0 (.concat ⟨0, 0 + text.length⟩ (a :: b :: rest)) = .ok () := by
      rw [checkDepth]
      exact hparts.shallow
    unfold Regex.parse
    simp only [String.toList_ofList, StateT.run, hrun, bind, Except.bind, hdepth]
    rfl
  · rw [Mode.read, hparts.read]
    rfl

end Scans
end RecordRules.Regex
