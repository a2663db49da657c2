import RecordRules.Proofs.Regex.Escape
import RecordRules.Proofs.Regex.Matching
import RecordRules.Proofs.Target.GlobSize

/-!
# Globs

A glob is a regular expression in disguise: its pieces, whose characters stand for themselves, with
`.*` between them, from one end of the name to the other, upper and lower case being alike.  Here
three descriptions of what it selects are shown to be one: what the tree of that expression
matches, what is found by dropping pieces and gaps, and the names that can be cut into the pieces
with gaps between them.

## Key results

- `Target.globReading_eq`: the expression is read without a fault, as the tree of the glob
- `Target.matchesIn_globTree`: the tree matches the names that can be cut
- `Target.matchesPieces_iff`: so does dropping pieces and gaps
- `Target.selects_glob`: what a target with an asterisk selects
-/

namespace RecordRules.Target

open Regex (Tree)

/-! ## Cutting names -/

/-- Two texts are equal, character by character, up to simple case folding. -/
def SameLetters (piece stretch : List Char) : Prop :=
  List.Forall₂ CaseFolding.Alike piece stretch

/-- A name consists of stretches, one for each piece and equal to it up to case, with gaps
    between them that have no line feed in them: the first stretch, and then each gap with the
    stretch behind it. -/
def IsCutInto (pieces : List (List Char)) (name : List Char) : Prop :=
  ∃ (first : List Char) (rest : List (List Char × List Char)),
    name = first ++ rest.flatMap (fun r => r.1 ++ r.2) ∧
      List.Forall₂ SameLetters pieces (first :: rest.map Prod.snd) ∧
      ∀ r ∈ rest, '\n' ∉ r.1

/-- A name is cut into one piece if it equals that piece up to case. -/
theorem isCutInto_singleton {piece name : List Char} :
    IsCutInto [piece] name ↔ SameLetters piece name := by
  constructor
  · rintro ⟨first, rest, rfl, hpieces, -⟩
    cases hpieces with
    | cons hfirst hrest =>
      obtain rfl := List.map_eq_nil_iff.mp (List.forall₂_nil_left_iff.mp hrest)
      rwa [List.flatMap_nil, List.append_nil]
  · intro h
    exact ⟨name, [], (List.append_nil name).symm, .cons h .nil, nofun⟩

/-- A name is cut into pieces by taking the first one, a gap, and cutting the rest. -/
theorem isCutInto_cons_cons {piece next : List Char} {more : List (List Char)} {name : List Char} :
    IsCutInto (piece :: next :: more) name ↔ ∃ first gap last, name = first ++ (gap ++ last) ∧
      SameLetters piece first ∧ '\n' ∉ gap ∧ IsCutInto (next :: more) last := by
  constructor
  · rintro ⟨first, rest, rfl, hpieces, hgaps⟩
    -- there is a second piece, so there is a gap before it
    match rest, hpieces, hgaps with
    | (gap, second) :: rest, .cons hfirst hrest, hgaps =>
      obtain ⟨hgap, hgaps⟩ := List.forall_mem_cons.mp hgaps
      refine ⟨first, gap, second ++ rest.flatMap (fun r => r.1 ++ r.2), ?_, hfirst, hgap,
        second, rest, rfl, hrest, hgaps⟩
      rw [List.flatMap_cons, List.append_assoc]
  · rintro ⟨first, gap, last, rfl, hfirst, hgap, second, rest, rfl, hrest, hgaps⟩
    refine ⟨first, (gap, second) :: rest, ?_, .cons hfirst hrest,
      List.forall_mem_cons.mpr ⟨hgap, hgaps⟩⟩
    rw [List.flatMap_cons, List.append_assoc]

/-! ## What the tree of a glob matches -/

section

variable {before stretch after : List Char}

/-- A character of a glob matches the characters that equal it up to case. -/
theorem matches_globChar {p : Char} : (globChar p).Matches before stretch after ↔
    ∃ c, stretch = [c] ∧ CaseFolding.Alike p c := by
  have hcovers (c : Char) := CodeSet.covers_foldCase_singleton (c := p) (d := c)
  unfold globChar
  rw [fold_globMode]
  generalize CodeSet.foldCase [(p.toNat, p.toNat)] = codes at hcovers
  by_cases hself : codes = [(p.toNat, p.toNat)]
  · -- no other character is like this one
    rw [if_pos hself, Tree.matches_literal]
    constructor
    · rintro rfl
      exact ⟨p, rfl, .inl rfl⟩
    · rintro ⟨c, rfl, hc⟩
      rw [← hcovers, hself] at hc
      obtain ⟨r, hr, hle, hge⟩ := hc
      obtain rfl := List.mem_singleton.mp hr
      rw [Char.toNat_inj.mp (Nat.le_antisymm hge hle)]
  · rw [if_neg hself]
    simp only [Tree.matches_set, hcovers]

/-- A piece of a glob matches the stretches that equal it up to case. -/
theorem matches_piece {piece : List Char} :
    (Tree.concat (piece.map globChar)).Matches before stretch after ↔
      SameLetters piece stretch := by
  -- a piece is matched character by character
  induction piece generalizing before stretch with
  | nil => exact Tree.matches_concat_nil.trans List.forall₂_nil_left_iff.symm
  | cons p piece ih =>
    rw [List.map_cons, Tree.matches_concat_cons]
    constructor
    · rintro ⟨first, last, rfl, hfirst, hlast⟩
      obtain ⟨c, rfl, hc⟩ := matches_globChar.mp hfirst
      exact .cons hc (ih.mp hlast)
    · rintro (_ | ⟨hc, hlast⟩)
      exact ⟨[_], _, rfl, matches_globChar.mpr ⟨_, rfl, hc⟩, ih.mpr hlast⟩

/-- Any character but the line feed. -/
theorem covers_complement_lineFeed {c : Char} :
    (CodeSet.complement [(10, 10)]).Covers c.toNat ↔ c ≠ '\n' := by
  have hfeed : c ≠ '\n' ↔ c.toNat ≠ 10 := not_congr Char.toNat_inj.symm
  have hgreatest := CodeSet.toNat_le_greatest c
  rw [complement_lineFeed, CodeSet.covers_cons, CodeSet.covers_cons, hfeed]
  simp only [CodeSet.not_covers_nil, or_false]
  omega

/-- A gap matches any stretch without a line feed. -/
theorem matches_globGap : globGap.Matches before stretch after ↔ '\n' ∉ stretch := by
  unfold globGap
  rw [Tree.matches_repetition_set]
  simp only [covers_complement_lineFeed]
  exact ⟨fun h hmem => h _ hmem rfl, fun h c hc heq => h (heq ▸ hc)⟩

/-- The pieces of a glob with gaps between them match what can be cut into them. -/
theorem matches_joined {piece : List Char} {more : List (List Char)} :
    (Tree.concat
      ([globGap].intercalate ((piece :: more).map fun p : List Char => p.map globChar))).Matches
      before stretch after ↔ IsCutInto (piece :: more) stretch := by
  -- the induction is on the pieces behind the first one, whatever was matched before
  induction more generalizing piece before stretch with
  | nil =>
    rw [isCutInto_singleton, List.map_singleton, List.intercalate_singleton, matches_piece]
  | cons next more ih =>
    rw [isCutInto_cons_cons, List.map_cons, List.map_cons, List.intercalate_cons_cons,
      List.append_assoc, Tree.matches_concat_append]
    constructor
    · rintro ⟨first, others, rfl, hfirst, hothers⟩
      obtain ⟨gap, last, rfl, hgap, hlast⟩ := Tree.matches_concat_cons.mp hothers
      exact ⟨first, gap, last, rfl, matches_piece.mp hfirst, matches_globGap.mp hgap, ih.mp hlast⟩
    · rintro ⟨first, gap, last, rfl, hfirst, hgap, hlast⟩
      exact ⟨first, gap ++ last, rfl, matches_piece.mpr hfirst,
        Tree.matches_concat_cons.mpr
          ⟨gap, last, rfl, matches_globGap.mpr hgap, ih.mpr hlast⟩⟩

end

/-- The tree of a glob matches in a name when the whole name can be cut into the pieces. -/
theorem matchesIn_globTree {piece : List Char} {more : List (List Char)} {name : List Char} :
    (globTree (piece :: more)).MatchesIn name ↔ IsCutInto (piece :: more) name :=
  Tree.matchesIn_anchored.trans matches_joined

/-! ## Dropping pieces and gaps -/

/-- Dropping a piece leaves what stands behind a stretch that equals it up to case. -/
theorem dropPiece_eq_some {piece name rest : List Char} :
    dropPiece piece name = some rest ↔ ∃ first, name = first ++ rest ∧ SameLetters piece first := by
  -- the piece is compared with the name character by character
  fun_induction dropPiece piece name with
  | case1 name =>
    simp only [SameLetters, List.forall₂_nil_left_iff, Option.some.injEq]
    exact ⟨fun h => ⟨[], h, rfl⟩, fun ⟨_, h, hnil⟩ => by rwa [hnil] at h⟩
  | case2 p piece =>
    refine ⟨nofun, ?_⟩
    rintro ⟨first, hname, hfirst⟩
    cases hfirst
    exact nomatch hname
  | case3 p piece c name hfolds ih =>
    rw [ih]
    constructor
    · rintro ⟨first, rfl, hfirst⟩
      exact ⟨c :: first, rfl, .cons (foldsTogether_iff.mp hfolds) hfirst⟩
    · rintro ⟨first, hname, hfirst⟩
      cases hfirst with
      | cons hc hfirst =>
        obtain ⟨rfl, rfl⟩ := List.cons.inj hname
        exact ⟨_, rfl, hfirst⟩
  | case4 p piece c name hfolds =>
    refine ⟨nofun, ?_⟩
    rintro ⟨first, hname, hfirst⟩
    cases hfirst with
    | cons hc hfirst =>
      obtain ⟨rfl, rfl⟩ := List.cons.inj hname
      exact absurd (foldsTogether_iff.mpr hc) hfolds

/-- What may be left behind a gap is what stands behind a stretch without a line feed. -/
theorem mem_gapRests {name rest : List Char} :
    rest ∈ gapRests name ↔ ∃ gap, name = gap ++ rest ∧ '\n' ∉ gap := by
  -- a gap ends anywhere, but it does not go past a line feed
  induction name with
  | nil =>
    rw [gapRests, List.mem_singleton]
    constructor
    · rintro rfl
      exact ⟨[], rfl, List.not_mem_nil⟩
    · rintro ⟨gap, hname, -⟩
      exact (List.append_eq_nil_iff.mp hname.symm).2
  | cons c name ih =>
    rw [gapRests, List.mem_cons]
    constructor
    · rintro (rfl | hrest)
      · exact ⟨[], rfl, List.not_mem_nil⟩
      · by_cases hc : c = '\n'
        · rw [if_pos hc] at hrest
          exact nomatch hrest
        · rw [if_neg hc, ih] at hrest
          obtain ⟨gap, rfl, hgap⟩ := hrest
          exact ⟨c :: gap, rfl, List.not_mem_cons_of_ne_of_not_mem (Ne.symm hc) hgap⟩
    · rintro ⟨gap, hname, hgap⟩
      cases gap with
      | nil => exact .inl hname.symm
      | cons d gap =>
        obtain ⟨rfl, rfl⟩ := List.cons.inj hname
        obtain ⟨hc, hgap⟩ := List.ne_and_not_mem_of_not_mem_cons hgap
        rw [if_neg (Ne.symm hc), ih]
        exact .inr ⟨gap, rfl, hgap⟩

/-- What may be left after pieces is what is left of some beginning when gaps and pieces are cut
    off it. -/
theorem mem_restsAfter {pieces : List (List Char)} {rests : List (List Char)} {rest : List Char} :
    rest ∈ restsAfter rests pieces ↔ ∃ begun ∈ rests, ∃ cuts : List (List Char × List Char),
      begun = cuts.flatMap (fun r => r.1 ++ r.2) ++ rest ∧
        List.Forall₂ SameLetters pieces (cuts.map Prod.snd) ∧ ∀ r ∈ cuts, '\n' ∉ r.1 := by
  -- each piece is dropped from all that may be left so far
  induction pieces generalizing rests with
  | nil =>
    simp only [restsAfter, List.forall₂_nil_left_iff, List.map_eq_nil_iff]
    constructor
    · intro h
      exact ⟨rest, h, [], rfl, rfl, nofun⟩
    · rintro ⟨begun, hbegun, _, rfl, rfl, -⟩
      exact hbegun
  | cons piece pieces ih =>
    rw [restsAfter, ih]
    simp only [List.mem_filterMap, List.mem_eraseDups, List.mem_flatMap, mem_gapRests,
      dropPiece_eq_some]
    constructor
    · rintro ⟨_, ⟨_, ⟨_, hmem, gap, rfl, hgap⟩, first, rfl, hfirst⟩, cuts, rfl, hcuts, hgaps⟩
      refine ⟨_, hmem, (gap, first) :: cuts, ?_, .cons hfirst hcuts,
        List.forall_mem_cons.mpr ⟨hgap, hgaps⟩⟩
      simp only [List.flatMap_cons, List.append_assoc]
    · rintro ⟨begun, hmem, cuts, rfl, hcuts, hgaps⟩
      match cuts, hcuts, hgaps with
      | (gap, first) :: cuts, .cons hfirst hcuts, hgaps =>
        obtain ⟨hgap, hgaps⟩ := List.forall_mem_cons.mp hgaps
        refine ⟨_, ⟨_, ⟨_, hmem, gap, ?_, hgap⟩, first, rfl, hfirst⟩, cuts, rfl, hcuts, hgaps⟩
        simp only [List.flatMap_cons, List.append_assoc]

/-- Dropping pieces and gaps uses up the names that can be cut into the pieces. -/
theorem matchesPieces_iff {piece : List Char} {more : List (List Char)} {name : List Char} :
    matchesPieces name (piece :: more) = true ↔ IsCutInto (piece :: more) name := by
  have hempty : matchesPieces name (piece :: more) = true ↔
      [] ∈ restsAfter (dropPiece piece name).toList more := by
    simp only [matchesPieces, List.any_eq_true, List.isEmpty_iff, exists_eq_right]
  rw [hempty, mem_restsAfter]
  simp only [Option.mem_toList, dropPiece_eq_some, List.append_nil]
  constructor
  · rintro ⟨_, ⟨first, rfl, hfirst⟩, cuts, rfl, hcuts, hgaps⟩
    exact ⟨first, cuts, rfl, .cons hfirst hcuts, hgaps⟩
  · rintro ⟨first, cuts, rfl, hpieces, hgaps⟩
    cases hpieces with
    | cons hfirst hcuts => exact ⟨_, ⟨first, rfl, hfirst⟩, cuts, rfl, hcuts, hgaps⟩

/-! ## The expression of a glob -/

/-- A glob as a pattern: its pieces with every character standing for itself and `.*` between
    them, from the beginning to the end. -/
def globText (pattern : List Char) : List Char :=
  '^' :: (['.', '*'].intercalate ((pattern.splitOn '*').map Regex.escape) ++ ['$'])

/-- What the pattern of a glob is read as, upper and lower case being alike. -/
def globReading (pattern : List Char) : Except Regex.Fault Tree := do
  let (tree, _) ← globMode.read (← Regex.parse (String.ofList (globText pattern)))
  return tree

/-- The pieces of a glob are what stands between its asterisks. -/
theorem pieces_eq_splitOn (cs : List Char) : pieces cs = cs.splitOn '*' := by
  induction cs with
  | nil => rfl
  | cons c cs ih =>
    rw [pieces, List.splitOn_cons_eq_if_modifyHead, ih]
    simp only [beq_iff_eq]
    -- an asterisk begins a new piece, and any other character joins the first one
    split
    · rfl
    · cases hsplit : cs.splitOn '*' with
      | nil => exact absurd hsplit (List.splitOn_ne_nil _ _)
      | cons piece more => rfl

/-- The characters of a glob are read as what a glob asks for. -/
theorem literal_globMode (c : Char) (span : Regex.Span) :
    globMode.literal ⟨span, c, false⟩ = .ok (globChar c) := by
  have hbyte : globMode.checkByte ⟨span, c, false⟩ = .ok () := rfl
  have hunicode : globMode.unicode = true ∨ c.toNat ≤ 0x7F := .inl rfl
  unfold Regex.Mode.literal globChar
  simp only [hbyte, if_pos hunicode]
  generalize globMode.fold [(c.toNat, c.toNat)] = codes
  -- a character that is like itself only stays a literal
  by_cases hself : codes = [(c.toNat, c.toNat)]
  · rw [if_pos hself, if_pos hself]
    rfl
  · rw [if_neg hself, if_neg hself]
    rfl

/-- The text of pieces with `.*` between them is read as their characters with gaps between them. -/
theorem scans_joined (piece : List Char) (more : List (List Char)) :
    Regex.Scans globMode (['.', '*'].intercalate ((piece :: more).map Regex.escape))
      ([globGap].intercalate ((piece :: more).map fun p => p.map globChar)) := by
  have hpiece (p : List Char) : Regex.Scans globMode (Regex.escape p) (p.map globChar) :=
    .escape literal_globMode p
  -- a gap and a piece are put in front of what is read already
  induction more generalizing piece with
  | nil =>
    simp only [List.map_singleton, List.intercalate_singleton]
    exact hpiece piece
  | cons next more ih =>
    have hgap : Regex.Scans globMode ['.', '*'] [globGap] := .anything fun _ => rfl
    rw [List.map_cons, List.map_cons, List.map_cons, List.map_cons, List.intercalate_cons_cons,
      List.intercalate_cons_cons]
    exact ((hpiece piece).append hgap).append (ih next)

/-- The pattern of a glob is made of pieces that stand for the parts of its tree. -/
theorem scans_globText (pattern : List Char) :
    ∃ trees, globTree (pieces pattern) = .concat trees ∧ 2 ≤ trees.length ∧
      Regex.Scans globMode (globText pattern) trees := by
  obtain ⟨piece, more, hpieces⟩ := List.exists_cons_of_ne_nil (List.splitOn_ne_nil '*' pattern)
  refine ⟨_, rfl, ?_, ?_⟩
  · rw [List.length_cons, List.length_append, List.length_singleton]
    omega
  · unfold globText
    rw [pieces_eq_splitOn, hpieces]
    exact Regex.Scans.start.append ((scans_joined piece more).append Regex.Scans.finish)

/-- The pattern of a glob is read without a fault, as the tree of the glob. -/
theorem globReading_eq (pattern : List Char) :
    globReading pattern = .ok (globTree (pieces pattern)) := by
  obtain ⟨trees, htree, hlength, hscans⟩ := scans_globText pattern
  -- a pattern that is scanned is parsed, and read as its trees
  obtain ⟨ast, hparse, hread⟩ := hscans.parse hlength
  unfold globReading
  rw [hparse, htree]
  simp only [bind, Except.bind, hread]
  rfl

/-! ## What globs select -/

/-- What a target with an asterisk selects, other than the one for all fields.  The pattern of
    its glob is read without a fault.  Unless what is read is too large, the target selects the
    names in which it matches, and these are the names that can be cut into the pieces between the
    asterisks: stretches equal to the pieces up to simple case folding, with gaps between them that
    have no line feed in them. -/
theorem selects_glob {pattern : String} (hglob : '*' ∈ pattern.toList) (hall : pattern ≠ "*")
    (field : String) :
    ∃ tree, globReading pattern.toList = .ok tree ∧ (tree.fits = true →
      ((ofPattern pattern).selects field = true ↔ tree.MatchesIn field.toList) ∧
        ((ofPattern pattern).selects field = true ↔
          IsCutInto (pattern.toList.splitOn '*') field.toList)) := by
  obtain ⟨piece, more, hsplit⟩ :=
    List.exists_cons_of_ne_nil (List.splitOn_ne_nil '*' pattern.toList)
  have hpieces : pieces pattern.toList = piece :: more := (pieces_eq_splitOn _).trans hsplit
  refine ⟨globTree (piece :: more), hpieces ▸ globReading_eq _, fun hfits => ?_⟩
  -- neither the asterisk alone nor a name, the pattern is a glob that fits
  have hpattern : ofPattern pattern = .glob (piece :: more) := by
    unfold ofPattern
    simp only [if_neg hall, List.contains_iff_mem.mpr hglob, if_true, hpieces,
      fits_iff.mpr hfits]
  rw [hsplit, hpattern]
  have hselects : (glob (piece :: more)).selects field = true ↔
      IsCutInto (piece :: more) field.toList := matchesPieces_iff
  exact ⟨hselects.trans matchesIn_globTree.symm, hselects⟩

/-- The glob of the versions `v1.…` -/
theorem selects_glob_version :
    '*' ∈ "v1.**".toList ∧ "v1.**" ≠ "*" ∧
    ∃ tree, globReading "v1.**".toList = .ok tree ∧ tree.fits = true ∧
      ((ofPattern "v1.**").selects "V1.5" = true ↔ tree.MatchesIn "V1.5".toList) ∧
        ((ofPattern "v1.**").selects "V1.5" = true ↔
          IsCutInto ("v1.**".toList.splitOn '*') "V1.5".toList) := by
  have hglob : '*' ∈ "v1.**".toList := by decide
  have hall : "v1.**" ≠ "*" := by decide
  obtain ⟨tree, hread, hselects⟩ := selects_glob hglob hall "V1.5"
  have hfits : tree.fits = true := by
    obtain rfl : globTree (pieces "v1.**".toList) = tree :=
      Except.ok.inj ((globReading_eq _).symm.trans hread)
    exact fits_iff.mp (by decide : fits [['v', '1', '.'], [], []] = true)
  exact ⟨hglob, hall, tree, hread, hfits, hselects hfits⟩

end RecordRules.Target
