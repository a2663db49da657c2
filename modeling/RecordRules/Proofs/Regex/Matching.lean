import RecordRules.Proofs.Unicode.CodeSet
import RecordRules.Regex.Program

/-!
# What a tree matches

A tree matches stretches of a text.  Whether it does may depend on what stands before and behind
the stretch, since a tree may hold conditions on places.  This is the meaning of a pattern without
the program that searches for it.

## Key results

- `Tree.Matches`: a tree matches a stretch between what is before and what is behind it
- `Tree.MatchesIn`: it matches somewhere in a text
- `Tree.matches_concat_append`: sequences match one after the other
- `Tree.matches_repetition_set`: repeated characters of a set
-/

namespace RecordRules.Regex.Tree

/-- A tree matches a stretch that stands between two texts. -/
inductive Matches : Tree → List Char → List Char → List Char → Prop where
  | empty (before after : List Char) : Matches .empty before [] after
  | literal (c : Char) (before after : List Char) : Matches (.literal c) before [c] after
  | set {codes : CodeSet} {c : Char} (h : codes.Covers c.toNat) (before after : List Char) :
    Matches (.set codes) before [c] after
  | look {condition : Look} {before after : List Char}
    (h : condition.holds before.getLast? after.head? = true) :
    Matches (.look condition) before [] after
  | group {body : Tree} {before stretch after : List Char} (capturing : Bool)
    (h : Matches body before stretch after) : Matches (.group capturing body) before stretch after
  | alternation {branches : List Tree} {t : Tree} {before stretch after : List Char}
    (hmem : t ∈ branches) (h : Matches t before stretch after) :
    Matches (.alternation branches) before stretch after
  | nil (before after : List Char) : Matches (.concat []) before [] after
  | cons {t : Tree} {rest : List Tree} {before first last after : List Char}
    (hfirst : Matches t before first (last ++ after))
    (hrest : Matches (.concat rest) (before ++ first) last after) :
    Matches (.concat (t :: rest)) before (first ++ last) after
  | repetition {least : Nat} {most : Option Nat} {body : Tree} {times : Nat}
    {before stretch after : List Char} (hleast : least ≤ times) (hmost : ∀ m ∈ most, times ≤ m)
    (h : Matches (.concat (List.replicate times body)) before stretch after) :
    Matches (.repetition least most body) before stretch after

/-- A tree matches somewhere in a text. -/
def MatchesIn (t : Tree) (text : List Char) : Prop :=
  ∃ before stretch after, text = before ++ (stretch ++ after) ∧ t.Matches before stretch after

section

variable {before stretch after : List Char}

theorem matches_literal {c : Char} : (literal c).Matches before stretch after ↔ stretch = [c] := by
  constructor
  · rintro ⟨⟩
    rfl
  · rintro rfl
    exact .literal c before after

theorem matches_set {codes : CodeSet} : (set codes).Matches before stretch after ↔
    ∃ c, stretch = [c] ∧ codes.Covers c.toNat := by
  constructor
  · rintro ⟨⟩
    exact ⟨_, rfl, ‹_›⟩
  · rintro ⟨c, rfl, h⟩
    exact .set h before after

/-- A condition matches nothing, at the places where it holds. -/
theorem matches_look {condition : Look} : (look condition).Matches before stretch after ↔
    stretch = [] ∧ condition.holds before.getLast? after.head? = true := by
  constructor
  · rintro ⟨⟩
    exact ⟨rfl, ‹_›⟩
  · rintro ⟨rfl, h⟩
    exact .look h

/-! ### Sequences -/

theorem matches_concat_nil : (concat []).Matches before stretch after ↔ stretch = [] := by
  constructor
  · rintro ⟨⟩
    rfl
  · rintro rfl
    exact .nil before after

/-- A sequence matches the stretch of its first tree and then that of the others. -/
theorem matches_concat_cons {t : Tree} {rest : List Tree} :
    (concat (t :: rest)).Matches before stretch after ↔
      ∃ first last, stretch = first ++ last ∧ t.Matches before first (last ++ after) ∧
        (concat rest).Matches (before ++ first) last after := by
  constructor
  · rintro ⟨⟩
    exact ⟨_, _, rfl, ‹_›, ‹_›⟩
  · rintro ⟨first, last, rfl, hfirst, hrest⟩
    exact .cons hfirst hrest

theorem matches_concat_singleton {t : Tree} :
    (concat [t]).Matches before stretch after ↔ t.Matches before stretch after := by
  rw [matches_concat_cons]
  constructor
  · rintro ⟨first, last, rfl, hfirst, hlast⟩
    obtain rfl := matches_concat_nil.mp hlast
    rwa [List.append_nil]
  · intro h
    exact ⟨stretch, [], (List.append_nil _).symm, h, .nil _ _⟩

/-- A sequence made of two matches two stretches one after the other. -/
theorem matches_concat_append {ts us : List Tree} :
    (concat (ts ++ us)).Matches before stretch after ↔
      ∃ first last, stretch = first ++ last ∧ (concat ts).Matches before first (last ++ after) ∧
        (concat us).Matches (before ++ first) last after := by
  -- the stretch of the first tree moves from what is matched to what is before
  induction ts generalizing before stretch with
  | nil =>
    simp only [List.nil_append, matches_concat_nil]
    constructor
    · intro h
      exact ⟨[], stretch, rfl, rfl, by rwa [List.append_nil]⟩
    · rintro ⟨first, last, rfl, rfl, h⟩
      rwa [List.append_nil] at h
  | cons t ts ih =>
    rw [List.cons_append, matches_concat_cons]
    constructor
    · rintro ⟨first, more, rfl, hfirst, hmore⟩
      -- the first tree keeps its stretch, and the rest is cut once more
      obtain ⟨middle, last, rfl, hmiddle, hlast⟩ := ih.mp hmore
      refine ⟨first ++ middle, last, (List.append_assoc ..).symm, ?_, ?_⟩
      · rw [List.append_assoc] at hfirst
        exact matches_concat_cons.mpr ⟨first, middle, rfl, hfirst, hmiddle⟩
      · rwa [← List.append_assoc]
    · rintro ⟨begun, last, rfl, hbegun, hlast⟩
      obtain ⟨first, middle, rfl, hfirst, hmiddle⟩ := matches_concat_cons.mp hbegun
      refine ⟨first, middle ++ last, List.append_assoc .., ?_, ?_⟩
      · rwa [List.append_assoc]
      · rw [← List.append_assoc] at hlast
        exact ih.mpr ⟨middle, last, rfl, hmiddle, hlast⟩

/-! ### Repetitions -/

/-- A repetition matches as a sequence of equal trees does, of a length between its bounds. -/
theorem matches_repetition {least : Nat} {most : Option Nat} {body : Tree} :
    (repetition least most body).Matches before stretch after ↔
      ∃ times, least ≤ times ∧ (∀ m ∈ most, times ≤ m) ∧
        (concat (List.replicate times body)).Matches before stretch after := by
  constructor
  · rintro ⟨⟩
    exact ⟨_, ‹_›, ‹_›, ‹_›⟩
  · rintro ⟨times, hleast, hmost, h⟩
    exact .repetition hleast hmost h

/-- A set a number of times matches as many of its characters. -/
theorem matches_replicate_set {codes : CodeSet} {times : Nat} :
    (concat (List.replicate times (set codes))).Matches before stretch after ↔
      stretch.length = times ∧ ∀ c ∈ stretch, codes.Covers c.toNat := by
  -- each time one character is matched, so their number is the length
  induction times generalizing before stretch with
  | zero =>
    rw [List.replicate_zero, matches_concat_nil, List.length_eq_zero_iff]
    constructor
    · rintro rfl
      exact ⟨rfl, nofun⟩
    · exact And.left
  | succ times ih =>
    rw [List.replicate_succ, matches_concat_cons]
    constructor
    · rintro ⟨first, last, rfl, hfirst, hlast⟩
      obtain ⟨c, rfl, hc⟩ := matches_set.mp hfirst
      obtain ⟨hlength, hall⟩ := ih.mp hlast
      refine ⟨by rw [List.singleton_append, List.length_cons, hlength], ?_⟩
      exact List.forall_mem_cons.mpr ⟨hc, hall⟩
    · rintro ⟨hlength, hall⟩
      -- there is a first character, since the length is not zero
      obtain ⟨c, last, rfl⟩ := List.exists_cons_of_length_eq_add_one hlength
      obtain ⟨hc, hall⟩ := List.forall_mem_cons.mp hall
      exact ⟨[c], last, rfl, .set hc _ _, ih.mpr ⟨Nat.succ.inj hlength, hall⟩⟩

/-- A set any number of times matches any of its characters. -/
theorem matches_repetition_set {codes : CodeSet} :
    (repetition 0 none (set codes)).Matches before stretch after ↔
      ∀ c ∈ stretch, codes.Covers c.toNat := by
  rw [matches_repetition]
  constructor
  · rintro ⟨times, -, -, h⟩
    exact (matches_replicate_set.mp h).2
  -- the number of times is the length of the stretch, which nothing bounds
  · intro h
    exact ⟨stretch.length, Nat.zero_le _, nofun, matches_replicate_set.mpr ⟨rfl, h⟩⟩

/-! ### Whole texts -/

/-- A sequence between the conditions for the two ends of a text matches in a text when it
    matches the whole text. -/
theorem matchesIn_anchored {ts : List Tree} {text : List Char} :
    (concat (look .startText :: (ts ++ [look .endText]))).MatchesIn text ↔
      (concat ts).Matches [] text [] := by
  constructor
  · rintro ⟨before, stretch, after, rfl, h⟩
    obtain ⟨first, more, rfl, hfirst, hmore⟩ := matches_concat_cons.mp h
    obtain ⟨rfl, hstart⟩ := matches_look.mp hfirst
    -- the conditions leave no room before the stretch, and none behind it
    obtain rfl : before = [] := List.getLast?_eq_none_iff.mp (Option.isNone_iff_eq_none.mp hstart)
    obtain ⟨middle, last, rfl, hmiddle, hlast⟩ := matches_concat_append.mp hmore
    obtain ⟨rfl, hend⟩ := matches_look.mp (matches_concat_singleton.mp hlast)
    obtain rfl : after = [] := List.head?_eq_none_iff.mp (Option.isNone_iff_eq_none.mp hend)
    simpa only [List.nil_append, List.append_nil] using hmiddle
  · intro h
    -- the whole text is the stretch, with nothing before it and nothing behind
    refine ⟨[], text, [], by rw [List.append_nil]; rfl, ?_⟩
    refine matches_concat_cons.mpr ⟨[], text, rfl, .look rfl, ?_⟩
    refine matches_concat_append.mpr ⟨text, [], (List.append_nil text).symm, h, ?_⟩
    exact matches_concat_singleton.mpr (.look rfl)

end

end RecordRules.Regex.Tree
