import Mathlib.Data.List.Basic
import RecordRules.Document.Format

/-!
# Extensions in lower case

The lower-case form of a text goes through a table of all letters that have one.  A text without
capital letters from the beginning of that table stays as it is, and the names of formats are such
texts.  So the extension that a format is written with tells that format.

## Key results

- `Lowercase.ofChar_eq_self`: characters before the second run of the table stay, capitals apart
- `Lowercase.ofText_eq_self`: texts of such characters stay
- `DocumentFormat.ofPath_eq_ok`: a path with the extension of a format tells the format
-/

namespace RecordRules

/-! ### The beginning of the table -/

namespace Lowercase

/-- No run begins before the one that it follows. -/
theorem le_first_of_mem_runsFrom {fuel before : Nat} {numbers : List Nat} {run : Run}
    (h : run ∈ runsFrom fuel before numbers) : before ≤ run.first := by
  -- each run begins where its gap from the run before ends
  fun_induction runsFrom fuel before numbers with
  | case1 fuel before gap shape move rest first step offset ih =>
    rcases List.mem_cons.mp h with rfl | hrest
    · exact Nat.le_add_right before gap
    · exact Nat.le_trans (Nat.le_add_right before gap) (ih hrest)
  | case2 => exact nomatch h

/-- The table begins with the capitals from A to Z, and it continues with À. -/
theorem runs_eq_cons : ∃ rest : List Run, runs = (⟨65, 90, 1, 32⟩ :: rest).toArray ∧
    ∀ run ∈ rest, 192 ≤ run.first := by
  -- the table is long, so only the letters of its first numbers are looked at
  have htext : ∃ letters, runsText.toList =
      'C' :: 'n' :: 'B' :: 'y' :: 'C' :: 'm' :: 'E' :: 'x' :: letters := by
    unfold runsText String.join
    simp only [List.foldl_cons, List.foldl_nil, String.toList_append, List.append_assoc]
    exact ⟨_, congrArg (· ++ _) String.toList_ofList⟩
  obtain ⟨letters, htext⟩ := htext
  have hnumbers : BaseLetters.decode runsText =
      65 :: 50 :: 64 :: 127 :: BaseLetters.decodeFrom 0 letters := by
    rw [BaseLetters.decode, htext]
    rfl
  generalize BaseLetters.decodeFrom 0 letters = numbers at hnumbers
  -- the last of those numbers is how far the second run is from the first
  unfold runs
  rw [hnumbers]
  refine ⟨_, rfl, fun run hrun => ?_⟩
  match numbers, hrun with
  | shape :: move :: rest, hrun =>
    rcases List.mem_cons.mp hrun with rfl | hrest
    · exact Nat.le_refl 192
    · exact le_first_of_mem_runsFrom hrest
  | [_], hrun => exact nomatch hrun
  | [], hrun => exact nomatch hrun

/-! ### Looking characters up -/

/-- A search keeps what it has, or comes to a run that does not begin behind. -/
theorem searchRun_eq_or (runs : Array Run) (n fuel : Nat) (best : Option Run) (lo hi : Nat) :
    searchRun runs n fuel best lo hi = best ∨
      ∃ run ∈ runs, run.first ≤ n ∧ searchRun runs n fuel best lo hi = some run := by
  -- only the step that looks at a run can put it in the place of the best
  fun_induction searchRun runs n fuel best lo hi with
  | case1 | case2 | case3 => exact .inl rfl
  | case4 fuel best lo hi _ mid run hrun hfirst ih =>
    have hmem : run ∈ runs := Array.mem_of_getElem? hrun
    rcases ih with hkept | hfound
    · exact .inr ⟨run, hmem, hfirst, hkept⟩
    · exact .inr hfound
  | case5 fuel best lo hi _ mid run hrun hbehind ih => exact ih

/-- Whether a character stands before the second run, and is no capital. -/
def isPlain (c : Char) : Bool :=
  c.toNat < 65 || (90 < c.toNat && c.toNat < 192)

/-- Characters before the second run stay as they are, but for the capitals. -/
theorem ofChar_eq_self {c : Char} (h : isPlain c = true) : ofChar c = [c] := by
  obtain ⟨rest, hruns, hrest⟩ := runs_eq_cons
  have hplain : c.toNat < 65 ∨ (90 < c.toNat ∧ c.toNat < 192) := by simpa [isPlain] using h
  have hdotted : c ≠ '\u0130' := by
    rintro rfl
    exact absurd h (by decide)
  unfold ofChar
  rw [if_neg hdotted]
  rcases searchRun_eq_or runs c.toNat (runs.size + 1) none 0 runs.size with
    hnone | ⟨run, hmem, hle, hsome⟩
  · rw [hnone]
  · -- the run can only be that of the capitals, which ends before the character
    rw [hruns, List.mem_toArray] at hmem
    rw [hsome]
    rcases List.mem_cons.mp hmem with rfl | hmem
    · refine if_neg fun ⟨hlast, _⟩ => ?_
      simp only at hle hlast
      omega
    · have hfirst := hrest run hmem
      omega

/-- Texts of such characters stay as they are. -/
theorem ofText_eq_self {s : String} (h : s.toList.all isPlain = true) : ofText s = s := by
  -- what stands before a letter matters for a sigma only, and there is none
  have hchars (cs before : List Char) (h : cs.all isPlain = true) : fromChars before cs = cs := by
    induction cs generalizing before with
    | nil => rfl
    | cons c cs ih =>
      rw [List.all_cons, Bool.and_eq_true] at h
      have hsigma : c ≠ 'Σ' := by
        rintro rfl
        exact absurd h.1 (by decide)
      rw [fromChars, if_neg hsigma, ofChar_eq_self h.1, ih _ h.2, List.singleton_append]
  rw [ofText, hchars _ _ h, String.ofList_toList]

end Lowercase

/-! ### Paths -/

namespace DocumentFormat

/-- A path with an extension that a format is written with tells that format. -/
theorem ofPath_eq_ok {path extension : String} {format : DocumentFormat}
    (hpath : pathExtension path.toList = some extension.toList)
    (hformat : ofExtension? extension = some format) : ofPath path = .ok format := by
  -- the extensions of the formats are four texts of small letters
  have hlower : Lowercase.ofText extension = extension := by
    apply Lowercase.ofText_eq_self
    unfold ofExtension? at hformat
    split at hformat
    · decide
    · decide
    · decide
    · decide
    · exact nomatch hformat
  unfold ofPath
  rw [hpath]
  simp only [String.ofList_toList, hlower, hformat]

end DocumentFormat
end RecordRules
