/-! # Finding a text in another

* `Text.splitAt?`   what stands before and after the first occurrence
* `Text.contains`   whether there is an occurrence -/

namespace RecordRules.Text

/-- What stands before and after the first occurrence of a list of characters. -/
def splitAt? (token : List Char) : List Char → Option (List Char × List Char)
  | [] => if token.isEmpty then some ([], []) else none
  | c :: rest =>
    if token.isPrefixOf (c :: rest) then some ([], (c :: rest).drop token.length)
    else (splitAt? token rest).map fun (before, after) => (c :: before, after)

/-- Putting the occurrence back gives the whole. -/
theorem eq_of_splitAt? {token cs before after : List Char}
    (h : splitAt? token cs = some (before, after)) : cs = before ++ token ++ after := by
  induction cs generalizing before after with
  | nil =>
    simp only [splitAt?] at h
    split at h
    · simp_all
    · simp at h
  | cons c rest ih =>
    simp only [splitAt?] at h
    split at h
    · next hp =>
      simp only [Option.some.injEq, Prod.mk.injEq] at h
      obtain ⟨rfl, rfl⟩ := h
      obtain ⟨t, ht⟩ := List.isPrefixOf_iff_prefix.1 hp
      simp [← ht]
    · rw [Option.map_eq_some_iff] at h
      obtain ⟨⟨b, a⟩, hs, he⟩ := h
      simp only [Prod.mk.injEq] at he
      obtain ⟨rfl, rfl⟩ := he
      simp [ih hs]

/-- Whether one text stands anywhere in another. -/
def contains (s part : String) : Bool :=
  (splitAt? part.toList s.toList).isSome

/-- Whether a text begins with another. -/
def startsWith (s part : String) : Bool :=
  part.toList.isPrefixOf s.toList

/-- Whether a text begins with another one is told by their characters. -/
theorem startsWith_ofList {cs part : List Char} (h : part.isPrefixOf cs = true) :
    startsWith (String.ofList cs) (String.ofList part) = true := by
  simpa [startsWith] using h

/-- A text begins with each of its own beginnings. -/
@[simp] theorem startsWith_append_self (s t : String) : startsWith (s ++ t) s = true := by
  simp [startsWith]

/-- What a text begins with is still there when more is put behind the text. -/
theorem startsWith_append {s part : String} (h : startsWith s part = true) (t : String) :
    startsWith (s ++ t) part = true := by
  simp only [startsWith, List.isPrefixOf_iff_prefix, String.toList_append] at h ⊢
  exact h.trans (List.prefix_append _ _)

/-- Of two texts that a text begins with, one begins with the other. -/
theorem startsWith_or_startsWith {s part other : String} (h : startsWith s part = true)
    (hother : startsWith s other = true) :
    startsWith part other = true ∨ startsWith other part = true := by
  simp only [startsWith, List.isPrefixOf_iff_prefix] at h hother ⊢
  exact List.prefix_or_prefix_of_prefix hother h

/-- Whether a text ends with another. -/
def endsWith (s part : String) : Bool :=
  part.toList.isSuffixOf s.toList

end RecordRules.Text
