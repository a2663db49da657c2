import RecordRules.Moment.Reader
import RecordRules.Proofs.Binary64.Magnitude

/-!
# Moments and their milliseconds

Moments that a text names lie in the years of the calendar, so that their milliseconds need no more
than 53 bits.  Milliseconds forget what is below them, but apart from that they keep the order of
time, leap seconds aside: in a leap second the count runs on into the second after it.

## Key results

- `Moment.natAbs_millis_le`: the milliseconds of a moment that a text names fit 53 bits
- `Moment.order_of_millis_lt`: a moment of fewer milliseconds is earlier
- `Moment.compare_millis_eq_order_iff`: two moments are ordered as their milliseconds unless they
  are different ones of one millisecond
- `Moment.compare_millis`: milliseconds are ordered as the moments cut down to them
-/

namespace RecordRules

namespace CivilTime

/-- The seconds of a moment that a date and a time of day name lie within the calendar. -/
theorem moment?_bounds {c : CivilTime} {t : Moment} (h : c.moment? = some t) :
    -8334601228800 ≤ t.seconds ∧ t.seconds < 8210266876800 ∧ t.nanos < 2000000000 := by
  have hfirst : daysFromEpoch (-262143) 1 1 * 86400 = -8334601228800 := by decide
  have hlast : daysFromEpoch 262143 1 1 * 86400 = 8210266876800 := by decide
  simp only [moment?, Option.ite_none_right_eq_some, Option.some.injEq] at h
  obtain ⟨hvalid, hrange, rfl⟩ := h
  -- only a leap second has more nanoseconds, and it has those of two seconds
  have hnanos : c.nanos < 1000000000 := by
    simp only [isValid, Bool.and_eq_true, decide_eq_true_eq] at hvalid
    exact hvalid.2
  rw [hfirst, hlast] at hrange
  refine ⟨hrange.1, hrange.2, ?_⟩
  dsimp only
  split <;> omega

end CivilTime

namespace Moment

/-- The moment of a mail date is that of its parts, if the day of the week is right. -/
theorem exists_civil_of_mailMoment? {cs : List Char} {t : Moment}
    (h : DateReader.mailMoment? cs = some t) : ∃ c : CivilTime, c.moment? = some t := by
  unfold DateReader.mailMoment? at h
  simp only [Option.bind_eq_bind, Option.bind_eq_some_iff] at h
  obtain ⟨⟨⟨weekday, c⟩, rest⟩, -, h⟩ := h
  -- the text has to end here, and the day of the week has to be the one of the date
  split at h
  · exact nomatch h
  · obtain ⟨t', ht', hweekday⟩ := Option.bind_eq_some_iff.mp h
    split at hweekday
    · obtain rfl := Option.some.inj hweekday
      exact ⟨c, ht'⟩
    · exact nomatch hweekday

/-- Every form of a date is read as the parts of a date first. -/
theorem exists_civil_of_ofText? {s : String} {t : Moment} (h : ofText? s = some t) :
    ∃ c : CivilTime, c.moment? = some t := by
  unfold ofText? at h
  dsimp only at h
  split at h
  · exact nomatch h
  · simp only [Option.orElse_eq_orElse, Option.orElse_eq_or, Option.or_eq_some_iff] at h
    -- the three forms are tried in turn, and each goes through the parts of a date
    obtain h | ⟨-, h | ⟨-, h⟩⟩ := h
    · obtain ⟨c, -, hc⟩ := Option.bind_eq_some_iff.mp h
      exact ⟨c, hc⟩
    · exact exists_civil_of_mailMoment? h
    · obtain ⟨layout, -, h⟩ := List.exists_of_findSome?_eq_some h
      obtain ⟨c, -, hc⟩ := Option.bind_eq_some_iff.mp h
      exact ⟨c, hc⟩

/-- The milliseconds of a moment that a text names fit 53 bits. -/
theorem natAbs_millis_le {s : String} {t : Moment} (h : ofText? s = some t) :
    t.millis.natAbs ≤ twoTo 53 := by
  obtain ⟨c, hc⟩ := exists_civil_of_ofText? h
  obtain ⟨hfirst, hlast, hnanos⟩ := CivilTime.moment?_bounds hc
  have hpow : twoTo 53 = 9007199254740992 := by decide
  unfold millis
  omega

/-- A leap second makes a second two seconds long, and no longer. -/
theorem nanos_lt {s : String} {t : Moment} (h : ofText? s = some t) : t.nanos < 2000000000 := by
  obtain ⟨c, hc⟩ := exists_civil_of_ofText? h
  exact (CivilTime.moment?_bounds hc).2.2

/-! ### Milliseconds and the order of time -/

/-- The order of time: a moment comes before another if its second does, or if it comes earlier in
    the same second. -/
def order (s t : Moment) : Ordering :=
  (compare s.seconds t.seconds).then (compare s.nanos t.nanos)

/-- The beginning of the millisecond that a moment lies in. -/
def startOfMilli (t : Moment) : Moment :=
  ⟨t.seconds, t.nanos / 1000000 * 1000000⟩

/-- The first moment lies in a leap second and the second one in the second after it, where the
    milliseconds of the first one run on. -/
def RunsInto (s t : Moment) : Prop :=
  1000000000 ≤ s.nanos ∧ t.seconds = s.seconds + 1

instance (s t : Moment) : Decidable (s.RunsInto t) :=
  inferInstanceAs (Decidable (_ ∧ _))

theorem order_eq_eq_iff {s t : Moment} : s.order t = .eq ↔ s = t := by
  unfold order
  rw [Ordering.then_eq_eq, Int.compare_eq_eq, Nat.compare_eq_eq]
  constructor
  · rintro ⟨hseconds, hnanos⟩
    cases s
    cases t
    subst hseconds hnanos
    rfl
  · rintro rfl
    exact ⟨rfl, rfl⟩

theorem order_swap (s t : Moment) : t.order s = (s.order t).swap := by
  unfold order
  rw [Ordering.swap_then, Int.compare_swap, Nat.compare_swap]

/-- The beginning of a millisecond has the same milliseconds. -/
theorem millis_startOfMilli (t : Moment) : t.startOfMilli.millis = t.millis := by
  unfold millis startOfMilli
  dsimp only
  omega

/-- Whether one moment runs into the second of another is told by their milliseconds. -/
theorem runsInto_startOfMilli_iff {s t : Moment} :
    s.startOfMilli.RunsInto t.startOfMilli ↔ s.RunsInto t := by
  unfold RunsInto startOfMilli
  dsimp only
  omega

/-- Milliseconds leave the order of two moments as it is, unless the second one is in a leap
    second that the first one comes after. -/
theorem order_of_millis_lt {s t : Moment} (ht : t.nanos < 2000000000) (hts : ¬ t.RunsInto s)
    (h : s.millis < t.millis) : s.order t = .lt := by
  unfold millis at h
  unfold RunsInto at hts
  rw [order, Ordering.then_eq_lt, Int.compare_eq_lt, Int.compare_eq_eq, Nat.compare_eq_lt]
  omega

section

variable {s t : Moment} (hs : s.nanos < 2000000000) (ht : t.nanos < 2000000000)
  (hst : ¬ s.RunsInto t) (hts : ¬ t.RunsInto s)
include hs ht hst hts

/-- Moments are ordered as their milliseconds, unless they are different ones of one
    millisecond. -/
theorem compare_millis_eq_order_iff :
    compare s.millis t.millis = s.order t ↔ (s.millis = t.millis → s = t) := by
  constructor
  · intro hsame hmillis
    rw [Int.compare_eq_eq.mpr hmillis] at hsame
    exact order_eq_eq_iff.mp hsame.symm
  · intro hdistinct
    -- where the milliseconds differ, they decide; where they agree, the moments are one
    rcases Int.lt_trichotomy s.millis t.millis with hlt | heq | hgt
    · rw [Int.compare_eq_lt.mpr hlt, order_of_millis_lt ht hts hlt]
    · rw [Int.compare_eq_eq.mpr heq, order_eq_eq_iff.mpr (hdistinct heq)]
    · rw [Int.compare_eq_gt.mpr hgt, order_swap t s, order_of_millis_lt hs hst hgt]
      rfl

/-- Milliseconds are ordered as the moments cut down to them. -/
theorem compare_millis :
    compare s.millis t.millis = s.startOfMilli.order t.startOfMilli := by
  -- cut down, two moments of one millisecond are one, and no order is lost
  have hcut (u : Moment) (hu : u.nanos < 2000000000) : u.startOfMilli.nanos < 2000000000 := by
    unfold startOfMilli
    dsimp only
    omega
  have hdistinct : s.startOfMilli.millis = t.startOfMilli.millis →
      s.startOfMilli = t.startOfMilli := by
    rw [millis_startOfMilli, millis_startOfMilli]
    intro hmillis
    -- two moments of one millisecond share their second too, since none runs into the other's
    unfold millis at hmillis
    unfold RunsInto at hst hts
    have hseconds : s.seconds = t.seconds := by omega
    have hnanos : s.nanos / 1000000 = t.nanos / 1000000 := by omega
    unfold startOfMilli
    rw [hseconds, hnanos]
  have horder := (compare_millis_eq_order_iff (hcut s hs) (hcut t ht)
    (mt runsInto_startOfMilli_iff.mp hst) (mt runsInto_startOfMilli_iff.mp hts)).mpr hdistinct
  rw [millis_startOfMilli, millis_startOfMilli] at horder
  exact horder

end

/-- By milliseconds a moment of a leap second can come after one of the second that follows. -/
example : order ⟨1483228799, 1500000000⟩ ⟨1483228800, 400000000⟩ = .lt ∧
    compare (millis ⟨1483228799, 1500000000⟩) (millis ⟨1483228800, 400000000⟩) = .gt := by
  decide

end Moment
end RecordRules
