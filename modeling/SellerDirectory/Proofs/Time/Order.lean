import Mathlib.Order.Defs.PartialOrder
import SellerDirectory.Proofs.Time.ColumnText

-- Which of two instants comes first. A leap second comes after the second before it and before the
-- minute after it.

namespace SellerDirectory.Time

theorem digits_of_eq {base low low' : Nat} {high high' : Int}
    (same : high * base + low = high' * base + low') (fits : low < base) (fits' : low' < base) :
    high = high' ∧ low = low' := by
  have positive : (0 : Int) < base := by omega
  have read {high : Int} {low : Nat} (fits : low < base) : (high * base + low) / base = high := by
    rw [Int.add_comm, Int.add_mul_ediv_right _ _ (Int.ne_of_gt positive),
      Int.ediv_eq_zero_of_lt (Int.natCast_nonneg low) (Int.ofNat_lt.mpr fits), Int.zero_add]
  have above : high = high' :=
    calc
      high = (high * base + low) / base := (read fits).symm
      _ = (high' * base + low') / base := by rw [same]
      _ = high' := read fits'
  subst above
  exact ⟨rfl, by omega⟩

namespace Instant

-- The numbers of an instant, from the year down to the part of a second, as the digits of one
-- number. No digit is as large as its base; a minute has room for a leap second.
def rank (instant : Instant) : Int :=
  (((((instant.date.year * 13 + instant.date.month) * 32 + instant.date.day) * 24
    + instant.clock.hour) * 60 + instant.clock.minute) * 61 + instant.clock.second) * 1000000000
    + instant.clock.nano

theorem rank_injective : Function.Injective rank := by
  intro first second same
  obtain ⟨_, month, _, day⟩ := monthDay_bounds first.date
  obtain ⟨_, month', _, day'⟩ := monthDay_bounds second.date
  obtain ⟨hour, minute, seconds, nano⟩ := clock_fits first.clock
  obtain ⟨hour', minute', seconds', nano'⟩ := clock_fits second.clock
  -- The digits are read off from the last one.
  obtain ⟨toSecond, sameNano⟩ := digits_of_eq same nano nano'
  obtain ⟨toMinute, sameSecond⟩ :=
    digits_of_eq toSecond (Nat.lt_succ_of_le seconds) (Nat.lt_succ_of_le seconds')
  obtain ⟨toHour, sameMinute⟩ := digits_of_eq toMinute minute minute'
  obtain ⟨toDay, sameHour⟩ := digits_of_eq toHour hour hour'
  obtain ⟨toMonth, sameDay⟩ := digits_of_eq toDay (Nat.lt_succ_of_le day) (Nat.lt_succ_of_le day')
  obtain ⟨sameYear, sameMonth⟩ :=
    digits_of_eq toMonth (Nat.lt_succ_of_le month) (Nat.lt_succ_of_le month')
  obtain ⟨⟨_, _, _, _⟩, _, _, _, _, _⟩ := first
  obtain ⟨⟨_, _, _, _⟩, _, _, _, _, _⟩ := second
  cases sameYear
  cases sameMonth
  cases sameDay
  cases sameHour
  cases sameMinute
  cases sameSecond
  cases sameNano
  rfl

instance : PartialOrder Instant where
  le earlier later := earlier.rank ≤ later.rank
  le_refl instant := Int.le_refl instant.rank
  le_trans _ _ _ before after := Int.le_trans before after
  le_antisymm _ _ before after := rank_injective (Int.le_antisymm before after)

instance : DecidableLE Instant := fun earlier later => Int.decLe earlier.rank later.rank

end Instant

end SellerDirectory.Time
