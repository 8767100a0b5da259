import SellerDirectory.Time.Calendar

-- Points in time, in UTC and to the nanosecond. A leap second is second 60 of its minute; it may
-- stand in any minute, because a time is taken as it was read.

namespace SellerDirectory.Time

def isClock (hour minute second nano : Nat) : Bool :=
  hour < 24 && minute < 60 && second ≤ 60 && nano < 1000000000

structure Clock where
  hour : Nat
  minute : Nat
  second : Nat
  nano : Nat
  isClock_eq : isClock hour minute second nano = true
  deriving DecidableEq

def Clock.of? (hour minute second nano : Nat) : Option Clock :=
  if h : isClock hour minute second nano = true then some ⟨hour, minute, second, nano, h⟩
  else none

def Clock.moved? (clock : Clock) (minuteOfDay : Nat) : Option Clock :=
  of? (minuteOfDay / 60) (minuteOfDay % 60) clock.second clock.nano

structure Instant where
  date : Date
  clock : Clock
  deriving DecidableEq

namespace Instant

-- The instant at which clocks that are ahead of UTC by the given minutes show the date and time.
-- There is none where that lies outside the range of dates.
def ofLocal? (date : Date) (clock : Clock) (ahead : Int) : Option Instant := do
  let minute := (clock.hour * 60 + clock.minute : Int) - ahead
  if minute < 0 then
    return ⟨← date.previous?, ← clock.moved? (minute + 1440).toNat⟩
  else if minute < 1440 then
    return ⟨date, ← clock.moved? minute.toNat⟩
  else
    return ⟨← date.next?, ← clock.moved? (minute - 1440).toNat⟩

def ofUnix? (seconds : Int) (nano : Nat) : Option Instant := do
  let secondOfDay := (seconds.fmod 86400).toNat
  let date ← Date.ofDaysFromMarch? (seconds.fdiv 86400 + 719468)
  let clock ← Clock.of? (secondOfDay / 3600) (secondOfDay / 60 % 60) (secondOfDay % 60) nano
  return ⟨date, clock⟩

end Instant

end SellerDirectory.Time
