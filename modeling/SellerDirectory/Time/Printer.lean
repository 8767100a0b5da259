import SellerDirectory.Text.Numeral
import SellerDirectory.Time.Instant

-- Instants as text: date, `T`, time, the shortest fraction of 0, 3, 6 or 9 digits that loses
-- nothing, and a mark for UTC, which is `Z` in messages and `+00:00` in stored rows.

namespace SellerDirectory.Time

open Text

-- Years of four digits stand alone; all others have a sign and at least four digits.
def yearText (year : Int) : List Char :=
  if 0 ≤ year && year ≤ 9999 then Numeral.padded 4 year.toNat
  else (if year < 0 then '-' else '+') :: Numeral.padded 4 year.natAbs

def dateText (date : Date) : List Char :=
  yearText date.year ++ '-' :: Numeral.padded 2 date.month ++ '-' :: Numeral.padded 2 date.day

def secondsText (clock : Clock) : List Char :=
  Numeral.padded 2 clock.hour ++ ':' :: Numeral.padded 2 clock.minute
    ++ ':' :: Numeral.padded 2 clock.second

def fractionText (nano : Nat) : List Char :=
  if nano = 0 then []
  else if nano % 1000000 = 0 then '.' :: Numeral.padded 3 (nano / 1000000)
  else if nano % 1000 = 0 then '.' :: Numeral.padded 6 (nano / 1000)
  else '.' :: Numeral.padded 9 nano

namespace Instant

def textWith (mark : List Char) (instant : Instant) : List Char :=
  dateText instant.date ++ 'T' :: secondsText instant.clock
    ++ fractionText instant.clock.nano ++ mark

def text (instant : Instant) : String :=
  String.ofList (instant.textWith ['Z'])

def columnText (instant : Instant) : String :=
  String.ofList (instant.textWith ['+', '0', '0', ':', '0', '0'])

-- The text to the second; a fraction is cut off.
def secondText (instant : Instant) : String :=
  String.ofList (dateText instant.date ++ 'T' :: secondsText instant.clock ++ ['Z'])

end Instant

end SellerDirectory.Time
