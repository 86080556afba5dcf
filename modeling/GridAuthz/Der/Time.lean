import GridAuthz.Calendar.DateTime
import GridAuthz.Der.Element

/-!
# Times

Certificates write a moment as a UTCTime, with two digits of the year, or as a
GeneralizedTime, with four. Both have seconds and end in `Z`.
-/

namespace GridAuthz.Der

/-- The two decimal digits of a number below 100. -/
def twoDigits (n : Nat) : Bytes := [UInt8.ofNat (48 + n / 10), UInt8.ofNat (48 + n % 10)]

/-- The number that decimal digits write. -/
def digits? (bytes : Bytes) : Option Nat :=
  if bytes.all fun b => 48 ≤ b && b ≤ 57 then
    some (bytes.foldl (fun n b => n * 10 + (b.toNat - 48)) 0)
  else none

/-- The month and all that follows it. -/
def monthToSecond (t : DateTime) : Bytes :=
  twoDigits t.month ++ twoDigits t.day ++ twoDigits t.hour ++ twoDigits t.minute ++
    twoDigits t.second ++ [0x5A]

/-- The date and time in the given year whose other parts are written by `bytes`. -/
def ofMonthToSecond? (year : Nat) (bytes : Bytes) : Option DateTime :=
  match bytes with
  | [m₁, m₂, d₁, d₂, h₁, h₂, i₁, i₂, s₁, s₂, 0x5A] => do
    DateTime.ofParts? year (← digits? [m₁, m₂]) (← digits? [d₁, d₂]) (← digits? [h₁, h₂])
      (← digits? [i₁, i₂]) (← digits? [s₁, s₂])
  | _ => none

/-- The element of a GeneralizedTime. -/
def generalizedTime (t : DateTime) : Element :=
  ⟨.generalizedTime, twoDigits (t.year / 100) ++ twoDigits (t.year % 100) ++ monthToSecond t⟩

/-- The date and time of a GeneralizedTime. -/
def generalizedTime? (e : Element) : Option DateTime := do
  match ← e.contentOf? .generalizedTime with
  | y₁ :: y₂ :: y₃ :: y₄ :: rest => ofMonthToSecond? (← digits? [y₁, y₂, y₃, y₄]) rest
  | _ => none

/-- A moment in one of the two forms. A UTCTime reaches to the year 2049. -/
inductive Time where
  /-- A UTCTime. -/
  | utc (t : DateTime) (year_lt : t.year < 2050)
  /-- A GeneralizedTime. -/
  | general (t : DateTime)
  deriving DecidableEq

namespace Time

/-- The date and time. -/
def dateTime : Time → DateTime
  | utc t _ => t
  | general t => t

/-- The moment, as the time passed since the beginning of 1970. -/
def moment (t : Time) : Duration := t.dateTime.moment

/-- The element of a time. -/
def toElement : Time → Element
  | utc t _ => ⟨.utcTime, twoDigits (t.year % 100) ++ monthToSecond t⟩
  | general t => Der.generalizedTime t

/-- The year that two digits stand for: those from 50 on belong to the twentieth century. -/
def yearOfTwoDigits (n : Nat) : Nat := if 50 ≤ n then 1900 + n else 2000 + n

/-- The time of an element. -/
def ofElement? (e : Element) : Option Time :=
  if e.tag = .utcTime then
    match e.content with
    | y₁ :: y₂ :: rest => do
      let t ← ofMonthToSecond? (yearOfTwoDigits (← digits? [y₁, y₂])) rest
      if h : t.year < 2050 then some (utc t h) else none
    | _ => none
  else (generalizedTime? e).map general

/-- The form that a moment is to be written in: UTCTime as far as it reaches. There is none
for moments after the year 9999. -/
def ofMoment? (moment : Duration) : Option Time :=
  (DateTime.ofMoment? moment).map fun t =>
    if h : t.year < 2050 then utc t h else general t

end Time

end GridAuthz.Der
