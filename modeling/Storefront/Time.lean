import Storefront.Decimal.Integer

namespace Storefront

/-- Milliseconds since the start of 1970, which may be negative. -/
abbrev Instant := Int

namespace Instant

/-- Whole seconds, rounded down. -/
def seconds (t : Instant) : Int := t.fdiv 1000

/-- Year, month and day of a day counted from the start of 1970.  Years are counted from March, so that
a leap day is the last day of its year, in eras of 400 years. -/
def civil (day : Int) : Int × Nat × Nat :=
  let z := day + 719468
  let era := z.fdiv 146097
  let d := (z - era * 146097).toNat
  let y := (d - d / 1460 + d / 36524 - d / 146096) / 365
  let n := d - (365 * y + y / 4 - y / 100)
  let m := (5 * n + 2) / 153
  let month := if m < 10 then m + 3 else m - 9
  let year : Int := (y : Int) + era * 400
  (if month ≤ 2 then year + 1 else year, month, n - (153 * m + 2) / 5 + 1)

/-- Four digits, or a sign and at least four digits outside the years 0 to 9999. -/
def yearText (y : Int) : List Char :=
  if 0 ≤ y ∧ y ≤ 9999 then Decimal.padded 4 y.toNat
  else (if y < 0 then '-' else '+') :: Decimal.padded 4 y.natAbs

/-- Date and time in UTC, with milliseconds if there are any. -/
def text (t : Instant) : String :=
  let (year, month, day) := civil (t.fdiv 86400000)
  let ms := (t.fmod 86400000).toNat
  let two (n : Nat) : List Char := Decimal.padded 2 n
  let fraction := if ms % 1000 = 0 then [] else '.' :: Decimal.padded 3 (ms % 1000)
  String.ofList <|
    yearText year ++ '-' :: two month ++ '-' :: two day ++ 'T' :: two (ms / 3600000)
      ++ ':' :: two (ms / 60000 % 60) ++ ':' :: two (ms / 1000 % 60) ++ fraction ++ ['Z']

end Instant

/-- A span of time of whole nanoseconds. -/
structure Duration where
  nanoseconds : Nat
  deriving DecidableEq

namespace Duration

/-- Nanoseconds in the units above them. -/
def perMicrosecond : Nat := 1000

def perMillisecond : Nat := 1000000

def perSecond : Nat := 1000000000

def ofSeconds (n : Nat) : Duration := ⟨n * perSecond⟩

def ofMilliseconds (n : Nat) : Duration := ⟨n * perMillisecond⟩

def seconds (d : Duration) : Nat := d.nanoseconds / perSecond

def milliseconds (d : Duration) : Nat := d.nanoseconds / perMillisecond

/-- Milliseconds, where a part of one counts as one. -/
def roundedUp (d : Duration) : Nat := (d.nanoseconds + (perMillisecond - 1)) / perMillisecond

/-- Nanoseconds written in a unit of `10^places` of them, with a fraction if they are no whole number. -/
def inUnits (unit places n : Nat) : List Char :=
  let fraction := (Decimal.padded places (n % unit)).reverse.dropWhile (· == '0')
  Decimal.naturalDigits (n / unit) ++ if n % unit = 0 then [] else '.' :: fraction.reverse

/-- The largest of the units s, ms, µs and ns that the span reaches. -/
def text (d : Duration) : String :=
  let n := d.nanoseconds
  if perSecond ≤ n then String.ofList (inUnits perSecond 9 n) ++ "s"
  else if perMillisecond ≤ n then String.ofList (inUnits perMillisecond 6 n) ++ "ms"
  else if perMicrosecond ≤ n then String.ofList (inUnits perMicrosecond 3 n) ++ "µs"
  else toString n ++ "ns"

end Duration

namespace Instant

/-- Nanoseconds since the start of 1970. -/
def nanoseconds (t : Instant) : Int := t * Duration.perMillisecond

/-- The last year of the calendar is 262142. -/
def calendarEnd : Int := 8210266876800 * Duration.perSecond

example : text 8210266876799999 = "+262142-12-31T23:59:59.999Z" := by decide +kernel

/-- Whether the moment at which `d` has passed since `t` has a date. -/
def Reaches (t : Instant) (d : Duration) : Prop := t.nanoseconds + d.nanoseconds < calendarEnd

instance (t : Instant) (d : Duration) : Decidable (t.Reaches d) := inferInstanceAs (Decidable (_ < _))

/-- An instant is before the end of a span if and only if it is before the end of the span rounded up. -/
theorem lt_add_roundedUp (now t : Int) (d : Duration) :
    now < t + d.roundedUp ↔ nanoseconds now < nanoseconds t + d.nanoseconds := by
  simp only [nanoseconds, Duration.roundedUp, Duration.perMillisecond]
  omega

end Instant
end Storefront
