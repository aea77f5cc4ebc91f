import DumpDigest.Text.Digit

/-! # Dates and times

A date, a time, or both, and with both an offset from universal time, as texts such as
`1987-07-05T17:45:00.5+02:00` give them. Dates are those of the Gregorian calendar; a minute has
room for a leap second. Fractions of a second are kept to nine places, all further ones are cut off.
-/

namespace DumpDigest.Calendar

structure Date where
  year : Nat
  month : Nat
  day : Nat
  deriving DecidableEq

structure Time where
  hour : Nat
  minute : Nat
  second : Nat
  nanosecond : Nat
  deriving DecidableEq

/-- How far a clock is ahead of universal time. -/
inductive Offset where
  | universal
  | minutes (ahead : Int)
  deriving DecidableEq

inductive DateTime where
  | date (d : Date)
  | time (t : Time)
  | both (d : Date) (t : Time) (offset : Option Offset)
  deriving DecidableEq

/-- Whether a year has a 29th of February. -/
def isLeapYear (year : Nat) : Bool :=
  year % 4 == 0 && (year % 100 != 0 || year % 400 == 0)

/-- The number of days of a month. -/
def daysIn (year month : Nat) : Nat :=
  match month with
  | 2 => if isLeapYear year then 29 else 28
  | 4 | 6 | 9 | 11 => 30
  | _ => 31

/-! ### Reading -/

/-- The natural that decimal digits denote. -/
def natural? (digits : List Char) : Option Nat :=
  if digits.all Char.isDigit then some (Text.digitsValue 10 digits) else none

/-- The date of a text such as `1987-07-05`. -/
def Date.read? : List Char → Option Date
  | [a, b, c, d, '-', e, f, '-', g, h] => do
    let year ← natural? [a, b, c, d]
    let month ← natural? [e, f]
    let day ← natural? [g, h]
    if 1 ≤ month && month ≤ 12 && 1 ≤ day && day ≤ daysIn year month then
      some ⟨year, month, day⟩
    else none
  | _ => none

/-- The nanoseconds of what follows the seconds: nothing, or a point and digits. -/
def nanoseconds? : List Char → Option Nat
  | [] => some 0
  | '.' :: c :: digits => natural? (c :: digits) >>= fun _ =>
    natural? ((c :: digits ++ List.replicate 8 '0').take 9)
  | _ => none

/-- The time of a text such as `17:45:00.5`. -/
def Time.read? : List Char → Option Time
  | a :: b :: ':' :: c :: d :: ':' :: e :: f :: fraction => do
    let hour ← natural? [a, b]
    let minute ← natural? [c, d]
    let second ← natural? [e, f]
    let nanosecond ← nanoseconds? fraction
    if hour ≤ 23 && minute ≤ 59 && second ≤ 60 then some ⟨hour, minute, second, nanosecond⟩
    else none
  | _ => none

/-- The offset of a text: nothing, a mark of universal time, or hours and minutes. -/
def Offset.read? : List Char → Option (Option Offset)
  | [] => some none
  | ['Z'] | ['z'] => some (some .universal)
  | [sign, a, b, ':', c, d] => do
    let hour ← natural? [a, b]
    let minute ← natural? [c, d]
    let ahead : Int := 60 * hour + minute
    if hour ≤ 23 && minute ≤ 59 then
      match sign with
      | '+' => some (some (.minutes ahead))
      | '-' => some (some (.minutes (-ahead)))
      | _ => none
    else none
  | _ => none

/-- Whether a character may stand between a date and a time. -/
def partsDateTime (c : Char) : Bool :=
  c = 'T' || c = 't' || c = ' '

/-- The date, the time or both of a text. -/
def DateTime.read? (text : List Char) : Option DateTime :=
  match text.drop 10 with
  | [] => (.date <$> Date.read? text) <|> (.time <$> Time.read? text)
  | c :: rest =>
    if partsDateTime c then do
      let isTime (c : Char) : Bool := c.isDigit || c = ':' || c = '.'
      let date ← Date.read? (text.take 10)
      let time ← Time.read? (rest.takeWhile isTime)
      let offset ← Offset.read? (rest.dropWhile isTime)
      return .both date time offset
    else .time <$> Time.read? text

/-! ### Writing -/

/-- A natural with zeros in front up to a width. -/
def zeroPadded (width n : Nat) : List Char :=
  let digits := Nat.toDigits 10 n
  List.replicate (width - digits.length) '0' ++ digits

def Date.text (date : Date) : List Char :=
  zeroPadded 4 date.year ++ '-' :: zeroPadded 2 date.month ++ '-' :: zeroPadded 2 date.day

/-- The text of a fraction of a second without zeros at its end. -/
def fractionText (nanosecond : Nat) : List Char :=
  if nanosecond = 0 then []
  else '.' :: ((zeroPadded 9 nanosecond).reverse.dropWhile (· = '0')).reverse

def Time.text (time : Time) : List Char :=
  zeroPadded 2 time.hour ++ ':' :: zeroPadded 2 time.minute ++ ':' :: zeroPadded 2 time.second ++
    fractionText time.nanosecond

def Offset.text : Offset → List Char
  | universal => ['Z']
  | minutes ahead =>
    (if ahead < 0 then '-' else '+') :: zeroPadded 2 (ahead.natAbs / 60) ++
      ':' :: zeroPadded 2 (ahead.natAbs % 60)

/-- The text of a date, a time or both, a `T` between them. -/
def DateTime.text : DateTime → String
  | .date d => String.ofList d.text
  | .time t => String.ofList t.text
  | .both d t offset =>
    String.ofList (d.text ++ 'T' :: t.text ++ (offset.map Offset.text).getD [])

end DumpDigest.Calendar
