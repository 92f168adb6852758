import IngressMeter.Decimal.Text
import IngressMeter.Text.Blank
import IngressMeter.Time.Calendar

/-!
Points in time, in nanoseconds since the beginning of 1970, and their text. Reading is lenient:
numbers may be short and blanks may stand around them.
-/

namespace IngressMeter

structure Timestamp where
  nanos : Int
  /-- Whether it lies in the leap second behind the second that `nanos` tells. -/
  inLeap : Bool := false
  deriving DecidableEq, Repr

namespace Timestamp

def ofSeconds (seconds : Int) : Timestamp := { nanos := seconds * 1000000000 }

def ofMillis (millis : Int) : Timestamp := { nanos := millis * 1000000 }

def seconds (time : Timestamp) : Int := time.nanos / 1000000000

def padLeft (width : Nat) (n : Nat) : List Char :=
  let digits := Decimal.natDigits n
  Decimal.zeros (width - digits.length) ++ digits

def yearDigits (year : Int) : List Char :=
  if 0 ≤ year && year ≤ 9999 then padLeft 4 year.toNat
  else (if year < 0 then '-' else '+') :: padLeft 4 year.natAbs

def secondOfDayText (second : Nat) (inLeap : Bool) : List Char :=
  padLeft 2 (second / 3600) ++ ':' :: padLeft 2 (second % 3600 / 60) ++
    ':' :: padLeft 2 (if inLeap then second % 60 + 1 else second % 60)

def textWith (fraction : List Char) (time : Timestamp) : String :=
  let date := Calendar.ofDays (time.seconds / 86400)
  String.ofList (yearDigits date.year ++ '-' :: padLeft 2 date.month ++ '-' :: padLeft 2 date.day ++
    'T' :: secondOfDayText (time.seconds % 86400).toNat time.inLeap ++ fraction ++ ['Z'])

def toText (time : Timestamp) : String := textWith [] time

def toMicroText (time : Timestamp) : String :=
  textWith ('.' :: padLeft 6 (time.nanos % 1000000000 / 1000).toNat) time

/-! Reading. -/

def readNumber? (width : Nat) (text : List Char) : Option (Nat × List Char) :=
  let digits := (text.take width).takeWhile Decimal.isDigit
  if digits.isEmpty then none
  else some (Decimal.digitsValue digits 0, text.drop digits.length)

def readYear? (text : List Char) : Option (Int × List Char) :=
  match trimStart text with
  | '-' :: rest => (readNumber? rest.length rest).map fun (year, rest) => (-(year : Int), rest)
  | '+' :: rest => (readNumber? rest.length rest).map fun (year, rest) => ((year : Int), rest)
  | text => (readNumber? 4 text).map fun (year, rest) => ((year : Int), rest)

def readField? (text : List Char) : Option (Nat × List Char) := readNumber? 2 (trimStart text)

def separator? (mark : Char) (text : List Char) : Option (List Char) :=
  match trimStart text with
  | c :: rest => if c = mark then some rest else none
  | [] => none

/-- The nanoseconds of a fraction, which may be missing; digits behind the ninth do not count. -/
def readFraction? : List Char → Option (Nat × List Char)
  | '.' :: rest =>
    let (digits, rest) := rest.span Decimal.isDigit
    if digits.isEmpty then none
    else
      let counted := digits.take 9
      some (Decimal.digitsValue counted 0 * powerOfTen (9 - counted.length), rest)
  | text => some (0, text)

def isOffsetSpace (c : Char) : Bool := c = ':' || isBlank c

def readOffset? (text : List Char) : Option (Int × List Char) :=
  let lower := (text.take 3).map Char.toLower
  if lower = ['u', 't', 'c'] then some (0, text.drop 3)
  else
    let signed (negative : Bool) (rest : List Char) : Option (Int × List Char) := do
      let hours := rest.take 2
      let rest := (rest.drop 2).dropWhile isOffsetSpace
      let minutes := rest.take 2
      if hours.length ≠ 2 || minutes.length ≠ 2 then none
      else
        let hours ← Decimal.digits? hours
        let minutes ← Decimal.digits? minutes
        if 59 < minutes then none
        else
          let offset : Int := hours * 60 + minutes
          return (if negative then -offset else offset, rest.drop 2)
    match text with
    | 'z' :: rest | 'Z' :: rest => some (0, rest)
    | '+' :: rest => signed false rest
    | '-' :: rest | '−' :: rest => signed true rest
    | _ => none

def ofText? (text : String) : Option Timestamp := do
  let (year, rest) ← readYear? text.toList
  let (month, rest) ← readField? (← separator? '-' rest)
  let (day, rest) ← readField? (← separator? '-' rest)
  let rest ← match rest with
    | 'T' :: rest | 't' :: rest | ' ' :: rest => some rest
    | _ => none
  let (hour, rest) ← readField? rest
  let (minute, rest) ← readField? (← separator? ':' rest)
  let (second, rest) ← readField? (← separator? ':' rest)
  let (fraction, rest) ← readFraction? rest
  let (offset, rest) ← readOffset? (trimStart rest)
  let date : Calendar.Date := ⟨year, month, day⟩
  if !(trimStart rest).isEmpty || !Calendar.isValid date || 262000 < year.natAbs then none
  else if 23 < hour || 59 < minute || 60 < second || 24 * 60 ≤ offset.natAbs then none
  else
    let secondOfDay : Int := hour * 3600 + minute * 60 + min second 59
    let seconds := Calendar.toDays date * 86400 + secondOfDay - offset * 60
    return { nanos := seconds * 1000000000 + fraction, inLeap := second = 60 }

end Timestamp

end IngressMeter
