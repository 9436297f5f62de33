import MarkView.Toml.Value
/-!
# Bare values of TOML

The values that stand without quotes or brackets: truth values, numbers, dates and
times. A text that is none of them is no value.
-/

namespace MarkView.Toml

/-! ## Numbers -/

/-- The digits of a numeral. One underscore may stand between two digits. -/
def numeral? (isDigit : Char → Bool) : List Char → Option (List Char)
  | [] => none
  | [c] => if isDigit c then some [c] else none
  | c :: '_' :: rest => if isDigit c then (numeral? isDigit rest).map (c :: ·) else none
  | c :: rest => if isDigit c then (numeral? isDigit rest).map (c :: ·) else none

/-- The value of a digit, in any base up to sixteen. -/
def digitValue (c : Char) : Nat :=
  if '0' ≤ c ∧ c ≤ '9' then c.toNat - '0'.toNat
  else if 'a' ≤ c ∧ c ≤ 'f' then c.toNat - 'a'.toNat + 10
  else if 'A' ≤ c ∧ c ≤ 'F' then c.toNat - 'A'.toNat + 10
  else 16

/-- A digit of a base. -/
def isDigitOf (base : Nat) (c : Char) : Bool := decide (digitValue c < base)

/-- The number that digits in a base write. -/
def ofDigits (base : Nat) (digits : List Char) : Nat :=
  digits.foldl (fun n c => base * n + digitValue c) 0

/-- The digits of a decimal numeral, which has no zero before its first digit. -/
def decimal? (cs : List Char) : Option (List Char) := do
  let digits ← numeral? (isDigitOf 10) cs
  match digits with
  | '0' :: _ :: _ => none
  | _ => some digits

/-- A sign, if there is one, and what follows it. -/
def splitSign : List Char → Bool × List Char
  | '+' :: rest => (false, rest)
  | '-' :: rest => (true, rest)
  | cs => (false, cs)

/-- A whole number. Only a decimal one may have a sign. -/
def integer? : List Char → Option Int
  | '0' :: 'x' :: rest => (numeral? (isDigitOf 16) rest).map fun ds => ofDigits 16 ds
  | '0' :: 'o' :: rest => (numeral? (isDigitOf 8) rest).map fun ds => ofDigits 8 ds
  | '0' :: 'b' :: rest => (numeral? (isDigitOf 2) rest).map fun ds => ofDigits 2 ds
  | cs => do
    let (negative, unsigned) := splitSign cs
    let digits ← decimal? unsigned
    return if negative then -ofDigits 10 digits else ofDigits 10 digits

/-- Whether digits times a power of ten round to no double: they reach half a step
beyond the largest one. -/
def exceedsDouble (digits : List Char) (exponent : Int) : Bool :=
  let significant := digits.dropWhile (· == '0')
  let places := significant.length + exponent
  if significant.isEmpty || places < 309 then false
  else if 309 < places then true
  else
    let bound := Nat.pow 2 1024 - Nat.pow 2 970
    let n := ofDigits 10 significant
    decide (bound * Nat.pow 10 (-exponent).toNat ≤ n * Nat.pow 10 exponent.toNat)

/-- The exponent after its mark. Zeros may stand before its first digit. -/
def exponent? (cs : List Char) : Option Int := do
  let (negative, unsigned) := splitSign cs
  let digits ← numeral? (isDigitOf 10) unsigned
  return if negative then -ofDigits 10 digits else ofDigits 10 digits

/-- Whether a number with a fraction, an exponent or both is too large for a double. -/
def float? (cs : List Char) : Option Bool := do
  let (_, unsigned) := splitSign cs
  if unsigned = "inf".toList ∨ unsigned = "nan".toList then return false
  let isMark := fun c => c == 'e' || c == 'E'
  let base := unsigned.takeWhile fun c => !isMark c
  let whole ← decimal? (base.takeWhile (· != '.'))
  let exponent ←
    match unsigned.dropWhile fun c => !isMark c with
    | [] => some none
    | _ :: rest => (exponent? rest).map some
  let fraction ←
    match base.dropWhile (· != '.') with
    | [] => some none
    | _ :: rest => (numeral? (isDigitOf 10) rest).map some
  if exponent.isNone ∧ fraction.isNone then none
  let decimals := fraction.getD []
  return exceedsDouble (whole ++ decimals) (exponent.getD 0 - decimals.length)

/-! ## Dates and times -/

/-- The number that two decimal digits write. -/
def pair? (a b : Char) : Option Nat :=
  if a.isDigit && b.isDigit then some (ofDigits 10 [a, b]) else none

/-- The number of days of a month. -/
def daysIn (year month : Nat) : Nat :=
  if month = 2 then
    if year % 4 = 0 ∧ (year % 100 ≠ 0 ∨ year % 400 = 0) then 29 else 28
  else if month ∈ [4, 6, 9, 11] then 30
  else 31

/-- A date: year, month and day. -/
def isDate : List Char → Bool
  | [y₁, y₂, y₃, y₄, '-', m₁, m₂, '-', d₁, d₂] =>
    match pair? y₁ y₂, pair? y₃ y₄, pair? m₁ m₂, pair? d₁ d₂ with
    | some century, some year, some month, some day =>
      decide (1 ≤ month ∧ month ≤ 12 ∧ 1 ≤ day ∧ day ≤ daysIn (100 * century + year) month)
    | _, _, _, _ => false
  | _ => false

/-- The part of a time after the minute: nothing, or seconds, which may have a
fraction. -/
def isSeconds : List Char → Bool
  | [] => true
  | ':' :: s₁ :: s₂ :: rest =>
    (pair? s₁ s₂).any (· ≤ 60) &&
      match rest with
      | [] => true
      | '.' :: digits => !digits.isEmpty && digits.all Char.isDigit
      | _ => false
  | _ => false

/-- A time of day. -/
def isTime : List Char → Bool
  | h₁ :: h₂ :: ':' :: m₁ :: m₂ :: rest =>
    (pair? h₁ h₂).any (· ≤ 23) && (pair? m₁ m₂).any (· ≤ 59) && isSeconds rest
  | _ => false

/-- A time of day with the distance of its zone. -/
def isZonedTime (cs : List Char) : Bool :=
  match cs.reverse with
  | 'Z' :: time => isTime time.reverse
  | 'z' :: time => isTime time.reverse
  | m₂ :: m₁ :: ':' :: h₂ :: h₁ :: sign :: time =>
    (sign == '+' || sign == '-') && (pair? h₁ h₂).any (· ≤ 23) && (pair? m₁ m₂).any (· ≤ 59) &&
      isTime time.reverse
  | _ => false

/-- A date, a time, or both with a letter or a space between them. -/
def isDateTime (cs : List Char) : Bool :=
  isDate cs || isTime cs ||
    (isDate (cs.take 10) &&
      match cs.drop 10 with
      | mark :: time => (mark == 'T' || mark == 't' || mark == ' ') && (isTime time || isZonedTime time)
      | [] => false)

/-! ## All of them -/

/-- The value that a bare text is. -/
def scalar? (text : String) : Option Value :=
  let cs := text.toList
  if text = "true" then some (.boolean true)
  else if text = "false" then some (.boolean false)
  else if isDateTime cs then some .date
  else
    match integer? cs with
    | some n => some (.integer n)
    | none => (float? cs).map .float

end MarkView.Toml
