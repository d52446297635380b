import Graft.Toml.Value

/-!
# Numbers and moments

What a bare word of a TOML document stands for: an integer in one of four bases, a floating-point
number, a date, a time, or a truth value. Digits may be set apart by single underscores between
them; integers have to fit in 64 bits, and numbers too great for a float are refused.
-/

namespace Graft.Toml.Scalar

/-- The value of a hexadecimal digit. -/
def digitValue (c : Char) : Nat :=
  if c.isDigit then c.toNat - '0'.toNat
  else if 'a' ≤ c ∧ c ≤ 'f' then c.toNat - 'a'.toNat + 10
  else c.toNat - 'A'.toNat + 10

/-- Whether a character is a digit of the base. -/
def isDigitOf (base : Nat) (c : Char) : Bool :=
  (c.isDigit || ('a' ≤ c && c ≤ 'f') || ('A' ≤ c && c ≤ 'F')) && digitValue c < base

/-- The digits of a word, when it holds digits and single underscores between digits only. -/
def digits? (base : Nat) (word : Text) : Option Text :=
  let groups := Text.split '_' word
  if groups.all fun group => !group.isEmpty && group.all (isDigitOf base) then some groups.flatten
  else none

/-- The number that digits stand for. -/
def ofDigits (base : Nat) (digits : Text) : Nat :=
  digits.foldl (fun n c => base * n + digitValue c) 0

/-- A sign and what follows it; the sign says whether the number is negative. -/
def signed : Text → Bool × Text
  | '+' :: word => (false, word)
  | '-' :: word => (true, word)
  | word => (false, word)

/-- The digits of a whole number, which has no needless zero in front. -/
def whole? (word : Text) : Option Text := do
  let digits ← digits? 10 word
  if digits.head? = some '0' && 1 < digits.length then failure
  return digits

/-- An integer of 64 bits. -/
def int64? (n : Int) : Option Value :=
  if Int64.minValue.toInt ≤ n ∧ n ≤ Int64.maxValue.toInt then some (.integer (Int64.ofInt n))
  else none

/-- An integer with its base in front, or in base ten with an optional sign. -/
def integer? (word : Text) : Option Value := do
  match word with
  | '0' :: 'x' :: rest => int64? (ofDigits 16 (← digits? 16 rest))
  | '0' :: 'o' :: rest => int64? (ofDigits 8 (← digits? 8 rest))
  | '0' :: 'b' :: rest => int64? (ofDigits 2 (← digits? 2 rest))
  | _ =>
    let (negative, rest) := signed word
    let n := ofDigits 10 (← whole? rest)
    int64? (if negative then -(n : Int) else n)

/-- The number `mantissa * 10 ^ exponent`, or none when it is too great. Exponents far outside the
range of floats need no exact power of ten. -/
def scientific? (mantissa : Nat) (exponent : Int) : Option Float :=
  let size : Int := (Nat.toDigits 10 mantissa).length + exponent
  if mantissa = 0 || size < -400 then some 0.0
  else if 400 < size then none
  else
    let x := if exponent < 0 then Float.ofScientific mantissa true exponent.natAbs
      else Float.ofScientific mantissa false exponent.natAbs
    if x.isInf then none else some x

/-- The exponent after the mark of a floating-point number. -/
def exponent? (word : Text) : Option Int := do
  let (negative, rest) := signed word
  let n := ofDigits 10 (← digits? 10 rest)
  return if negative then -(n : Int) else n

/-- A floating-point number: a whole part, then a fraction or an exponent or both. -/
def float? (word : Text) : Option Value := do
  let (negative, rest) := signed word
  let negate (x : Float) : Value := .float (if negative then -x else x)
  if rest = ['i', 'n', 'f'] then return negate (1.0 / 0.0)
  if rest = ['n', 'a', 'n'] then return negate (0.0 / 0.0)
  let mantissa := rest.takeWhile fun c => c ≠ 'e' && c ≠ 'E'
  let exponent ← match rest.drop mantissa.length with
    | [] => some 0
    | _ :: power => exponent? power
  match Text.cut? '.' mantissa with
  | none =>
    if mantissa.length = rest.length then failure
    return negate (← scientific? (ofDigits 10 (← whole? mantissa)) exponent)
  | some (front, back) =>
    let front ← whole? front
    let back ← digits? 10 back
    return negate (← scientific? (ofDigits 10 (front ++ back)) (exponent - back.length))

/-- The number that exactly so many digits stand for, and the rest. -/
def fixed? (count : Nat) (word : Text) : Option (Nat × Text) :=
  let digits := word.take count
  if digits.length = count && digits.all Char.isDigit then
    some (ofDigits 10 digits, word.drop count)
  else none

/-- The days of a month. -/
def daysIn (year month : Nat) : Nat :=
  if month = 2 then
    if (year % 4 = 0 && year % 100 ≠ 0) || year % 400 = 0 then 29 else 28
  else if month = 4 || month = 6 || month = 9 || month = 11 then 30
  else 31

/-- What follows a date of the calendar. -/
def date? (word : Text) : Option Text := do
  let (year, rest) ← fixed? 4 word
  let '-' :: rest := rest | failure
  let (month, rest) ← fixed? 2 rest
  let '-' :: rest := rest | failure
  let (day, rest) ← fixed? 2 rest
  if month = 0 || 12 < month || day = 0 || daysIn year month < day then failure
  return rest

/-- What follows a time of the day. Seconds may be left out; with them there may be a fraction. -/
def time? (word : Text) : Option Text := do
  let (hour, rest) ← fixed? 2 word
  let ':' :: rest := rest | failure
  let (minute, rest) ← fixed? 2 rest
  if 23 < hour || 59 < minute then failure
  match rest with
  | ':' :: rest =>
    let (second, rest) ← fixed? 2 rest
    if 60 < second then failure
    match rest with
    | '.' :: rest =>
      let places := rest.takeWhile Char.isDigit
      if places.isEmpty then failure
      return rest.drop places.length
    | rest => return rest
  | rest => return rest

/-- Whether a word is the distance of a zone from universal time. -/
def isZone : Text → Bool
  | ['Z'] | ['z'] => true
  | sign :: rest =>
    (sign = '+' || sign = '-') &&
      match fixed? 2 rest with
      | some (hours, ':' :: rest) =>
        match fixed? 2 rest with
        | some (minutes, []) => hours ≤ 23 && minutes ≤ 59
        | _ => false
      | _ => false
  | [] => false

/-- Whether a word starts as a date does. -/
def startsAsDate (word : Text) : Bool :=
  (word.take 5).drop 4 = ['-'] && (word.take 4).all Char.isDigit

/-- A date, a time, or both with an optional zone. -/
def moment? (word : Text) : Option Value := do
  if startsAsDate word then
    match ← date? word with
    | [] => return .moment word
    | mark :: rest =>
      if mark ≠ 'T' && mark ≠ 't' && mark ≠ ' ' then failure
      let zone ← time? rest
      if zone.isEmpty || isZone zone then return .moment word else failure
  else
    let rest ← time? word
    if rest.isEmpty then return .moment word else failure

/-- What a bare word stands for. -/
def ofWord? (word : Text) : Option Value :=
  if word = ['t', 'r', 'u', 'e'] then some (.boolean true)
  else if word = ['f', 'a', 'l', 's', 'e'] then some (.boolean false)
  else integer? word <|> float? word <|> moment? word

end Graft.Toml.Scalar
