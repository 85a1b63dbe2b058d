import TopicRouting.Text

/-! Binary floating point numbers of 64 bits, taken as the exact numbers they stand for.
A decimal is read as the nearest of them, a half going to the even neighbour, and one is
written with the fewest digits that read back as it. -/
namespace TopicRouting

structure Binary64 where
  bits : UInt64
  deriving DecidableEq, Repr

namespace Binary64

/-- What a word of bits stands for; a finite number is `mantissa * 2 ^ exponent`. -/
inductive Parts where
  | nan
  | infinite (negative : Bool)
  | finite (negative : Bool) (mantissa : Nat) (exponent : Int)
  deriving DecidableEq, Repr

def parts (x : Binary64) : Parts :=
  let word := x.bits.toNat
  let negative := word / Nat.pow 2 63 == 1
  let biased := word / Nat.pow 2 52 % 2048
  let fraction := word % Nat.pow 2 52
  if biased = 2047 then
    if fraction = 0 then .infinite negative else .nan
  else if biased = 0 then .finite negative fraction (-1074)
  else .finite negative (fraction + Nat.pow 2 52) (Int.ofNat biased - 1075)

def signBit (negative : Bool) : Nat := if negative then Nat.pow 2 63 else 0

def ofWord (word : Nat) : Binary64 := ⟨UInt64.ofNat word⟩

def nan : Binary64 := ofWord (2047 * Nat.pow 2 52 + Nat.pow 2 51)

def infinity (negative : Bool) : Binary64 := ofWord (signBit negative + 2047 * Nat.pow 2 52)

def zero (negative : Bool) : Binary64 := ofWord (signBit negative)

def roundHalfEven (numerator denominator : Nat) : Nat :=
  let quotient := numerator / denominator
  let twice := 2 * (numerator % denominator)
  if twice < denominator then quotient
  else if denominator < twice then quotient + 1
  else quotient + quotient % 2

def scaled (numerator denominator : Nat) (shift : Int) : Nat × Nat :=
  (numerator * Nat.pow 2 shift.toNat, denominator * Nat.pow 2 (-shift).toNat)

def ofFraction (negative : Bool) (numerator denominator : Nat) : Binary64 :=
  if numerator = 0 then zero negative
  else
    let guess : Int := Int.ofNat (Nat.log2 numerator) - Int.ofNat (Nat.log2 denominator)
    let (n, d) := scaled numerator denominator (-guess)
    let magnitude := if n < d then guess - 1 else guess
    let exponent := max (magnitude - 52) (-1074)
    let (n, d) := scaled numerator denominator (-exponent)
    let mantissa := roundHalfEven n d
    -- A mantissa rounded up to the next power of two carries into the exponent field.
    let word := (exponent + 1074).toNat * Nat.pow 2 52 + mantissa
    if 2047 * Nat.pow 2 52 ≤ word then infinity negative
    else ofWord (signBit negative + word)

def ofDecimal (negative : Bool) (digits : Nat) (exponent : Int) : Binary64 :=
  let size : Int := exponent + Int.ofNat (Text.ofNat digits).length
  if digits = 0 then zero negative
  else if 400 < size then infinity negative
  else if size < -400 then zero negative
  else ofFraction negative (digits * Nat.pow 10 exponent.toNat) (Nat.pow 10 (-exponent).toNat)

def dropZeros : Nat → Nat → Nat × Nat
  | 0, digits => (digits, 0)
  | fuel + 1, digits =>
      if digits ≠ 0 ∧ digits % 10 = 0 then
        let (rest, count) := dropZeros fuel (digits / 10)
        (rest, count + 1)
      else (digits, 0)

/-- The digits of a positive number on the grid of step `10 ^ step`, if one of the two
neighbours on it lies between the bounds. All four numbers are counted in units of
`10 ^ step / denominator`. -/
def onGrid (numerator low high denominator : Nat) (closed : Bool) : Option Nat :=
  let below := numerator / denominator
  let inside (digits : Nat) : Bool :=
    let point := digits * denominator
    if closed then low ≤ point && point ≤ high else low < point && point < high
  let lower := inside below && below ≠ 0
  let upper := inside (below + 1)
  if lower && upper then some (roundHalfEven numerator denominator)
  else if lower then some below
  else if upper then some (below + 1)
  else none

def shortestFrom (numerator low high denominator : Nat) (closed : Bool) (point : Int) :
    Nat → Nat → Nat × Int
  | 0, _ => (0, 0)
  | fuel + 1, count =>
      let step := point - Int.ofNat count
      let up := Nat.pow 10 (-step).toNat
      let down := Nat.pow 10 step.toNat
      match onGrid (numerator * up) (low * up) (high * up) (denominator * down) closed with
      | some digits =>
          let (digits, zeros) := dropZeros 20 digits
          (digits, step + Int.ofNat zeros)
      | none => shortestFrom numerator low high denominator closed point fuel (count + 1)

/-- The fewest digits that read back as `mantissa * 2 ^ exponent`, the nearest of those,
as digits and a power of ten. -/
def shortest (mantissa : Nat) (exponent : Int) : Nat × Int :=
  let closed := mantissa % 2 = 0
  let narrow := mantissa = Nat.pow 2 52 ∧ exponent ≠ -1074
  let up := Nat.pow 2 exponent.toNat
  let denominator := 4 * Nat.pow 2 (-exponent).toNat
  let numerator := 4 * mantissa * up
  let low := (4 * mantissa - if narrow then 1 else 2) * up
  let high := (4 * mantissa + 2) * up
  let magnitude : Int := Int.ofNat (Nat.log2 mantissa) + exponent
  let guess := Int.fdiv (magnitude * 30103) 100000
  -- The number of digits before the point is `guess + 1`, or one more.
  let reaches (p : Int) : Bool :=
    denominator * Nat.pow 10 p.toNat ≤ numerator * Nat.pow 10 (-p).toNat
  let point := if reaches (guess + 1) then guess + 2 else if reaches guess then guess + 1 else guess
  shortestFrom numerator low high denominator closed point 18 1

def layout (digits : Nat) (exponent : Int) : Text :=
  let text := Text.ofNat digits
  let point : Int := exponent + Int.ofNat text.length
  if -4 < point ∧ point ≤ 16 then
    if point ≤ 0 then "0." ++ List.replicate (-point).toNat '0' ++ text
    else
      let whole := point.toNat
      if text.length ≤ whole then text ++ List.replicate (whole - text.length) '0' ++ ".0"
      else text.take whole ++ '.' :: text.drop whole
  else
    let shown := point - 1
    let mantissa := match text with
      | first :: second :: rest => first :: '.' :: second :: rest
      | short => short
    let power := Text.ofNat shown.natAbs
    mantissa ++ 'e' :: (if shown < 0 then '-' else '+') ::
      (List.replicate (2 - power.length) '0' ++ power)

def text (x : Binary64) : Text :=
  match x.parts with
  | .nan => "nan"
  | .infinite negative => if negative then "-inf" else "inf"
  | .finite negative mantissa exponent =>
      let sign : Text := if negative then "-" else ""
      if mantissa = 0 then sign ++ "0.0"
      else
        let (digits, power) := shortest mantissa exponent
        sign ++ layout digits power

def ofScaled (negative : Bool) (value exponent : Int) : Binary64 :=
  if value = 0 then zero negative
  else
    ofFraction (decide (value < 0)) (value.natAbs * Nat.pow 2 exponent.toNat)
      (Nat.pow 2 (-exponent).toNat)

def ofInt (value : Int) : Binary64 := ofScaled false value 0

def isInfinite (x : Binary64) : Bool := x.parts == .infinite false || x.parts == .infinite true

def signed (negative : Bool) (size : Nat) : Int :=
  if negative then -Int.ofNat size else Int.ofNat size

def add (x y : Binary64) : Binary64 :=
  match x.parts, y.parts with
  | .finite xs xm xe, .finite ys ym ye =>
      let least := min xe ye
      let part (negative : Bool) (m : Nat) (e : Int) : Int :=
        signed negative (m * Nat.pow 2 (e - least).toNat)
      ofScaled (xs && ys) (part xs xm xe + part ys ym ye) least
  | .infinite a, .infinite b => if a = b then infinity a else nan
  | .infinite a, .finite .. => infinity a
  | .finite .., .infinite b => infinity b
  | _, _ => nan

def mul (x y : Binary64) : Binary64 :=
  match x.parts, y.parts with
  | .finite xs xm xe, .finite ys ym ye =>
      ofScaled (xs != ys) (signed xs xm * signed ys ym) (xe + ye)
  | .infinite a, .infinite b => infinity (a != b)
  | .infinite a, .finite b m _ | .finite b m _, .infinite a =>
      if m = 0 then nan else infinity (a != b)
  | _, _ => nan

def neg (x : Binary64) : Binary64 := ⟨x.bits ^^^ 0x8000000000000000⟩

structure Decimal where
  negative : Bool
  whole : Text
  fraction : Text
  exponent : Int
  deriving DecidableEq, Repr

def ofWritten (d : Decimal) : Binary64 :=
  ofDecimal d.negative (Text.toNat (d.whole ++ d.fraction))
    (d.exponent - Int.ofNat d.fraction.length)

def toInt? (x : Binary64) : Option Int :=
  match x.parts with
  | .finite negative mantissa exponent =>
      let divisor := Nat.pow 2 (-exponent).toNat
      if mantissa % divisor = 0 then
        some (signed negative (mantissa / divisor * Nat.pow 2 exponent.toNat))
      else none
  | _ => none

def truncate? (x : Binary64) : Option Int :=
  match x.parts with
  | .finite negative mantissa exponent =>
      some (signed negative (mantissa * Nat.pow 2 exponent.toNat / Nat.pow 2 (-exponent).toNat))
  | _ => none

def isBelow (x : Binary64) (bound : Nat) : Bool :=
  match x.parts with
  | .nan => false
  | .infinite negative => negative
  | .finite negative mantissa exponent =>
      if negative && mantissa ≠ 0 then true
      else mantissa * Nat.pow 2 exponent.toNat < bound * Nat.pow 2 (-exponent).toNat

def isZero (x : Binary64) : Bool := x.toInt? == some 0

def isAtMostZero (x : Binary64) : Bool := x.isZero || x.isBelow 0

end Binary64
end TopicRouting
