import TopicRouting.Number.Binary64

/-! Numbers as people write them: with blanks around, a sign, single underscores between the
digits of a whole number, and the digits of any script. -/
namespace TopicRouting.Number

def zeros : List Nat := [
  0x30, 0x660, 0x6F0, 0x7C0, 0x966, 0x9E6, 0xA66, 0xAE6, 0xB66, 0xBE6, 0xC66, 0xCE6,
  0xD66, 0xDE6, 0xE50, 0xED0, 0xF20, 0x1040, 0x1090, 0x17E0, 0x1810, 0x1946, 0x19D0, 0x1A80,
  0x1A90, 0x1B50, 0x1BB0, 0x1C40, 0x1C50, 0xA620, 0xA8D0, 0xA900, 0xA9D0, 0xA9F0, 0xAA50, 0xABF0,
  0xFF10, 0x104A0, 0x10D30, 0x11066, 0x110F0, 0x11136, 0x111D0, 0x112F0, 0x11450, 0x114D0, 0x11650, 0x116C0,
  0x11730, 0x118E0, 0x11950, 0x11C50, 0x11D50, 0x11DA0, 0x16A60, 0x16AC0, 0x16B50, 0x1D7CE, 0x1D7D8, 0x1D7E2,
  0x1D7EC, 0x1D7F6, 0x1E140, 0x1E2F0, 0x1E950, 0x1FBF0]

def digit? (c : Char) : Option Nat :=
  (zeros.find? fun base => base ≤ c.toNat && c.toNat < base + 10).map (c.toNat - ·)

def isBlank (c : Char) : Bool :=
  let n := c.toNat
  (9 ≤ n && n ≤ 13) || n = 0x20 || n = 0x85 || n = 0xA0 || n = 0x1680 ||
    (0x2000 ≤ n && n ≤ 0x200A) || n = 0x2028 || n = 0x2029 || n = 0x202F || n = 0x205F ||
    n = 0x3000

def trim (text : Text) : Text :=
  ((text.dropWhile isBlank).reverse.dropWhile isBlank).reverse

def digitOf? (base : Nat) (c : Char) : Option Nat :=
  let value := match digit? c with
    | some d => some d
    | none =>
        if 'a' ≤ c ∧ c ≤ 'z' then some (c.toNat - 'a'.toNat + 10)
        else if 'A' ≤ c ∧ c ≤ 'Z' then some (c.toNat - 'A'.toNat + 10)
        else none
  value.filter (· < base)

def digits (base : Nat) : Text → Option (List Nat)
  | [] => none
  | [c] => (digitOf? base c).map ([·])
  | c :: '_' :: rest => do
      let first ← digitOf? base c
      let others ← digits base rest
      some (first :: others)
  | c :: next :: rest => do
      let first ← digitOf? base c
      let others ← digits base (next :: rest)
      some (first :: others)

def digitLimit : Nat := 4300

def ofDigits (base : Nat) (ds : List Nat) : Nat := ds.foldl (fun n d => base * n + d) 0

inductive Fault where
  | malformed
  | tooManyDigits (count : Nat)
  deriving DecidableEq, Repr

def splitSign : Text → Bool × Text
  | '+' :: rest => (false, rest)
  | '-' :: rest => (true, rest)
  | rest => (false, rest)

def baseMark? (base : Nat) (c : Char) : Bool :=
  (base = 2 && (c = 'b' || c = 'B')) || (base = 8 && (c = 'o' || c = 'O')) ||
    (base = 16 && (c = 'x' || c = 'X'))

def dropBaseMark (base : Nat) : Text → Text
  | '0' :: c :: rest =>
      if baseMark? base c then
        match rest with
        | '_' :: rest => rest
        | rest => rest
      else '0' :: c :: rest
  | text => text

/-- Reads a whole number to a base. Only the digits of a decimal number are limited, and they
are counted before it is seen what follows them. -/
def readBase (base : Nat) (text : Text) : Except Fault Int :=
  let (negative, rest) := splitSign (text.dropWhile isBlank)
  let rest := dropBaseMark base rest
  let isDigit (c : Char) : Bool := c = '_' || (digitOf? base c).isSome
  match digits base (rest.takeWhile isDigit) with
  | none => .error .malformed
  | some ds =>
      if base = 10 ∧ digitLimit < ds.length then .error (.tooManyDigits ds.length)
      else if (rest.dropWhile isDigit).all isBlank then
        .ok (Binary64.signed negative (ofDigits base ds))
      else .error .malformed

def read (text : Text) : Option Int := (readBase 10 text).toOption

def decimalRun (text : Text) : Text × Text :=
  let isDigit (c : Char) : Bool := (digit? c).isSome
  ((text.takeWhile isDigit).flatMap fun c => Text.ofNat ((digit? c).getD 0),
    text.dropWhile isDigit)

def readPower : Text → Option Int
  | [] => some 0
  | mark :: rest =>
      if mark = 'e' ∨ mark = 'E' then
        let (negative, rest) := splitSign rest
        match decimalRun rest with
        | (c :: ds, []) => some (Binary64.signed negative (Text.toNat (c :: ds)))
        | _ => none
      else none

def readReal (text : Text) : Option Binary64 :=
  let (negative, rest) := splitSign (trim text)
  let word := Text.lowerAscii rest
  if word == "inf".toList || word == "infinity".toList then some (.infinity negative)
  else if word == "nan".toList then some .nan
  else
    let (whole, rest) := decimalRun rest
    let (fraction, rest) := match rest with
      | '.' :: rest => decimalRun rest
      | rest => ([], rest)
    if whole.isEmpty && fraction.isEmpty then none
    else (readPower rest).map fun power => Binary64.ofWritten ⟨negative, whole, fraction, power⟩

end TopicRouting.Number
