import TopicRouting.Draft

/-! Reads JSON text. Blanks are the space, the tab and the two line ends; the words for the
undefined and the infinite numbers are read; a repeated name keeps its place and takes its
last value. Brackets may stand inside each other to a limit. -/
namespace TopicRouting.Json

inductive ReadError where
  | malformed
  | tooManyDigits (count : Nat)
  | tooDeep
  deriving DecidableEq, Repr

def isBlank (c : Char) : Bool := c = ' ' || c = '\t' || c = '\n' || c = '\r'

def skip (text : Text) : Text := text.dropWhile isBlank

def hexDigit? (c : Char) : Option Nat :=
  if '0' ≤ c ∧ c ≤ '9' then some (c.toNat - '0'.toNat)
  else if 'a' ≤ c ∧ c ≤ 'f' then some (c.toNat - 'a'.toNat + 10)
  else if 'A' ≤ c ∧ c ≤ 'F' then some (c.toNat - 'A'.toNat + 10)
  else none

def unit? (a b c d : Char) : Option Nat := do
  some (4096 * (← hexDigit? a) + 256 * (← hexDigit? b) + 16 * (← hexDigit? c)
    + (← hexDigit? d))

def isHigh (n : Nat) : Bool := 0xD800 ≤ n && n < 0xDC00

def isLow (n : Nat) : Bool := 0xDC00 ≤ n && n < 0xE000

def escaped? : Char → Option Char
  | '"' => some '"'
  | '\\' => some '\\'
  | '/' => some '/'
  | 'b' => some '\x08'
  | 'f' => some '\x0c'
  | 'n' => some '\n'
  | 'r' => some '\r'
  | 't' => some '\t'
  | _ => none

/-- The rest of a string after its opening mark, and what follows the closing one. A text is made of
characters, and half of a pair of units alone is none: a string that escapes one is refused here,
though other readers take it. -/
def readString : Text → Option (Text × Text)
  | [] => none
  | '"' :: rest => some ([], rest)
  | '\\' :: 'u' :: a :: b :: c :: d :: rest => do
      let n ← unit? a b c d
      if isHigh n then
        match rest with
        | '\\' :: 'u' :: e :: f :: g :: h :: rest =>
            let low ← unit? e f g h
            if isLow low then
              let (text, after) ← readString rest
              some (Char.ofNat (0x10000 + (n - 0xD800) * 0x400 + (low - 0xDC00)) :: text, after)
            else none
        | _ => none
      else if isLow n then none
      else
        let (text, after) ← readString rest
        some (Char.ofNat n :: text, after)
  | '\\' :: c :: rest => do
      let shown ← escaped? c
      let (text, after) ← readString rest
      some (shown :: text, after)
  | c :: rest =>
      if c < ' ' ∨ c = '\\' then none
      else do
        let (text, after) ← readString rest
        some (c :: text, after)
termination_by structural text => text

def digitRun (text : Text) : Text × Text :=
  (text.takeWhile Char.isDigit, text.dropWhile Char.isDigit)

def readWhole : Text → Option (Text × Text)
  | '0' :: rest => some (['0'], rest)
  | text =>
      let (digits, rest) := digitRun text
      if digits.isEmpty then none else some (digits, rest)

def readFraction : Text → Option Text × Text
  | '.' :: text =>
      let (digits, rest) := digitRun text
      if digits.isEmpty then (none, '.' :: text) else (some digits, rest)
  | text => (none, text)

def readExponent (text : Text) : Option Int × Text :=
  match text with
  | mark :: rest =>
      if mark = 'e' ∨ mark = 'E' then
        let (negative, rest) := match rest with
          | '+' :: rest => (false, rest)
          | '-' :: rest => (true, rest)
          | rest => (false, rest)
        let (digits, rest) := digitRun rest
        if digits.isEmpty then (none, text)
        else
          let size := Int.ofNat (Text.toNat digits)
          (some (if negative then -size else size), rest)
      else (none, text)
  | [] => (none, [])

def readNumber (negative : Bool) (text : Text) : Except ReadError (Value × Text) :=
  match readWhole text with
  | none => .error .malformed
  | some (whole, rest) =>
      let (fraction, rest) := readFraction rest
      let (exponent, rest) := readExponent rest
      if fraction.isNone && exponent.isNone then
        if Number.digitLimit < whole.length then .error (.tooManyDigits whole.length)
        else
          let size := Int.ofNat (Text.toNat whole)
          .ok (.int (if negative then -size else size), rest)
      else
        let decimal := ⟨negative, whole, fraction.getD [], exponent.getD 0⟩
        .ok (.float (Binary64.ofWritten decimal), rest)

def after? (word : Text) (text : Text) : Option Text :=
  if word.isPrefixOf text then some (text.drop word.length) else none

def words : List (Text × Value) :=
  [("null", .null), ("true", .bool true), ("false", .bool false), ("NaN", .float .nan),
    ("Infinity", .float (.infinity false)), ("-Infinity", .float (.infinity true))]

def readWord (text : Text) : Option (Value × Text) :=
  words.findSome? fun (word, value) => (after? word text).map (value, ·)

mutual

/-- A value at the start of a text, and what follows it, with the number of brackets that may
still be opened inside each other. The fuel bounds the number of items read; the length of the
text is always enough. -/
def readValue : Nat → Nat → Text → Except ReadError (Value × Text)
  | 0, _, _ => .error .malformed
  | fuel + 1, depth, text =>
      match text with
      | '"' :: rest =>
          match readString rest with
          | some (t, rest) => .ok (.text t, rest)
          | none => .error .malformed
      | '[' :: rest =>
          match depth with
          | 0 => .error .tooDeep
          | depth + 1 =>
              match skip rest with
              | ']' :: rest => .ok (.list [], rest)
              | rest => do
                  let (xs, rest) ← readItems fuel depth rest
                  .ok (.list xs, rest)
      | '\x7b' :: rest =>
          match depth with
          | 0 => .error .tooDeep
          | depth + 1 =>
              match skip rest with
              | '\x7d' :: rest => .ok (.dict [], rest)
              | rest => do
                  let (kvs, rest) ← readMembers fuel depth rest
                  .ok (.dict (Dict.ofEntries kvs), rest)
      | text =>
          match readWord text with
          | some found => .ok found
          | none =>
              match text with
              | '-' :: rest => readNumber true rest
              | text => readNumber false text

def readItems : Nat → Nat → Text → Except ReadError (List Value × Text)
  | 0, _, _ => .error .malformed
  | fuel + 1, depth, text => do
      let (x, rest) ← readValue fuel depth text
      match skip rest with
      | ']' :: rest => .ok ([x], rest)
      | ',' :: rest =>
          let (xs, rest) ← readItems fuel depth (skip rest)
          .ok (x :: xs, rest)
      | _ => .error .malformed

def readMembers : Nat → Nat → Text → Except ReadError (List (Value × Value) × Text)
  | 0, _, _ => .error .malformed
  | fuel + 1, depth, text =>
      match text with
      | '"' :: rest =>
          match readString rest with
          | none => .error .malformed
          | some (name, rest) =>
              match skip rest with
              | ':' :: rest => do
                  let (value, rest) ← readValue fuel depth (skip rest)
                  match skip rest with
                  | '\x7d' :: rest => .ok ([(.text name, value)], rest)
                  | ',' :: rest =>
                      let (kvs, rest) ← readMembers fuel depth (skip rest)
                      .ok ((.text name, value) :: kvs, rest)
                  | _ => .error .malformed
              | _ => .error .malformed
      | _ => .error .malformed

end

def read (text : Text) : Except ReadError Value := do
  let (value, rest) ← readValue (2 * text.length + 2) depthLimit (skip text)
  if (skip rest).isEmpty then .ok value else .error .malformed

end TopicRouting.Json
