import TopicRouting.Text

/-! Texts as bytes. Bytes in UTF-8 can be read with a replacement for what is no character; a
JSON text may also come in one of the wider encodings, which its zero bytes tell. -/
namespace TopicRouting.Text

def replacement : Char := '\ufffd'

def following (b : UInt8) : Option (Nat × UInt8 × UInt8) :=
  if b < 0x80 then some (0, 0, 0)
  else if 0xC2 ≤ b && b ≤ 0xDF then some (1, 0x80, 0xBF)
  else if b = 0xE0 then some (2, 0xA0, 0xBF)
  else if b = 0xED then some (2, 0x80, 0x9F)
  else if 0xE1 ≤ b && b ≤ 0xEF then some (2, 0x80, 0xBF)
  else if b = 0xF0 then some (3, 0x90, 0xBF)
  else if 0xF1 ≤ b && b ≤ 0xF3 then some (3, 0x80, 0xBF)
  else if b = 0xF4 then some (3, 0x80, 0x8F)
  else none

def continuation : Nat → UInt8 → UInt8 → List UInt8 → List UInt8
  | n + 1, low, high, b :: rest =>
      if low ≤ b && b ≤ high then b :: continuation n 0x80 0xBF rest else []
  | _, _, _, _ => []

def leadBits (count : Nat) (b : UInt8) : Nat :=
  if count = 0 then b.toNat else b.toNat % Nat.pow 2 (6 - count)

/-- The text of bytes after some that are passed over. What starts a character and is not
continued to its end is replaced as a whole. -/
def replacingFrom : Nat → List UInt8 → Text
  | _, [] => []
  | n + 1, _ :: rest => replacingFrom n rest
  | 0, b :: rest =>
      match following b with
      | none => replacement :: replacingFrom 0 rest
      | some (count, low, high) =>
          let more := continuation count low high rest
          let c :=
            if more.length = count then
              Char.ofNat (more.foldl (fun n x => 64 * n + x.toNat % 64) (leadBits count b))
            else replacement
          c :: replacingFrom more.length rest

def ofUtf8Replacing (bytes : List UInt8) : Text := replacingFrom 0 bytes

def pairs (big : Bool) : List UInt8 → Option (List Nat)
  | [] => some []
  | [_] => none
  | a :: b :: rest =>
      let n := if big then 256 * a.toNat + b.toNat else 256 * b.toNat + a.toNat
      (pairs big rest).map (n :: ·)

def ofUnits : List Nat → Text
  | high :: low :: rest =>
      if 0xD800 ≤ high && high < 0xDC00 && 0xDC00 ≤ low && low < 0xE000 then
        Char.ofNat (0x10000 + (high - 0xD800) * 0x400 + (low - 0xDC00)) :: ofUnits rest
      else unit high :: ofUnits (low :: rest)
  | [n] => [unit n]
  | [] => []
where
  unit (n : Nat) : Char := if 0xD800 ≤ n && n < 0xE000 then replacement else Char.ofNat n

def ofHalves (big : Bool) : List Nat → Option Text
  | [] => some []
  | [_] => none
  | a :: b :: rest =>
      let n := if big then 0x10000 * a + b else 0x10000 * b + a
      if 0x110000 ≤ n then none
      else
        let c := if 0xD800 ≤ n && n < 0xE000 then replacement else Char.ofNat n
        (ofHalves big rest).map (c :: ·)

inductive Encoding where
  | utf8
  | utf16 (big : Bool)
  | utf32 (big : Bool)
  deriving DecidableEq, Repr

def Encoding.ofStart : List UInt8 → Encoding
  | [a, b] =>
      if a = 0 then utf16 true else if b = 0 then utf16 false else utf8
  | a :: b :: c :: d :: _ =>
      if a = 0 then (if b = 0 then utf32 true else utf16 true)
      else if b = 0 then (if c = 0 && d = 0 then utf32 false else utf16 false)
      else utf8
  | _ => utf8

def Encoding.read (bytes : List UInt8) : Encoding → Option Text
  | utf8 =>
      ((ByteArray.mk bytes.toArray).utf8Decode?).map fun chars =>
        match chars.toList with
        | '\ufeff' :: rest => rest
        | text => text
  | utf16 big => (pairs big bytes).map ofUnits
  | utf32 big => (pairs big bytes).bind (ofHalves big)

def ofJsonBytes (bytes : List UInt8) : Option Text := (Encoding.ofStart bytes).read bytes

end TopicRouting.Text
