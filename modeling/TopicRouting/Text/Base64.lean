import TopicRouting.Text

/-! Bytes written with 64 signs, each for six bits: four signs for every three bytes, filled up
with a padding sign at the end. A reader passes over all other signs. -/
namespace TopicRouting.Text.Base64

def signs : Text := "ABCDEFGHIJKLMNOPQRSTUVWXYZabcdefghijklmnopqrstuvwxyz0123456789+/"

def padding : Char := '='

def sign (n : Nat) : Char := signs.getD (n % 64) padding

def value? (c : Char) : Option Nat := signs.findIdx? (· == c)

def encode : List UInt8 → Text
  | a :: b :: c :: rest =>
      let n := (a.toNat * 256 + b.toNat) * 256 + c.toNat
      sign (n / 262144) :: sign (n / 4096) :: sign (n / 64) :: sign n :: encode rest
  | [a, b] =>
      let n := (a.toNat * 256 + b.toNat) * 4
      [sign (n / 4096), sign (n / 64), sign n, padding]
  | [a] =>
      let n := a.toNat * 16
      [sign (n / 64), sign n, padding, padding]
  | [] => []

def bytes : List Nat → List UInt8
  | [a, b] => [UInt8.ofNat (a * 4 + b / 16)]
  | [a, b, c] => [UInt8.ofNat (a * 4 + b / 16), UInt8.ofNat (b % 16 * 16 + c / 4)]
  | [a, b, c, d] =>
      [UInt8.ofNat (a * 4 + b / 16), UInt8.ofNat (b % 16 * 16 + c / 4),
        UInt8.ofNat (c % 4 * 64 + d)]
  | _ => []

def decodeFrom (held : List Nat) (pads : Nat) : Text → Option (List UInt8)
  | [] => if held.isEmpty then some [] else none
  | c :: rest =>
      if c = padding then
        if held.length < 2 then decodeFrom held pads rest
        else if 4 ≤ held.length + pads + 1 then some (bytes held)
        else decodeFrom held (pads + 1) rest
      else
        match value? c with
        | none => decodeFrom held pads rest
        | some n =>
            if held.length = 3 then (decodeFrom [] 0 rest).map (bytes (held ++ [n]) ++ ·)
            else decodeFrom (held ++ [n]) 0 rest

def decode (text : Text) : Option (List UInt8) := decodeFrom [] 0 text

end TopicRouting.Text.Base64
