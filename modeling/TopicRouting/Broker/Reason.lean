import TopicRouting.Error
import TopicRouting.Number.Written

/-! The reasons that a broker gives with its answers: plain codes, or objects with a value, a
text and a mark of failure. -/
namespace TopicRouting.Broker

inductive Reason where
  | code (number : Int)
  | named (value : Value) (isFailure : Bool) (text : Text)

namespace Reason

def firstFailure : Int := 128

def isFailure : Reason → Bool
  | code n => firstFailure ≤ n
  | named _ isFailure _ => isFailure

def text : Reason → Text
  | code n => Text.ofInt n
  | named _ _ text => text

def value : Reason → Value
  | code n => .int n
  | named value _ _ => value

def toWhole : Value → Except Error Int
  | .bool b => .ok (if b then 1 else 0)
  | .int n => .ok n
  | .float x =>
      match x.truncate? with
      | some n => .ok n
      | none => .error (if x.isInfinite then .overflow else .value .nanToWhole)
  | .text t => ofText (.text t) t
  | .bytes b | .byteArray b => ofText (.bytes (b.extract 0 200)) (asciiText b)
  | _ => .error .wrongType
where
  asciiText (b : ByteArray) : Text := b.toList.map fun x => if x < 128 then Char.ofNat x.toNat else '?'
  ofText (shown : Value) (t : Text) : Except Error Int :=
    (Number.readBase 10 t).mapError fun
      | .malformed => .value (.notWhole 10 shown)
      | .tooManyDigits count => .value (.tooManyDigits count)

def ofQuality : Value → Except Error Reason
  | .int n => .ok (code n)
  | v => do
      let n ← toWhole v
      .ok (named v (decide (firstFailure ≤ n)) v.plain)

end Reason
end TopicRouting.Broker
