import TopicRouting.Number.Written
import TopicRouting.Value

/-! Text as far as it is written. What stops the writing leaves what was written before it; a
value can have no form, a number too many digits, and brackets can stand too deep inside each
other. -/
namespace TopicRouting

inductive WriteError where
  | noForm
  | tooManyDigits
  | tooDeep
  deriving DecidableEq, Repr

structure Draft where
  text : Text
  stopped : Option WriteError
  deriving DecidableEq, Repr

namespace Draft

def done (text : Text) : Draft := ⟨text, none⟩

def stop (cause : WriteError) : Draft := ⟨[], some cause⟩

def ofResult : Except WriteError Text → Draft
  | .ok text => done text
  | .error cause => stop cause

def append (first second : Draft) : Draft :=
  match first.stopped with
  | none => ⟨first.text ++ second.text, second.stopped⟩
  | some _ => first

instance : Append Draft := ⟨append⟩

def result (d : Draft) : Except WriteError Text :=
  match d.stopped with
  | none => .ok d.text
  | some cause => .error cause

end Draft

def Number.isLong (i : Int) : Bool := digitLimit < (Text.ofNat i.natAbs).length

def Number.write (i : Int) : Except WriteError Text :=
  if isLong i then .error .tooManyDigits else .ok (Text.ofInt i)

namespace Value

def deeper (cost room : Nat) (inside : Nat → Option WriteError) : Option WriteError :=
  if room < cost then some .tooDeep else inside (room - cost)

mutual

/-- What stops the literal of a value, with the number of brackets that may still be opened
inside each other. Those of a set count twice. -/
def literalStop? : Nat → Value → Option WriteError
  | _, int i => if Number.isLong i then some .tooManyDigits else none
  | room, list xs | room, tuple xs => deeper 1 room fun room => literalsStop? room xs
  | room, dict kvs => deeper 1 room fun room => entriesStop? room kvs
  | _, set [] => none
  | room, set xs => deeper 2 room fun room => literalsStop? room xs
  | _, _ => none

def literalsStop? : Nat → List Value → Option WriteError
  | _, [] => none
  | room, x :: xs => literalStop? room x <|> literalsStop? room xs

def entriesStop? : Nat → List (Value × Value) → Option WriteError
  | _, [] => none
  | room, (k, v) :: kvs =>
      literalStop? room k <|> literalStop? room v <|> entriesStop? room kvs

end

def plainWithin (room : Nat) (v : Value) : Except WriteError Text :=
  match v.literalStop? room with
  | none => .ok v.plain
  | some cause => .error cause

end Value

def Json.depthLimit : Nat := 989

end TopicRouting
