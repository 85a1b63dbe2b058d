import TopicRouting.Number.Written
import TopicRouting.Text.Base64
import TopicRouting.Text.Case
import TopicRouting.Yaml.Fault
import TopicRouting.Yaml.Tag

/-! The value of a text whose kind is known, which it may have been given without its form. -/
namespace TopicRouting.Yaml.Scalar

def truths : List (Text × Bool) :=
  [("yes", true), ("no", false), ("true", true), ("false", false), ("on", true), ("off", false)]

def readTruth (text : Text) : Except Fault Bool :=
  match truths.lookup (Text.lower text) with
  | some b => .ok b
  | none => .error .notTruth

def withoutUnderscores (text : Text) : Text := text.filter (· ≠ '_')

def readBase (base : Nat) (text : Text) : Except Fault Int :=
  (Number.readBase base text).mapError fun
    | .malformed => .notWhole base text
    | .tooManyDigits count => .tooManyDigits count

def ofParts (parts : List Int) : Int := parts.foldl (fun total part => 60 * total + part) 0

def readSize (text : Text) : Except Fault Int :=
  match text with
  | ['0'] => .ok 0
  | '0' :: 'b' :: digits => readBase 2 digits
  | '0' :: 'x' :: digits => readBase 16 digits
  | '0' :: _ => readBase 8 text
  | _ =>
      if text.contains ':' then ((List.splitOn ':' text).mapM (readBase 10)).map ofParts
      else readBase 10 text

def readWhole (text : Text) : Except Fault Int :=
  match withoutUnderscores text with
  | [] => .error .emptyNumber
  | '-' :: digits => if digits.isEmpty then .error .emptyNumber else (readSize digits).map (- ·)
  | '+' :: digits => if digits.isEmpty then .error .emptyNumber else readSize digits
  | digits => readSize digits

def readReal (text : Text) : Except Fault Binary64 :=
  match Number.readReal text with
  | some x => .ok x
  | none => .error (.notNumber text)

/-- The sum of parts, of which each later one counts sixty times as much, with the rounding of
every step. -/
def sumParts (weight : Nat) (total : Binary64) : List Binary64 → Except Fault Binary64
  | [] => .ok total
  | part :: parts =>
      let factor := Binary64.ofInt weight
      if factor.isInfinite then .error .tooLarge
      else sumParts (60 * weight) (total.add (part.mul factor)) parts

def readMagnitude (text : Text) : Except Fault Binary64 :=
  if text == ".inf".toList then .ok (.infinity false)
  else if text == ".nan".toList then .ok .nan
  else if text.contains ':' then do
    let parts ← (List.splitOn ':' text).mapM readReal
    sumParts 1 (.zero false) parts.reverse
  else readReal text

def readNumber (text : Text) : Except Fault Binary64 :=
  match Text.lower (withoutUnderscores text) with
  | [] => .error .emptyNumber
  | '-' :: digits => (readMagnitude digits).map Binary64.neg
  | '+' :: digits => readMagnitude digits
  | digits => readMagnitude digits

def withoutLastBreak (text : Text) : Text :=
  if text.getLast? = some '\n' then text.dropLast else text

def readTime (text : Text) : Except Fault Value :=
  match Timestamp.read? (withoutLastBreak text) with
  | some t => t.value.mapError .calendar
  | none => .error .notTime

def readBinary (text : Text) : Except Fault Value :=
  match Text.Base64.decode text with
  | some bytes =>
      if text.all (·.toNat < 128) then .ok (.bytes ⟨bytes.toArray⟩) else .error .noValue
  | none => .error .noValue

def read (tag : Tag) (text : Text) : Except Fault Value :=
  match tag with
  | .null => .ok .null
  | .bool => (readTruth text).map .bool
  | .int => (readWhole text).map .int
  | .float => (readNumber text).map .float
  | .timestamp => readTime text
  | .binary => readBinary text
  | .string => .ok (.text text)
  | _ => .error .noValue

end TopicRouting.Yaml.Scalar
