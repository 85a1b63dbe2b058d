import TopicRouting.Calendar
import TopicRouting.Number.Binary64
import TopicRouting.Text.Quoted

/-! Payloads, settings and parameters are values without a fixed type. Mappings keep their
keys in the order in which these came; a key equal to an earlier one replaces its value only. -/
namespace TopicRouting

instance decideBytes : DecidableEq ByteArray := ByteArray.instDecidableEq

inductive Value where
  | null
  | bool (value : Bool)
  | int (value : Int)
  | float (value : Binary64)
  | text (value : Text)
  | bytes (value : ByteArray)
  | byteArray (value : ByteArray)
  | date (value : Date)
  | moment (value : Moment)
  | list (items : List Value)
  | tuple (items : List Value)
  | set (items : List Value)
  | dict (entries : List (Value × Value))

abbrev Dict := List (Value × Value)

namespace Value

instance : Inhabited Value := ⟨null⟩

def typeName : Value → Text
  | null => "NoneType"
  | bool _ => "bool"
  | int _ => "int"
  | float _ => "float"
  | text _ => "str"
  | bytes _ => "bytes"
  | byteArray _ => "bytearray"
  | date _ => "date"
  | moment _ => "datetime"
  | list _ => "list"
  | tuple _ => "tuple"
  | set _ => "set"
  | dict _ => "dict"

def isBlank : Value → Bool
  | null => true
  | bool b => !b
  | int i => i == 0
  | float x => x.isZero
  | text t => t.isEmpty
  | bytes b | byteArray b => b.isEmpty
  | date _ | moment _ => false
  | list xs | tuple xs | set xs => xs.isEmpty
  | dict kvs => kvs.isEmpty

def orElse (value other : Value) : Value := if value.isBlank then other else value

def whole? : Value → Option Int
  | bool b => some (if b then 1 else 0)
  | int i => some i
  | float x => x.toInt?
  | _ => none

mutual

/-- Whether two values are the same key: numbers by what they equal, moments by when they
are, and the rest by content. -/
def sameKey : Value → Value → Bool
  | text a, text b => a == b
  | null, null => true
  | bytes a, bytes b => a == b
  | date a, date b => a == b
  | moment a, moment b => a.instant == b.instant
  | tuple as, tuple bs => sameKeys as bs
  | a, b => match a.whole?, b.whole? with
      | some i, some j => i == j
      | none, none => match a, b with
          | float x, float y => x == y && x.parts != .nan
          | _, _ => false
      | _, _ => false

def sameKeys : List Value → List Value → Bool
  | [], [] => true
  | a :: as, b :: bs => sameKey a b && sameKeys as bs
  | _, _ => false

end

mutual

def changing? : Value → Option Value
  | tuple xs => anyChanging? xs
  | byteArray b => some (byteArray b)
  | list xs => some (list xs)
  | set xs => some (set xs)
  | dict kvs => some (dict kvs)
  | _ => none

def anyChanging? : List Value → Option Value
  | [] => none
  | x :: xs => changing? x <|> anyChanging? xs

end

def isKey (v : Value) : Bool := v.changing?.isNone

def byteChar (escaped : Char → Bool) (b : UInt8) : Text :=
  let c := Char.ofNat b.toNat
  if c = '\\' || escaped c then ['\\', c]
  else if c = '\t' then "\\t"
  else if c = '\n' then "\\n"
  else if c = '\r' then "\\r"
  else if 32 ≤ b && b < 127 then [c]
  else "\\x" ++ Text.hex 2 b.toNat

def bytesLiteral (b : ByteArray) : Text :=
  let mark := Text.quoteMark (b.toList.map fun x => Char.ofNat x.toNat)
  'b' :: mark :: b.toList.flatMap (byteChar (· = mark)) ++ [mark]

def byteArrayLiteral (b : ByteArray) : Text :=
  let mark := Text.quoteMark (b.toList.map fun x => Char.ofNat x.toNat)
  "bytearray(b" ++ mark :: b.toList.flatMap (byteChar (· = '\'')) ++ [mark, ')']

mutual

def literal : Value → Text
  | null => "None"
  | bool b => if b then "True" else "False"
  | int i => Text.ofInt i
  | float x => x.text
  | text t => Text.quoted t
  | bytes b => bytesLiteral b
  | byteArray b => byteArrayLiteral b
  | date d => d.literal
  | moment m => m.literal
  | list xs => '[' :: literals xs ++ "]"
  | tuple [x] => '(' :: literal x ++ ",)"
  | tuple xs => '(' :: literals xs ++ ")"
  | set [] => "set()"
  | set xs => '\x7b' :: literals xs ++ "\x7d"
  | dict kvs => '\x7b' :: entryLiterals kvs ++ "\x7d"

def literals : List Value → Text
  | [] => []
  | [x] => literal x
  | x :: xs => literal x ++ ", " ++ literals xs

def entryLiterals : List (Value × Value) → Text
  | [] => []
  | [(k, v)] => literal k ++ ": " ++ literal v
  | (k, v) :: kvs => literal k ++ ": " ++ literal v ++ ", " ++ entryLiterals kvs

end

def plain : Value → Text
  | text t => t
  | date d => d.text
  | moment m => m.text
  | v => literal v

end Value

namespace Dict

def find? (d : Dict) (key : Value) : Option Value :=
  (List.find? (fun entry => entry.1.sameKey key) d).map (·.2)

def has (d : Dict) (key : Value) : Bool := d.any fun entry => entry.1.sameKey key

def put : Dict → Value → Value → Dict
  | [], key, value => [(key, value)]
  | (k, v) :: rest, key, value =>
      if k.sameKey key then (k, value) :: rest else (k, v) :: put rest key value

def overlay (base later : Dict) : Dict :=
  later.foldl (fun d (key, value) => put d key value) base

def ofEntries (entries : List (Value × Value)) : Dict := overlay [] entries

end Dict

end TopicRouting
