import TopicRouting.Yaml.Timestamp

/-! The kinds of nodes. A word without quotation marks has the kind that its form says: null, a
truth value, a number, a date, a sign with a meaning of its own or, if it has none of their
forms, a text. Numbers may hold underscores, be written to the bases 2, 8 and 16, and in parts
below sixty, as times are. -/
namespace TopicRouting.Yaml

inductive Tag where
  | null
  | bool
  | int
  | float
  | binary
  | timestamp
  | orderedMap
  | pairs
  | set
  | string
  | list
  | mapping
  | merge
  | equals
  | other
  deriving DecidableEq, Repr

namespace Tag

def start : Text := "tag:yaml.org,2002:"

def names : List (Text × Tag) :=
  [("null", null), ("bool", bool), ("int", int), ("float", float), ("binary", binary),
    ("timestamp", timestamp), ("omap", orderedMap), ("pairs", pairs), ("set", set), ("str", string),
    ("seq", list), ("map", mapping), ("merge", merge), ("value", equals)]

def ofName (name : Text) : Tag :=
  if start.isPrefixOf name then (names.lookup (name.drop start.length)).getD other else other

def nulls : List Text := ["", "~", "null", "Null", "NULL"]

def truths : List Text :=
  ["yes", "Yes", "YES", "no", "No", "NO", "true", "True", "TRUE", "false", "False", "FALSE",
    "on", "On", "ON", "off", "Off", "OFF"]

def infinities : List Text := [".inf", ".Inf", ".INF"]

def undefineds : List Text := [".nan", ".NaN", ".NAN"]

def withoutSign : Text → Text
  | '-' :: rest | '+' :: rest => rest
  | text => text

def isDigitOf (base : Nat) (c : Char) : Bool :=
  c = '_' ||
    (if c.isDigit then c.toNat - 48 < base
    else base = 16 && 'a' ≤ c.toLower && c.toLower ≤ 'f')

def isDecimal : Text → Bool
  | first :: rest => first.isDigit && rest.all (isDigitOf 10)
  | [] => false

def isSixtieth : Text → Bool
  | [ones] => ones.isDigit
  | [tens, ones] => '0' ≤ tens && tens ≤ '5' && ones.isDigit
  | _ => false

def isInParts (text : Text) : Bool :=
  match List.splitOn ':' text with
  | first :: parts => isDecimal first && parts.all isSixtieth
  | [] => false

def isWhole : Text → Bool
  | ['0'] => true
  | '0' :: 'b' :: digits => !digits.isEmpty && digits.all (isDigitOf 2)
  | '0' :: 'x' :: digits => !digits.isEmpty && digits.all (isDigitOf 16)
  | '0' :: digits => digits.all (isDigitOf 8)
  | text => isInParts text

def isExponent : Text → Bool
  | [] => true
  | mark :: sign :: digits =>
      (mark = 'e' || mark = 'E') && (sign = '+' || sign = '-') && Text.isDigits digits
  | _ => false

def isFraction (text : Text) : Bool :=
  match Text.cut '.' (withoutSign text) with
  | none => false
  | some (before, after) =>
      let digits := after.takeWhile (isDigitOf 10)
      let rest := after.dropWhile (isDigitOf 10)
      if before.isEmpty then text.head? = some '.' && isDecimal digits && isExponent rest
      else isInParts before && (if before.contains ':' then rest.isEmpty else isExponent rest)

def ofWord (word : Text) : Tag :=
  let word := if word.getLast? = some '\n' && word.length ≠ 1 then word.dropLast else word
  if nulls.contains word then null
  else if truths.contains word then bool
  else if infinities.contains (withoutSign word) || undefineds.contains word ||
    isFraction word then float
  else if isWhole (withoutSign word) then int
  else if Timestamp.isWritten word then timestamp
  else if word == "<<".toList then merge
  else if word == "=".toList then equals
  else if word == "!".toList || word == "&".toList || word == "*".toList then other
  else string

end Tag
end TopicRouting.Yaml
