import TopicRouting.Text

/-! Written internet addresses. An old address is four decimal octets; a new one is eight
groups of hexadecimal digits, the last two of which may be written as an old address, and one
run of groups may be left out between two colons. -/
namespace TopicRouting.Url

def isOctet (text : Text) : Bool :=
  Text.isDigits text && text.length ≤ 3 && (text.length = 1 || text.head? != some '0') &&
    Text.toNat text ≤ 255

def isOldAddress (text : Text) : Bool :=
  let octets := List.splitOn '.' text
  octets.length = 4 && octets.all isOctet

def isHexDigit (c : Char) : Bool :=
  c.isDigit || ('a' ≤ c && c ≤ 'f') || ('A' ≤ c && c ≤ 'F')

def isGroup (text : Text) : Bool :=
  !text.isEmpty && text.length ≤ 4 && text.all isHexDigit

def groupCount (atEnd : Bool) : List Text → Option Nat
  | [] => some 0
  | [part] =>
      if isGroup part then some 1
      else if atEnd && isOldAddress part then some 2
      else none
  | part :: rest => if isGroup part then (groupCount atEnd rest).map (· + 1) else none

def groups (atEnd : Bool) (text : Text) : Option Nat :=
  if text.isEmpty then some 0 else groupCount atEnd (List.splitOn ':' text)

def cutColons : Text → Option (Text × Text)
  | ':' :: ':' :: rest => some ([], rest)
  | c :: rest => (cutColons rest).map fun (before, after) => (c :: before, after)
  | [] => none

def isBareAddress (text : Text) : Bool :=
  match cutColons text with
  | some (before, after) =>
      match groups false before, groups true after with
      | some m, some n => m + n ≤ 7
      | _, _ => false
  | none => groups true text == some 8

def isNewAddress (text : Text) : Bool :=
  match Text.cut '%' text with
  | some (address, zone) => isBareAddress address && !zone.isEmpty && !zone.contains '%'
  | none => isBareAddress text

def isFutureAddress (text : Text) : Bool :=
  match text with
  | 'v' :: rest =>
      match Text.cut '.' rest with
      | some (version, after) =>
          !version.isEmpty && version.all isHexDigit && !after.isEmpty
      | none => false
  | _ => false

end TopicRouting.Url
