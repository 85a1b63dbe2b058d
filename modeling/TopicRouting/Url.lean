import TopicRouting.Error
import TopicRouting.Number.Written
import TopicRouting.Text.Case
import TopicRouting.Url.Address

/-! The parts of a URL that say where to connect: the scheme, and the authority with a user, a
password, a host and a port. Nothing in it is percent-decoded. -/
namespace TopicRouting

structure Url where
  scheme : Text
  authority : Text
  deriving DecidableEq, Repr

namespace Url

def strip (text : Text) : Text :=
  (text.dropWhile (· ≤ ' ')).filter fun c => c ≠ '\t' && c ≠ '\r' && c ≠ '\n'

def isSchemeChar (c : Char) : Bool := c.isAlphanum || c = '+' || c = '-' || c = '.'

def cutScheme (text : Text) : Text × Text :=
  match Text.cut ':' text with
  | some (first :: scheme, rest) =>
      if first.isAlpha && scheme.all isSchemeChar then (Text.lowerAscii (first :: scheme), rest)
      else ([], text)
  | _ => ([], text)

def endsAuthority (c : Char) : Bool := c = '/' || c = '?' || c = '#'

def authorityOf : Text → Text
  | '/' :: '/' :: rest => rest.takeWhile fun c => !endsAuthority c
  | _ => []

def userInfo (u : Url) : Option Text := (Text.cutLast '@' u.authority).map (·.1)

def hostInfo (u : Url) : Text := ((Text.cutLast '@' u.authority).map (·.2)).getD u.authority

def beforeColon (text : Text) : Text := ((Text.cut ':' text).map (·.1)).getD text

def afterColon (text : Text) : Option Text := (Text.cut ':' text).map (·.2)

def user (u : Url) : Option Text := u.userInfo.map beforeColon

def password (u : Url) : Option Text := u.userInfo.bind afterColon

/-- The host as written, without brackets, and the text that the port is looked for in. -/
def hostAndRest (u : Url) : Text × Text :=
  match Text.cut '[' u.hostInfo with
  | some (_, inner) => (Text.cut ']' inner).getD (inner, [])
  | none =>
      match Text.cut ':' u.hostInfo with
      | some (host, port) => (host, ':' :: port)
      | none => (u.hostInfo, [])

def host? (u : Url) : Option Text :=
  match u.hostAndRest.1 with
  | [] => none
  | written =>
      match Text.cut '%' written with
      | some (name, zone) => some (Text.lower name ++ '%' :: zone)
      | none => some (Text.lower written)

def port? (u : Url) : Except ValueError (Option Nat) :=
  match afterColon u.hostAndRest.2 with
  | none | some [] => .ok none
  | some written =>
      if !Text.isDigits written then .error (.portNotNumber written)
      else if Number.digitLimit < written.length then .error (.tooManyDigits written.length)
      else if 65535 < Text.toNat written then .error .portRange
      else .ok (some (Text.toNat written))

def checkBracketed (text : Text) : Except ValueError Unit :=
  if text.head? = some 'v' then
    if isFutureAddress text then .ok () else .error .addressFuture
  else if isOldAddress text then .error .addressOld
  else if isNewAddress text then .ok ()
  else .error (.address text)

def checkBrackets (u : Url) : Except ValueError Unit :=
  let opened := u.authority.contains '['
  let closed := u.authority.contains ']'
  if !opened && !closed then .ok ()
  else if opened && closed then
    match Text.cut '[' u.hostInfo with
    | some (before, inner) =>
        let (host, after) := (Text.cut ']' inner).getD (inner, [])
        if !before.isEmpty then .error .brackets
        else if !after.isEmpty && after.head? != some ':' then .error .brackets
        else checkBracketed host
    | none => checkBracketed (beforeColon u.hostInfo)
  else .error .brackets

/-- The characters whose compatible forms hold a sign that separates parts of a URL. -/
def disguised : List Nat := [
  0x2047, 0x2048, 0x2049, 0x2100, 0x2101, 0x2105, 0x2106, 0x2A74, 0xFE13, 0xFE16, 0xFE55,
  0xFE56, 0xFE5F, 0xFE6B, 0xFF03, 0xFF0F, 0xFF1A, 0xFF1F, 0xFF20]

def checkDisguised (u : Url) : Except ValueError Unit :=
  if u.authority.any fun c => disguised.contains c.toNat then .error (.netloc u.authority)
  else .ok ()

def read (text : Text) : Except ValueError Url := do
  let (scheme, rest) := cutScheme (strip text)
  let u : Url := ⟨scheme, authorityOf rest⟩
  u.checkBrackets
  u.checkDisguised
  .ok u

/-- Reads what was given as a URL, with its scheme as messages show it. Byte strings are read
as ASCII and keep their kind; what counts as absent is an empty byte string. -/
def ofValue (given : Value) : Except Error (Url × Value) :=
  let ofBytes (b : ByteArray) : Except Error (Url × Value) := do
    if b.toList.all (· < 128) then
      let u ← (read (b.toList.map fun x => Char.ofNat x.toNat)).mapError Error.value
      .ok (u, .bytes (String.ofList u.scheme).toUTF8)
    else .error (.plain .unicodeDecode [])
  match given with
  | .text t => do
      let u ← (read t).mapError Error.value
      .ok (u, .text u.scheme)
  | .bytes b | .byteArray b => ofBytes b
  | v => if v.isBlank then ofBytes ByteArray.empty else .error .noAttribute

end Url
end TopicRouting
