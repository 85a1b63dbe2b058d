import TopicRouting.Payload
import TopicRouting.Text.Encoded

/-! The address of a request, of which only the path counts. It is taken without steps that
lead nowhere or back, and its percent signs are read as bytes. -/
namespace TopicRouting.Api.Address

def isControl (c : Char) : Bool := c < ' ' || c = '\x7f'

def lengthLimit : Nat := 65536

def isSchemeChar (c : Char) : Bool := c.isAlphanum || c = '+' || c = '-' || c = '.'

def isScheme : Text → Bool
  | [] => true
  | c :: rest => c.isAlpha && rest.all isSchemeChar

def cutScheme (text : Text) : Text × Text :=
  match Text.cut ':' text with
  | some (scheme, rest) => if isScheme scheme then (scheme, rest) else ([], text)
  | none => ([], text)

def endsPath (c : Char) : Bool := c = '?' || c = '#'

def cutAuthority : Text → Text × Text
  | '/' :: '/' :: rest =>
      let isPart (c : Char) : Bool := c ≠ '/' && !endsPath c
      (rest.takeWhile isPart, rest.dropWhile isPart)
  | text => ([], text)

def addLevel (levels : List Text) (level : Text) : List Text :=
  if level = ['.'] then levels
  else if level = ['.', '.'] then (if levels = [[]] then levels else levels.dropLast)
  else levels ++ [level]

def normal (path : Text) : Text :=
  Text.join "/" ((List.splitOn '/' path).foldl addLevel [])

def hexDigit? (c : Char) : Option Nat :=
  if c.isDigit then some (c.toNat - '0'.toNat)
  else if 'a' ≤ c ∧ c ≤ 'f' then some (c.toNat - 'a'.toNat + 10)
  else if 'A' ≤ c ∧ c ≤ 'F' then some (c.toNat - 'A'.toNat + 10)
  else none

def percentBytes : Text → List UInt8
  | '%' :: a :: b :: rest =>
      match hexDigit? a, hexDigit? b with
      | some high, some low => UInt8.ofNat (16 * high + low) :: percentBytes rest
      | _, _ => 0x25 :: percentBytes (a :: b :: rest)
  | c :: rest => (Payload.bytesOf [c]).toList ++ percentBytes rest
  | [] => []

/-- The path that an address leads to. Without a scheme and an authority, it starts with no
more than one slash and with no colon; without both of them, it is a path of this server. -/
def path (address : Text) : Except Error Text :=
  if address.any isControl || lengthLimit < address.length then .error (.plain .badUrl [])
  else
    let (scheme, rest) := cutScheme address
    let (authority, rest) := cutAuthority rest
    let written := rest.takeWhile fun c => !endsPath c
    if scheme.isEmpty && authority.isEmpty &&
        (['/', '/'].isPrefixOf written || written.head? = some ':') then
      .error (.plain .badUrl [])
    else
      let own := scheme.isEmpty || authority.isEmpty
      let full := normal (if own then '/' :: written.dropWhile (· = '/') else written)
      .ok (Text.ofUtf8Replacing (percentBytes (if full.isEmpty then ['/'] else full)))

end TopicRouting.Api.Address
