import TopicRouting.Json.Reader
import TopicRouting.Yaml.Fault
import TopicRouting.Yaml.Line

/-! What a document says about its nodes and about itself: names that other places of it may
use for a node, tags for the kind of a node, and directives before its start. -/
namespace TopicRouting.Yaml

structure TagName where
  handle : Option Text
  suffix : Text
  deriving DecidableEq, Repr

inductive Directive where
  | version (major : Nat)
  | tagStart (handle start : Text)
  | other
  deriving DecidableEq, Repr

def isNameChar (c : Char) : Bool := c.isAlphanum || c = '-' || c = '_'

def endsName (text : Text) : Bool :=
  startsBlank text || text.head?.any fun c => "?:,]\x7d%@\x60".toList.contains c

def readName (text : Text) : Except Fault (Text × Text) :=
  let name := text.takeWhile isNameChar
  let rest := text.dropWhile isNameChar
  if name.isEmpty || !endsName rest then .error (.at rest) else .ok (name, rest)

namespace TagName

def isUriChar (c : Char) : Bool :=
  c.isAlphanum || "-;/?:@&=+$,_.!~*'()[]".toList.contains c

def readBytes : Text → Except Fault (List UInt8 × Text)
  | '%' :: high :: low :: rest =>
      match Json.hexDigit? high, Json.hexDigit? low with
      | some a, some b => do
          let (more, rest) ← readBytes rest
          .ok (UInt8.ofNat (16 * a + b) :: more, rest)
      | _, _ => .error .badToken
  | '%' :: _ => .error .endOfText
  | rest => .ok ([], rest)

def readParts : Nat → Text → Except Fault (Text × Text)
  | 0, text => .ok ([], text)
  | fuel + 1, text =>
      let run := text.takeWhile isUriChar
      match text.dropWhile isUriChar with
      | '%' :: rest => do
          let (bytes, rest) ← readBytes ('%' :: rest)
          match (ByteArray.mk bytes.toArray).utf8Decode? with
          | some chars => do
              let (more, rest) ← readParts fuel rest
              .ok (run ++ chars.toList ++ more, rest)
          | none => .error .badToken
      | rest => .ok (run, rest)

def readUri (text : Text) : Except Fault (Text × Text) :=
  if text.head?.any fun c => isUriChar c || c = '%' then readParts (text.length + 1) text
  else .error (.at text)

def readHandle : Text → Except Fault (Text × Text)
  | '!' :: ' ' :: rest => .ok (['!'], ' ' :: rest)
  | '!' :: rest =>
      match rest.dropWhile isNameChar with
      | '!' :: after => .ok ('!' :: rest.takeWhile isNameChar ++ ['!'], after)
      | after => .error (.at after)
  | text => .error (.at text)

def readFrom : Text → Except Fault (TagName × Text)
  | '!' :: '<' :: rest => do
      let (uri, rest) ← readUri rest
      match rest with
      | '>' :: rest => .ok (⟨none, uri⟩, rest)
      | rest => .error (.at rest)
  | text => do
      let rest := text.drop 1
      if startsBlank rest then .ok (⟨none, ['!']⟩, rest)
      else if (rest.takeWhile fun c => !(c = ' ' || isBreak c)).contains '!' then
        let (handle, rest) ← readHandle text
        let (suffix, rest) ← readUri rest
        .ok (⟨some handle, suffix⟩, rest)
      else
        let (suffix, rest) ← readUri rest
        .ok (⟨some ['!'], suffix⟩, rest)

def read (text : Text) : Except Fault (TagName × Text) := do
  let (tag, rest) ← readFrom text
  if endsWord rest then .ok (tag, rest) else .error .badToken

end TagName

namespace Directive

def readNumber (text : Text) : Except Fault (Nat × Text) :=
  let digits := text.takeWhile Char.isDigit
  let rest := text.dropWhile Char.isDigit
  if digits.isEmpty then .error (.at rest)
  else if Number.digitLimit < digits.length then .error (.tooManyDigits digits.length)
  else .ok (Text.toNat digits, rest)

def readVersion (text : Text) : Except Fault (Directive × Text) := do
  let (major, rest) ← readNumber (text.dropWhile (· = ' '))
  match rest with
  | '.' :: rest => do
      let (_, rest) ← readNumber rest
      .ok (.version major, rest)
  | rest => .error (.at rest)

def readTagStart (text : Text) : Except Fault (Directive × Text) := do
  let (handle, rest) ← TagName.readHandle (text.dropWhile (· = ' '))
  match rest with
  | ' ' :: rest => do
      let (start, rest) ← TagName.readUri (rest.dropWhile (· = ' '))
      .ok (.tagStart handle start, rest)
  | rest => .error (.at rest)

def read (text : Text) : Except Fault (Directive × Text) := do
  let name := text.takeWhile isNameChar
  let rest := text.dropWhile isNameChar
  if name.isEmpty || !endsWord rest then .error (.at rest)
  else
    let (directive, rest) ←
      if name = "YAML".toList then readVersion rest
      else if name = "TAG".toList then readTagStart rest
      else .ok (.other, rest.dropWhile (!isBreak ·))
    if !endsWord rest then .error .badToken
    else match afterLine? rest with
      | some rest => .ok (directive, rest)
      | none => .error .badToken

end Directive

end TopicRouting.Yaml
