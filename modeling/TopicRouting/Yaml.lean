import TopicRouting.Yaml.Meaning
import TopicRouting.Yaml.Writer

/-! Reads and writes YAML documents. A document without content is null. -/
namespace TopicRouting.Yaml

def isPermitted (c : Char) : Bool :=
  let n := c.toNat
  c = '\t' || c = '\n' || c = '\r' || (0x20 ≤ n && n ≤ 0x7E) || n = 0x85 ||
    (0xA0 ≤ n && n ≤ 0xD7FF) || (0xE000 ≤ n && n ≤ 0xFFFD) || 0x10000 ≤ n

def firstPiece : Nat := 8192

def laterPiece : Nat := 4096

def pieceStart (index : Nat) : Nat :=
  if index < firstPiece then 0
  else firstPiece + (index - firstPiece) / laterPiece * laterPiece

/-- What is read of a text: all of it, or what stands before the piece with a character that it
may not hold, less the last character, with which the next piece is looked at. -/
def readable (text : Text) : Text × Option Fault :=
  match text.findIdx? (!isPermitted ·) with
  | none => (text, none)
  | some index =>
      (text.take (pieceStart index - 1), (text[index]?).map .unprintable)

def read (text : Text) : Except Fault Value := do
  let (text, cut) := readable text
  let (tokens, fault) := Token.read text cut
  match ← Node.ofTokens tokens (fault.getD .badToken) with
  | some node => node.value
  | none => .ok .null

end TopicRouting.Yaml
