import TopicRouting.Error
import TopicRouting.Pattern.Regex
import TopicRouting.Pattern.RegexText

/-! A pattern is compiled level by level. Each level becomes a token with two fragments of a
regular expression: one for a level that others follow, one for the last level. -/
namespace TopicRouting

inductive Token.Kind where
  | raw
  | single
  | multi
  deriving DecidableEq, Repr

structure Token where
  kind : Token.Kind
  text : Text
  piece : Text
  last : Text
  name : Option Text := none
  deriving DecidableEq, Repr

def Token.Kind.ofValue (v : Value) : Except Error Token.Kind :=
  if v.sameKey (.text "raw") then .ok .raw
  else if v.sameKey (.text "single") then .ok .single
  else if v.sameKey (.text "multi") then .ok .multi
  else .error (.value (.notTokenKind v))

namespace Token

def isWildcard (t : Token) : Bool := t.kind != .raw

def isNamed (t : Token) : Bool := t.isWildcard && !(t.name.getD []).isEmpty

def filterLevel (t : Token) : Text :=
  match t.kind with
  | .raw => t.text
  | .single => "+"
  | .multi => "#"

def filter (tokens : List Token) : Text := Text.join "/" (tokens.map filterLevel)

def namedCount (tokens : List Token) : Nat := tokens.countP isNamed

/-- Chooses between the two fragments of each item: the last item takes its second one, and so
does the item before a multi wildcard at the end, so that the slash between them is optional. -/
def fragments {Item Fragment : Type} (isMulti : Item → Bool) (piece last : Item → Fragment) :
    List Item → List Fragment
  | [] => []
  | [a] => [last a]
  | [a, b] => [if isMulti b then last a else piece a, last b]
  | a :: rest => piece a :: fragments isMulti piece last rest

def regexSource (tokens : List Token) : Text :=
  "\\A" ++ (fragments (·.kind == .multi) piece last tokens).flatten ++ "\\Z"

def checkedSource (tokens : List Token) : Except Error Text :=
  let source := regexSource tokens
  match RegexText.check source with
  | .ok _ => .ok source
  | .error .malformed => .error (.plain .badRegex [])
  | .error .tooLarge => .error .overflow
  | .error (.tooManyDigits count) => .error (.value (.tooManyDigits count))

end Token

inductive Segment where
  | raw (text : Text)
  | single (name : Text)
  | multi (name : Text)
  deriving DecidableEq, Repr

namespace Segment

def ofLevel : Text → Segment
  | '+' :: name => single name
  | '#' :: name => multi name
  | text => raw text

def text : Segment → Text
  | raw text => text
  | single name => '+' :: name
  | multi name => '#' :: name

def isMulti : Segment → Bool
  | multi _ => true
  | _ => false

def levelChar : Regex := .noneOf "/#+"

def slash : Regex := .char '/'

def levels : Regex := .many (.seq (.some levelChar) slash)

def piece : Segment → Regex
  | raw text => .seq (.ofText text) slash
  | single _ => .capture (.seq (.some levelChar) slash)
  | multi _ => .capture levels

def last : Segment → Regex
  | raw text => .seq (.ofText text) (.either slash .atEnd)
  | single _ => .capture (.seq (.some levelChar) (.optional slash))
  | multi _ => .capture (.seq levels (.many levelChar))

def token (s : Segment) : Token :=
  match s with
  | raw text => ⟨.raw, text, s.piece.source, s.last.source, none⟩
  | single name => ⟨.single, s.text, s.piece.source, s.last.source, some name⟩
  | multi name => ⟨.multi, s.text, s.piece.source, s.last.source, some name⟩

def regex (segments : List Segment) : Regex :=
  (Token.fragments isMulti piece last segments).foldr .seq .empty

end Segment
end TopicRouting
