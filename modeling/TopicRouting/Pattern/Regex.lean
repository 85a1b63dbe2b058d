import TopicRouting.Text

/-! Regular expressions over characters, with their written form and a matcher. The matcher
tries the choices in order, a repetition first as often as it can, and keeps what the groups
captured; groups do not stand inside each other. -/
namespace TopicRouting

inductive Regex where
  | empty
  | char (c : Char)
  | noneOf (cs : Text)
  | seq (first second : Regex)
  | either (first second : Regex)
  | optional (r : Regex)
  | many (r : Regex)
  | some (r : Regex)
  | capture (r : Regex)
  | atEnd
  deriving DecidableEq, Repr

namespace Regex

def ofText (text : Text) : Regex := text.foldr (fun c r => seq (char c) r) empty

def special : Text :=
  ['(', ')', '[', ']', '\x7b', '\x7d', '?', '*', '+', '-', '|', '^', '$', '\\', '.', '&', '~',
    '#', ' ', '\t', '\n', '\r', '\x0b', '\x0c']

def escape (c : Char) : Text := if special.contains c then ['\\', c] else [c]

def isAtom : Regex → Bool
  | char _ | noneOf _ | capture _ | either .. => true
  | _ => false

def operand (r : Regex) (written : Text) : Text :=
  if r.isAtom then written else "(?:" ++ written ++ ")"

def source : Regex → Text
  | empty => []
  | char c => escape c
  | noneOf cs => "[^" ++ cs ++ "]"
  | seq r s => r.source ++ s.source
  | either r s => "(?:" ++ r.source ++ "|" ++ s.source ++ ")"
  | optional r => operand r r.source ++ "?"
  | many r => operand r r.source ++ "*"
  | some r => operand r r.source ++ "+"
  | capture r => "(" ++ r.source ++ ")"
  | atEnd => "\\Z"

abbrev Next := Text → List Text → Option (List Text)

/-- Repeats a match as often as possible, and gives up one turn after the other when what
comes next does not match. Every turn takes at least one character. -/
def repeated (turn : Text → List Text → Next → Option (List Text)) (next : Next) :
    Nat → Next
  | 0, text, groups => next text groups
  | fuel + 1, text, groups =>
      (turn text groups fun rest groups =>
        if rest.length < text.length then repeated turn next fuel rest groups else none)
      <|> next text groups

def run : Regex → Text → List Text → Next → Option (List Text)
  | empty, text, groups, next => next text groups
  | char c, text, groups, next =>
      match text with
      | d :: rest => if d = c then next rest groups else none
      | [] => none
  | noneOf cs, text, groups, next =>
      match text with
      | d :: rest => if cs.contains d then none else next rest groups
      | [] => none
  | seq r s, text, groups, next =>
      r.run text groups fun rest groups => s.run rest groups next
  | either r s, text, groups, next => r.run text groups next <|> s.run text groups next
  | optional r, text, groups, next => r.run text groups next <|> next text groups
  | many r, text, groups, next =>
      repeated (fun text groups next => r.run text groups next) next text.length text groups
  | some r, text, groups, next =>
      r.run text groups fun rest groups =>
        repeated (fun text groups next => r.run text groups next) next rest.length rest groups
  | capture r, text, groups, next =>
      r.run text groups fun rest groups =>
        next rest (groups ++ [text.take (text.length - rest.length)])
  | atEnd, text, groups, next => if text.isEmpty then next text groups else none

def match? (r : Regex) (text : Text) : Option (List Text) :=
  r.run text [] fun rest groups => if rest.isEmpty then Option.some groups else none

end Regex
end TopicRouting
