import TopicRouting.Text

/-! The lines of a document. A text may go over several of them: one line break in it is then a
space, and each further one a line break. -/
namespace TopicRouting.Yaml

def isBreak (c : Char) : Bool :=
  c = '\n' || c = '\r' || c = '\x85' || c = '\u2028' || c = '\u2029'

def shownBreak (c : Char) : Char := if c = '\u2028' || c = '\u2029' then c else '\n'

def isSpace (c : Char) : Bool := c = ' ' || c = '\t'

def endsLine : Text → Bool
  | [] => true
  | c :: _ => isBreak c

def endsWord : Text → Bool
  | [] => true
  | c :: _ => c = ' ' || isBreak c

def startsBlank : Text → Bool
  | [] => true
  | c :: _ => isSpace c || isBreak c

def isSeparator : Text → Bool
  | '-' :: '-' :: '-' :: rest | '.' :: '.' :: '.' :: rest => startsBlank rest
  | _ => false

def joined (first : Char) (more : Text) : Text :=
  if first ≠ '\n' then first :: more else if more.isEmpty then [' '] else more

def afterLine? (text : Text) : Option Text :=
  let text := text.dropWhile (· = ' ')
  let text := if text.head? = some '#' then text.dropWhile (!isBreak ·) else text
  if endsLine text then some (text.drop 1) else none

structure Position where
  index : Nat := 0
  line : Nat := 0
  column : Nat := 0
  deriving DecidableEq, Repr

def Position.after (p : Position) (c : Char) : Position :=
  if isBreak c then ⟨p.index + 1, p.line + 1, 0⟩
  else ⟨p.index + 1, p.line, if c = '\ufeff' then p.column else p.column + 1⟩

end TopicRouting.Yaml
