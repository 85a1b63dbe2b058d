import TopicRouting.Json.Reader
import TopicRouting.Yaml.Fault
import TopicRouting.Yaml.Line

/-! Texts between quotation marks. Where such a text goes over several lines, blanks at the
ends of lines do not count. -/
namespace TopicRouting.Yaml.Quoted

inductive Gap where
  | blanks (seen : Text)
  | lines (first : Option Char) (more : Text) (atStart : Bool)

def Gap.text : Gap → Text
  | blanks seen => seen
  | lines none more _ => more
  | lines (some first) more _ => joined first more

def Gap.grow? (c : Char) : Gap → Option Gap
  | blanks seen =>
      if isSpace c then some (blanks (seen ++ [c]))
      else if isBreak c then some (lines (some (shownBreak c)) [] true)
      else none
  | lines first more _ =>
      if isSpace c then some (lines first more false)
      else if isBreak c then some (lines first (more ++ [shownBreak c]) true)
      else none

def Gap.isCut (rest : Text) : Gap → Bool
  | lines _ _ true => isSeparator rest
  | _ => false

def escapes : List (Char × Char) :=
  [('0', '\x00'), ('a', '\x07'), ('b', '\x08'), ('t', '\t'), ('\t', '\t'), ('n', '\n'),
    ('v', '\x0b'), ('f', '\x0c'), ('r', '\r'), ('e', '\x1b'), (' ', ' '), ('"', '"'),
    ('\\', '\\'), ('/', '/'), ('N', '\x85'), ('_', '\xa0'), ('L', '\u2028'), ('P', '\u2029')]

def codeLengths : List (Char × Nat) := [('x', 2), ('u', 4), ('U', 8)]

def readCode : Nat → Text → Except Fault Nat
  | 0, _ => .ok 0
  | _ + 1, [] => .error .endOfText
  | count + 1, c :: rest =>
      match Json.hexDigit? c with
      | none => .error .badToken
      | some digit => (readCode count rest).map (digit * Nat.pow 16 count + ·)

def largestCode : Nat := 0x7FFFFFFF

def ofCode (code : Nat) : Except Fault Char :=
  if code.isValidChar then .ok (Char.ofNat code)
  else if largestCode < code then .error .tooLarge
  else if 0x110000 ≤ code then .error .noCharacter
  else .error .badToken

def ofHalves? (high : Nat) : Text → Option Nat
  | '\\' :: 'u' :: rest =>
      match readCode 4 rest with
      | .ok low =>
          if 0xD800 ≤ high && high < 0xDC00 && 0xDC00 ≤ low && low < 0xE000 then
            some (0x10000 + (high - 0xD800) * 0x400 + (low - 0xDC00))
          else none
      | .error _ => none
  | _ => none

def escaped : Text → Except Fault (Char × Nat)
  | [] => .error .endOfText
  | c :: rest =>
      match escapes.lookup c, codeLengths.lookup c with
      | some shown, _ => .ok (shown, 1)
      | none, none => .error .badToken
      | none, some count => do
          let code ← readCode count rest
          match if count = 4 then ofHalves? code (rest.drop 4) else none with
          | some whole => .ok (← ofCode whole, 11)
          | none => .ok (← ofCode code, count + 1)

def after (start : Text) (r : Except Fault (Text × Text)) : Except Fault (Text × Text) :=
  r.map fun (text, rest) => (start ++ text, rest)

/-- The text up to the closing mark and what follows it, with a number of characters still to
pass over. A double mark closes texts that it opened, and backslashes count only there; in
others the mark is written twice. -/
def readFrom (double : Bool) : Nat → Gap → Text → Except Fault (Text × Text)
  | _, _, [] => .error .endOfText
  | skipped + 1, gap, _ :: rest => readFrom double skipped gap rest
  | 0, gap, c :: rest =>
      if gap.isCut (c :: rest) then .error .badToken
      else match gap.grow? c with
        | some gap => readFrom double 0 gap rest
        | none =>
            if double then
              if c = '"' then .ok (gap.text, rest)
              else if c = '\\' then
                if rest.head?.any isBreak then
                  after gap.text (readFrom double 1 (.lines none [] true) rest)
                else
                  match escaped rest with
                  | .ok (shown, count) =>
                      after (gap.text ++ [shown]) (readFrom double count (.blanks []) rest)
                  | .error fault => .error fault
              else after (gap.text ++ [c]) (readFrom double 0 (.blanks []) rest)
            else if c = '\'' then
              if rest.head? = some '\'' then
                after (gap.text ++ [c]) (readFrom double 1 (.blanks []) rest)
              else .ok (gap.text, rest)
            else after (gap.text ++ [c]) (readFrom double 0 (.blanks []) rest)

def read (double : Bool) (text : Text) : Except Fault (Text × Text) :=
  readFrom double 0 (.blanks []) text

end TopicRouting.Yaml.Quoted
