import TopicRouting.Yaml.Fault
import TopicRouting.Yaml.Line

/-! Texts that are kept line by line under a header: all lines at one indent, joined by their
line breaks or folded together. The header may give the indent, and says whether the line breaks
at the end of the text count. -/
namespace TopicRouting.Yaml.Block

inductive Ending where
  | one
  | none
  | all
  deriving DecidableEq, Repr

structure Header where
  ending : Ending := .one
  indent : Option Nat := Option.none
  deriving DecidableEq, Repr

def ending? : Text → Option (Ending × Text)
  | '+' :: rest => some (.all, rest)
  | '-' :: rest => some (.none, rest)
  | _ => Option.none

def indent? : Text → Option (Nat × Text)
  | c :: rest => if c.isDigit then some (c.toNat - '0'.toNat, rest) else Option.none
  | [] => Option.none

def signs (text : Text) : Header × Text :=
  match ending? text with
  | some (ending, rest) =>
      match indent? rest with
      | some (indent, rest) => (⟨ending, some indent⟩, rest)
      | Option.none => (⟨ending, Option.none⟩, rest)
  | Option.none =>
      match indent? text with
      | some (indent, rest) =>
          match ending? rest with
          | some (ending, rest) => (⟨ending, some indent⟩, rest)
          | Option.none => (⟨.one, some indent⟩, rest)
      | Option.none => ({}, text)

def readHeader (text : Text) : Except Fault (Header × Text) :=
  let (header, rest) := signs text
  if header.indent = some 0 || !endsWord rest then .error .badToken
  else match afterLine? rest with
    | some rest => .ok (header, rest)
    | none => .error .badToken

def blankLines (column deepest : Nat) : Text → Text × Nat × Nat × Text
  | [] => ([], deepest, column, [])
  | c :: rest =>
      if c = ' ' then blankLines (column + 1) (max deepest (column + 1)) rest
      else if isBreak c then
        let (more, found) := blankLines 0 deepest rest
        (shownBreak c :: more, found)
      else ([], deepest, column, c :: rest)

def gap (indent column : Nat) : Text → Text × Nat × Text
  | [] => ([], column, [])
  | c :: rest =>
      if isBreak c then
        let (more, found) := gap indent 0 rest
        (shownBreak c :: more, found)
      else if c = ' ' && column < indent then gap indent (column + 1) rest
      else ([], column, c :: rest)

structure Lines where
  text : Text
  first : Text
  others : Text
  rest : Text

def joint (folds : Bool) (line first others next : Text) : Text :=
  let isDeep (text : Text) : Bool := text.head?.any isSpace
  if folds && first = ['\n'] && !isDeep line && !isDeep next then
    if others.isEmpty then [' '] else others
  else first ++ others

def readLines (folds : Bool) (indent : Nat) : Nat → Text → Lines
  | 0, text => ⟨[], [], [], text⟩
  | fuel + 1, text =>
      let line := text.takeWhile (!isBreak ·)
      let after := text.dropWhile (!isBreak ·)
      let first := (after.take 1).map shownBreak
      let (others, column, rest) := gap indent 0 (after.drop 1)
      if column = indent && !rest.isEmpty then
        let more := readLines folds indent fuel rest
        { more with text := line ++ joint folds line first others rest ++ more.text }
      else ⟨line, first, others, rest⟩

def Lines.shown (lines : Lines) (ending : Ending) : Text :=
  match ending with
  | .none => lines.text
  | .one => lines.text ++ lines.first
  | .all => lines.text ++ lines.first ++ lines.others

/-- A text after the sign that starts its header, and what follows it. It stands at least at the
given column; without an indent of its own, where its first line does. -/
def read (folds : Bool) (least : Nat) (text : Text) : Except Fault (Text × Text) := do
  let (header, rest) ← readHeader text
  let least := max least 1
  let (indent, breaks, column, rest) := match header.indent with
    | some more =>
        let indent := least + more - 1
        (indent, gap indent 0 rest)
    | none =>
        let (breaks, deepest, found) := blankLines 0 0 rest
        (max least deepest, breaks, found)
  let lines : Lines :=
    if column = indent && !rest.isEmpty then
      let lines := readLines folds indent rest.length rest
      { lines with text := breaks ++ lines.text }
    else ⟨[], [], breaks, rest⟩
  .ok (lines.shown header.ending, lines.rest)

end TopicRouting.Yaml.Block
