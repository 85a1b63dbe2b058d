import TopicRouting.Yaml.Block
import TopicRouting.Yaml.Plain
import TopicRouting.Yaml.Property
import TopicRouting.Yaml.Quoted

/-! A document as a list of tokens. Lines that are set further in, and keys, show where blocks
start and end; a key is known by the colon after it, so its mark is put in when that is read.
A token counts from when no mark can come before it any more. -/
namespace TopicRouting.Yaml

inductive Token where
  | directive (what : Directive)
  | documentStart
  | documentEnd
  | streamEnd
  | listBlock
  | mappingBlock
  | blockEnd
  | openList
  | closeList
  | openMapping
  | closeMapping
  | item
  | comma
  | key
  | value
  | alias (name : Text)
  | anchor (name : Text)
  | tag (name : TagName)
  | scalar (text : Text) (isPlain : Bool)
  deriving DecidableEq, Repr

structure KeyStart where
  token : Nat
  required : Bool
  position : Position

def KeyStart.isOver (p : Position) (k : KeyStart) : Bool :=
  k.position.line ≠ p.line || k.position.index + 1024 < p.index

/-- How far a document has been cut into tokens. The latest token, the innermost block and the
innermost pair of brackets come first. -/
structure Cursor where
  rest : Text
  cut : Option Fault := none
  position : Position := {}
  tokens : List Token := []
  blocks : List Nat := []
  keyStart : Option KeyStart := none
  outerKeys : List (Option KeyStart) := []
  keyAllowed : Bool := true
  isBroken : Bool := false

namespace Cursor

def column (s : Cursor) : Nat := s.position.column

def isInside (s : Cursor) : Bool := !s.outerKeys.isEmpty

def isDeeper (s : Cursor) (column : Nat) : Bool := s.blocks.head?.all (· < column)

def leastColumn (s : Cursor) : Nat := (s.blocks.head?.map (· + 1)).getD 0

def emit (token : Token) (s : Cursor) : Cursor := { s with tokens := token :: s.tokens }

def moveTo (rest : Text) (s : Cursor) : Cursor :=
  let passed := s.rest.take (s.rest.length - rest.length)
  { s with rest := rest, position := passed.foldl Position.after s.position }

def move (count : Nat) (s : Cursor) : Cursor := s.moveTo (s.rest.drop count)

def closeBlocks (isPast : Nat → Bool) (s : Cursor) : Cursor :=
  if s.isInside then s
  else
    let closed := s.blocks.takeWhile isPast
    { s with
      tokens := closed.map (fun _ => Token.blockEnd) ++ s.tokens
      blocks := s.blocks.drop closed.length }

def dropKey (s : Cursor) : Except Fault Cursor :=
  if s.keyStart.any KeyStart.required then .error .badToken
  else .ok { s with keyStart := none }

def dropOver (s : Cursor) : Except Fault Cursor :=
  let isOver (k : Option KeyStart) : Bool := k.any (KeyStart.isOver s.position)
  let starts := s.keyStart :: s.outerKeys
  if starts.any fun k => isOver k && k.any KeyStart.required then .error .badToken
  else
    .ok
      { s with
        keyStart := if isOver s.keyStart then none else s.keyStart
        outerKeys := s.outerKeys.map fun k => if isOver k then none else k }

def noteKey (s : Cursor) : Except Fault Cursor := do
  if s.keyAllowed then
    let s ← s.dropKey
    let required := !s.isInside && s.blocks.head? == some s.column
    .ok { s with keyStart := some ⟨s.tokens.length, required, s.position⟩ }
  else .ok s

def insert (before : Nat) (added : Token) (s : Cursor) : Cursor :=
  let later := s.tokens.length - before
  { s with tokens := s.tokens.take later ++ added :: s.tokens.drop later }

def openBlock (token : Token) (column before : Nat) (s : Cursor) : Cursor :=
  if !s.isInside && s.isDeeper column then
    { s.insert before token with blocks := column :: s.blocks }
  else s

def afterBlanks (inComment : Bool) : Text → Bool × Text
  | [] => (false, [])
  | c :: rest =>
      if isBreak c then (true, (afterBlanks false rest).2)
      else if inComment || c = '#' then afterBlanks true rest
      else if c = ' ' then afterBlanks false rest
      else (false, c :: rest)

def checkCut (s : Cursor) : Except Fault Cursor :=
  match s.cut with
  | some fault => if s.rest.isEmpty then .error fault else .ok s
  | none => .ok s

def advance (s : Cursor) : Except Fault Cursor := do
  let (broke, rest) := afterBlanks false s.rest
  let s ← (s.moveTo rest).checkCut
  let s ← { s with keyAllowed := s.keyAllowed || (broke && !s.isInside) }.dropOver
  .ok (s.closeBlocks (s.column < ·))

def bracket (token : Token) (s : Cursor) : Except Fault Cursor := do
  let s ← s.noteKey
  .ok
    { s.emit token |>.move 1 with
      outerKeys := s.keyStart :: s.outerKeys
      keyStart := none
      keyAllowed := true }

def closeBracket (token : Token) (s : Cursor) : Except Fault Cursor := do
  let s ← s.dropKey
  let next := { s.emit token |>.move 1 with keyAllowed := false }
  match s.outerKeys with
  | [] => .ok { next with isBroken := true }
  | key :: outer => .ok { next with keyStart := key, outerKeys := outer }

def comma (s : Cursor) : Except Fault Cursor := do
  let s ← s.dropKey
  .ok { s.emit .comma |>.move 1 with keyAllowed := true }

def mark (block token : Token) (allowsKey : Bool) (s : Cursor) : Except Fault Cursor := do
  if !s.isInside && !s.keyAllowed then .error .badToken
  else
    let s ← (s.openBlock block s.column s.tokens.length).dropKey
    .ok { s.emit token |>.move 1 with keyAllowed := allowsKey }

def colon (s : Cursor) : Except Fault Cursor :=
  match s.keyStart with
  | some k =>
      let s := (s.insert k.token .key).openBlock .mappingBlock k.position.column k.token
      .ok { s.emit .value |>.move 1 with keyStart := none, keyAllowed := false }
  | none => s.mark .mappingBlock .value !s.isInside

def part (found : Except Fault (Token × Text)) (s : Cursor) : Except Fault Cursor := do
  let s ← s.noteKey
  let (token, rest) ← found
  .ok { s.emit token |>.moveTo rest with keyAllowed := false }

def plain (s : Cursor) : Except Fault Cursor := do
  let (text, gap) := Plain.read s.isInside s.leastColumn s.rest
  let s ← s.part (.ok (.scalar text true, gap.rest))
  .ok { s with keyAllowed := gap.broke }

def block (folds : Bool) (s : Cursor) : Except Fault Cursor := do
  let s ← s.dropKey
  let (text, rest) ← Block.read folds s.leastColumn (s.rest.drop 1)
  .ok { s.emit (.scalar text false) |>.moveTo rest with keyAllowed := true }

def separate (found : Except Fault (Token × Text)) (s : Cursor) : Except Fault Cursor := do
  let s ← (s.closeBlocks fun _ => true).dropKey
  let (token, rest) ← found
  .ok { s.emit token |>.moveTo rest with keyAllowed := false }

def take (s : Cursor) : Except Fault Cursor :=
  match s.rest with
  | [] => .ok s
  | c :: rest =>
      if s.column = 0 && c = '%' then
        s.separate ((Directive.read rest).map fun (what, rest) => (.directive what, rest))
      else if s.column = 0 && isSeparator s.rest then
        s.separate (.ok (if c = '-' then .documentStart else .documentEnd, s.rest.drop 3))
      else if c = '[' then s.bracket .openList
      else if c = '\x7b' then s.bracket .openMapping
      else if c = ']' then s.closeBracket .closeList
      else if c = '\x7d' then s.closeBracket .closeMapping
      else if c = ',' then s.comma
      else if c = '-' && startsBlank rest then s.mark .listBlock .item true
      else if c = '?' && (s.isInside || startsBlank rest) then
        s.mark .mappingBlock .key !s.isInside
      else if c = ':' && (s.isInside || startsBlank rest) then s.colon
      else if c = '*' || c = '&' then
        s.part ((readName rest).map fun (name, rest) =>
          (if c = '*' then .alias name else .anchor name, rest))
      else if c = '!' then
        s.part ((TagName.read s.rest).map fun (name, rest) => (.tag name, rest))
      else if (c = '|' || c = '>') && !s.isInside then s.block (c = '>')
      else if c = '\'' || c = '"' then
        s.part ((Quoted.read (c = '"') rest).map fun (text, rest) => (.scalar text false, rest))
      else if Plain.starts s.isInside s.rest then s.plain
      else .error .badToken

def settled (s : Cursor) : Nat :=
  let starts := (s.keyStart :: s.outerKeys).filterMap (·.map KeyStart.token)
  starts.foldl min s.tokens.length

def finish (s : Cursor) : Except Fault Cursor := do
  let s ← (s.closeBlocks fun _ => true).dropKey
  .ok (s.emit .streamEnd)

def next (s : Cursor) : Except Fault Cursor := do
  let s ← s.advance
  if s.rest.isEmpty then s.finish
  else
    let s ← s.take
    s.checkCut

def faultOf (s : Cursor) (fault : Fault) : Fault :=
  if fault = .endOfText then s.cut.getD fault else fault

def readAll : Nat → Nat → Cursor → List Token × Option Fault
  | 0, settled, s => (s.tokens.reverse.take settled, some .badToken)
  | fuel + 1, settled, s =>
      match s.next with
      | .error fault => (s.tokens.reverse.take settled, some (s.faultOf fault))
      | .ok s =>
          if s.isBroken || s.tokens.head? = some .streamEnd then (s.tokens.reverse, none)
          else
            match s.dropOver with
            | .error fault => (s.tokens.reverse.take settled, some fault)
            | .ok s => readAll fuel s.settled s

end Cursor

def Token.read (text : Text) (cut : Option Fault) : List Token × Option Fault :=
  let start := match text with
    | '\ufeff' :: rest => rest
    | rest => rest
  Cursor.readAll (text.length + 2) 0 { rest := start, cut := cut }

end TopicRouting.Yaml
