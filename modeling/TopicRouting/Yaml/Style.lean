import TopicRouting.Yaml.Line
import TopicRouting.Yaml.Tag

/-! The ways of writing a text in a document: as it is, between single marks, or between double
marks with escapes. Lines that have grown past a width go on in the next line at a blank. -/
namespace TopicRouting.Yaml

inductive Style where
  | plain
  | single
  | double
  deriving DecidableEq, Repr

structure Place where
  column : Nat
  indent : Nat
  breaks : Bool

def bestWidth : Nat := 80

def spaces (count : Nat) : Text := List.replicate count ' '

def newLine (indent : Nat) : Text := '\n' :: spaces indent

namespace Style

def indicators : Text := "#,[]\x7b\x7d&*!|>'\"%@\x60"

def startsIndicator : Text → Bool
  | [] => false
  | c :: rest =>
      indicators.contains c || ((c = '-' || c = '?' || c = ':') && startsBlank rest)

def holdsIndicator : Text → Bool
  | before :: c :: rest =>
      (c = ':' && startsBlank rest) || (c = '#' && startsBlank [before]) ||
        holdsIndicator (c :: rest)
  | _ => false

def hasIndicator (text : Text) : Bool :=
  startsIndicator text || holdsIndicator text ||
    List.isPrefixOf "---".toList text || List.isPrefixOf "...".toList text

def isSpecial (c : Char) : Bool := c ≠ '\n' && !(' ' ≤ c && c ≤ '~')

def hasBlankBreak : Text → Bool
  | a :: b :: rest => (a = ' ' && b = '\n') || (a = '\n' && b = ' ') || hasBlankBreak (b :: rest)
  | _ => false

def hasBlankEnd (text : Text) : Bool :=
  let isBlank (c : Char) : Bool := c = ' ' || c = '\n'
  text.head?.any isBlank || text.getLast?.any isBlank

def ofText (isKey : Bool) (text : Text) : Style :=
  let lines := text.contains '\n'
  let special := text.any isSpecial || hasBlankBreak text
  if Tag.ofWord text = .string && !lines && !special && !hasBlankEnd text && !hasIndicator text then
    plain
  else if special || (isKey && lines) then double
  else single

def writePlain (place : Place) (column : Nat) (gap : Nat) : Text → Text
  | [] => spaces gap
  | ' ' :: rest => writePlain place column (gap + 1) rest
  | c :: rest =>
      if gap = 1 && place.breaks && bestWidth < column then
        newLine place.indent ++ c :: writePlain place (place.indent + 1) 0 rest
      else spaces gap ++ c :: writePlain place (column + gap + 1) 0 rest

/-- A text between single marks, after some spaces or some line breaks. A mark in it is written
twice, a row of line breaks with one more, and no line ends at the first blank. -/
def writeSingle (place : Place) (column gap lines : Nat) (atStart : Bool) : Text → Text
  | [] =>
      if lines = 0 then spaces gap
      else List.replicate (lines + 1) '\n' ++ spaces place.indent
  | c :: rest =>
      if c = ' ' then writeSingle place column (gap + 1) 0 atStart rest
      else if c = '\n' then writeSingle place column 0 (lines + 1) false rest
      else
        let shown : Text := if c = '\'' then ['\'', '\''] else [c]
        if 0 < lines then
          List.replicate (lines + 1) '\n' ++ spaces place.indent ++ shown ++
            writeSingle place (place.indent + shown.length) 0 0 false rest
        else if gap = 1 && place.breaks && !atStart && bestWidth < column then
          newLine place.indent ++ shown ++
            writeSingle place (place.indent + shown.length) 0 0 false rest
        else
          spaces gap ++ shown ++ writeSingle place (column + gap + shown.length) 0 0 false rest

def letters : List (Char × Char) :=
  [('\x00', '0'), ('\x07', 'a'), ('\x08', 'b'), ('\t', 't'), ('\n', 'n'), ('\x0b', 'v'),
    ('\x0c', 'f'), ('\r', 'r'), ('\x1b', 'e'), ('"', '"'), ('\\', '\\'), ('\x85', 'N'),
    ('\xa0', '_'), ('\u2028', 'L'), ('\u2029', 'P')]

def escape? (c : Char) : Option Text :=
  match letters.lookup c with
  | some letter => some ['\\', letter]
  | none =>
      if ' ' ≤ c && c ≤ '~' then none
      else
        let code (width : Nat) : Text := (Text.hex width c.toNat).map Char.toUpper
        if c ≤ '\xff' then some ('\\' :: 'x' :: code 2)
        else if c ≤ '\uffff' then some ('\\' :: 'u' :: code 4)
        else some ('\\' :: 'U' :: code 8)

/-- A text between double marks. Past the width a line ends with a backslash before a space,
after an escape or at the character after one, but not at the ends of the text; a space at the
start of the next line has a backslash too. -/
def writeDouble (place : Place) (column : Nat) (atStart afterEscape : Bool) : Text → Text
  | [] => []
  | c :: rest =>
      let mayBreak := place.breaks && !atStart && !rest.isEmpty
      match escape? c with
      | some shown =>
          let column := column + shown.length
          if mayBreak && bestWidth + 1 < column then
            if rest.head? = some ' ' then
              shown ++ '\\' :: newLine place.indent ++
                '\\' :: writeDouble place (place.indent + 1) false true rest
            else
              shown ++ '\\' :: newLine place.indent ++
                writeDouble place place.indent false true rest
          else shown ++ writeDouble place column false true rest
      | none =>
          if mayBreak && (c = ' ' || afterEscape) && bestWidth < column then
            if c = ' ' then
              '\\' :: newLine place.indent ++
                '\\' :: c :: writeDouble place (place.indent + 2) false false rest
            else
              '\\' :: newLine place.indent ++
                c :: writeDouble place (place.indent + 1) false false rest
          else c :: writeDouble place (column + 1) false false rest

def write (place : Place) (text : Text) : Style → Text
  | plain => writePlain place place.column 0 text
  | single => '\'' :: writeSingle place (place.column + 1) 0 0 true text ++ ['\'']
  | double => '"' :: writeDouble place (place.column + 1) true false text ++ ['"']

end Style
end TopicRouting.Yaml
