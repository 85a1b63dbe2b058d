import TopicRouting.Yaml.Line

/-! Texts without marks around them: words with blanks between them, on one line or, if they
stand far enough in, on several. What follows the last word up to the next one or the next sign
is read with the text. -/
namespace TopicRouting.Yaml.Plain

def goesOn (inside : Bool) : Text → Bool
  | [] => false
  | c :: rest =>
      !(isSpace c || isBreak c || (inside && [',', '?', '[', ']', '\x7b', '\x7d'].contains c) ||
        (c = ':' && (startsBlank rest ||
          (inside && (rest.head?.any fun d => [',', '[', ']', '\x7b', '\x7d'].contains d)))))

def word (inside : Bool) : Text → Text × Text
  | [] => ([], [])
  | c :: rest =>
      if goesOn inside (c :: rest) then
        let (more, after) := word inside rest
        (c :: more, after)
      else ([], c :: rest)

def lines (column : Nat) : Text → Option Text × Nat × Text
  | [] => (some [], column, [])
  | c :: rest =>
      if column = 0 && isSeparator (c :: rest) then (none, 0, c :: rest)
      else if c = ' ' then lines (column + 1) rest
      else if isBreak c then
        let (more, found) := lines 0 rest
        (more.map (shownBreak c :: ·), found)
      else (some [], column, c :: rest)

structure Gap where
  shown : Option Text
  broke : Bool
  rest : Text

/-- The gap at the start of a text. A word on a later line belongs to the text before it only if
it stands far enough in, and none starts like a comment. -/
def gap (inside : Bool) (least : Nat) (text : Text) : Gap :=
  let blanks := text.takeWhile (· = ' ')
  match text.dropWhile (· = ' ') with
  | [] => ⟨none, false, []⟩
  | c :: rest =>
      if isBreak c then
        let (more, column, rest) := lines 0 rest
        let goesOn := rest.head? ≠ some '#' && (inside || least ≤ column)
        ⟨if goesOn then more.map (joined (shownBreak c)) else none, true, rest⟩
      else if blanks.isEmpty || c = '#' then ⟨none, false, c :: rest⟩
      else ⟨some blanks, false, c :: rest⟩

def words (inside : Bool) (least : Nat) : Nat → Text → Text × Gap
  | 0, text => ([], ⟨none, false, text⟩)
  | fuel + 1, text =>
      let (first, after) := word inside text
      let found := gap inside least after
      match found.shown with
      | some shown =>
          if goesOn inside found.rest then
            let (others, last) := words inside least fuel found.rest
            (first ++ shown ++ others, last)
          else (first, found)
      | none => (first, found)

def read (inside : Bool) (least : Nat) (text : Text) : Text × Gap :=
  words inside least text.length text

def indicators : Text := "-?:,[]\x7b\x7d#&*!|>'\"%@\x60"

def starts (inside : Bool) : Text → Bool
  | [] => false
  | c :: rest =>
      !(startsBlank [c] || indicators.contains c) ||
        (!startsBlank rest && (c = '-' || (!inside && (c = '?' || c = ':'))))

end TopicRouting.Yaml.Plain
