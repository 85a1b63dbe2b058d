import TopicRouting.Json.Reader
import TopicRouting.Number.Written

/-! Whether a text is a regular expression. Besides what this library writes, one may hold
classes of characters, assertions, back references, named and conditional groups, flags for a
group and repetitions in a range. What stands behind an assertion must have one width. -/
namespace TopicRouting.RegexText

inductive Fault where
  | malformed
  | tooLarge
  | tooManyDigits (count : Nat)
  deriving DecidableEq, Repr

inductive Sign where
  | plain (c : Char)
  | escaped (c : Char)
  deriving DecidableEq, Repr

def signs : Text → Option (List Sign)
  | [] => some []
  | ['\\'] => none
  | '\\' :: c :: rest => (signs rest).map (.escaped c :: ·)
  | c :: rest => (signs rest).map (.plain c :: ·)

structure Width where
  least : Nat
  most : Nat
  deriving DecidableEq, Repr

namespace Width

def bound : Nat := Nat.pow 2 64

def none : Width := ⟨0, 0⟩

def one : Width := ⟨1, 1⟩

def add (a b : Width) : Width := ⟨a.least + b.least, a.most + b.most⟩

def either (a b : Width) : Width := ⟨min a.least b.least, max a.most b.most⟩

def capped (a : Width) : Width := ⟨min a.least bound, min a.most bound⟩

def repeated (a : Width) (least : Nat) (most : Option Nat) : Width :=
  ⟨a.least * least, match most with
    | some n => a.most * n
    | Option.none => if a.most = 0 then 0 else bound⟩

end Width

structure Part where
  isFixed : Bool := false
  width : Width

structure State where
  rest : List Sign
  groups : List (Option Width) := []
  names : List (Text × Nat) := []
  outerGroups : Option Nat := none
  conditions : List Nat := []
  isEven : Bool := true

def State.group (s : State) (number : Nat) : Except Fault Width :=
  match s.groups[number - 1]? with
  | some (some width) =>
      if s.outerGroups.any (· < number) then .error .malformed else .ok width
  | _ => .error .malformed

def run (isOne : Char → Bool) : Nat → List Sign → Text × List Sign
  | count + 1, .plain c :: rest =>
      if isOne c then
        let (more, rest) := run isOne count rest
        (c :: more, rest)
      else ([], .plain c :: rest)
  | _, rest => ([], rest)

def isOctal (c : Char) : Bool := '0' ≤ c && c ≤ '7'

def isHex (c : Char) : Bool := (Json.hexDigit? c).isSome

def ofHex (digits : Text) : Nat :=
  digits.foldl (fun n c => 16 * n + (Json.hexDigit? c).getD 0) 0

def ofOctal (digits : Text) : Nat := digits.foldl (fun n c => 8 * n + (c.toNat - 48)) 0

def controls : List (Char × Nat) :=
  [('a', 7), ('b', 8), ('f', 12), ('n', 10), ('r', 13), ('t', 9), ('v', 11), ('\\', 92)]

def nameUntil (mark : Char) : List Sign → Except Fault (Text × List Sign)
  | [] => .error .malformed
  | .plain c :: rest =>
      if c = mark then .ok ([], rest)
      else do
        let (more, rest) ← nameUntil mark rest
        .ok (c :: more, rest)
  | .escaped c :: rest => do
      let (more, rest) ← nameUntil mark rest
      .ok ('\\' :: c :: more, rest)

def codePoint (count : Nat) (rest : List Sign) : Except Fault (Nat × List Sign) :=
  let (digits, rest) := run isHex count rest
  let code := ofHex digits
  if digits.length < count then .error .malformed
  else if 0x7FFFFFFF < code then .error .tooLarge
  else if 0x110000 ≤ code then .error .malformed
  else .ok (code, rest)

def isCharacterName (name : Text) : Bool :=
  name.head?.any Char.isAlpha && 2 ≤ name.length &&
    name.all fun c => c.isAlphanum || c = ' ' || c = '-'

def character? (c : Char) (rest : List Sign) : Option (Except Fault (Nat × List Sign)) :=
  if c = 'x' then some (codePoint 2 rest)
  else if c = 'u' then some (codePoint 4 rest)
  else if c = 'U' then some (codePoint 8 rest)
  else if c = 'N' then
    some <| match rest with
      | .plain '\x7b' :: rest => do
          let (name, rest) ← nameUntil '\x7d' rest
          if isCharacterName name then .ok (0, rest) else .error .malformed
      | _ => .error .malformed
  else none

inductive Member where
  | character (code : Nat)
  | several

def escapedMember (c : Char) (rest : List Sign) : Except Fault (Member × List Sign) :=
  match controls.lookup c, character? c rest with
  | some code, _ => .ok (.character code, rest)
  | none, some found => found.map fun (code, rest) => (.character code, rest)
  | none, none =>
      if "dDsSwW".toList.contains c then .ok (.several, rest)
      else if isOctal c then
        let (digits, rest) := run isOctal 2 rest
        let code := ofOctal (c :: digits)
        if 0xFF < code then .error .malformed else .ok (.character code, rest)
      else if c.isAlphanum then .error .malformed
      else .ok (.character c.toNat, rest)

def member : Sign → List Sign → Except Fault (Member × List Sign)
  | .plain c, rest => .ok (.character c.toNat, rest)
  | .escaped c, rest => escapedMember c rest

def classEnd (isFirst : Bool) : Nat → List Sign → Except Fault (List Sign)
  | 0, _ | _, [] => .error .malformed
  | fuel + 1, sign :: rest =>
      if sign = .plain ']' && !isFirst then .ok rest
      else do
        let (low, rest) ← member sign rest
        match rest with
        | .plain '-' :: .plain ']' :: rest => .ok rest
        | .plain '-' :: [] => .error .malformed
        | .plain '-' :: last :: rest => do
            let (high, rest) ← member last rest
            match low, high with
            | .character a, .character b =>
                if b < a then .error .malformed else classEnd false fuel rest
            | _, _ => .error .malformed
        | rest => classEnd false fuel rest

def afterClass (rest : List Sign) : Except Fault (List Sign) :=
  let rest := match rest with
    | .plain '^' :: rest => rest
    | rest => rest
  classEnd true (rest.length + 1) rest

def reference (c : Char) (s : State) : Except Fault (Part × State) :=
  let refer (number : Nat) (rest : List Sign) : Except Fault (Part × State) := do
    let width ← s.group number
    .ok ({ width := width }, { s with rest := rest })
  match s.rest with
  | .plain d :: .plain e :: rest =>
      if isOctal c && isOctal d && isOctal e then
        if 0xFF < ofOctal [c, d, e] then .error .malformed
        else .ok ({ width := .one }, { s with rest := rest })
      else if d.isDigit then refer (Text.toNat [c, d]) (.plain e :: rest)
      else refer (Text.toNat [c]) s.rest
  | .plain d :: rest =>
      if d.isDigit then refer (Text.toNat [c, d]) rest else refer (Text.toNat [c]) s.rest
  | _ => refer (Text.toNat [c]) s.rest

def escapedPart (c : Char) (s : State) : Except Fault (Part × State) :=
  match character? c s.rest with
  | some found => found.map fun (_, rest) => ({ width := .one }, { s with rest := rest })
  | none =>
      if "AbBZ".toList.contains c then .ok (⟨true, .none⟩, s)
      else if "dDsSwW".toList.contains c || (controls.lookup c).isSome then
        .ok ({ width := .one }, s)
      else if c = '0' then .ok ({ width := .one }, { s with rest := (run isOctal 2 s.rest).2 })
      else if c.isDigit then reference c s
      else if c.isAlpha then .error .malformed
      else .ok ({ width := .one }, s)

def countLimit : Nat := 4294967295

def count (digits : Text) : Except Fault Nat :=
  if Number.digitLimit < digits.length then .error (.tooManyDigits digits.length)
  else if countLimit ≤ Text.toNat digits then .error .tooLarge
  else .ok (Text.toNat digits)

def bounds? (rest : List Sign) : Option (Except Fault (Nat × Option Nat) × List Sign) :=
  let (low, after) := run Char.isDigit rest.length rest
  let (high, after) := match after with
    | .plain ',' :: after => run Char.isDigit after.length after
    | after => (low, after)
  match after with
  | .plain '\x7d' :: after =>
      if rest.head? = some (.plain '\x7d') then none
      else
        some (do
          let least ← if low.isEmpty then .ok 0 else count low
          if high.isEmpty then .ok (least, none)
          else
            let most ← count high
            if most < least then .error .malformed else .ok (least, some most), after)
  | _ => none

def repetition? (sign : Char) (rest : List Sign) :
    Option (Except Fault (Nat × Option Nat) × List Sign) :=
  if sign = '?' then some (.ok (0, some 1), rest)
  else if sign = '*' then some (.ok (0, none), rest)
  else if sign = '+' then some (.ok (1, none), rest)
  else if sign = '\x7b' then bounds? rest
  else none

def repeatLast (parts : List Part) (bounds : Nat × Option Nat) (rest : List Sign) :
    Except Fault (List Part × List Sign) :=
  match parts with
  | [] => .error .malformed
  | last :: others =>
      if last.isFixed then .error .malformed
      else
        let again : Part := ⟨true, last.width.capped.repeated bounds.1 bounds.2⟩
        let rest := match rest with
          | .plain '?' :: rest | .plain '+' :: rest => rest
          | rest => rest
        .ok (again :: others, rest)

def isName : Text → Bool
  | [] => false
  | c :: rest =>
      let starts (c : Char) : Bool := c.isAlpha || c = '_' || '\x7f' < c
      starts c && rest.all fun c => starts c || c.isDigit

def flags : Text := "iLmsxatu"

def flagRun : List Sign → Text × List Sign
  | .plain c :: rest =>
      if flags.contains c then
        let (more, rest) := flagRun rest
        (c :: more, rest)
      else ([], .plain c :: rest)
  | rest => ([], rest)

def groupFlags (rest : List Sign) : Except Fault (Option Bool × List Sign) :=
  let (on, rest) := flagRun rest
  let kinds := on.filter fun c => "Lau".toList.contains c
  if on.contains 'L' || on.contains 't' || !kinds.all (some · == kinds.head?) then
    .error .malformed
  else
    match rest with
    | .plain ':' :: rest => .ok (if on.contains 'x' then some true else none, rest)
    | .plain '-' :: rest =>
        let (off, rest) := flagRun rest
        if off.isEmpty || (off.any fun c => "Latu".toList.contains c || on.contains c) then
          .error .malformed
        else
          match rest with
          | .plain ':' :: rest =>
              .ok (if on.contains 'x' then some true
                else if off.contains 'x' then some false else none, rest)
          | _ => .error .malformed
    | _ => .error .malformed

def afterComment (mark : Sign) : List Sign → Option (List Sign)
  | [] => none
  | sign :: rest => if sign = mark then some rest else afterComment mark rest

def State.openGroup (s : State) (name : Option Text) : Except Fault (Nat × State) :=
  let number := s.groups.length + 1
  let s := { s with groups := s.groups ++ [none] }
  match name with
  | none => .ok (number, s)
  | some name =>
      if (s.names.lookup name).isSome then .error .malformed
      else .ok (number, { s with names := (name, number) :: s.names })

def State.closeGroup (number : Nat) (width : Width) (s : State) : State :=
  { s with groups := s.groups.set (number - 1) (some width.capped) }

def State.close (s : State) : Except Fault State :=
  match s.rest with
  | .plain ')' :: rest => .ok { s with rest := rest }
  | _ => .error .malformed

def State.condition (s : State) (name : Text) : Except Fault State :=
  let found : Option (Nat × Bool) :=
    if isName name then (s.names.lookup name).map fun number => (number, false)
    else match Number.read name with
      | some (.ofNat (number + 1)) => some (number + 1, true)
      | _ => none
  match found with
  | none => .error .malformed
  | some (number, isNumber) => do
      if s.outerGroups.isSome then
        let _ ← s.group number
        .ok { s with conditions := if isNumber then number :: s.conditions else s.conditions }
      else .ok { s with conditions := if isNumber then number :: s.conditions else s.conditions }

def isBlank (c : Char) : Bool := " \t\n\r\x0b\x0c".toList.contains c

mutual

/-- Choices up to a closing bracket or the end. In verbose ones blanks and comments do not
count. The fuel bounds the number of parts and choices. -/
def choices (isVerbose : Bool) : Nat → State → Except Fault (Width × State)
  | 0, _ => .error .malformed
  | fuel + 1, s => do
      let (first, s) ← parts isVerbose [] fuel s
      match s.rest with
      | .plain '|' :: rest => do
          let (others, s) ← choices isVerbose fuel { s with rest := rest }
          .ok (first.either others, s)
      | _ => .ok (first, s)

def parts (isVerbose : Bool) (before : List Part) : Nat → State → Except Fault (Width × State)
  | 0, _ => .error .malformed
  | fuel + 1, s =>
      let done := (before.foldr (fun part width => width.add part.width) Width.none).capped
      match s.rest with
      | [] => .ok (done, s)
      | .escaped c :: rest => do
          let (part, s) ← escapedPart c { s with rest := rest }
          parts isVerbose (part :: before) fuel s
      | .plain c :: rest =>
          if c = '|' || c = ')' then .ok (done, s)
          else if isVerbose && isBlank c then parts isVerbose before fuel { s with rest := rest }
          else if isVerbose && c = '#' then
            let rest := (afterComment (.plain '\n') rest).getD []
            parts isVerbose before fuel { s with rest := rest }
          else if c = '[' then do
            let rest ← afterClass rest
            parts isVerbose ({ width := .one } :: before) fuel { s with rest := rest }
          else if c = '(' then do
            let (part, s) ← group isVerbose fuel { s with rest := rest }
            parts isVerbose (part.toList ++ before) fuel s
          else if c = '^' || c = '$' then
            parts isVerbose (⟨true, .none⟩ :: before) fuel { s with rest := rest }
          else
            match repetition? c rest with
            | some (bounds, rest) => do
                let (again, rest) ← repeatLast before (← bounds) rest
                parts isVerbose again fuel { s with rest := rest }
            | none => parts isVerbose ({ width := .one } :: before) fuel { s with rest := rest }

def group (isVerbose : Bool) : Nat → State → Except Fault (Option Part × State)
  | 0, _ => .error .malformed
  | fuel + 1, s =>
      match s.rest with
      | .plain '?' :: .plain 'P' :: .plain '<' :: rest => do
          let (name, rest) ← nameUntil '>' rest
          if isName name then captured (some name) isVerbose fuel { s with rest := rest }
          else .error .malformed
      | .plain '?' :: .plain 'P' :: .plain '=' :: rest => do
          let (name, rest) ← nameUntil ')' rest
          match s.names.lookup name with
          | some number => do
              let width ← s.group number
              .ok (some { width := width }, { s with rest := rest })
          | none => .error .malformed
      | .plain '?' :: .plain ':' :: rest | .plain '?' :: .plain '>' :: rest =>
          enclosed isVerbose fuel { s with rest := rest }
      | .plain '?' :: .plain '#' :: rest =>
          match afterComment (.plain ')') rest with
          | some rest => .ok (none, { s with rest := rest })
          | none => .error .malformed
      | .plain '?' :: .plain '=' :: rest | .plain '?' :: .plain '!' :: rest => do
          let (_, s) ← choices isVerbose fuel { s with rest := rest }
          .ok (some { width := .none }, ← s.close)
      | .plain '?' :: .plain '<' :: .plain '=' :: rest
      | .plain '?' :: .plain '<' :: .plain '!' :: rest => do
          let outer := s.outerGroups
          let inner := { s with rest := rest, outerGroups := some (outer.getD s.groups.length) }
          let (width, s) ← choices isVerbose fuel inner
          let isEven := s.isEven && width.least = width.most && width.least ≤ countLimit
          let s ← { s with outerGroups := outer, isEven := isEven }.close
          .ok (some { width := .none }, s)
      | .plain '?' :: .plain '(' :: rest => do
          let (name, rest) ← nameUntil ')' rest
          conditional isVerbose fuel (← { s with rest := rest }.condition name)
      | .plain '?' :: rest => do
          let (verbose, rest) ← groupFlags rest
          enclosed (verbose.getD isVerbose) fuel { s with rest := rest }
      | _ => captured none isVerbose fuel s

def enclosed (isVerbose : Bool) : Nat → State → Except Fault (Option Part × State)
  | 0, _ => .error .malformed
  | fuel + 1, s => do
      let (width, s) ← choices isVerbose fuel s
      .ok (some { width := width }, ← s.close)

def captured (name : Option Text) (isVerbose : Bool) :
    Nat → State → Except Fault (Option Part × State)
  | 0, _ => .error .malformed
  | fuel + 1, s => do
      let (number, s) ← s.openGroup name
      let (width, s) ← choices isVerbose fuel s
      .ok (some { width := width }, (← s.close).closeGroup number width)

def conditional (isVerbose : Bool) : Nat → State → Except Fault (Option Part × State)
  | 0, _ => .error .malformed
  | fuel + 1, s => do
      let (first, s) ← parts isVerbose [] fuel s
      match s.rest with
      | .plain '|' :: rest => do
          let (second, s) ← parts isVerbose [] fuel { s with rest := rest }
          .ok (some { width := first.either second }, ← s.close)
      | _ => .ok (some { width := ⟨0, first.most⟩ }, ← s.close)

end

/-- Checks that a text is a regular expression: that it is one to its end, that all groups named
in conditions exist, and that assertions about what stands before a place have one width. -/
def check (source : Text) : Except Fault Unit := do
  match signs source with
  | none => .error .malformed
  | some signs =>
      let (_, s) ← choices false (4 * signs.length + 4) { rest := signs }
      if s.rest.isEmpty && s.isEven && s.conditions.all (· ≤ s.groups.length) then .ok ()
      else .error .malformed

end TopicRouting.RegexText
