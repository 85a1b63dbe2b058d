import TopicRouting.Draft

/-! JSON text of a value, in ASCII. Tuples are written as lists and scalar keys as text.
Byte strings and sets have no JSON form, nor has a mapping with another kind of key. Brackets may
stand inside each other to the limit that the reader has. -/
namespace TopicRouting.Json

structure Layout where
  inside : Nat → Text
  afterComma : Nat → Text

def oneLine : Layout := ⟨fun _ => [], fun _ => [' ']⟩

def indented : Layout :=
  let line (depth : Nat) : Text := '\n' :: List.replicate (2 * depth) ' '
  ⟨line, line⟩

def unitEscape (n : Nat) : Text := "\\u" ++ Text.hex 4 n

def escape (c : Char) : Text :=
  if c = '"' then "\\\""
  else if c = '\\' then "\\\\"
  else if c = '\n' then "\\n"
  else if c = '\r' then "\\r"
  else if c = '\t' then "\\t"
  else if c = '\x08' then "\\b"
  else if c = '\x0c' then "\\f"
  else if ' ' ≤ c ∧ c ≤ '~' then [c]
  else if c.toNat < 0x10000 then unitEscape c.toNat
  else
    let rest := c.toNat - 0x10000
    unitEscape (0xD800 + rest / 0x400) ++ unitEscape (0xDC00 + rest % 0x400)

def string (text : Text) : Text := '"' :: text.flatMap escape ++ ['"']

def number (x : Binary64) : Text :=
  match x.parts with
  | .nan => "NaN"
  | .infinite negative => if negative then "-Infinity" else "Infinity"
  | .finite .. => x.text

def key : Value → Except WriteError Text
  | .text t => .ok t
  | .null => .ok "null"
  | .bool b => .ok (if b then "true" else "false")
  | .int i => Number.write i
  | .float x => .ok (number x)
  | _ => .error .noForm

/-- How values without a JSON form are treated: refused, or written as their plain text. -/
inductive Unwritable where
  | refused
  | asText
  deriving DecidableEq, Repr

def Unwritable.write (u : Unwritable) (room : Nat) (v : Value) : Except WriteError Text :=
  if room < 2 then .error .tooDeep
  else match u with
    | refused => .error .noForm
    | asText => (v.plainWithin (room - 2)).map string

def lead (before : Text) : Value → Draft
  | .int i => .ofResult ((Number.write i).map fun _ => before)
  | _ => .done before

mutual

def writeAt (layout : Layout) (other : Unwritable) (depth room : Nat) : Value → Draft
  | .null => .done "null"
  | .bool b => .done (if b then "true" else "false")
  | .int i => .ofResult (Number.write i)
  | .float x => .done (number x)
  | .text t => .done (string t)
  | .list xs | .tuple xs =>
      if room = 0 then .stop .tooDeep
      else if xs.isEmpty then .done "[]"
      else
        writeItems layout other depth (room - 1) ('[' :: layout.inside depth) xs ++
          .done (layout.inside (depth - 1) ++ [']'])
  | .dict kvs =>
      if room = 0 then .stop .tooDeep
      else if kvs.isEmpty then .done "\x7b\x7d"
      else
        .done ('\x7b' :: layout.inside depth) ++
          writeMembers layout other depth (room - 1) [] kvs ++
          .done (layout.inside (depth - 1) ++ ['\x7d'])
  | v => .ofResult (other.write room v)

def writeItems (layout : Layout) (other : Unwritable) (depth room : Nat) (before : Text) :
    List Value → Draft
  | [] => .done []
  | x :: xs =>
      lead before x ++ writeAt layout other (depth + 1) room x ++
        writeItems layout other depth room (',' :: layout.afterComma depth) xs

def writeMembers (layout : Layout) (other : Unwritable) (depth room : Nat) (before : Text) :
    List (Value × Value) → Draft
  | [] => .done []
  | (k, v) :: kvs =>
      .ofResult ((key k).map fun name => before ++ string name ++ ": ") ++
        writeAt layout other (depth + 1) room v ++
        writeMembers layout other depth room (',' :: layout.afterComma depth) kvs

end

def write (v : Value) : Except WriteError Text := (writeAt oneLine .refused 1 depthLimit v).result

def writeLenient (v : Value) : Except WriteError Text :=
  (writeAt oneLine .asText 1 depthLimit v).result

def draftIndented (v : Value) : Draft := writeAt indented .refused 1 depthLimit v

def writeIndented (v : Value) : Except WriteError Text := (draftIndented v).result

end TopicRouting.Json
