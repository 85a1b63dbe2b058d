import TopicRouting.Draft
import TopicRouting.Text.Base64
import TopicRouting.Yaml.Style

/-! Writes mappings as YAML documents: one entry or item a line, each deeper mapping two columns
further in, the items of a list in the column of its key, and only what is empty in brackets.
Byte strings and sets have a tag before them. -/
namespace TopicRouting.Yaml

def writeNumber (x : Binary64) : Text :=
  match x.parts with
  | .nan => ".nan"
  | .infinite negative => if negative then "-.inf" else ".inf"
  | .finite .. =>
      let shown := x.text
      if shown.contains '.' then shown
      else shown.flatMap fun c => if c = 'e' then ".0e".toList else [c]

def word? : Value → Option (Text × Nat)
  | .null => some ("null", 6)
  | .bool b => some (if b then "true" else "false", 6)
  | .int i => some (Text.ofInt i, 5)
  | .float x => some (writeNumber x, 7)
  | .date d => some (d.text, 11)
  | .moment m => some (m.text, 11)
  | _ => none

def scalar (isKey : Bool) (place : Place) : Value → Except WriteError Text
  | .text t => .ok ((Style.ofText isKey t).write place t)
  | .int i => Number.write i
  | v => match word? v with
      | some (shown, _) => .ok shown
      | none => .error .noForm

def keyWidth : Nat := 128

def hasBreak (text : Text) : Bool := text.any fun c => c ≠ '\r' && isBreak c

def shortKey? (column : Nat) : Value → Option Text
  | .text t =>
      if t.isEmpty || hasBreak t || keyWidth ≤ t.length + 5 then none
      else some ((Style.ofText true t).write ⟨column, column, false⟩ t)
  | .tuple [] => some "[]"
  | v => do
      let (shown, tag) ← word? v
      if keyWidth ≤ shown.length + tag then none else some shown

def bytesWidth : Nat := 76

def pieces (width : Nat) : Nat → Text → List Text
  | 0, _ | _, [] => []
  | fuel + 1, text => text.take width :: pieces width fuel (text.drop width)

def writeBytes (indent : Nat) (bytes : ByteArray) : Text :=
  let shown := Text.Base64.encode bytes.toList
  if shown.isEmpty then " !!binary \"\""
  else
    " !!binary |" ++
      (pieces bytesWidth shown.length shown).flatMap fun line => newLine indent ++ line

def joinLines (indent : Nat) (lines : List Text) : Text := Text.join (newLine indent) lines

mutual

def writeAfter (goesOn : Bool) (indent column : Nat) : Value → Except WriteError Text
  | .list [] | .tuple [] => .ok " []"
  | .dict [] => .ok " \x7b\x7d"
  | .list xs | .tuple xs =>
      if goesOn then (writeItems (indent + 2) xs).map fun lines =>
        ' ' :: joinLines (indent + 2) lines
      else (writeItems indent xs).map fun lines => newLine indent ++ joinLines indent lines
  | .dict kvs =>
      (writeEntries (indent + 2) kvs).map fun lines =>
        (if goesOn then [' '] else newLine (indent + 2)) ++ joinLines (indent + 2) lines
  | .set [] => .ok " !!set \x7b\x7d"
  | .set xs =>
      (writeMembers (indent + 2) xs).map fun lines =>
        " !!set" ++ newLine (indent + 2) ++ joinLines (indent + 2) lines
  | .bytes b => .ok (writeBytes (indent + 2) b)
  | v => (scalar false ⟨column + 1, indent + 2, true⟩ v).map (' ' :: ·)

def writeItems (indent : Nat) : List Value → Except WriteError (List Text)
  | [] => .ok []
  | x :: xs => do
      let first ← writeAfter true indent (indent + 1) x
      let others ← writeItems indent xs
      .ok (('-' :: first) :: others)

def writeEntries (indent : Nat) : List (Value × Value) → Except WriteError (List Text)
  | [] => .ok []
  | (k, v) :: kvs => do
      let lines ← match shortKey? indent k with
        | some name =>
            (writeAfter false indent (indent + name.length + 1) v).map fun shown =>
              [name ++ ':' :: shown]
        | none => do
            let name ← writeAfter true indent (indent + 1) k
            let shown ← writeAfter true indent (indent + 1) v
            .ok ['?' :: name, ':' :: shown]
      let others ← writeEntries indent kvs
      .ok (lines ++ others)

def writeMembers (indent : Nat) : List Value → Except WriteError (List Text)
  | [] => .ok []
  | x :: xs => do
      let lines ← match shortKey? indent x with
        | some name => .ok [name ++ ": null"]
        | none => (writeAfter true indent (indent + 1) x).map fun name => ['?' :: name, ": null"]
      let others ← writeMembers indent xs
      .ok (lines ++ others)

end

def write (d : Dict) : Except WriteError Text :=
  if d.isEmpty then .ok "\x7b\x7d\n"
  else (writeEntries 0 d).map fun lines => joinLines 0 lines ++ ['\n']

end TopicRouting.Yaml
