import TopicRouting.Pattern

/-! Parameters as they are given on a command line. -/
namespace TopicRouting.CommandLine

def isMultiName (p : Pattern) (name : Text) : Bool :=
  p.tokens.any fun t => t.kind == .multi && t.name == some name

/-- The parameter of an assignment. The levels of a multi wildcard stand between slashes, and
no text is no levels. -/
def assigned (p : Pattern) (name written : Text) : Value :=
  if isMultiName p name then
    .list (if written.isEmpty then [] else (Segment.levelsOf written).map .text)
  else .text written

def addAssignment (p : Pattern) (params : Dict) (assignment : Text) : Except Error Dict :=
  match Text.cut '=' assignment with
  | none => .error (.parameter (.notAssignment assignment))
  | some (name, written) => .ok (Dict.put params (.text name) (assigned p name written))

def readAssignments (p : Pattern) (given : List Text) : Except Error Dict :=
  given.foldlM (addAssignment p) []

def partsOf : Value → Except Error (List Value)
  | .text t => .ok (t.map fun c => .text [c])
  | .bytes b | .byteArray b => .ok (b.toList.map fun x => .int x.toNat)
  | .list xs | .tuple xs | .set xs => .ok xs
  | .dict d => .ok (d.map (·.1))
  | _ => .error .wrongType

def addGiven (p : Pattern) (params : Dict) : Value → Except Error Dict
  | .text assignment => addAssignment p params assignment
  | .bytes _ | .byteArray _ => .error .wrongType
  | _ => .error .noAttribute

def readGiven (p : Pattern) (given : Value) : Except Error Dict := do
  (← partsOf given).foldlM (addGiven p) []

end TopicRouting.CommandLine
