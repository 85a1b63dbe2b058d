import TopicRouting.Message

/-! A router holds labelled patterns in the order of their registration, and the listeners of
each label. The first pattern that matches a topic takes the message. A label finds what was
registered under the same label, which need not be written in the same way. -/
namespace TopicRouting

abbrev ListenerId := Text

/-- One registration of a listener. The serial number tells registrations of one listener
apart. -/
structure Registration where
  listener : ListenerId
  once : Bool
  serial : Nat
  deriving DecidableEq, Repr

structure Router where
  entries : List (Label × Pattern) := []
  listeners : List (Label × List Registration) := []
  registered : Nat := 0
  deriving DecidableEq

namespace Router

structure Found where
  label : Label
  pattern : Pattern
  params : Params

def has (r : Router) (label : Label) : Bool := r.listeners.any (·.1.same label)

def size (r : Router) : Nat := r.entries.length

def isEmpty (r : Router) : Bool := r.entries.isEmpty

def labels (r : Router) : List Label := r.entries.map (·.1)

def pattern? (r : Router) (label : Label) : Option Pattern :=
  (r.entries.find? (·.1.same label)).map (·.2)

def get (r : Router) (label : Label) : Except LabelError (Option Pattern) :=
  if r.has label then .ok (r.pattern? label) else .error (.unknown label)

def set (r : Router) (label : Label) (pattern : Pattern) : Except LabelError Router :=
  if r.has label then .error (.inUse label)
  else .ok { r with
    entries := r.entries ++ [(label, pattern)]
    listeners := r.listeners ++ [(label, [])] }

def setValue (r : Router) (label : Label) (given : Value) : Except Error (Router × Pattern) :=
  if r.has label then .error (.label (.inUse label))
  else do
    let pattern ← Pattern.ofValue given
    let r ← (r.set label pattern).mapError .label
    .ok (r, pattern)

def remove (r : Router) (label : Label) : Except LabelError Router :=
  if r.has label then .ok { r with
    entries := r.entries.filter (!·.1.same label)
    listeners := r.listeners.filter (!·.1.same label) }
  else .error (.unknown label)

def change (r : Router) (label : Label) (f : List Registration → List Registration) : Router :=
  { r with
    listeners := r.listeners.map fun (l, regs) => (l, if l.same label then f regs else regs) }

def registrations (r : Router) (label : Label) : List Registration :=
  ((r.listeners.find? (·.1.same label)).map (·.2)).getD []

def listen (r : Router) (label : Label) (listener : ListenerId) (once : Bool) :
    Except LabelError Router :=
  if r.has label then
    let added := r.change label (· ++ [⟨listener, once, r.registered⟩])
    .ok { added with registered := r.registered + 1 }
  else .error (.invalid label)

def unlisten (r : Router) (label : Label) (listener : ListenerId) : Except LabelError Router :=
  if r.has label then .ok (r.change label (·.eraseP (·.listener == listener)))
  else .error (.invalid label)

def clear (r : Router) (label : Label) : Except LabelError Router :=
  if r.has label then .ok (r.change label fun _ => []) else .error (.invalid label)

def clearAll (r : Router) : Router :=
  { r with listeners := r.listeners.map fun (label, _) => (label, []) }

def clearFor (r : Router) : Option Label → Except LabelError Router
  | some label => r.clear label
  | none => .ok r.clearAll

def listenerCount (r : Router) (label : Label) : Except LabelError Nat :=
  if r.has label then .ok (r.registrations label).length else .error (.invalid label)

def match? (r : Router) (topic : Text) : Option Found :=
  r.entries.findSome? fun (label, pattern) =>
    (pattern.match? topic).map fun params => ⟨label, pattern, params⟩

/-- The registrations that a message of a label goes to, and the router without those that
were made for one message. -/
def take (r : Router) (label : Label) : List Registration × Router :=
  (r.registrations label, r.change label (·.filter fun g => !g.once))

end Router
end TopicRouting
