import TopicRouting.Log
import TopicRouting.Router

/-! What can be asked of a router besides routing a message, and its replies. Changes of the
patterns are logged. -/
namespace TopicRouting.Router

inductive Command where
  | set (label : Label) (pattern : Value)
  | setCompiled (label : Label) (source : Value)
  | remove (label : Label)
  | on (label : Label) (listener : ListenerId)
  | once (label : Label) (listener : ListenerId)
  | off (label : Label) (listener : ListenerId)
  | offAll (label : Option Label)
  | get (label : Label)
  | count (label : Label)
  | labels
  | contains (label : Label)
  | match (topic : Text)

inductive Reply where
  | self
  | pattern (pattern : Option Pattern)
  | count (n : Nat)
  | entries (entries : List (Label × Pattern))
  | contains (answer : Bool)
  | found (found : Option Found)

def registeredRecord (logger : Logger) (label : Label) (pattern : Pattern) : List Record :=
  logger.record? .debug "Pattern registered"
    [(.text "label", label.value), (.text "pattern", .text pattern.source),
      (.text "topic", .text pattern.topic)]

def removedRecord (logger : Logger) (label : Label) : List Record :=
  logger.record? .debug "Pattern removed" [(.text "label", label.value)]

/-- Runs a command: the reply, the router after it and what is logged. A command that fails
changes nothing and logs nothing. -/
def run (logger : Logger) (r : Router) : Command → Except Error (Reply × Router × List Record)
  | .set label given => do
      let (after, pattern) ← r.setValue label given
      .ok (.self, after, registeredRecord logger label pattern)
  | .setCompiled label source => do
      let pattern ← Pattern.ofValue source
      let after ← (r.set label pattern).mapError .label
      .ok (.self, after, registeredRecord logger label pattern)
  | .remove label => do
      let after ← (r.remove label).mapError Error.label
      .ok (.self, after, removedRecord logger label)
  | .on label listener => do
      let after ← (r.listen label listener false).mapError Error.label
      .ok (.self, after, [])
  | .once label listener => do
      let after ← (r.listen label listener true).mapError Error.label
      .ok (.self, after, [])
  | .off label listener => do
      let after ← (r.unlisten label listener).mapError Error.label
      .ok (.self, after, [])
  | .offAll label => do
      let after ← (r.clearFor label).mapError Error.label
      .ok (.self, after, [])
  | .get label => do
      let pattern ← (r.get label).mapError Error.label
      .ok (.pattern pattern, r, [])
  | .count label => do
      let n ← (r.listenerCount label).mapError Error.label
      .ok (.count n, r, [])
  | .labels => .ok (.entries r.entries, r, [])
  | .contains label => .ok (.contains (r.has label), r, [])
  | .match topic => .ok (.found (r.match? topic), r, [])

end TopicRouting.Router
