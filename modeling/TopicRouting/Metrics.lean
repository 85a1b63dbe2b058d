import TopicRouting.Label

/-! Counts of what a bus does. Every message received is also dispatched, so one count says
both. -/
namespace TopicRouting

abbrev Tally := List (Text × Nat)

namespace Tally

def count (t : Tally) (name : Text) : Nat :=
  ((List.find? (fun entry => entry.1 == name) t).map (·.2)).getD 0

def add : Tally → Text → Tally
  | [], name => [(name, 1)]
  | (n, k) :: rest, name => if n = name then (n, k + 1) :: rest else (n, k) :: add rest name

def total (t : Tally) : Nat := t.foldr (fun entry n => entry.2 + n) 0

end Tally

structure Metrics where
  received : Nat := 0
  unmatched : Nat := 0
  matched : Tally := []
  published : Tally := []
  failed : Tally := []
  subscriptions : Nat := 0
  deriving DecidableEq, Repr

namespace Metrics

/-- Counts a message and where it went. The label null counts as none. -/
def receive (m : Metrics) : Option Label → Metrics
  | none | some .null => { m with received := m.received + 1, unmatched := m.unmatched + 1 }
  | some label => { m with received := m.received + 1, matched := m.matched.add label.shown }

def publish (m : Metrics) (label : Label) : Metrics :=
  { m with published := m.published.add label.shown }

def fail (m : Metrics) (label : Label) : Metrics :=
  { m with failed := m.failed.add label.shown }

def labelled (name : Text) (t : Tally) : List (Text × Nat) :=
  t.map fun (label, n) => (name ++ "\x7b" ++ label ++ "\x7d", n)

def samples (m : Metrics) : List (Text × Nat) :=
  let plain : List (Text × Nat) :=
    [("topicbus_dispatch_seconds_count", m.received),
      ("topicbus_messages_received_total", m.received),
      ("topicbus_messages_unmatched_total", m.unmatched),
      ("topicbus_subscriptions", m.subscriptions)]
  plain ++ labelled "topicbus_messages_matched_total" m.matched ++
  labelled "topicbus_messages_published_total" m.published ++
  labelled "topicbus_publish_failures_total" m.failed

end Metrics
end TopicRouting
