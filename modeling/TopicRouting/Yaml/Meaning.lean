import TopicRouting.Yaml.Node
import TopicRouting.Yaml.Scalar

/-! The value of a tree. A mapping takes over the entries of mappings under its merge keys, and
its own entries go over these. Values are made level by level: of several faults the least deep
one counts, and of those the first. -/
namespace TopicRouting.Yaml.Node

abbrev Found (Result : Type) : Type := Except (Nat × Fault) Result

def both {First Second : Type} : Found First → Found Second → Found (First × Second)
  | .ok a, .ok b => .ok (a, b)
  | .error e, .ok _ | .ok _, .error e => .error e
  | .error e, .error f => .error (if f.1 < e.1 then f else e)

def all {Result : Type} : List (Found Result) → Found (List Result)
  | [] => .ok []
  | r :: rs => (both r (all rs)).map fun (x, xs) => x :: xs

def tag : Node → Tag
  | scalar tag _ | list tag _ | mapping tag _ => tag
  | endless => .other

def asKey : Node → Node
  | scalar .equals text => scalar .string text
  | list .equals items => list .string items
  | mapping .equals entries => mapping .string entries
  | node => node

mutual

def depth : Node → Nat
  | scalar .. | endless => 1
  | list _ items => depths items + 1
  | mapping _ entries => entryDepths entries + 1

def depths : List Node → Nat
  | [] => 0
  | node :: nodes => max node.depth (depths nodes)

def entryDepths : List (Node × Node) → Nat
  | [] => 0
  | (key, node) :: entries => max (max key.depth node.depth) (entryDepths entries)

end

def text : Nat → Node → Except Fault Text
  | _, scalar _ text => .ok text
  | fuel + 1, mapping _ entries =>
      match entries.find? (·.1.tag = .equals) with
      | some (_, node) => text fuel node
      | none => .error .noValue
  | _, _ => .error .noValue

/-- The entries of a mapping after those that it takes over. Of several mappings in a list the
first comes last. -/
def merged : Nat → List (Node × Node) → Except Fault (List (Node × Node))
  | 0, _ => .error .tooDeep
  | fuel + 1, entries => do
      let taken ← entries.mapM fun (key, node) =>
        if key.tag ≠ .merge then .ok []
        else match node with
          | mapping _ inner => merged fuel inner
          | list _ items => do
              let groups ← items.mapM fun
                | mapping _ inner => merged fuel inner
                | _ => .error .noValue
              .ok groups.reverse.flatten
          | _ => .error .noValue
      let own := entries.filter (·.1.tag ≠ .merge)
      .ok (taken.flatten ++ own.map fun (key, node) => (key.asKey, node))

def lastLevel : Nat := Nat.pow 2 64

def entry (level : Nat) (key item : Found Value) : Found (Value × Value) :=
  let key := key.bind fun k => if k.isKey then .ok k else .error (level, .notKey)
  both key item

def ofEntries (level : Nat) (make : Node × Node → Found (Value × Value)) (fuel : Nat)
    (entries : List (Node × Node)) : Found Dict :=
  match merged fuel entries with
  | .error fault => .error (level, fault)
  | .ok entries => (all (entries.map make)).map Dict.ofEntries

def valueAt : Nat → Bool → Nat → Node → Found Value
  | 0, _, level, _ => .error (level, .tooDeep)
  | _ + 1, _, _, endless => .error (lastLevel, .tooDeep)
  | fuel + 1, inKey, level, node =>
      let inner := if inKey then level else level + 1
      let make (entry : Node × Node) : Found (Value × Value) :=
        Node.entry inner (valueAt fuel true inner entry.1) (valueAt fuel inKey inner entry.2)
      let pair (node : Node) : Found Value :=
        match node with
        | mapping _ [(key, item)] =>
            (both (valueAt fuel inKey inner key) (valueAt fuel inKey inner item)).map
              fun (k, v) => .tuple [k, v]
        | _ => .error (inner, .noValue)
      match node.tag, node with
      | .list, list _ items => (all (items.map (valueAt fuel inKey inner))).map .list
      | .mapping, mapping _ entries => (ofEntries inner make fuel entries).map .dict
      | .set, mapping _ entries =>
          (ofEntries inner make fuel entries).map fun d => .set (d.map (·.1))
      | .orderedMap, list _ items | .pairs, list _ items => (all (items.map pair)).map .list
      | .list, _ | .mapping, _ | .set, _ | .orderedMap, _ | .pairs, _ => .error (inner, .noValue)
      | .merge, _ | .equals, _ | .other, _ => .error (level, .noValue)
      | .timestamp, mapping .. =>
          match text fuel node with
          | .ok _ => .error (level, .notText)
          | .error fault => .error (level, fault)
      | tag, node =>
          match (text fuel node).bind (Scalar.read tag) with
          | .ok v => .ok v
          | .error fault => .error (level, fault)

def value (node : Node) : Except Fault Value :=
  (valueAt (node.depth + 1) false 0 node).mapError (·.2)

end TopicRouting.Yaml.Node
