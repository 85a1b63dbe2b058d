import Mathlib.Tactic.ByContra
import TopicRouting.Proofs.Accepting
import TopicRouting.Proofs.Beginning
import TopicRouting.Proofs.ReadingBack

/-! Publishing through a bus. It asks its client for nothing unless there is a topic for the
parameters, and a message that comes back on that topic is read as what was sent. -/
namespace TopicRouting

namespace Router

theorem dispatchFound (env : Surroundings) (depth calls : Nat) {r : Router} {m : Message}
    {found : Found} (matched : r.match? m.topic = some found) :
    r.dispatch env (depth + 1) calls m = callAll env (dispatch env depth) found.label
      (r.take found.label).1
      ⟨(r.take found.label).2, { m with label := some found.label, params := found.params }, [],
        calls⟩ := by
  rw [dispatch, matched]

end Router

namespace Params

theorem dictDistinct {params : Params} (unique : (params.map Prod.fst).Nodup) :
    params.toDict.Distinct := by
  refine List.pairwise_map.mpr ((List.pairwise_map.mp unique).imp fun {a b} apart => ?_)
  simpa [Value.sameKey] using apart

theorem dictTexts (params : Params) : params.toDict.Texts := by
  intro entry member
  obtain ⟨⟨name, value⟩, _, rfl⟩ := List.mem_map.mp member
  exact ⟨name, rfl⟩

end Params

namespace Dict

def readBack (d : Dict) : Dict := d.map fun (key, v) => (key, v.readBack)

theorem findReadBack (d : Dict) (key : Value) :
    d.readBack.find? key = (d.find? key).map Value.readBack := by
  rw [readBack, find?, find?, List.find?_map, Option.map_map, Option.map_map]
  rfl

theorem readBackDistinct {d : Dict} (distinct : d.Distinct) : d.readBack.Distinct :=
  List.pairwise_map.mpr distinct

theorem readBackTexts {d : Dict} (texts : d.Texts) : d.readBack.Texts := by
  intro entry member
  obtain ⟨entry, inside, rfl⟩ := List.mem_map.mp member
  exact texts entry inside

end Dict

namespace Pattern
open Segment

theorem builtReadsBack {p : Pattern} {d : Dict} (distinct : d.Distinct) (takes : p.Takes d)
    {topic : Text} (built : p.build (.dict d) = .ok topic) :
    ∃ params, p.match? topic = some params ∧ params.toDict.Perm d.readBack := by
  obtain ⟨levels, filled, rfl⟩ := buildOk.mp built
  have same : levelsOf (Text.join "/" levels) = levels :=
    levelsJoin (filledClean p.ordered filled) (filledNonempty filled (acceptedNonempty p.accepted))
  refine ⟨Params.bindAll [] (bindings p.segments levels), ?_, ?_⟩
  · rw [matchLevels, same, if_pos (filledMatches filled)]
  · have unique : ((Params.bindAll [] (bindings p.segments levels)).map Prod.fst).Nodup :=
      Params.bindAllUnique (by simp) _
    refine Dict.permOfFind (Params.dictDistinct unique) (Dict.readBackDistinct distinct)
      (Params.dictTexts _) (Dict.readBackTexts takes.texts) fun name => ?_
    rw [Params.findDict, Params.findBindAll, Dict.findReadBack]
    have keys : (bindings p.segments levels).map Prod.fst = p.names :=
      bindingKeys (filledNamed filled) levels
    cases found : (bindings p.segments levels).reverse.lookup name with
    | some value => rw [filledBindings filled (Params.lookupMember found)]; rfl
    | none =>
      have absent : name ∉ p.names := keys ▸ Params.lookupAbsent found
      cases other : d.find? (.text name) with
      | none => rfl
      | some v =>
        obtain ⟨known, member, same⟩ := (takes.keys (.text name)).mp
          (List.mem_map.mpr ⟨_, Dict.findMember other, rfl⟩)
        cases same
        contradiction

end Pattern

namespace Bus
open Router (Behaviour Dispatched Found Scene)

def Turn.requests (t : Turn) : List (Nat × Broker.Request) :=
  t.outputs.filterMap fun
    | .requested n request => some (n, request)
    | _ => none

theorem Turn.requestsThen (t : Turn) (next : State → Turn) :
    (t.andThen next).requests = t.requests ++ (next t.state).requests := List.filterMap_append

namespace State

variable {s : State} {n : Nat} {label : Label} {p : Pattern}

def given (params : Option Dict) : Value := (params.map .dict).getD .null

theorem topicForGiven (p : Pattern) (params : Option Dict) :
    topicFor p (given params) = topicFor p (.dict (params.getD [])) := by
  cases params <;> rfl

def rejected (s : State) (id : CallId) (label : Label) (cause : ParameterError) : Turn :=
  ⟨(s.countFailure label).dropCall id,
    (s.countFailure label).log .warn "Publish rejected"
        [(.text "label", label.value), (.text "error", .text (Error.parameter cause).message)] ++
      [.finished id (.error (.parameter cause))]⟩

theorem logRequestsNothing (s : State) (severity : Severity) (message : Text) (fields : Dict) :
    (s.log severity message fields).filterMap (fun
      | .requested n request => some (n, request)
      | _ => none) = ([] : List (Nat × Broker.Request)) := by
  rw [log, List.filterMap_map]
  exact List.filterMap_eq_nil_iff.mpr fun _ _ => rfl

theorem rejectedRequests (s : State) (id : CallId) (label : Label) (cause : ParameterError) :
    (s.rejected id label cause).requests = [] := by
  rw [Turn.requests, rejected, List.filterMap_append, logRequestsNothing]
  rfl

theorem requireAvailable (available : s.client = some n)
    (registered : s.router.get label = .ok (some p)) : s.require label = .ok p :=
  requireIff.mpr ⟨by rw [isAvailable, available]; rfl, registered⟩

theorem waitOutputs (s : State) (c : Call) : (s.wait c).requests = [] ∧
    (s.wait c).state.router = s.router := by
  rw [wait]
  cases s.options.patience <;> exact ⟨rfl, rfl⟩

theorem waitForOutputs (s : State) (id : CallId) (purpose : Purpose) (message : Int) :
    (s.waitFor id purpose message).requests = [] ∧
      (s.waitFor id purpose message).state.router = s.router := by
  rw [waitFor]
  split
  · exact ⟨rfl, rfl⟩
  · exact waitOutputs _ _

theorem publishRefused (available : s.client = some n)
    (registered : s.router.get label = .ok (some p)) {params : Option Dict}
    (refused : ¬ ((params.getD []).length = p.parameterCount ∧
      ∃ topic, p.build (.dict (params.getD [])) = .ok topic))
    (id : CallId) (payload : Value) (qos : Option Value) (retain : Value) (answer : Broker.Answer) :
    ∃ cause, s.publish id label (given params) payload qos retain answer =
      s.rejected id label cause := by
  have failed : ∃ e, topicFor p (given params) = .error e := by
    cases result : topicFor p (given params) with
    | error e => exact ⟨e, rfl⟩
    | ok topic =>
      rw [topicForGiven, topicForDict] at result
      split at result
      · rename_i count
        exact absurd ⟨count, topic, result⟩ refused
      · contradiction
  obtain ⟨e, failed⟩ := failed
  obtain ⟨cause, rfl⟩ := topicForRefuses p _ e (topicForGiven p params ▸ failed)
  refine ⟨cause, ?_⟩
  rw [publish, requireAvailable available registered]
  simp only [failed]
  rfl

section accepted

variable {params : Option Dict} {topic : Text} {payload : Value}

theorem topicForBuilt (count : (params.getD []).length = p.parameterCount)
    (built : p.build (.dict (params.getD [])) = .ok topic) :
    topicFor p (given params) = .ok topic := by
  rw [topicForGiven, topicForDict, if_pos count, built]

variable (available : s.client = some n) (registered : s.router.get label = .ok (some p))
  (accepted : topicFor p (given params) = .ok topic)
include available registered accepted

theorem publishAccepted {bytes : ByteArray} (encoded : Payload.encode payload = .ok bytes)
    (id : CallId) (qos : Option Value) (retain : Value) (answer : Broker.Answer) :
    (s.publish id label (given params) payload qos retain answer).requests =
        [(n, .publish topic bytes (s.quality qos) retain)] ∧
      (s.publish id label (given params) payload qos retain answer).state.router = s.router := by
  rw [publish, requireAvailable available registered]
  simp only [accepted, encoded, showing, Turn.andThen, request, available, Option.map_some,
    Option.toList_some, List.singleton_append]
  split
  · exact ⟨rfl, rfl⟩
  · obtain ⟨requests, router⟩ :=
      waitForOutputs s id (.publish label topic (s.quality qos) retain) answer.message
    exact ⟨congrArg ((n, _) :: ·) requests, router⟩

theorem publishUnencoded {e : Error} (failed : Payload.encode payload = .error e) (id : CallId)
    (qos : Option Value) (retain : Value) (answer : Broker.Answer) :
    s.publish id label (given params) payload qos retain answer = s.finish id (.error e) := by
  rw [publish, requireAvailable available registered]
  simp only [accepted, failed]

end accepted

def read (m : Message) (json : Option Value) : Message :=
  { m with json := json, retain := .bool !m.retain.isBlank }

def delivery (s : State) (behaviour : Behaviour) (found : Found) (m : Message) :
    Dispatched × Scene :=
  let env : Router.Surroundings := ⟨behaviour, s.routerLogger, true⟩
  Router.callAll env (Router.dispatch env (Router.depthLimit - 1)) found.label
    (s.router.registrations found.label)
    ⟨(s.router.take found.label).2, { m with label := some found.label, params := found.params },
      [], 0⟩

/- A mapping may have as many entries as there are wildcards because one of its keys is not asked
for. Only then is a pattern with a name that comes twice published. -/
theorem repeatedNeedsOtherKey (available : s.client = some n)
    (registered : s.router.get label = .ok (some p)) (repeated : ¬ p.keys.Nodup)
    (params : Option Dict) (distinct : (params.getD []).Distinct) (id : CallId) (payload : Value)
    (qos : Option Value) (retain : Value) (answer : Broker.Answer) :
    let d := params.getD []
    let turn := s.publish id label (given params) payload qos retain answer
    (∀ topic, d.length = p.parameterCount → p.build (.dict d) = .ok topic →
      (∀ bytes, Payload.encode payload = .ok bytes →
        turn.requests = [(n, .publish topic bytes (s.quality qos) retain)]) ∧
      (∀ e, Payload.encode payload = .error e → turn = s.finish id (.error e)) ∧
      ∃ key ∈ d.map Prod.fst, ∀ name ∈ p.keys, key ≠ .text name) ∧
    (¬ (d.length = p.parameterCount ∧ ∃ topic, p.build (.dict d) = .ok topic) →
      ∃ cause, turn = s.rejected id label cause ∧ turn.requests = []) := by
  intro d turn
  constructor
  · intro topic count built
    have found := topicForBuilt count built
    refine ⟨fun bytes encoded => ?_, fun e failed => ?_, ?_⟩
    · exact (publishAccepted available registered found encoded id qos retain answer).1
    · exact publishUnencoded available registered found failed id qos retain answer
    by_contra noOther
    refine repeated (Pattern.onceOfCount distinct (fun key member => ?_) count)
    by_contra away
    exact noOther ⟨key, member, fun name inside same => away ⟨name, inside, same⟩⟩
  · intro refused
    obtain ⟨cause, same⟩ := publishRefused available registered refused id payload qos retain answer
    exact ⟨cause, same, (congrArg Turn.requests same).trans (s.rejectedRequests id label cause)⟩

theorem repeatedIsPublished :
    let p : Pattern := ⟨"+id/x/+id", [.single "id", .raw "x", .single "id"], rfl⟩
    let d : Dict := [(.text "id", .text "7"), (.text "more", .text "1")]
    let s : State :=
      { options := ⟨.text "c", .int 60, .int 0, .bool true, .int 10⟩
        settings := ⟨"localhost", 1883, none, none, false⟩
        logger := ⟨.text "bus", .text "INFO"⟩
        routerLogger := ⟨.text "router", .text "INFO"⟩
        router := ⟨[(.text "pair", p)], [(.text "pair", [])], 0⟩
        client := some 0 }
    s.client = some 0 ∧ s.router.get (.text "pair") = .ok (some p) ∧ ¬ p.keys.Nodup ∧
      d.Distinct ∧
      (s.publish 0 (.text "pair") (given (some d)) (.int 1) none (.bool false) {}).requests =
        [(0, .publish "7/x/7" (Payload.bytesOf "1") (.int 0) (.bool false))] := by
  intro p d s
  have registered : s.router.get (.text "pair") = .ok (some p) := rfl
  have repeated : ¬ p.keys.Nodup := by decide
  have distinct : d.Distinct := List.pairwise_pair.mpr (Dict.otherKey (by simp))
  have built : p.build (.dict d) = .ok ("7/x/7" : Text) := rfl
  have both := repeatedNeedsOtherKey (s := s) rfl registered repeated (some d) distinct 0 (.int 1)
    none (.bool false) {}
  exact ⟨rfl, registered, repeated, distinct, (both.1 _ rfl built).1 _ rfl⟩

end State
end Bus
end TopicRouting
