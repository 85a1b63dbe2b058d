import TopicRouting.Api
import TopicRouting.Proofs.Rendering
import TopicRouting.Proofs.Validating

/-! What the list of patterns shows after requests of any number and order: the creations that
were accepted and not undone, as they came. The list also decides the code that the next request
is answered with. -/
namespace TopicRouting.Api
open Bus (sources labelled)
open Segment (levelsOf ofLevel filterOf isNamed Misplaced Blocked)

inductive Request where
  | create (label pattern : Text)
  | delete (label : Text)
  | match (label topic : Text)
  | build (label : Text) (params : Dict)

inductive Request.Sent : Request → Route → Body → Prop where
  | create {v : Value} {label pattern : Text} (read : NewPattern.read v = some ⟨label, pattern⟩) :
      Sent (.create label pattern) .create (.json v)
  | delete (label : Text) (body : Body) : Sent (.delete label) (.delete label) body
  | match {v : Value} {label topic : Text} (read : Field.requiredText v "topic" = some topic) :
      Sent (.match label topic) (.match label) (.json v)
  | build {v : Value} {label : Text} {d : Dict} (whole : Field.isObject v = true)
      (read : Field.params v = some (.dict d)) : Sent (.build label d) (.build label) (.json v)

structure Incoming where
  request : Request
  route : Route
  body : Body
  sent : request.Sent route body

def Plan.atOnce? (bus : Bus.State) : Plan → Option (Response × Bus.State)
  | .reply response => some (response, bus)
  | .change turn response => some (response, turn.state)
  | .call .. => none

def Incoming.serve? (bus : Bus.State) (next : Incoming) : Option (Response × Bus.State) :=
  (answer (some bus) next.body next.route).atOnce? bus

def serveAll? (bus : Bus.State) :
    List Incoming → Option (List (Request × Response) × Bus.State)
  | [] => some ([], bus)
  | next :: rest => do
      let (response, later) ← next.serve? bus
      let (log, after) ← serveAll? later rest
      some ((next.request, response) :: log, after)

namespace Request

/- What a request registered, if it was accepted. -/
def registered? : Request × Response → Option (Text × Text)
  | (.create label pattern, response) =>
      if response.code = 201 then some (label, pattern) else none
  | _ => none

def unregisters (label : Text) : Request × Response → Bool
  | (.delete other, response) => response.code == 200 && other == label
  | _ => false

def Changes : Request → Nat → Prop
  | .create .., code => code = 201
  | .delete _, code => code = 200
  | _, _ => False

/-- The codes that a request may be answered with, where some patterns are listed. -/
def Coded (known : List (Text × Text)) : Request → Nat → Prop
  | .create label pattern, code =>
      (code = 409 ↔ label ∈ known.map Prod.fst) ∧
      (label ∉ known.map Prod.fst → (code = 400 ↔ Misplaced (levelsOf pattern))) ∧
      code ∈ [201, 400, 409]
  | .delete label, code | .match label _, code =>
      (code = 404 ↔ label ∉ known.map Prod.fst) ∧ code ∈ [200, 404]
  | .build label params, code =>
      (code = 404 ↔ label ∉ known.map Prod.fst) ∧ code ∈ [200, 400, 404] ∧
      ∀ source, (label, source) ∈ known →
        (code = 400 ↔ ∃ s ∈ (levelsOf source).map ofLevel, s.Blocked params)

end Request

def listed : List (Request × Response) → List (Text × Text)
  | [] => []
  | event :: later =>
      ((Request.registered? event).filter fun entry =>
        !later.any (Request.unregisters entry.1)).toList ++ listed later

theorem listedAfter (log : List (Request × Response)) (event : Request × Response) :
    listed (log ++ [event]) =
      (listed log).filter (fun entry => !Request.unregisters entry.1 event) ++
        (Request.registered? event).toList := by
  induction log with
  | nil => cases found : Request.registered? event <;> simp [listed, found]
  | cons first log ih =>
    rw [List.cons_append, listed, listed, ih, List.filter_append, List.append_assoc]
    congr 1
    cases Request.registered? first with
    | none => rfl
    | some entry =>
      cases kept : log.any (Request.unregisters entry.1) <;>
        cases gone : Request.unregisters entry.1 event <;>
          simp [Option.filter, kept, gone]

theorem listedUnchanged {request : Request} {response : Response}
    (idle : ¬ request.Changes response.code) (log : List (Request × Response)) :
    listed (log ++ [(request, response)]) = listed log := by
  rw [listedAfter]
  cases request with
  | create label pattern =>
    have refused : response.code ≠ 201 := idle
    simp [Request.registered?, Request.unregisters, refused]
  | delete label =>
    have refused : response.code ≠ 200 := idle
    simp [Request.registered?, Request.unregisters, refused]
  | «match» label topic => simp [Request.registered?, Request.unregisters]
  | build label params => simp [Request.registered?, Request.unregisters]

def shown (topics : List Text) (label : Label) (source : Text) : Value :=
  let topic := Text.join "/" ((levelsOf source).map filterOf)
  object [("label", label.value), ("pattern", .text source), ("topic", .text topic),
    ("parameter_count", .int ((levelsOf source).countP isNamed)),
    ("subscribed", .bool (topics.contains topic))]

theorem describeShown (bus : Bus.State) (label : Label) (p : Pattern) :
    object (describe bus label p) = shown bus.topics label p.source := by
  rw [describe, shown, p.topicOfSource, p.countOfSource]

structure Lists (topics : List Text) (bus : Bus.State) (known : List (Text × Text)) : Prop where
  entries : sources bus.router = known.map labelled
  used : ∀ name, bus.router.has (.text name) = true ↔ name ∈ known.map Prod.fst
  distinct : (known.map Prod.fst).Nodup
  topics : bus.topics = topics

section
variable {topics : List Text} {bus : Bus.State} {known : List (Text × Text)}

theorem listingShown (lists : Lists topics bus known) :
    listing bus = .ok [("patterns", .list (known.map fun row =>
      shown topics (.text row.1) row.2))] := by
  have entries : bus.router.entries.map (fun entry => object (describe bus entry.1 entry.2)) =
      (sources bus.router).map fun row => shown topics row.1 row.2 := by
    rw [sources, List.map_map]
    refine List.map_congr_left fun entry _ => ?_
    rw [← lists.topics]
    exact describeShown bus entry.1 entry.2
  rw [listing, entries, lists.entries, List.map_map]
  rfl

theorem unlisted (lists : Lists topics bus known) {label : Text}
    (absent : label ∉ known.map Prod.fst) : bus.router.has (.text label) = false := by
  rw [← Bool.not_eq_true, lists.used]
  exact absent

theorem findListed {label source : Text} (distinct : (known.map Prod.fst).Nodup)
    (member : (label, source) ∈ known) :
    known.find? (·.1 == label) = some (label, source) := by
  induction known with
  | nil => contradiction
  | cons entry known ih =>
    obtain ⟨fresh, distinct⟩ := List.nodup_cons.mp distinct
    rcases List.mem_cons.mp member with rfl | member
    · simp
    · have other : entry.1 ≠ label := by
        rintro rfl
        exact fresh (List.mem_map.mpr ⟨_, member, rfl⟩)
      simpa [other] using ih distinct member

theorem sameText {label : Label} {name : Text} :
    label.same (.text name) = true ↔ label = .text name := by
  cases label with
  | tuple items => simp [Label.same]
  | scalar value =>
    cases value with
    | float x =>
      rw [Label.same, Scalar.key]
      cases x.toInt? <;> simp [Scalar.key]
    | _ => simp [Label.same, Scalar.key]

theorem getListed (lists : Lists topics bus known) {label source : Text}
    (member : (label, source) ∈ known) :
    ∃ p, bus.router.get (.text label) = .ok (some p) ∧ p.source = source := by
  have used : bus.router.has (.text label) = true :=
    (lists.used label).mpr (List.mem_map.mpr ⟨_, member, rfl⟩)
  have found : (sources bus.router).find? (·.1.same (.text label)) =
      some (.text label, source) := by
    have same : (fun entry : Text × Text => (labelled entry).1.same (.text label)) =
        (·.1 == label) := by
      funext entry
      rw [Bool.eq_iff_iff, sameText]
      simp [labelled]
    rw [lists.entries, List.find?_map, Function.comp_def, same,
      findListed lists.distinct member]
    rfl
  rw [sources, List.find?_map, Option.map_eq_some_iff] at found
  obtain ⟨entry, found, same⟩ := found
  refine ⟨entry.2, ?_, congrArg Prod.snd same⟩
  rw [Router.get, if_pos used, Router.pattern?]
  exact congrArg (fun o => Except.ok (o.map Prod.snd)) found

theorem withListed (lists : Lists topics bus known) {label source : Text}
    (member : (label, source) ∈ known) (answer : Bus.State → Pattern → Plan) :
    ∃ p, withPattern (some bus) label answer = answer bus p ∧ p.source = source := by
  obtain ⟨p, get, same⟩ := getListed lists member
  exact ⟨p, by rw [withPattern, get], same⟩

theorem withUnlisted (lists : Lists topics bus known) {label : Text}
    (absent : label ∉ known.map Prod.fst) (answer : Bus.State → Pattern → Plan) :
    withPattern (some bus) label answer = .reply (unknownLabel label) := by
  rw [withPattern, Router.get, unlisted lists absent]
  rfl

/-- What one request does to the list, and the code that it is answered with. -/
def Served (topics : List Text) (bus : Bus.State) (log : List (Request × Response))
    (next : Incoming) : Prop :=
  ∃ response later, next.serve? bus = some (response, later) ∧
    next.request.Coded (listed log) response.code ∧
    Lists topics later (listed (log ++ [(next.request, response)]))

variable {log : List (Request × Response)}

theorem servedIdle (lists : Lists topics bus (listed log)) {next : Incoming} (code : Nat)
    {members : Value} (answered : answer (some bus) next.body next.route = .reply ⟨code, members⟩)
    (idle : ¬ next.request.Changes code) (coded : next.request.Coded (listed log) code) :
    Served topics bus log next := by
  refine ⟨⟨code, members⟩, bus, ?_, coded, by rwa [listedUnchanged idle]⟩
  rw [Incoming.serve?, answered]
  rfl

theorem createUsed {label : Text} (used : bus.router.has (.text label) = true) (pattern : Text) :
    create bus ⟨label, pattern⟩ =
      .reply (.refuse 409 (LabelError.inUse (.text label)).message) := by
  simp [create, Bus.State.route, Router.run, Router.setValue, used, bind, Except.bind]

theorem createMisplaced {label pattern : Text} {e : PatternError}
    (fresh : bus.router.has (.text label) = false) (refused : Pattern.compile pattern = .error e) :
    ∃ detail, create bus ⟨label, pattern⟩ = .reply (.refuse 400 detail) := by
  simp [create, Bus.State.route, Router.run, Router.setValue, fresh, Pattern.ofValue, refused,
    Except.mapError, bind, Except.bind]

theorem createSet {label pattern : Text} {p : Pattern} {router : Router}
    (fresh : bus.router.has (.text label) = false) (compiled : Pattern.compile pattern = .ok p)
    (set : bus.router.set (.text label) p = .ok router) :
    ∃ outputs shown, create bus ⟨label, pattern⟩ =
      .change ⟨{ bus with router := router }, outputs⟩ ⟨201, shown⟩ := by
  obtain ⟨outputs, routed⟩ := Bus.routedText fresh compiled set
  rw [create, routed]
  exact ⟨outputs, _, rfl⟩

theorem listsSet (lists : Lists topics bus known) {label pattern : Text} {p : Pattern}
    {router : Router} (fresh : label ∉ known.map Prod.fst)
    (set : bus.router.set (.text label) p = .ok router)
    (grown : sources router = sources bus.router ++ [(.text label, pattern)]) :
    Lists topics { bus with router := router } (known ++ [(label, pattern)]) where
  entries := by simp [grown, lists.entries, labelled]
  used name := by
    rw [Bus.hasSet set, Bool.or_eq_true, lists.used, beq_iff_eq, List.map_append, List.mem_append]
    simp [eq_comm]
  distinct := by
    rw [List.map_append, List.nodup_append]
    refine ⟨lists.distinct, List.nodup_singleton label, ?_⟩
    rintro name inside other alone rfl
    rw [List.mem_singleton.mp alone] at inside
    exact fresh inside
  topics := lists.topics

theorem createServed (lists : Lists topics bus (listed log)) {v : Value} {label pattern : Text}
    (read : NewPattern.read v = some ⟨label, pattern⟩) :
    Served topics bus log ⟨.create label pattern, .create, .json v, .create read⟩ := by
  have asked : answer (some bus) (.json v) .create = create bus ⟨label, pattern⟩ := by
    simp only [answer, withBody, read]
  by_cases known : label ∈ (listed log).map Prod.fst
  · have refused := createUsed ((lists.used label).mpr known) pattern
    refine servedIdle lists 409 (asked.trans refused) nofun ?_
    exact ⟨iff_of_true rfl known, fun fresh => absurd known fresh, by decide⟩
  · have fresh := unlisted lists known
    have compiles := Pattern.compiles pattern
    cases compiled : Pattern.compile pattern with
    | error e =>
      obtain ⟨detail, refused⟩ := createMisplaced fresh compiled
      have misplaced : Misplaced (levelsOf pattern) := by
        by_contra fit
        obtain ⟨p, other⟩ := compiles.mpr fit
        rw [compiled] at other
        contradiction
      refine servedIdle lists 400 (asked.trans refused) nofun ?_
      exact ⟨iff_of_false nofun known, fun _ => iff_of_true rfl misplaced, by decide⟩
    | ok p =>
      obtain ⟨router, set, grown⟩ := Bus.setText fresh compiled
      obtain ⟨outputs, members, created⟩ := createSet fresh compiled set
      refine ⟨⟨201, members⟩, { bus with router := router },
        by rw [Incoming.serve?, asked, created]; rfl, ?_, ?_⟩
      · exact ⟨iff_of_false nofun known,
          fun _ => iff_of_false nofun (compiles.mp ⟨p, compiled⟩), List.mem_cons_self⟩
      · rw [listedAfter]
        simpa [Request.unregisters, Request.registered?] using listsSet lists known set grown

theorem hasText {r : Router} {name : Text} :
    r.has (.text name) = true ↔ .text name ∈ r.listeners.map Prod.fst := by
  simp [Router.has, sameText]

theorem removeUsed {r : Router} {label : Text} (used : r.has (.text label) = true) :
    ∃ after, r.remove (.text label) = .ok after ∧
      after.entries = r.entries.filter (·.1 ≠ .text label) ∧
      after.listeners = r.listeners.filter (·.1 ≠ .text label) := by
  have same (l : Label) : (!l.same (.text label)) = decide (l ≠ .text label) := by
    rw [Bool.eq_iff_iff, Bool.not_eq_true', ← Bool.not_eq_true, sameText, decide_eq_true_iff]
  rw [Router.remove, if_pos used]
  exact ⟨_, rfl, by simp only [same], by simp only [same]⟩

theorem deleteUsed {label : Text} {router : Router}
    (removed : bus.router.remove (.text label) = .ok router) :
    ∃ outputs members, delete bus label =
      .change ⟨{ bus with router := router }, outputs⟩ ⟨200, members⟩ := by
  rw [delete, Bus.State.route, Router.run, removed]
  exact ⟨_, _, rfl⟩

theorem listsRemove (lists : Lists topics bus known) {label : Text} {router : Router}
    (entries : router.entries = bus.router.entries.filter (·.1 ≠ .text label))
    (listeners : router.listeners = bus.router.listeners.filter (·.1 ≠ .text label)) :
    Lists topics { bus with router := router } (known.filter (·.1 ≠ label)) where
  entries := by
    have kept := congrArg (List.filter fun entry => decide (entry.1 ≠ .text label)) lists.entries
    rw [sources, List.filter_map, List.filter_map] at kept
    simpa [sources, entries, Function.comp_def, labelled] using kept
  used name := by
    have here := lists.used name
    rw [hasText, List.mem_map] at here
    simp only [hasText, listeners, List.mem_map, List.mem_filter, decide_eq_true_iff]
    constructor
    · rintro ⟨entry, ⟨inside, other⟩, own⟩
      obtain ⟨row, member, rfl⟩ := List.mem_map.mp (here.mp ⟨entry, inside, own⟩)
      exact ⟨row, ⟨member, fun same => other (by rw [own, same])⟩, rfl⟩
    · rintro ⟨row, ⟨member, other⟩, rfl⟩
      obtain ⟨entry, inside, own⟩ := here.mpr (List.mem_map.mpr ⟨row, member, rfl⟩)
      refine ⟨entry, ⟨inside, fun same => other ?_⟩, own⟩
      simpa using own.symm.trans same
  distinct := lists.distinct.sublist (List.filter_sublist.map _)
  topics := lists.topics

theorem deleteServed (lists : Lists topics bus (listed log)) (label : Text) (body : Body) :
    Served topics bus log ⟨.delete label, .delete label, body, .delete label body⟩ := by
  by_cases known : label ∈ (listed log).map Prod.fst
  · obtain ⟨router, removed, entries, listeners⟩ := removeUsed ((lists.used label).mpr known)
    obtain ⟨outputs, members, deleted⟩ := deleteUsed removed
    obtain ⟨entry, inside, rfl⟩ := List.mem_map.mp known
    obtain ⟨p, asked, _⟩ := withListed lists inside fun bus _ => delete bus entry.1
    refine ⟨_, _, by rw [Incoming.serve?, answer, asked, deleted]; rfl, ?_, ?_⟩
    · exact ⟨iff_of_false nofun (not_not_intro known), List.mem_cons_self⟩
    · have rows : listed (log ++ [(.delete entry.1, ⟨200, members⟩)]) =
          (listed log).filter (·.1 ≠ entry.1) := by
        simp [listedAfter, Request.registered?, Request.unregisters, eq_comm, Bool.beq_eq_decide_eq]
      rw [rows]
      exact listsRemove lists entries listeners
  · have missing := withUnlisted lists known fun bus _ => delete bus label
    exact servedIdle lists 404 missing nofun ⟨iff_of_true rfl known, by decide⟩

theorem matchServed (lists : Lists topics bus (listed log)) {v : Value} {label topic : Text}
    (read : Field.requiredText v "topic" = some topic) :
    Served topics bus log ⟨.match label topic, .match label, .json v, .match read⟩ := by
  have asked : answer (some bus) (.json v) (.match label) =
      withPattern (some bus) label fun _ pattern => .reply (matchTopic pattern topic) := by
    simp only [answer, withBody, read]
  by_cases known : label ∈ (listed log).map Prod.fst
  · obtain ⟨entry, inside, rfl⟩ := List.mem_map.mp known
    obtain ⟨p, found, _⟩ := withListed lists inside fun _ pattern =>
      .reply (matchTopic pattern topic)
    exact servedIdle lists 200 (asked.trans found) not_false
      ⟨iff_of_false nofun (not_not_intro known), by decide⟩
  · have missing := withUnlisted lists known fun _ pattern => .reply (matchTopic pattern topic)
    exact servedIdle lists 404 (asked.trans missing) not_false ⟨iff_of_true rfl known, by decide⟩

theorem buildCoded (p : Pattern) (d : Dict) :
    ∃ code members, atOnce (buildTopic p (.dict d)) = .reply ⟨code, members⟩ ∧
      (code = 200 ∨ code = 400) ∧
      (code = 400 ↔ ∃ s ∈ (levelsOf p.source).map ofLevel, s.Blocked d) := by
  have free := Pattern.buildsUnblocked (p := p) (d := d)
  rw [p.segmentsOfSource] at free
  rw [buildTopic]
  cases built : p.build (.dict d) with
  | ok topic =>
    exact ⟨200, _, rfl, .inl rfl, iff_of_false nofun (free.mp ⟨topic, built⟩)⟩
  | error e =>
    obtain ⟨cause, rfl⟩ := p.buildRefuses d e built
    refine ⟨400, _, rfl, .inr rfl, iff_of_true rfl ?_⟩
    by_contra unblocked
    obtain ⟨topic, other⟩ := free.mpr unblocked
    rw [built] at other
    contradiction

theorem buildServed (lists : Lists topics bus (listed log)) {v : Value} {label : Text} {d : Dict}
    (whole : Field.isObject v = true) (read : Field.params v = some (.dict d)) :
    Served topics bus log ⟨.build label d, .build label, .json v, .build whole read⟩ := by
  have asked : answer (some bus) (.json v) (.build label) =
      withPattern (some bus) label fun _ pattern => atOnce (buildTopic pattern (.dict d)) := by
    simp only [answer, withBody, whole, if_true, read]
  by_cases known : label ∈ (listed log).map Prod.fst
  · obtain ⟨⟨label, source⟩, inside, rfl⟩ := List.mem_map.mp known
    obtain ⟨p, found, rfl⟩ := withListed lists inside fun _ pattern =>
      atOnce (buildTopic pattern (.dict d))
    obtain ⟨code, members, built, codes, blocked⟩ := buildCoded p d
    refine servedIdle lists code ((asked.trans found).trans built) not_false ⟨?_, ?_, ?_⟩
    · exact iff_of_false (by rcases codes with rfl | rfl <;> decide) (not_not_intro known)
    · rcases codes with rfl | rfl <;> decide
    · intro source again
      have same := (findListed lists.distinct again).symm.trans (findListed lists.distinct inside)
      cases same
      exact blocked
  · have missing := withUnlisted lists known fun _ pattern => atOnce (buildTopic pattern (.dict d))
    refine servedIdle lists 404 (asked.trans missing) not_false ?_
    exact ⟨iff_of_true rfl known, by decide, fun source inside =>
      absurd (List.mem_map.mpr ⟨_, inside, rfl⟩) known⟩

theorem nextServed (lists : Lists topics bus (listed log)) (next : Incoming) :
    Served topics bus log next := by
  obtain ⟨request, route, body, sent⟩ := next
  cases sent with
  | create read => exact createServed lists read
  | delete label body => exact deleteServed lists label body
  | «match» read => exact matchServed lists read
  | build whole read => exact buildServed lists whole read

theorem allServed (lists : Lists topics bus (listed log)) (incoming : List Incoming) :
    ∃ later after, serveAll? bus incoming = some (later, after) ∧
      later.map Prod.fst = incoming.map Incoming.request ∧
      Lists topics after (listed (log ++ later)) := by
  induction incoming generalizing bus log with
  | nil => exact ⟨[], bus, rfl, rfl, by rwa [List.append_nil]⟩
  | cons next incoming ih =>
    obtain ⟨response, between, served, _, lists⟩ := nextServed lists next
    obtain ⟨later, after, all, requests, lists⟩ := ih lists
    refine ⟨(next.request, response) :: later, after, ?_, by simp [requests], ?_⟩
    · rw [serveAll?, served]
      simp [all]
    · simpa using lists

end

/-- After any requests the list shows what was created and not deleted since, and the next request
is answered by that list. -/
theorem listingOfRequests (bus : Bus.State) (noPatterns : bus.router.entries = [])
    (noListeners : bus.router.listeners = []) (incoming : List Incoming) :
    ∃ log after, serveAll? bus incoming = some (log, after) ∧
      log.map Prod.fst = incoming.map Incoming.request ∧
      (∀ body, answer (some after) body .listing = .reply (.ok [("patterns", .list
        ((listed log).map fun (label, source) => shown bus.topics (.text label) source))])) ∧
      ((listed log).map Prod.fst).Nodup ∧
      ∀ next : Incoming, ∃ response later, next.serve? after = some (response, later) ∧
        next.request.Coded (listed log) response.code ∧
        (¬ next.request.Changes response.code →
          ∀ body, answer (some later) body .listing = answer (some after) body .listing) := by
  have fresh : Lists bus.topics bus (listed []) := by
    refine ⟨by simp [sources, noPatterns, listed], fun name => ?_, List.nodup_nil, rfl⟩
    simp [Router.has, noListeners, listed]
  obtain ⟨log, after, all, requests, lists⟩ := allServed fresh incoming
  rw [List.nil_append] at lists
  refine ⟨log, after, all, requests, fun _ => congrArg Plan.reply (listingShown lists),
    lists.distinct, fun next => ?_⟩
  obtain ⟨response, later, served, coded, listsLater⟩ := nextServed lists next
  refine ⟨response, later, served, coded, fun idle _ => congrArg Plan.reply ?_⟩
  rw [listedUnchanged idle] at listsLater
  rw [listingShown listsLater, listingShown lists]

theorem listingOfRequestsAgain :
    let s : Bus.State :=
      { options := ⟨.text "c", .int 60, .int 0, .bool true, .null⟩
        settings := ⟨"localhost", 1883, none, none, false⟩
        logger := ⟨.text "bus", .text "ERROR"⟩
        routerLogger := ⟨.text "router", .text "ERROR"⟩ }
    let creation (label pattern : Text) : Incoming :=
      ⟨.create label pattern, .create,
        .json (object [("label", .text label), ("pattern", .text pattern)]), .create rfl⟩
    let deletion (label : Text) : Incoming := ⟨.delete label, .delete label, .absent, .delete ..⟩
    let incoming := [creation "a" "x/+id", creation "b" "#rest", creation "a" "y",
      creation "c" "#all/x", deletion "a", deletion "c", creation "a" "y/+"]
    (s.router.entries = [] ∧ s.router.listeners = []) ∧
    ∃ log after, serveAll? s incoming = some (log, after) ∧
      log.map (·.2.code) = [201, 201, 409, 400, 200, 404, 201] ∧
      ∀ body, answer (some after) body .listing = .reply (.ok [("patterns", .list
        [shown [] (.text "b") "#rest", shown [] (.text "a") "y/+"])]) := by
  intro s creation deletion incoming
  refine ⟨⟨rfl, rfl⟩, ?_⟩
  have outcome : (serveAll? s incoming).map (fun (log, _) => (log.map (·.2.code), listed log)) =
      some ([201, 201, 409, 400, 200, 404, 201],
        ([("b", "#rest"), ("a", "y/+")] : List (Text × Text))) := by
    decide +kernel
  obtain ⟨log, after, served, _, listing, _⟩ := listingOfRequests s rfl rfl incoming
  rw [served, Option.map_some, Option.some.injEq, Prod.mk.injEq] at outcome
  obtain ⟨codes, rows⟩ := outcome
  rw [rows] at listing
  exact ⟨log, after, served, codes, listing⟩

end TopicRouting.Api
