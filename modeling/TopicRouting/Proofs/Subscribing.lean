import TopicRouting.Proofs.Granting

/-! The subscriptions of a start whose client grants all that it is asked for. Each label is
subscribed in its turn, until the topic of one is that of a label before it. -/
namespace TopicRouting.Startup
open Bus (Action Command)

/- The client takes what a call asks it for, and the broker acknowledges it in time. -/
structure Stretch.Granted (stretch : Stretch) : Prop where
  accepted : stretch.answer.subscribeError = none
  success : stretch.answer.code = Broker.ResultCode.success
  acknowledged : ∃ reasons,
    stretch.during.foldl (Bus.Wait.next stretch.answer.message stretch.id) (.waiting false) =
      .finished (some (.ok (.acknowledged reasons)))

theorem subscribeAllAfter {σ : Type} {o : Operations σ} {first : List Label} {s after : σ}
    (subscribed : o.subscribeAll first s = (.ok (), after)) (rest : List Label) :
    o.subscribeAll (first ++ rest) s = o.subscribeAll rest after := by
  induction first generalizing s with
  | nil =>
    cases subscribed
    rfl
  | cons label labels ih =>
    rw [List.cons_append]
    rw [Operations.subscribeAll] at subscribed ⊢
    split at subscribed
    · exact ih subscribed
    · rename_i failed
      exact absurd subscribed (failed after)

namespace World

/- The client grants the connection and the subscriptions of so many labels, and no one else asks
the bus for anything until all labels have had their turn. -/
structure Grants (w : World) (count : Nat) : Prop where
  apart : ∀ i j, (w.stretch i).id = (w.stretch j).id → i = j
  accepts : (w.stretch 0).answer.connectError = none
  connects : ∃ window gap teardown reason,
    (w.stretch 0).during = Bus.attemptSteps (w.stretch 0).id window gap teardown ∧
    (∀ action ∈ window ++ gap ++ teardown, action.passive (w.stretch 0).id = true) ∧
    Bus.firstVerdict w.bus.settings window = some (.ok reason)
  stands : ∀ k < w.bus.router.entries.length,
    ∀ action ∈ (w.stretch (k + 1)).during, action.stands = true
  subscribes : ∀ k < count, (w.stretch (k + 1)).Granted

structure Asked (w : World) (connected : Course) (front : List (Label × Pattern)) (c : Course) :
    Prop where
  asks : ∃ since, c.actions = connected.actions ++ since ∧
    Bus.asks (w.turn connected).state since =
      front.map fun entry => (w.bus.created, .subscribe entry.2.topic w.bus.options.qos)
  topics : (w.turn c).state.subscriptions =
    front.map fun entry => (entry.2.topic, w.bus.options.qos)
  unserved : c.hasServed = false
  goesOn : c.isStuck = false

structure Subscribed (w : World) (connected : Course) (front : List (Label × Pattern))
    (c : Course) : Prop extends Asked w connected front c where
  idle : (w.turn c).state.Idle
  client : (w.turn c).state.client = some w.bus.created
  options : (w.turn c).state.options = w.bus.options
  router : (w.turn c).state.router = w.bus.router
  silent : ∀ k, c.made ≤ k → (w.turn c).resultsOf (w.stretch k).id = []
  made : c.made = front.length + 1

section subscribing

variable {w : World} {config : Config} {env : Environment} {generated : Text} {count : Nat}
  {connected c : Course} {front : List (Label × Pattern)}
  {label : Label} {p : Pattern}

theorem beginTurn (w : World) (command : Command) (c : Course) :
    w.turn (w.begin command c) = (w.turn c).andThen fun s => Bus.run s
      (.begin (w.stretch c.made).id command (w.stretch c.made).answer ::
        (w.stretch c.made).during) := Bus.runAppend ..

theorem callReturnsOne {command : Command} {result : Except Error Bus.Reply}
    (silent : (w.turn c).resultsOf (w.stretch c.made).id = [])
    (returned : (Bus.run (w.turn c).state
      (.begin (w.stretch c.made).id command (w.stretch c.made).answer ::
        (w.stretch c.made).during)).results = [((w.stretch c.made).id, result)]) :
    w.call command c = (result.map fun _ => (), w.begin command c) := by
  have whole : (w.turn (w.begin command c)).resultsOf (w.stretch c.made).id = [result] := by
    rw [beginTurn, Bus.Turn.resultsOfThen, silent, Bus.Turn.resultsOf, returned]
    simp
  rw [call, whole]

namespace Subscribed

section facts

variable (subscribed : w.Subscribed connected front c)
include subscribed

theorem plain (plain : w.bus.router.Unlistened) : (w.turn c).state.router.Unlistened := by
  rw [subscribed.router]
  exact plain

theorem known (plain : w.bus.router.Unlistened) (member : (label, p) ∈ w.bus.router.entries) :
    (w.turn c).state.router.get label = .ok (some p) := by
  rw [subscribed.router]
  exact plain.get member

theorem names : (w.turn c).state.topics = front.map (·.2.topic) := by
  rw [Bus.State.topics, subscribed.topics, List.map_map]
  rfl

theorem asksThen {command : Command} {requests : List (Nat × Broker.Request)}
    (begun : (Bus.step (w.turn c).state (.begin (w.stretch c.made).id command
      (w.stretch c.made).answer)).requests = requests)
    (stands : ∀ action ∈ (w.stretch c.made).during, action.stands = true) :
    ∃ since, (w.begin command c).actions = connected.actions ++ since ∧
      Bus.asks (w.turn connected).state since =
        (front.map fun entry => (w.bus.created, .subscribe entry.2.topic w.bus.options.qos)) ++
          requests := by
  obtain ⟨since, actions, asked⟩ := subscribed.asks
  have reached : (Bus.run (w.turn connected).state since).state = (w.turn c).state := by
    rw [turn, turn, actions, Bus.runAppend]
    rfl
  refine ⟨since ++ .begin (w.stretch c.made).id command (w.stretch c.made).answer ::
    (w.stretch c.made).during, by rw [begin, actions, List.append_assoc], ?_⟩
  rw [Bus.asksAppend, asked, reached, Bus.asks, Bus.asksNone stands, List.append_nil]
  exact congrArg _ begun

theorem stands (grants : w.Grants count) (left : front.length < w.bus.router.entries.length) :
    ∀ action ∈ (w.stretch c.made).during, action.stands = true := by
  rw [subscribed.made]
  exact grants.stands front.length left

end facts

theorem next (subscribed : w.Subscribed connected front c) (grants : w.Grants count)
    (plain : w.bus.router.Unlistened) (patient : w.bus.options.patience = .limited)
    (left : front.length < w.bus.router.entries.length) (granted : front.length < count)
    (member : (label, p) ∈ w.bus.router.entries) (missing : p.topic ∉ front.map (·.2.topic)) :
    w.operations.subscribe label c = (.ok (), w.begin (.subscribe label none) c) ∧
      w.Subscribed connected (front ++ [(label, p)]) (w.begin (.subscribe label none) c) := by
  have stretch : (w.stretch c.made).Granted := by
    rw [subscribed.made]
    exact grants.subscribes front.length granted
  obtain ⟨reasons, acknowledged⟩ := stretch.acknowledged
  have known := subscribed.known plain member
  have options := subscribed.options
  have absent : p.topic ∉ (w.turn c).state.topics := by rwa [subscribed.names]
  have patience : (w.turn c).state.options.patience = .limited := by rw [options, patient]
  have stands := subscribed.stands grants left
  obtain ⟨ledger, content, reply, results⟩ :=
    Bus.State.subscribeGranted subscribed.idle subscribed.client
      (subscribed.plain plain) known (w.stretch c.made).id stands patience absent
      stretch.accepted stretch.success acknowledged
  have turned := beginTurn w (.subscribe label none) c
  refine ⟨callReturnsOne (subscribed.silent c.made (Nat.le_refl _)) results, ?_⟩
  have reached := congrArg Bus.Turn.state turned
  dsimp only [Bus.Turn.andThen] at reached
  exact
    { asks := by
        have requests := Bus.State.subscribeAsks subscribed.client known patience absent
          stretch.accepted stretch.success (w.stretch c.made).id
        rw [options] at requests
        rw [List.map_append]
        exact subscribed.asksThen requests stands
      topics := by
        rw [reached, List.map_append]
        refine (congrArg (·.1.1) content).trans ?_
        change Bus.State.putSubscription p.topic _ (w.turn c).state.subscriptions = _
        rw [Bus.State.putSubscriptionFresh absent, subscribed.topics, options]
        rfl
      unserved := subscribed.unserved
      goesOn := subscribed.goesOn
      idle := by
        rw [reached]
        exact Bus.State.idleAlike ledger subscribed.idle
      client := by
        rw [reached]
        exact (congrArg Bus.Ledger.client ledger).trans subscribed.client
      options := by
        rw [reached]
        exact (congrArg Bus.Ledger.options ledger).trans options
      router := by
        rw [reached]
        exact (congrArg Prod.snd content).trans subscribed.router
      silent := by
        intro k later
        have other : (w.stretch c.made).id ≠ (w.stretch k).id := fun same =>
          Nat.ne_of_lt later (grants.apart _ _ same)
        rw [turned, Bus.Turn.resultsOfThen, subscribed.silent k (Nat.le_of_succ_le later),
          Bus.Turn.resultsOf, results]
        simp [other]
      made := by simp [begin, subscribed.made] }

theorem refused (subscribed : w.Subscribed connected front c) (grants : w.Grants count)
    (plain : w.bus.router.Unlistened) (left : front.length < w.bus.router.entries.length)
    (member : (label, p) ∈ w.bus.router.entries) (present : p.topic ∈ front.map (·.2.topic)) :
    w.operations.subscribe label c =
        (.error (.bus (.alreadySubscribed p.topic)), w.begin (.subscribe label none) c) ∧
      w.Asked connected front (w.begin (.subscribe label none) c) := by
  have known := subscribed.known plain member
  have there : p.topic ∈ (w.turn c).state.topics := by rwa [subscribed.names]
  have stands := subscribed.stands grants left
  obtain ⟨ledger, content, results⟩ := Bus.State.subscribeRefused subscribed.idle
    subscribed.client (subscribed.plain plain) known (w.stretch c.made).id stands there
  refine ⟨callReturnsOne (subscribed.silent c.made (Nat.le_refl _)) results, ?_⟩
  have silent : (Bus.step (w.turn c).state (.begin (w.stretch c.made).id
      (.subscribe label none) (w.stretch c.made).answer)).requests = [] :=
    Bus.State.refusedAsks subscribed.idle subscribed.client known there (w.stretch c.made).id
  exact
    { asks := by
        have asked := subscribed.asksThen silent stands
        rwa [List.append_nil] at asked
      topics := by
        rw [beginTurn]
        exact (congrArg (·.1.1) content).trans subscribed.topics
      unserved := subscribed.unserved
      goesOn := subscribed.goesOn }

theorem all (subscribed : w.Subscribed connected front c) {rest : List (Label × Pattern)}
    (grants : w.Grants count) (plain : w.bus.router.Unlistened)
    (patient : w.bus.options.patience = .limited)
    (inside : ∀ entry ∈ rest, entry ∈ w.bus.router.entries)
    (left : (front ++ rest).length ≤ w.bus.router.entries.length)
    (granted : (front ++ rest).length ≤ count)
    (distinct : ((front ++ rest).map (·.2.topic)).Nodup) :
    ∃ after, w.operations.subscribeAll (rest.map (·.1)) c = (.ok (), after) ∧
      w.Subscribed connected (front ++ rest) after := by
  induction rest generalizing front c with
  | nil => exact ⟨c, rfl, by rwa [List.append_nil]⟩
  | cons entry rest ih =>
    obtain ⟨label, p⟩ := entry
    obtain ⟨here, others⟩ := List.forall_mem_cons.mp inside
    have whole : front ++ (label, p) :: rest = front ++ [(label, p)] ++ rest := by simp
    have missing : p.topic ∉ front.map (·.2.topic) := by
      rw [List.map_append, List.nodup_append] at distinct
      exact fun there => distinct.2.2 p.topic there p.topic List.mem_cons_self rfl
    have more : front.length < (front ++ (label, p) :: rest).length := by simp
    obtain ⟨returns, later⟩ := subscribed.next grants plain patient
      (Nat.lt_of_lt_of_le more left) (Nat.lt_of_lt_of_le more granted) here missing
    rw [whole] at left granted distinct ⊢
    obtain ⟨after, subscribes, all⟩ := ih later others left granted distinct
    refine ⟨after, ?_, all⟩
    rw [List.map_cons, Operations.subscribeAll, returns]
    exact subscribes

end Subscribed

theorem Serves.configured (serves : w.Serves config env generated) :
    Bus.Configured config w.bus := by
  have new := serves.new
  obtain ⟨turn, metrics, built, same⟩ := serves
  obtain ⟨-, plain, patient, topics, names⟩ := Bus.builtConfigured built
  rw [same] at new ⊢
  exact ⟨new, plain, patient, topics, names⟩

theorem connectSubscribed (configured : Bus.Configured config w.bus) (grants : w.Grants count) :
    (w.operations.connect {}).1 = .ok () ∧
      let connected := w.operations.attach (w.operations.connect {}).2
      w.Subscribed connected [] connected := by
  obtain ⟨window, gap, teardown, reason, during, passive, told⟩ := grants.connects
  obtain ⟨idle, client, options, content, returned, silent⟩ :=
    Bus.State.connectGranted configured.new configured.plain
      grants.accepts configured.patient passive told
  rw [← during] at idle client options content returned silent
  have called : w.operations.connect {} = (.ok (), w.begin .connect {}) := by
    change w.call .connect {} = _
    have whole : (w.turn (w.begin .connect {})).resultsOf (w.stretch 0).id =
        [.ok (.connected reason)] := returned
    rw [call, whole]
    rfl
  rw [called]
  refine ⟨rfl, ?_⟩
  exact
    { asks := ⟨[], by simp, rfl⟩
      topics := (congrArg (·.1.1) content).trans configured.topics
      unserved := rfl
      goesOn := rfl
      idle := idle
      client := client
      options := options
      router := congrArg Prod.snd content
      silent := fun k later => silent _ fun same =>
        Nat.not_succ_le_zero 0 (grants.apart _ _ same ▸ later)
      made := rfl }

/- What becomes of the labels of a start whose client grants all it is asked for. They are
subscribed in their order, each at its topic, up to the first whose topic one before it has; there
the start fails. Where there is none, the server runs. -/
theorem subscribedUntilRepeated (serves : w.Serves config env generated)
    {back : List (Label × Pattern)} (entries : w.bus.router.entries = front ++ back)
    (distinct : (front.map (·.2.topic)).Nodup)
    (repeats : ∀ entry ∈ back.head?, entry.2.topic ∈ front.map (·.2.topic))
    (grants : w.Grants front.length) :
    let connected := w.operations.attach (w.operations.connect {}).2
    List.Forall₂ Bus.Names config.patterns (front ++ back) ∧
      (w.operations.connect {}).1 = .ok () ∧
      ∃ c, w.Asked connected front c ∧
        match back with
        | [] => w.operations.serve {} = w.operations.runAndClose c ∧
            (w.operations.serve {}).2.hasServed = true
        | (_, pattern) :: _ =>
            w.operations.serve {} = (.error (.bus (.alreadySubscribed pattern.topic)), c) := by
  intro connected
  have configured := serves.configured
  obtain ⟨connects, opened⟩ := connectSubscribed configured grants
  have inside : ∀ entry ∈ front, entry ∈ w.bus.router.entries := fun entry member => by
    rw [entries]
    exact List.mem_append_left _ member
  obtain ⟨reached, subscribes, subscribed⟩ := opened.all grants configured.plain
    configured.patient inside (by simp [entries]) (Nat.le_refl _) distinct
  rw [List.nil_append] at subscribed
  have labels : w.operations.labels connected = front.map (·.1) ++ back.map (·.1) := by
    change (w.turn connected).state.router.labels = _
    rw [opened.router, Router.labels, entries, List.map_append]
  refine ⟨entries ▸ configured.names, connects, ?_⟩
  cases back with
  | nil =>
    have made : w.operations.serve {} = w.operations.runAndClose reached := by
      refine (serveConnected connects reached).1 ?_
      change w.operations.subscribeAll (w.operations.labels connected) connected = _
      rw [labels, List.map_nil, List.append_nil]
      exact subscribes
    refine ⟨reached, subscribed.toAsked, made, ?_⟩
    rw [made]
    exact callServes .close _
  | cons entry rest =>
    obtain ⟨label, pattern⟩ := entry
    have member : (label, pattern) ∈ w.bus.router.entries := by simp [entries]
    obtain ⟨fails, asked⟩ := subscribed.refused grants configured.plain (by simp [entries])
      member (repeats _ rfl)
    refine ⟨_, asked, (serveConnected connects _).2 _ ?_⟩
    change w.operations.subscribeAll (w.operations.labels connected) connected = _
    rw [labels, subscribeAllAfter subscribes, List.map_cons, Operations.subscribeAll, fails]

theorem repeatedTopicFails :
    let config : Config := (Config.set ⟨"topicbus.yaml", Config.defaults⟩ (.text "patterns")
      (.text "a") (.text "x/+id")).set (.text "patterns") (.text "b") (.text "x/+other")
    ∃ turn, Bus.ofConfig config { url := .null } false [] "served" = .ok turn ∧
      let w : World :=
        { bus := turn.state
          stretch := fun
            | 0 => ⟨0, {}, Bus.attemptSteps 0 [.handle (.connected (.code 0))] [] []⟩
            | 1 => ⟨1, { message := 1 }, [.handle (.acknowledged 1 none), .resume 1]⟩
            | n + 2 => ⟨n + 2, {}, []⟩
          serving := []
          failure := none }
      let front := w.bus.router.entries.take 1
      (w.Serves config [] "served" ∧
        w.bus.router.entries = front ++ w.bus.router.entries.drop 1 ∧
        (front.map (·.2.topic)).Nodup ∧
        (∀ entry ∈ (w.bus.router.entries.drop 1).head?,
          entry.2.topic ∈ front.map (·.2.topic)) ∧ w.Grants front.length) ∧
      w.bus.router.entries.map (·.2.topic) = [("x/+" : Text), "x/+"] ∧
      (w.operations.serve {}).1 = .error (.bus (.alreadySubscribed "x/+")) ∧
      (w.turn (w.operations.serve {}).2).state.topics = [("x/+" : Text)] ∧
      (w.operations.serve {}).2.hasServed = false := by
  intro config
  refine ⟨_, rfl, ?_⟩
  intro w front
  have serves : w.Serves config [] "served" := servesBuilt rfl rfl
  have topics : w.bus.router.entries.map (·.2.topic) = [("x/+" : Text), "x/+"] := by decide +kernel
  have entries : w.bus.router.entries = front ++ w.bus.router.entries.drop 1 :=
    (List.take_append_drop 1 _).symm
  have one : front.length = 1 := by decide +kernel
  have distinct : (front.map (·.2.topic)).Nodup := by decide +kernel
  have repeats : ∀ entry ∈ (w.bus.router.entries.drop 1).head?,
      entry.2.topic ∈ front.map (·.2.topic) := by decide +kernel
  have grants : w.Grants front.length := by
    refine ⟨fun i j same => ?_, rfl, ⟨_, _, _, .code 0, rfl, by simp [Action.passive], rfl⟩,
      fun k _ => ?_, fun k inside => ?_⟩
    · have own (n : Nat) : (w.stretch n).id = n := by
        rcases n with _ | _ | n <;> rfl
      rwa [own, own] at same
    · cases k with
      | zero => simp [w, Action.stands]
      | succ k => simp [w]
    · cases Nat.lt_one_iff.mp (one ▸ inside)
      exact ⟨rfl, rfl, ⟨none, rfl⟩⟩
  refine ⟨⟨serves, entries, distinct, repeats, grants⟩, topics, ?_⟩
  obtain ⟨-, -, c, asked, ends⟩ :=
    subscribedUntilRepeated serves entries distinct repeats grants
  have last : (w.bus.router.entries.drop 1).map (·.2.topic) = [("x/+" : Text)] := by decide +kernel
  have first : front.map (·.2.topic) = [("x/+" : Text)] := by decide +kernel
  have subscribed : (w.turn c).state.topics = [("x/+" : Text)] := by
    rw [Bus.State.topics, asked.topics, List.map_map]
    exact first
  generalize w.bus.router.entries.drop 1 = back at last ends
  cases back with
  | nil => contradiction
  | cons entry rest =>
    obtain ⟨label, pattern⟩ := entry
    have same : pattern.topic = "x/+" := (List.cons.inj last).1
    dsimp only at ends
    rw [ends, same]
    exact ⟨rfl, subscribed, asked.unserved⟩

end subscribing

end World
end TopicRouting.Startup
