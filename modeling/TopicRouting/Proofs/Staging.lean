import TopicRouting.Proofs.Keeping
import TopicRouting.Proofs.Publishing

/-! Dispatching a message while listeners use the router that calls them. However they behave, a
dispatch is a run of acts on a stage, so what holds of all runs holds of it. -/
namespace TopicRouting.Router
open Stage

def invocations (outputs : List Output) : List Registration :=
  outputs.filterMap fun
    | .invoked g => some g
    | .noted _ | .logged _ | .left _ => none

theorem invocationsLogged (records : List Record) : invocations (records.map .logged) = [] := by
  rw [invocations, List.filterMap_eq_nil_iff]
  intro output member
  obtain ⟨record, _, rfl⟩ := List.mem_map.mp member
  rfl

theorem invocationsAppend (first second : List Output) :
    invocations (first ++ second) = invocations first ++ invocations second :=
  List.filterMap_append

theorem invocationsFailed (logger : Logger) (label : Label) (topic text : Text) :
    invocations ((failedRecord logger label topic text).map .logged) = [] :=
  invocationsLogged _

structure Shows (before : List Registration) (s : Stage) (scene : Scene) : Prop where
  sound : s.Sound
  router : s.router = scene.router
  calls : s.calls.map Call.registration = before ++ invocations scene.outputs

structure Finishes (before : List Registration) (walks : List Walk) (n : Nat) (after : Stage)
    (result : Dispatched × Scene) : Prop where
  shows : Shows before after result.2
  walks : after.walks = walks
  ended : ⟨n, result.1, result.2.message⟩ ∈ after.ended

def Staged (nested : Nested) : Prop :=
  ∀ (s : Stage) (calls : Nat) (message : Message), s.Sound →
    nested calls s.router message = (.tooDeep, ⟨s.router, message, [], calls⟩) ∨
      ∃ acts, Finishes (s.calls.map Call.registration) s.walks s.begun
        (s.run (.dispatch message :: acts)) (nested calls s.router message)

variable {before : List Registration} {s : Stage} {scene : Scene} {w : Walk} {walks : List Walk}
  {nested : Nested} {env : Surroundings}

theorem showsAdd (shows : Shows before s scene) {outputs : List Output}
    (silent : invocations outputs = []) : Shows before s (scene.add outputs) := by
  refine ⟨shows.sound, shows.router, ?_⟩
  rw [Scene.add, invocationsAppend, silent, List.append_nil]
  exact shows.calls

theorem runAppend (s : Stage) (first second : List Act) :
    s.run (first ++ second) = (s.run first).run second := by
  rw [Stage.run, List.foldl_append]
  rfl

theorem showsCommand (shows : Shows before s scene) (logger : Logger) (command : Command) :
    Shows before (s.step (.command command))
      { scene with router := scene.router.turn (.command logger command) } where
  sound := shows.sound.step _
  router := by
    rw [← shows.router]
    exact Cells.applyRouter shows.sound.cells logger command
  calls := shows.calls

theorem showsEdit (shows : Shows before s scene) (top : s.walks = w :: walks)
    (change : Message → Message) :
    Shows before (s.step (.edit change)) { scene with message := change scene.message } ∧
      (s.step (.edit change)).walks = { w with message := change w.message } :: walks := by
  have sound := shows.sound.step (.edit change)
  rw [Stage.step, top] at sound ⊢
  exact ⟨⟨sound, shows.router, shows.calls⟩, rfl⟩

theorem showsCall (shows : Shows before s scene) (top : s.walks = w :: walks) (g : Registration) :
    Shows before (s.call w walks g) (scene.call g) := by
  refine ⟨shows.sound.call top g, shows.router, ?_⟩
  rw [Stage.call, Scene.call, invocationsAppend, List.map_append, shows.calls, List.append_assoc]
  rfl

theorem showsNested (shows : Shows before s scene) {outer : List Walk} {n : Nat} {after : Stage}
    {result : Dispatched × Scene}
    (finishes : Finishes (s.calls.map Call.registration) outer n after result) :
    Shows before after (scene.after result.2) := by
  refine ⟨finishes.shows.sound, finishes.shows.router, finishes.shows.calls.trans ?_⟩
  rw [shows.calls, Scene.after, invocationsAppend, List.append_assoc]

theorem finishesLeave (shows : Shows before s scene) (top : s.walks = w :: walks)
    (message : w.message = scene.message) (how : Dispatched) :
    Finishes before walks w.number (s.leave w walks how) (how, scene) where
  shows := ⟨shows.sound.leave top how, shows.router, shows.calls⟩
  walks := rfl
  ended := message ▸ List.mem_append_right _ List.mem_cons_self

theorem performStaged (logger : Logger) (staged : Staged nested) (reaction : Reaction)
    (shows : Shows before s scene) (top : s.walks = w :: walks)
    (message : w.message = scene.message) :
    ∃ acts, let after := s.run acts
      let result := (perform logger nested reaction scene).2
      Shows before after result ∧ after.walks = { w with message := result.message } :: walks := by
  induction reaction generalizing s scene w with
  | done | fail error | abort | leave work =>
    refine ⟨[], shows, top.trans ?_⟩
    rw [perform, ← message]
  | note what next ih =>
    have shown : Shows before s (scene.add [.noted what]) := showsAdd shows rfl
    exact ih shown top message
  | edit change next ih =>
    obtain ⟨shown, edited⟩ := showsEdit shows top change
    obtain ⟨acts, result⟩ := ih shown edited (congrArg change message)
    exact ⟨.edit change :: acts, result⟩
  | run command next ih =>
    have done := showsCommand shows logger command
    rw [perform]
    cases ran : scene.router.run logger command with
    | error e =>
      exact ih (.error e) shows top message
    | ok result =>
      obtain ⟨reply, after, records⟩ := result
      rw [turn, ran] at done
      have shown : Shows before (s.step (.command command))
          { scene.add (records.map .logged) with router := after } :=
        showsAdd done (invocationsLogged records)
      obtain ⟨acts, result⟩ := ih (.ok reply) shown top message
      exact ⟨.command command :: acts, result⟩
  | dispatch m next ih =>
    rw [perform, ← shows.router]
    rcases staged s scene.calls m shows.sound with tooDeep | ⟨first, finishes⟩
    · have still : Shows before s (scene.after ⟨s.router, m, [], scene.calls⟩) :=
        ⟨shows.sound, rfl, (showsAdd shows rfl).calls⟩
      obtain ⟨acts, result⟩ := ih .tooDeep m still top message
      rw [tooDeep]
      exact ⟨acts, result⟩
    · obtain ⟨acts, rest⟩ := ih _ _ (showsNested shows finishes) (finishes.walks.trans top) message
      refine ⟨.dispatch m :: first ++ acts, ?_⟩
      rw [runAppend]
      exact rest

theorem callAllStaged (env : Surroundings) (staged : Staged nested) (label : Label)
    (registrations : List Registration) (shows : Shows before s scene)
    (top : s.walks = w :: walks) (message : w.message = scene.message) (kind : w.label = label)
    (rest : (s.cells.list w.place).drop w.next = registrations) :
    ∃ acts, Finishes before walks w.number (s.proceed.run acts)
      (callAll env nested label registrations scene) := by
  induction registrations generalizing s scene w with
  | nil =>
    have finished : (s.cells.list w.place)[w.next]? = none :=
      List.getElem?_eq_none_iff.mpr (List.drop_eq_nil_iff.mp rest)
    refine ⟨[], ?_⟩
    rw [callAll, proceedLeave top finished, kind]
    exact finishesLeave shows top message _
  | cons g registrations ih =>
    have next : (s.cells.list w.place)[w.next]? = some g := by
      rw [← List.head?_drop, rest]
      rfl
    have shown := showsCall shows top g
    obtain ⟨first, result, kept⟩ := performStaged env.logger staged
      (env.behaviour scene.calls g.listener scene.message) shown rfl message
    rw [proceedCall top next, callAll]
    generalize perform env.logger nested (env.behaviour scene.calls g.listener scene.message)
      (scene.call g) = outcome at result kept
    obtain ⟨finish, after⟩ := outcome
    dsimp only at result kept ⊢
    have rests := restsRun shown.sound (shows.sound.rests w (by simp [top])) first
    have left : (((s.call w walks g).run first).cells.list w.place).drop (w.next + 1) =
        registrations := by
      rw [rests.list, ← List.drop_drop, rest]
      rfl
    -- the listener is through, and the loop goes on
    have goesOn : ∀ scene, Shows before ((s.call w walks g).run first) scene →
        after.message = scene.message →
        ∃ acts, Finishes before walks w.number ((s.call w walks g).run acts)
          (callAll env nested label registrations scene) := by
      intro scene shows message
      obtain ⟨acts, finishes⟩ := ih shows kept message kind left
      refine ⟨first ++ .proceed :: acts, ?_⟩
      rw [runAppend]
      exact finishes
    cases finish with
    | done => exact goesOn after result rfl
    | failed e => exact goesOn _ (showsAdd result (invocationsFailed ..)) rfl
    | left work =>
      refine goesOn _ (showsAdd result ?_) rfl
      split
      · rfl
      · exact invocationsFailed ..
    | aborted =>
      have broken := finishesLeave result kept rfl .aborted
      refine ⟨first ++ [.breakOff], ?_⟩
      rw [runAppend, Stage.run, List.foldl_cons, List.foldl_nil, Stage.step, kept]
      exact broken

theorem dispatchServed (env : Surroundings) {depth : Nat} (staged : Staged (dispatch env depth))
    (s : Stage) (calls : Nat) (message : Message) (sound : s.Sound) :
    ∃ acts, Finishes (s.calls.map Call.registration) s.walks s.begun
      (s.run (.dispatch message :: acts)) (dispatch env (depth + 1) calls s.router message) := by
  cases matched : s.router.match? message.topic with
  | none =>
    refine ⟨[], ?_⟩
    rw [Router.dispatch, matched, Stage.run, List.foldl_cons, dispatchRefuse matched]
    refine ⟨⟨sound.refuse _ _, rfl, ?_⟩, rfl, List.mem_append_right _ List.mem_cons_self⟩
    rw [invocationsLogged, List.append_nil]
    rfl
  | some found =>
    obtain ⟨place, here⟩ := knownPlace sound.cells matched
    have own := (Cells.renewRests sound.cells here (·.filter (!·.once))).list
    have shown : Shows (s.calls.map Call.registration) (s.enter message found place)
        ⟨(s.router.take found.label).2, given message found, [], calls⟩ :=
      ⟨sound.enter matched here, enterRouter sound.cells message found place,
        (List.append_nil _).symm⟩
    obtain ⟨acts, finishes⟩ := callAllStaged env staged found.label
      (s.router.registrations found.label) shown rfl rfl rfl
      (own.trans (Cells.registrationsPlace here).symm)
    refine ⟨acts, ?_⟩
    rw [dispatchFound env depth calls matched, Stage.run, List.foldl_cons,
      dispatchEnter matched here]
    exact finishes

theorem dispatchStaged (env : Surroundings) (depth : Nat) : Staged (dispatch env depth) := by
  induction depth with
  | zero => exact fun s calls message sound => .inl rfl
  | succ depth ih =>
    exact fun s calls message sound => .inr (dispatchServed env ih s calls message sound)

def Reaction.Calm : Reaction → Prop
  | .done | .fail _ | .leave _ => True
  | .abort => False
  | .note _ next | .edit _ next => next.Calm
  | .run _ next => ∀ reply, (next reply).Calm
  | .dispatch _ next => ∀ how message, (next how message).Calm

theorem performCalm (logger : Logger) (nested : Nested) {reaction : Reaction}
    (calm : reaction.Calm) (scene : Scene) :
    (perform logger nested reaction scene).1 ≠ .aborted := by
  induction reaction generalizing scene with
  | done | fail error | leave work => nofun
  | abort => exact absurd calm id
  | note what next ih => exact ih calm _
  | edit change next ih => exact ih calm _
  | run command next ih =>
    rw [perform]
    split
    · exact ih _ (calm _) _
    · exact ih _ (calm _) _
  | dispatch message next ih =>
    rw [perform]
    exact ih _ _ (calm _ _) _

theorem callAllCalm {env : Surroundings} (nested : Nested)
    (calm : ∀ calls listener message, (env.behaviour calls listener message).Calm) (label : Label)
    (registrations : List Registration) (scene : Scene) :
    (callAll env nested label registrations scene).1 = .routed (some label) := by
  induction registrations generalizing scene with
  | nil => rfl
  | cons g registrations ih =>
    have goesOn := performCalm env.logger nested (calm scene.calls g.listener scene.message)
      (scene.call g)
    rw [callAll]
    generalize perform env.logger nested (env.behaviour scene.calls g.listener scene.message)
      (scene.call g) = outcome at goesOn
    obtain ⟨finish, after⟩ := outcome
    cases finish with
    | done => exact ih _
    | failed e => exact ih _
    | left work => exact ih _
    | aborted => exact absurd rfl goesOn

theorem dispatchCalm {env : Surroundings}
    (calm : ∀ calls listener message, (env.behaviour calls listener message).Calm)
    (depth calls : Nat) (r : Router) (message : Message) :
    (r.dispatch env (depth + 1) calls message).1 =
      .routed ((r.match? message.topic).map Found.label) := by
  cases matched : r.match? message.topic with
  | none =>
    rw [dispatch, matched]
    rfl
  | some found =>
    rw [dispatchFound env depth calls matched]
    exact callAllCalm _ calm _ _ _

def invokedBy (r : Router) : List Turn → List Registration
  | [] => []
  | .command logger command :: turns => invokedBy (r.turn (.command logger command)) turns
  | .dispatch env depth message :: turns =>
      invocations (r.dispatch env depth 0 message).2.outputs ++
        invokedBy (r.turn (.dispatch env depth message)) turns

theorem historyStaged (turns : List Turn) (s : Stage) (sound : s.Sound) :
    ∃ acts, (s.run acts).router = turns.foldl turn s.router ∧ (s.run acts).walks = s.walks ∧
      (s.run acts).calls.map Call.registration =
        s.calls.map Call.registration ++ invokedBy s.router turns := by
  induction turns generalizing s with
  | nil => exact ⟨[], rfl, rfl, (List.append_nil _).symm⟩
  | cons next turns ih =>
    cases next with
    | command logger command =>
      have done := Cells.applyRouter sound.cells logger command
      obtain ⟨acts, router, walks, calls⟩ := ih (s.step (.command command)) (sound.step _)
      refine ⟨.command command :: acts, router.trans ?_, walks, calls.trans ?_⟩
      · rw [Stage.router, Stage.step, done]
        rfl
      · rw [Stage.router, Stage.step, done]
        rfl
    | dispatch env depth message =>
      rw [List.foldl_cons, invokedBy, turn]
      rcases dispatchStaged env depth s 0 message sound with tooDeep | ⟨first, finishes⟩
      · rw [tooDeep]
        exact ih s sound
      · obtain ⟨⟨sound, router, calls⟩, walks, _⟩ := finishes
        obtain ⟨acts, history⟩ := ih _ sound
        rw [router, walks, calls, List.append_assoc] at history
        refine ⟨.dispatch message :: first ++ acts, ?_⟩
        rw [runAppend]
        exact history

end TopicRouting.Router
