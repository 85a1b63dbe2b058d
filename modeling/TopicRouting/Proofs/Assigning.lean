import TopicRouting.Router.Command

/-! The commands of a router as programs that assign one part after the other and may fail in
between. What was assigned before a failure would stay; no command that fails has assigned any. -/
namespace TopicRouting.Assigning
open Router (Command Reply)

@[simp] theorem valueThen {α β : Type} (value : α) (next : α → Except Error β) :
    (Except.ok value >>= next) = next value := rfl

@[simp] theorem errorThen {α β : Type} (e : Error) (next : α → Except Error β) :
    (Except.error e >>= next) = .error e := rfl

@[simp] theorem valueMapError {α : Type} (value : α) (f : LabelError → Error) :
    (Except.ok value).mapError f = .ok value := rfl

@[simp] theorem errorMapError {α : Type} (e : LabelError) (f : LabelError → Error) :
    (Except.error e : Except LabelError α).mapError f = .error (f e) := rfl

abbrev Program := EStateM Error Router

@[simp] theorem mapRuns {α β : Type} (f : α → β) (program : Program α) (r : Router) :
    (f <$> program).run r = match program.run r with
      | .ok value after => .ok (f value) after
      | .error e after => .error e after := by
  rw [← bind_pure_comp, EStateM.run_bind]
  cases program.run r <;> rfl

def require (label : Label) (missing : LabelError) : Program Unit := do
  if !(← get).has label then throw (.label missing)

def unused (label : Label) : Program Unit := do
  if (← get).has label then throw (.label (.inUse label))

def compile (given : Value) : Program Pattern :=
  match Pattern.ofValue given with
  | .ok pattern => pure pattern
  | .error e => throw e

def register (label : Label) (pattern : Pattern) : Program Unit := do
  modify fun r => { r with entries := r.entries ++ [(label, pattern)] }
  modify fun r => { r with listeners := r.listeners ++ [(label, [])] }

def change (label : Label) (f : Nat → List Registration → List Registration) : Program Unit := do
  require label (.invalid label)
  modify fun r => r.change label (f r.registered)

def listen (label : Label) (listener : ListenerId) (once : Bool) : Program Unit := do
  change label fun serial => (· ++ [⟨listener, once, serial⟩])
  modify fun r => { r with registered := r.registered + 1 }

def program : Command → Program Reply
  | .set label given => do
      unused label
      let pattern ← compile given
      register label pattern
      return .self
  | .setCompiled label source => do
      let pattern ← compile source
      unused label
      register label pattern
      return .self
  | .remove label => do
      require label (.unknown label)
      modify fun r => { r with entries := r.entries.filter (!·.1.same label) }
      modify fun r => { r with listeners := r.listeners.filter (!·.1.same label) }
      return .self
  | .on label listener => do
      listen label listener false
      return .self
  | .once label listener => do
      listen label listener true
      return .self
  | .off label listener => do
      change label fun _ => (·.eraseP (·.listener == listener))
      return .self
  | .offAll (some label) => do
      change label fun _ _ => []
      return .self
  | .offAll none => do
      modify Router.clearAll
      return .self
  | .get label => do
      require label (.unknown label)
      return .pattern ((← get).pattern? label)
  | .count label => do
      require label (.invalid label)
      return .count ((← get).registrations label).length
  | .labels => return .entries (← get).entries
  | .contains label => return .contains ((← get).has label)
  | .match topic => return .found ((← get).match? topic)

theorem requireRuns (r : Router) (label : Label) (missing : LabelError) :
    (require label missing).run r =
      if r.has label then .ok () r else .error (.label missing) r := by
  cases has : r.has label <;> simp [require, has]

theorem unusedRuns (r : Router) (label : Label) :
    (unused label).run r = if r.has label then .error (.label (.inUse label)) r else .ok () r := by
  cases has : r.has label <;> simp [unused, has]

theorem compileRuns (r : Router) (given : Value) :
    (compile given).run r = match Pattern.ofValue given with
      | .ok pattern => .ok pattern r
      | .error e => .error e r := by
  unfold compile
  cases Pattern.ofValue given <;> rfl

theorem changeRuns (r : Router) (label : Label) (f : Nat → List Registration → List Registration) :
    (change label f).run r =
      if r.has label then .ok () (r.change label (f r.registered))
      else .error (.label (.invalid label)) r := by
  cases has : r.has label <;> simp [change, requireRuns, has]

theorem listenRuns (r : Router) (label : Label) (listener : ListenerId) (once : Bool) :
    (listen label listener once).run r = match r.listen label listener once with
      | .ok after => .ok () after
      | .error e => .error (.label e) r := by
  cases has : r.has label <;> simp [listen, changeRuns, Router.listen, Router.change, has]

def ends (r : Router) :
    Except Error (Reply × Router × List Record) → EStateM.Result Error Router Reply
  | .ok (reply, after, _) => .ok reply after
  | .error e => .error e r

theorem programRuns (logger : Logger) (command : Command) (r : Router) :
    (program command).run r = ends r (r.run logger command) := by
  cases command with
  | set label given =>
    cases has : r.has label with
    | true => simp [program, unusedRuns, Router.run, Router.setValue, has, ends]
    | false =>
      cases compiled : Pattern.ofValue given <;>
        simp [program, unusedRuns, compileRuns, register, Router.run, Router.setValue, Router.set,
          has, compiled, ends]
  | setCompiled label source =>
    cases compiled : Pattern.ofValue source with
    | error e => simp [program, compileRuns, Router.run, compiled, ends]
    | ok pattern =>
      cases has : r.has label <;>
        simp [program, unusedRuns, compileRuns, register, Router.run, Router.set, has, compiled,
          ends]
  | remove label =>
    cases has : r.has label <;>
      simp [program, requireRuns, Router.run, Router.remove, has, ends]
  | on label listener =>
    cases heard : r.listen label listener false <;>
      simp [program, listenRuns, Router.run, heard, ends]
  | once label listener =>
    cases heard : r.listen label listener true <;>
      simp [program, listenRuns, Router.run, heard, ends]
  | off label listener =>
    cases has : r.has label <;>
      simp [program, changeRuns, Router.run, Router.unlisten, has, ends]
  | offAll label =>
    cases label with
    | none => simp [program, Router.run, Router.clearFor, ends]
    | some label =>
      cases has : r.has label <;>
        simp [program, changeRuns, Router.run, Router.clearFor, Router.clear, has, ends]
  | get label =>
    cases has : r.has label <;>
      simp [program, requireRuns, Router.run, Router.get, has, ends]
  | count label =>
    cases has : r.has label <;>
      simp [program, requireRuns, Router.run, Router.listenerCount, has, ends]
  | labels => rfl
  | contains label => rfl
  | «match» topic => rfl

end TopicRouting.Assigning
