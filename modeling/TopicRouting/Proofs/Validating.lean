import TopicRouting.Bus.Configured
import TopicRouting.Proofs.Building
import TopicRouting.Proofs.Compiling
import TopicRouting.Proofs.Mapping

/-! What validation accepts, and what comes of building a bus from what it was given. Validation
splits the URL but never asks for its port, so the two part where the URL cannot be split and where
its port is none. -/
namespace TopicRouting

namespace Dict

instance (d : Dict) : Decidable d.Distinct := inferInstanceAs (Decidable (d.Pairwise _))

theorem putKeys {d : Dict} {key value : Value} (here : d.has key = true) :
    (d.put key value).map Prod.fst = d.map Prod.fst := by
  induction d with
  | nil => contradiction
  | cons entry d ih =>
    obtain ⟨k, v⟩ := entry
    cases same : k.sameKey key with
    | true => simp [put, same]
    | false =>
      have later : Dict.has d key = true := by simpa [has, same] using here
      simp [put, same, ih later]

theorem putOther {d : Dict} {key : Value} (missing : d.has key = false) (value : Value) :
    d.put key value = d ++ [(key, value)] := by
  induction d with
  | nil => rfl
  | cons entry d ih =>
    obtain ⟨k, v⟩ := entry
    obtain ⟨other, later⟩ : k.sameKey key = false ∧ Dict.has d key = false := by
      simpa [has] using missing
    simp [put, other, ih later]

theorem distinctKeys {d : Dict} :
    d.Distinct ↔ (d.map Prod.fst).Pairwise fun a b => a.sameKey b = false :=
  (List.pairwise_map (f := Prod.fst) (R := fun a b : Value => a.sameKey b = false)).symm

theorem Distinct.put {d : Dict} (distinct : d.Distinct) (key value : Value) :
    (d.put key value).Distinct := by
  cases here : d.has key with
  | true =>
    rw [distinctKeys, putKeys here]
    exact distinctKeys.mp distinct
  | false =>
    rw [putOther here]
    refine List.pairwise_append.mpr ⟨distinct, List.pairwise_singleton _ _, fun entry inside other
      only => ?_⟩
    rw [List.mem_singleton.mp only]
    simpa using List.any_eq_false.mp here entry inside

theorem Distinct.overlay {d later : Dict} (distinct : d.Distinct) : (d.overlay later).Distinct := by
  induction later generalizing d with
  | nil => exact distinct
  | cons entry later ih => exact ih (distinct.put entry.1 entry.2)

end Dict

namespace Sections

def Distinct (s : Sections) : Prop := ∀ entry ∈ s, Dict.Distinct entry.2

instance (s : Sections) : Decidable s.Distinct :=
  inferInstanceAs (Decidable (∀ entry ∈ s, Dict.Distinct entry.2))

theorem settingsAll {P : Dict → Prop} {s : Sections} (all : ∀ entry ∈ s, P entry.2)
    (empty : P []) (name : Value) : P (s.settings name) := by
  rw [settings, find?]
  cases found : List.find? (fun entry => entry.1.sameKey name) s with
  | none => exact empty
  | some entry => exact all entry (List.mem_of_find?_eq_some found)

theorem putAll {P : Value × Dict → Prop} {s : Sections} {name : Value} {d : Dict}
    (all : ∀ entry ∈ s, P entry) (new : P (name, d))
    (changed : ∀ n old, P (n, old) → P (n, d)) : ∀ entry ∈ s.put name d, P entry := by
  induction s with
  | nil => exact List.forall_mem_singleton.mpr new
  | cons first s ih =>
    obtain ⟨here, later⟩ := List.forall_mem_cons.mp all
    obtain ⟨n, old⟩ := first
    rw [put]
    split
    · exact List.forall_mem_cons.mpr ⟨changed n old here, later⟩
    · exact List.forall_mem_cons.mpr ⟨here, ih later⟩

theorem Distinct.settings {s : Sections} (distinct : s.Distinct) (name : Value) :
    (s.settings name).Distinct :=
  settingsAll distinct List.Pairwise.nil name

theorem Distinct.put {s : Sections} (distinct : s.Distinct) (name : Value) {d : Dict}
    (settings : d.Distinct) : (s.put name d).Distinct :=
  putAll distinct settings fun _ _ _ => settings

theorem Distinct.set {s : Sections} (distinct : s.Distinct) (name key value : Value) :
    (s.set name key value).Distinct :=
  distinct.put name ((distinct.settings name).put key value)

theorem Distinct.extend {s : Sections} (distinct : s.Distinct) (name : Value) (later : Dict) :
    (s.extend name later).Distinct :=
  distinct.put name (distinct.settings name).overlay

end Sections

namespace Config

theorem defaultsDistinct : defaults.Distinct := by
  decide

structure Keeps (kept : Sections → Prop) : Prop where
  set : ∀ {s : Sections} (name key value : Value), kept s → kept (s.set name key value)
  extend : ∀ {s : Sections} (name : Value) (later : Dict), kept s → kept (s.extend name later)

theorem distinctKept : Keeps Sections.Distinct where
  set name key value distinct := distinct.set name key value
  extend name later distinct := distinct.extend name later

variable {kept : Sections → Prop}

theorem Keeps.merged (keeps : Keeps kept) {file : Text} {s after : Sections} {document : Value}
    (merged : merge file s document = .ok after) (before : kept s) : kept after := by
  cases document with
  | dict entries =>
    rw [merge] at merged
    induction entries generalizing s with
    | nil =>
      cases merged
      exact before
    | cons entry entries ih =>
      obtain ⟨name, value⟩ := entry
      cases value with
      | null => exact ih before merged
      | dict later => exact ih (keeps.extend name later before) merged
      | _ => contradiction
  | _ => contradiction

theorem Keeps.overridden (keeps : Keeps kept) (env : Environment) {s : Sections} (before : kept s)
    (overrides : List Override) : kept (overrides.foldl (applyOverride env) s) := by
  induction overrides generalizing s with
  | nil => exact before
  | cons o overrides ih =>
    refine ih ?_
    rw [applyOverride]
    split
    · exact keeps.set _ _ _ before
    · exact before

theorem Keeps.loaded (keeps : Keeps kept) (start : kept defaults) {folder : Folder}
    {env : Environment} {given : Text} {c : Config} (loaded : load folder env given = .ok c) :
    kept c.sections := by
  obtain ⟨s, sections, rest⟩ := bindOk.mp loaded
  cases rest
  refine keeps.overridden env ?_ Override.all
  obtain ⟨content, _, laid⟩ := bindOk.mp sections
  split at laid
  · obtain ⟨document, _, merged⟩ := bindOk.mp laid
    exact keeps.merged merged start
  · cases laid
    exact start

theorem Keeps.changed (keeps : Keeps kept) {c : Config} (before : kept c.sections)
    (name key value : Value) : kept (c.change name key value).1.sections := by
  rw [change]
  split
  · exact before
  · split
    · exact keeps.extend name [] before
    · exact keeps.set name key value before

/- The configurations that there are: one is loaded, and its settings are changed. -/
inductive Made : Config → Prop
  | loaded {folder : Folder} {env : Environment} {given : Text} {c : Config}
      (loaded : load folder env given = .ok c) : Made c
  | changed {c : Config} (made : Made c) (name key value : Value) :
      Made (c.change name key value).1

theorem Made.keeps {c : Config} (made : Made c) (keeps : Keeps kept) (start : kept defaults) :
    kept c.sections := by
  induction made with
  | loaded loaded => exact keeps.loaded start loaded
  | changed _ name key value ih => exact keeps.changed ih name key value

theorem Made.distinct {c : Config} (made : Made c) : Sections.Distinct c.sections :=
  made.keeps distinctKept defaultsDistinct

structure Parts where
  url : Text
  client : Option Text
  qos : Int
  keepalive : Int
  exporterPort : Int
  apiPort : Int
  level : Text
  patterns : List (Text × Text)

def IsWhole (i : Int) (v : Value) : Prop := v = .int i ∨ ∃ b, v = .bool b ∧ i = if b then 1 else 0

def patternEntry (entry : Text × Text) : Value × Value := (.text entry.1, .text entry.2)

structure Gives (c : Config) (p : Parts) : Prop where
  url : c.sections.get? (.text "bus") (.text "url") = some (.text p.url)
  client : c.sections.get? (.text "bus") (.text "client_id") = p.client.map .text
  qos : ∃ v, c.sections.get? (.text "bus") (.text "qos") = some v ∧ IsWhole p.qos v
  keepalive : ∃ v, c.sections.get? (.text "bus") (.text "keepalive") = some v ∧
    IsWhole p.keepalive v
  exporterPort : ∃ v, c.sections.get? (.text "monitoring") (.text "prometheus_port") = some v ∧
    IsWhole p.exporterPort v
  apiPort : ∃ v, c.sections.get? (.text "api") (.text "port") = some v ∧ IsWhole p.apiPort v
  level : c.sections.get? (.text "logging") (.text "level") = some (.text p.level)
  patterns : c.patterns = p.patterns.map patternEntry
  distinct : c.patterns.Distinct

/- What validation looks for, with the URL already split. -/
@[mk_iff]
structure Parts.Fit (p : Parts) (u : Url) : Prop where
  scheme : (Broker.Scheme.ofName? u.scheme).isSome
  qos : 0 ≤ p.qos ∧ p.qos ≤ 2
  keepalive : 1 ≤ p.keepalive
  exporterPort : 1 ≤ p.exporterPort ∧ p.exporterPort ≤ 65535
  apiPort : 1 ≤ p.apiPort ∧ p.apiPort ≤ 65535
  patterns : ∀ entry ∈ p.patterns, ∃ pattern, Pattern.compile entry.2 = .ok pattern

theorem getPresent {c : Config} {name key v : Value} (present : c.sections.get? name key = some v)
    (default : Value) : c.get name key default = v := by
  rw [get, present]
  rfl

theorem qosWhole {i : Int} {v : Value} (whole : IsWhole i v) :
    isQos v = true ↔ 0 ≤ i ∧ i ≤ 2 := by
  rcases whole with rfl | ⟨b, rfl, rfl⟩
  · simp [isQos, Value.whole?]
    omega
  · cases b <;> decide

theorem keepaliveWhole {i : Int} {v : Value} (whole : IsWhole i v) :
    isBelowOne v = .ok (decide (i < 1)) := by
  rcases whole with rfl | ⟨b, rfl, rfl⟩
  · rfl
  · cases b <;> rfl

theorem portWhole {i : Int} {v : Value} (whole : IsWhole i v) :
    isPort v = true ↔ 1 ≤ i ∧ i ≤ 65535 := by
  rcases whole with rfl | ⟨b, rfl, rfl⟩
  · simp [isPort]
  · cases b <;> decide

theorem textProblems (table : List (Text × Text)) :
    ∃ ps, patternProblems (table.map patternEntry) = .ok ps ∧
      (ps = [] ↔ ∀ entry ∈ table, ∃ pattern, Pattern.compile entry.2 = .ok pattern) := by
  induction table with
  | nil => exact ⟨[], rfl, by simp⟩
  | cons entry table ih =>
    obtain ⟨label, source⟩ := entry
    obtain ⟨ps, found, none⟩ := ih
    rw [List.map_cons, patternEntry, patternProblems, Pattern.ofValue, found]
    cases compiled : Pattern.compile source with
    | ok pattern => exact ⟨ps, rfl, by simp [none, compiled]⟩
    | error cause => exact ⟨_, rfl, by simp [compiled]⟩

theorem noProblem {fits : Prop} [Decidable fits] {problem : Problem} :
    (if fits then [] else [problem]) = [] ↔ fits := by
  by_cases fits <;> simp [*]

theorem aProblem {fails : Prop} [Decidable fails] {problem : Problem} :
    (if fails then [problem] else []) = [] ↔ ¬ fails := by
  by_cases fails <;> simp [*]

theorem problemsUnread {c : Config} {p : Parts} (gives : c.Gives p) {e : ValueError}
    (unread : Url.read p.url = .error e) : c.problems = .error (.value e) := by
  rw [problems, schemeProblems, getPresent gives.url, Url.ofValue, unread]
  rfl

theorem problemsRead {c : Config} {p : Parts} (gives : c.Gives p) {u : Url}
    (read : Url.read p.url = .ok u) : ∃ ps, c.problems = .ok ps ∧ (ps = [] ↔ p.Fit u) := by
  obtain ⟨qos, qosGiven, qosIs⟩ := gives.qos
  obtain ⟨keepalive, keepaliveGiven, keepaliveIs⟩ := gives.keepalive
  obtain ⟨exporter, exporterGiven, exporterIs⟩ := gives.exporterPort
  obtain ⟨api, apiGiven, apiIs⟩ := gives.apiPort
  obtain ⟨ps, found, none⟩ := textProblems p.patterns
  have scheme : c.schemeProblems =
      .ok (if (Broker.Scheme.ofName? u.scheme).isSome then [] else [.scheme (.text u.scheme)]) := by
    rw [schemeProblems, getPresent gives.url, Url.ofValue, read]
    rfl
  have low : c.keepaliveProblems = .ok (if decide (p.keepalive < 1) then [.keepalive] else []) := by
    rw [keepaliveProblems, getPresent keepaliveGiven, keepaliveWhole keepaliveIs]
    rfl
  rw [problems, scheme, low, gives.patterns, found, getPresent qosGiven, portProblems,
    portProblems, getPresent exporterGiven, getPresent apiGiven]
  refine ⟨_, rfl, ?_⟩
  simp only [List.append_eq_nil_iff, noProblem, aProblem, none, qosWhole qosIs,
    portWhole exporterIs, portWhole apiIs, Parts.fit_iff, and_assoc, decide_eq_true_eq, Int.not_lt]

end Config

namespace Bus
open Config (Parts patternEntry)

theorem loggerOfText (component : Value) (name : Text) (environment : Option Text) :
    ∃ level, Logger.ofLevel component (.text name) environment = .ok ⟨component, .text level⟩ := by
  rw [Logger.ofLevel, Value.orElse]
  cases (Value.text name).isBlank <;> exact ⟨_, rfl⟩

theorem settingsKnown {url : Text} {u : Url} (read : Url.read url = .ok u)
    (scheme : (Broker.Scheme.ofName? u.scheme).isSome) :
    (∀ e, u.port? = .error e → Broker.Settings.read (.text url) = .error (.value e)) ∧
    (∀ port, u.port? = .ok port → ∃ settings, Broker.Settings.read (.text url) = .ok settings) := by
  obtain ⟨known, found⟩ := Option.isSome_iff_exists.mp scheme
  have whole : Broker.Settings.read (.text url) =
      (Broker.Settings.ofScheme known u).mapError .value := by
    rw [Broker.Settings.read, Url.ofValue, read]
    simp only [bind, Except.bind, Except.mapError, found]
  rw [whole, Broker.Settings.ofScheme]
  constructor
  · intro e port
    rw [port]
    rfl
  · intro port ported
    rw [ported]
    exact ⟨_, rfl⟩

theorem hasSet {r after : Router} {label : Text} {pattern : Pattern}
    (set : r.set (.text label) pattern = .ok after) (name : Text) :
    after.has (.text name) = (r.has (.text name) || label == name) := by
  rw [Router.set] at set
  split at set
  · contradiction
  · cases set
    have same : (Label.text label).same (.text name) = (label == name) := by
      simp [Label.same, Scalar.key]
    simp [Router.has, same]

def sources (r : Router) : List (Label × Text) :=
  r.entries.map fun (label, pattern) => (label, pattern.source)

def labelled (entry : Text × Text) : Label × Text := (.text entry.1, entry.2)

theorem setText {r : Router} {label source : Text} {pattern : Pattern}
    (fresh : r.has (.text label) = false) (compiled : Pattern.compile source = .ok pattern) :
    ∃ after, r.set (.text label) pattern = .ok after ∧
      sources after = sources r ++ [(.text label, source)] := by
  rw [Router.set, fresh]
  exact ⟨_, rfl, by simp [sources, Pattern.compiledSource compiled]⟩

theorem routedText {s : State} {router : Router} {label source : Text} {pattern : Pattern}
    (fresh : s.router.has (.text label) = false)
    (compiled : Pattern.compile source = .ok pattern)
    (set : s.router.set (.text label) pattern = .ok router) :
    ∃ outputs, s.route (.set (.text label) (.text source)) =
      .ok (.self, ⟨{ s with router := router }, outputs⟩) := by
  have valued : s.router.setValue (.text label) (.text source) = .ok (router, pattern) := by
    rw [Router.setValue, fresh, Pattern.ofValue, compiled]
    exact bindOk.mpr ⟨pattern, rfl, bindOk.mpr ⟨router, by rw [set]; rfl, rfl⟩⟩
  rw [State.route, Router.run, valued]
  exact ⟨_, rfl⟩

theorem patternsSet (table : List (Text × Text)) {s : State}
    (fresh : ∀ entry ∈ table, s.router.has (.text entry.1) = false)
    (distinct : (table.map Prod.fst).Nodup)
    (compiled : ∀ entry ∈ table, ∃ pattern, Pattern.compile entry.2 = .ok pattern) :
    ∃ turn, setPatterns s (table.map patternEntry) = (turn, .ok ()) ∧
      sources turn.state.router = sources s.router ++ table.map labelled := by
  induction table generalizing s with
  | nil => exact ⟨s.quiet, rfl, by simp [State.quiet]⟩
  | cons entry table ih =>
    obtain ⟨label, source⟩ := entry
    obtain ⟨freshHere, freshLater⟩ := List.forall_mem_cons.mp fresh
    obtain ⟨⟨pattern, compiledHere⟩, compiledLater⟩ := List.forall_mem_cons.mp compiled
    obtain ⟨apart, distinctLater⟩ := List.nodup_cons.mp distinct
    obtain ⟨router, set, grown⟩ := setText freshHere compiledHere
    obtain ⟨outputs, routed⟩ := routedText freshHere compiledHere set
    obtain ⟨turn, rest, all⟩ := ih (s := { s with router := router }) (fun entry inside => by
      have other : label ≠ entry.1 := by
        rintro rfl
        exact apart (List.mem_map.mpr ⟨entry, inside, rfl⟩)
      rw [hasSet set, freshLater entry inside]
      simpa using other) distinctLater compiledLater
    refine ⟨⟨turn.state, outputs ++ turn.outputs⟩, ?_, ?_⟩
    · rw [List.map_cons, patternEntry, setPatterns]
      simp only [Label.ofValue?, Scalar.ofValue?, Option.map_some, routed, rest]
    · simp [all, grown, labelled]

theorem namesNodup {c : Config} {p : Parts} (gives : c.Gives p) :
    (p.patterns.map Prod.fst).Nodup := by
  have texts : c.patterns.Texts := by
    rw [gives.patterns]
    intro entry inside
    obtain ⟨source, _, rfl⟩ := List.mem_map.mp inside
    exact ⟨_, rfl⟩
  have keys := Dict.keysNodup gives.distinct texts
  rw [gives.patterns, List.map_map] at keys
  refine List.Nodup.of_map Value.text ?_
  rw [List.map_map]
  exact keys

structure Plain (setup : Setup) (url : Text) : Prop where
  url : setup.url = .text url
  router : setup.router = none
  logger : ∃ component level, setup.logger = some ⟨component, .text level⟩

theorem Plain.created {setup : Setup} {url : Text} (plain : Plain setup url) (env : Environment)
    (generated : Text) :
    (∀ e, Broker.Settings.read (.text url) = .error e → setup.create env generated = .error e) ∧
    ∀ settings, Broker.Settings.read (.text url) = .ok settings →
      ∃ s, setup.create env generated = .ok s ∧ s.router = {} := by
  obtain ⟨component, level, logger⟩ := plain.logger
  obtain ⟨least, leveled⟩ := loggerOfText (.text "router") level env.logLevel
  constructor
  · intro e unread
    rw [Setup.create, plain.url, unread]
    rfl
  · intro settings read
    rw [Setup.create, plain.url, read, logger, plain.router]
    change ∃ s, (Logger.ofLevel (.text "router") (.text level) env.logLevel >>= fun _ => _) = _ ∧ _
    rw [leveled]
    exact ⟨_, rfl, rfl⟩

theorem builtPlain {c : Config} {p : Parts} (gives : c.Gives p) (found : c.problems = .ok [])
    (env : Environment) (generated : Text) : ∃ setup, Plain setup p.url ∧
      ofConfig c { url := .null } false env generated = setup.create env generated >>= fun s =>
        (setPatterns s c.patterns).2.map fun _ => (setPatterns s c.patterns).1 := by
  obtain ⟨level, leveled⟩ := loggerOfText (.text "bus") p.level env.logLevel
  have shape : ∃ setup, Plain setup p.url ∧ build c { url := .null } false env generated =
      setup.create env generated >>= fun s => .ok (setPatterns s c.patterns) := by
    rw [build, found]
    change ∃ setup, _ ∧ (Logger.ofLevel (.text "bus")
      (c.get (.text "logging") (.text "level") (.text "INFO")) env.logLevel >>= fun _ => _) = _
    rw [Config.getPresent gives.level, leveled]
    exact ⟨_, ⟨Config.getPresent gives.url _, rfl, _, _, rfl⟩, rfl⟩
  obtain ⟨setup, plain, built⟩ := shape
  refine ⟨setup, plain, ?_⟩
  rw [ofConfig, built]
  cases setup.create env generated <;> rfl

/- For every configuration whose settings have the kinds that they are meant to have. A URL that
cannot be split is an error of both; else validation always answers, and it finds nothing just if
all that it looks for is in order. What it finds is what building refuses. If it finds nothing, the
port that it never asked for decides: it is an error of building, or the bus has all the
patterns. -/
theorem builtOrRefused {c : Config} {p : Parts} (gives : c.Gives p) (env : Environment)
    (generated : Text) :
    let built := ofConfig c { url := .null } false env generated
    (∀ e, Url.read p.url = .error e → c.problems = .error (.value e) ∧ built = .error (.value e)) ∧
    ∀ u, Url.read p.url = .ok u → ∃ ps, c.problems = .ok ps ∧ (ps = [] ↔ p.Fit u) ∧
      (ps ≠ [] →
        built = .error (.bus (.invalidConfiguration (ps.map Config.Problem.message)))) ∧
      (ps = [] →
        (∀ e, u.port? = .error e → built = .error (.value e)) ∧
        ∀ port, u.port? = .ok port → ∃ turn, built = .ok turn ∧
          sources turn.state.router = p.patterns.map labelled) := by
  have unbuilt {e : Error} (failed : c.problems = .error e) :
      ofConfig c { url := .null } false env generated = .error e := by
    rw [ofConfig, build, failed]
    rfl
  refine ⟨fun e unread => ?_, fun u read => ?_⟩
  · have failed := Config.problemsUnread gives unread
    exact ⟨failed, unbuilt failed⟩
  obtain ⟨ps, found, fit⟩ := Config.problemsRead gives read
  refine ⟨ps, found, fit, fun some => ?_, fun none => ?_⟩
  · rw [ofConfig, build, found]
    cases ps with
    | nil => contradiction
    | cons p ps => rfl
  · rw [none] at found
    have fit := fit.mp none
    obtain ⟨setup, plain, built⟩ := builtPlain gives found env generated
    obtain ⟨unported, ported⟩ := settingsKnown read fit.scheme
    obtain ⟨unmade, made⟩ := plain.created env generated
    refine ⟨fun e port => ?_, fun port known => ?_⟩
    · rw [built, unmade _ (unported e port)]
      rfl
    · obtain ⟨settings, told⟩ := ported port known
      obtain ⟨s, created, empty⟩ := made settings told
      obtain ⟨turn, set, all⟩ := patternsSet p.patterns (s := s)
        (fun entry _ => by rw [empty]; rfl) (namesNodup gives) fit.patterns
      rw [← gives.patterns] at set
      refine ⟨turn, ?_, by rw [all, empty]; rfl⟩
      rw [built, created]
      change (setPatterns s c.patterns).2.map (fun _ => (setPatterns s c.patterns).1) = _
      rw [set]
      rfl

theorem builtOrRefusedPort :
    let c : Config := (Config.set ⟨"topicbus.yaml", Config.defaults⟩ (.text "bus") (.text "url")
      (.text "mqtt://localhost:x")).set (.text "patterns") (.text "state") (.text "x/+id")
    let p : Parts :=
      ⟨"mqtt://localhost:x", none, 0, 60, 9090, 8080, "INFO", [("state", "x/+id")]⟩
    c.Gives p ∧ c.problems = .ok [] ∧
      ofConfig c { url := .null } false [] "topicbus-1" =
        .error (.value (.portNotNumber "x")) := by
  intro c p
  have gives : c.Gives p :=
    { url := rfl
      client := rfl
      qos := ⟨_, rfl, .inl rfl⟩
      keepalive := ⟨_, rfl, .inl rfl⟩
      exporterPort := ⟨_, rfl, .inl rfl⟩
      apiPort := ⟨_, rfl, .inl rfl⟩
      level := rfl
      patterns := rfl
      distinct := by decide }
  have read : Url.read p.url = .ok ⟨"mqtt", "localhost:x"⟩ := rfl
  obtain ⟨ps, found, fit, _, port⟩ := (builtOrRefused gives [] "topicbus-1").2 _ read
  have none : ps = [] := fit.mpr
    { scheme := rfl
      qos := by decide
      keepalive := by decide
      exporterPort := by decide
      apiPort := by decide
      patterns := fun entry inside => by
        rw [List.mem_singleton.mp inside]
        exact ⟨_, rfl⟩ }
  exact ⟨gives, none ▸ found, (port none).1 _ rfl⟩

end Bus
end TopicRouting
