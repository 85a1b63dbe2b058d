import TopicRouting.Proofs.Assigning
import TopicRouting.Proofs.Table

/-! A router keeps the rows of a table in two structures, one for the order of the patterns and
one for the listeners. Each command does to both what it does to the table. -/
namespace TopicRouting.Router
open Table (Distinct alone underOnce replaceNone replaceAt firstOfKind)

variable {r : Router} {t : Table} {label : Label} {front back : List Row} {row : Row}

structure Represents (r : Router) (t : Table) : Prop where
  entries : r.entries = t.rows.map Row.entry
  listeners : r.listeners = t.rows.map Row.listened
  registered : r.registered = t.registered
  distinct : Distinct t.rows

theorem representsFresh : Represents {} {} := ⟨rfl, rfl, rfl, .nil⟩

theorem rowsOfParts {rows others : List Row} (entries : others.map Row.entry = rows.map Row.entry)
    (listeners : others.map Row.listened = rows.map Row.listened) : others = rows := by
  induction rows generalizing others with
  | nil => exact List.map_eq_nil_iff.mp entries
  | cons row rows ih =>
    cases others with
    | nil => contradiction
    | cons other others =>
      obtain ⟨entry, entries⟩ := List.cons.inj entries
      obtain ⟨listened, listeners⟩ := List.cons.inj listeners
      obtain ⟨label, pattern⟩ := Prod.mk.inj entry
      obtain ⟨_, registrations⟩ := Prod.mk.inj listened
      have same : other = row := by
        cases other
        cases row
        simp_all
      rw [same, ih entries listeners]

theorem oneTable {other : Table} (represents : Represents r t) (again : Represents r other) :
    other = t := by
  obtain ⟨rows, registered⟩ := t
  obtain ⟨others, count⟩ := other
  have same : others = rows := rowsOfParts (again.entries.symm.trans represents.entries)
    (again.listeners.symm.trans represents.listeners)
  have size : count = registered := again.registered.symm.trans represents.registered
  rw [same, size]

theorem hasRow (represents : Represents r t) (label : Label) : r.has label = t.has label := by
  rw [has, represents.listeners, List.any_map]
  rfl

theorem sameLabels (represents : Represents r t) :
    r.entries.map Prod.fst = r.listeners.map Prod.fst := by
  rw [represents.entries, represents.listeners, List.map_map, List.map_map]
  rfl

theorem matchRow (represents : Represents r t) (topic : Text) :
    r.match? topic = t.found? topic := by
  rw [match?, represents.entries, List.findSome?_map]
  rfl

theorem patternOfRow (represents : Represents r t) (label : Label) :
    r.pattern? label = (t.row? label).map Row.pattern := by
  rw [pattern?, represents.entries, List.find?_map, Option.map_map]
  rfl

theorem registrationsOfRow (represents : Represents r t) (label : Label) :
    r.registrations label = ((t.row? label).map Row.registrations).getD [] := by
  rw [registrations, represents.listeners, List.find?_map, Option.map_map]
  rfl

theorem appendRepresents (represents : Represents r t) (fresh : t.has label = false)
    (pattern : Pattern) :
    Represents { r with
      entries := r.entries ++ [(label, pattern)]
      listeners := r.listeners ++ [(label, [])] } (t.append label pattern) where
  entries := by simp [represents.entries, Table.append, Row.entry]
  listeners := by simp [represents.listeners, Table.append, Row.listened]
  registered := represents.registered
  distinct := by
    refine List.pairwise_append.mpr ⟨represents.distinct, List.pairwise_singleton .., ?_⟩
    intro row member added alone
    rw [List.mem_singleton.mp alone]
    simpa [Row.under] using List.any_eq_false.mp fresh row member

structure Stands (t : Table) (label : Label) (front : List Row) (row : Row) (back : List Row) :
    Prop where
  rows : t.rows = front ++ row :: back
  before : ∀ other ∈ front, other.under label = false
  here : row.under label = true
  behind : ∀ other ∈ back, other.under label = false

theorem standsOrMissing (distinct : Distinct t.rows) (label : Label) :
    (∀ row ∈ t.rows, row.under label = false) ∨
      ∃ front row back, Stands t label front row back := by
  rcases firstOfKind (Row.under label) t.rows with missing | ⟨front, row, back, rows, before, here⟩
  · exact .inl missing
  · refine .inr ⟨front, row, back, rows, before, here, ?_⟩
    rw [rows] at distinct
    have rest := (List.pairwise_append.mp distinct).2.1
    exact fun other member => underOnce here ((List.pairwise_cons.mp rest).1 other member)

theorem Stands.has (stands : Stands t label front row back) : t.has label = true := by
  simp [Table.has, stands.rows, stands.here]

theorem Stands.row? (stands : Stands t label front row back) : t.row? label = some row := by
  rw [Table.row?, stands.rows]
  exact List.find?_eq_some_iff_append.mpr
    ⟨stands.here, front, back, rfl, by simpa using stands.before⟩

theorem Stands.replace (stands : Stands t label front row back) (missing : LabelError)
    (f : Row → List Row) :
    t.replace label missing f = .ok { t with rows := front ++ f row ++ back } := by
  rw [Table.replace, stands.rows, replaceAt stands.before stands.here]

theorem missingHas (missing : ∀ row ∈ t.rows, row.under label = false) : t.has label = false :=
  List.any_eq_false.mpr fun row member => by simp [missing row member]

theorem missingRow (missing : ∀ row ∈ t.rows, row.under label = false) : t.row? label = none :=
  List.find?_eq_none.mpr fun row member => by simp [missing row member]

theorem missingReplace (missing : ∀ row ∈ t.rows, row.under label = false) (error : LabelError)
    (f : Row → List Row) : t.replace label error f = .error (.label error) := by
  rw [Table.replace, replaceNone missing]

theorem changedListeners (r : Router) (label : Label)
    (f : List Registration → List Registration) :
    (r.change label f).listeners = r.listeners.map fun entry =>
      (entry.1, if entry.1.same label then f entry.2 else entry.2) := rfl

theorem changeStanding (represents : Represents r t) (stands : Stands t label front row back)
    (f : List Registration → List Registration) :
    Represents (r.change label f) { t with rows := front ++ [row.change f] ++ back } where
  entries := by simp [change, represents.entries, stands.rows, Row.entry, Row.change]
  listeners := by
    have others : ∀ {rows : List Row}, (∀ other ∈ rows, other.under label = false) →
        (rows.map Row.listened).map
            (fun entry => (entry.1, if entry.1.same label then f entry.2 else entry.2)) =
          rows.map Row.listened := by
      intro rows away
      rw [List.map_map]
      refine List.map_congr_left fun other member => ?_
      have differs : other.label.same label = false := away other member
      simp [Row.listened, differs]
    have same : row.label.same label = true := stands.here
    rw [changedListeners, represents.listeners, stands.rows, List.map_append, List.map_append,
      others stands.before, List.map_cons, List.map_cons, others stands.behind]
    simp [Row.listened, Row.change, same]
  registered := represents.registered
  distinct := Table.distinctOfLabels (by simp [stands.rows, Row.change]) represents.distinct

theorem removeStanding (represents : Represents r t) (stands : Stands t label front row back) :
    Represents { r with
      entries := r.entries.filter (!·.1.same label)
      listeners := r.listeners.filter (!·.1.same label) }
      { t with rows := front ++ [] ++ back } := by
  have others : t.rows.filter (!·.under label) = front ++ [] ++ back := by
    have front : front.filter (!·.under label) = front :=
      List.filter_eq_self.mpr fun other member => by simp [stands.before other member]
    have back : back.filter (!·.under label) = back :=
      List.filter_eq_self.mpr fun other member => by simp [stands.behind other member]
    simp [stands.rows, stands.here, front, back]
  refine ⟨?_, ?_, represents.registered, ?_⟩
  · rw [represents.entries, List.filter_map, ← others]
    rfl
  · rw [represents.listeners, List.filter_map, ← others]
    rfl
  · rw [← others]
    exact represents.distinct.filter _

theorem clearRepresents (represents : Represents r t) :
    Represents r.clearAll { t with rows := t.rows.map (Row.change fun _ => []) } where
  entries := by
    rw [List.map_map]
    exact represents.entries
  listeners := by
    rw [clearAll, represents.listeners, List.map_map, List.map_map]
    rfl
  registered := represents.registered
  distinct := by
    refine Table.distinctOfLabels ?_ represents.distinct
    rw [List.map_map]
    rfl

def Answers (actual : Except Error (Reply × Router × List Record)) :
    Except Error (Reply × Table) → Prop
  | .ok (reply, after) => ∃ r records, actual = .ok (reply, r, records) ∧ Represents r after
  | .error e => actual = .error e

theorem setAnswers (represents : Represents r t) (logger : Logger) (label : Label) (given : Value) :
    Answers (r.run logger (.set label given)) (t.run (.set label given)) := by
  have has := hasRow represents label
  cases used : t.has label with
  | true => simp [Answers, Table.run, run, setValue, has, used]
  | false =>
    cases compiled : Pattern.ofValue given with
    | error e => simp [Answers, Table.run, run, setValue, has, used, compiled]
    | ok pattern =>
      simpa [Answers, Table.run, run, setValue, set, has, used, compiled] using
        appendRepresents represents used pattern

theorem setCompiledAnswers (represents : Represents r t) (logger : Logger) (label : Label)
    (source : Value) :
    Answers (r.run logger (.setCompiled label source)) (t.run (.setCompiled label source)) := by
  have has := hasRow represents label
  cases compiled : Pattern.ofValue source with
  | error e => simp [Answers, Table.run, run, compiled]
  | ok pattern =>
    cases used : t.has label with
    | true => simp [Answers, Table.run, run, set, has, used, compiled]
    | false =>
      simpa [Answers, Table.run, run, set, has, used, compiled] using
        appendRepresents represents used pattern

def Follows (actual : Except LabelError Router) : Except Error Table → Prop
  | .ok after => ∃ r, actual = .ok r ∧ Represents r after
  | .error e => actual.mapError Error.label = .error e

theorem followsAnswers {actual : Except LabelError Router} {expected : Except Error Table}
    (follows : Follows actual expected) (records : List Record) :
    Answers (do
      let after ← actual.mapError Error.label
      .ok (.self, after, records)) (do
      let after ← expected
      .ok (.self, after)) := by
  cases expected with
  | error e =>
    have refused : actual.mapError Error.label = .error e := follows
    rw [refused]
    rfl
  | ok after =>
    obtain ⟨r, rfl, represents⟩ := follows
    exact ⟨r, records, rfl, represents⟩

theorem removeFollows (represents : Represents r t) (label : Label) :
    Follows (r.remove label) (t.replace label (.unknown label) fun _ => []) := by
  rcases standsOrMissing represents.distinct label with missing | ⟨front, row, back, stands⟩
  · rw [remove, hasRow represents, missingHas missing, missingReplace missing]
    rfl
  · rw [remove, hasRow represents, stands.has, stands.replace]
    exact ⟨_, rfl, removeStanding represents stands⟩

theorem changeFollows (represents : Represents r t) (label : Label) (missing : LabelError)
    (f : List Registration → List Registration) :
    Follows (if r.has label then .ok (r.change label f) else .error missing)
      (t.replace label missing fun row => [row.change f]) := by
  rcases standsOrMissing represents.distinct label with absent | ⟨front, row, back, stands⟩
  · rw [hasRow represents, missingHas absent, missingReplace absent]
    rfl
  · rw [hasRow represents, stands.has, stands.replace]
    exact ⟨_, rfl, changeStanding represents stands f⟩

theorem listenFollows (represents : Represents r t) (label : Label) (listener : ListenerId)
    (once : Bool) : Follows (r.listen label listener once) (t.listen label listener once) := by
  have follows := changeFollows represents label (.invalid label)
    (· ++ [⟨listener, once, r.registered⟩])
  rw [Table.listen, ← represents.registered, listen]
  cases added : t.replace label (.invalid label) fun row =>
    [row.change (· ++ [⟨listener, once, r.registered⟩])] with
  | error e =>
    rw [added] at follows
    split at follows
    · contradiction
    · rename_i absent
      rw [if_neg absent]
      exact follows
  | ok after =>
    rw [added] at follows
    obtain ⟨changed, same, represents⟩ := follows
    split at same <;> cases same
    rename_i present
    rw [if_pos present]
    exact ⟨_, rfl, represents.entries, represents.listeners, rfl, represents.distinct⟩

theorem getRow (represents : Represents r t) (label : Label) :
    r.get label = match t.row? label with
      | some row => .ok (some row.pattern)
      | none => .error (.unknown label) := by
  rcases standsOrMissing represents.distinct label with missing | ⟨front, row, back, stands⟩
  · rw [get, hasRow represents, missingHas missing, missingRow missing]
    rfl
  · rw [get, hasRow represents, patternOfRow represents, stands.has, stands.row?]
    rfl

theorem countRow (represents : Represents r t) (label : Label) :
    r.listenerCount label = match t.row? label with
      | some row => .ok row.registrations.length
      | none => .error (.invalid label) := by
  rcases standsOrMissing represents.distinct label with missing | ⟨front, row, back, stands⟩
  · rw [listenerCount, hasRow represents, missingHas missing, missingRow missing]
    rfl
  · rw [listenerCount, hasRow represents, registrationsOfRow represents, stands.has, stands.row?]
    rfl

theorem getAnswers (represents : Represents r t) (logger : Logger) (label : Label) :
    Answers (r.run logger (.get label)) (t.run (.get label)) := by
  rw [run, getRow represents, Table.run]
  cases t.row? label with
  | none => rfl
  | some row => exact ⟨r, [], rfl, represents⟩

theorem countAnswers (represents : Represents r t) (logger : Logger) (label : Label) :
    Answers (r.run logger (.count label)) (t.run (.count label)) := by
  rw [run, countRow represents, Table.run]
  cases t.row? label with
  | none => rfl
  | some row => exact ⟨r, [], rfl, represents⟩

theorem runAnswers (represents : Represents r t) (logger : Logger) (command : Command) :
    Answers (r.run logger command) (t.run command) := by
  cases command with
  | set label given => exact setAnswers represents logger label given
  | setCompiled label source => exact setCompiledAnswers represents logger label source
  | remove label => exact followsAnswers (removeFollows represents label) _
  | on label listener => exact followsAnswers (listenFollows represents label listener false) []
  | once label listener => exact followsAnswers (listenFollows represents label listener true) []
  | off label listener => exact followsAnswers (changeFollows represents label _ _) []
  | offAll label =>
    cases label with
    | some label => exact followsAnswers (changeFollows represents label _ _) []
    | none => exact ⟨_, [], rfl, clearRepresents represents⟩
  | get label => exact getAnswers represents logger label
  | count label => exact countAnswers represents logger label
  | labels =>
    refine ⟨r, [], ?_, represents⟩
    rw [run, represents.entries]
  | contains label =>
    refine ⟨r, [], ?_, represents⟩
    rw [run, hasRow represents]
  | «match» topic =>
    refine ⟨r, [], ?_, represents⟩
    rw [run, matchRow represents]

theorem runsAsTable (represents : Represents r t) (logger : Logger) {command : Command}
    {reply : Reply} {after : Table} (expected : t.run command = .ok (reply, after)) :
    ∃ r' records, r.run logger command = .ok (reply, r', records) ∧ Represents r' after := by
  have answers := runAnswers represents logger command
  rwa [expected] at answers

theorem refusesAsTable (represents : Represents r t) (logger : Logger) {command : Command}
    {e : Error} (expected : t.run command = .error e) : r.run logger command = .error e := by
  have answers := runAnswers represents logger command
  rwa [expected] at answers

end TopicRouting.Router
