import TopicRouting.CommandLine
import TopicRouting.Proofs.Cutting
import TopicRouting.Proofs.Publishing

/-! Parameters that are written as assignments on a command line are read back as they were. A
topic that the tool builds from them is the one that the pattern builds, and matching it shows them
again. -/
namespace TopicRouting

namespace Segment

theorem joinProper {levels : List Text} (proper : ∀ level ∈ levels, Proper level) :
    (if (Text.join "/" levels).isEmpty then [] else levelsOf (Text.join "/" levels)) = levels := by
  cases levels with
  | nil => rfl
  | cons level rest =>
    have clean : ∀ other ∈ level :: rest, '/' ∉ other := fun other member => (proper other member).2.1
    have back := levelsJoin clean (List.cons_ne_nil level rest)
    have filled : Text.join "/" (level :: rest) ≠ [] := by
      intro empty
      rw [empty] at back
      have none : [] ∈ level :: rest := back ▸ List.mem_singleton.mpr rfl
      exact (proper [] none).1 rfl
    rw [if_neg (by simpa using filled), back]

end Segment

theorem Dict.permDistinct {d other : Dict} (distinct : d.Distinct) (texts : d.Texts)
    (perm : other.Perm d) : other.Distinct := by
  have once : (other.map Prod.fst).Nodup :=
    (perm.map Prod.fst).nodup_iff.mpr (keysNodup distinct texts)
  refine (List.pairwise_map.mp once).imp_of_mem fun {a b} _ member apart => ?_
  obtain ⟨name, named⟩ := texts b (perm.mem_iff.mp member)
  rw [named]
  exact otherKey fun same => apart (same.trans named.symm)

namespace CommandLine
open Segment

def written : Value → Text
  | .text t => t
  | .list items | .tuple items => Text.join "/" (items.map Value.plain)
  | _ => []

def assignment (entry : Value × Value) : Text := entry.1.plain ++ '=' :: written entry.2

variable {p : Pattern} {d : Dict}

theorem multiName {name : Text} : isMultiName p name = true ↔ .multi name ∈ p.segments := by
  rw [isMultiName, Pattern.tokens, List.any_map, List.any_eq_true]
  constructor
  · rintro ⟨s, member, kind⟩
    cases s with
    | multi other =>
      have same : other = name := by simpa [token] using kind
      exact same ▸ member
    | _ => simp [token] at kind
  · exact fun member => ⟨_, member, by simp [token]⟩

theorem assignedWritten (given : ∀ s ∈ p.segments, s.Given d) {name : Text} (known : name ∈ p.names)
    {v : Value} (found : d.find? (.text name) = some v) :
    assigned p name (written v) = v.readBack := by
  obtain ⟨s, inside, same⟩ := List.mem_filterMap.mp known
  have here := given s inside
  cases s with
  | raw text => contradiction
  | single other =>
    cases same
    obtain ⟨level, value, _⟩ := here
    cases found.symm.trans value
    have single : isMultiName p name = false := by
      refine Bool.eq_false_iff.mpr fun multi => ?_
      obtain ⟨levels, list | tuple, _⟩ := given _ (multiName.mp multi)
      · cases value.symm.trans list
      · cases value.symm.trans tuple
    rw [assigned, single]
    rfl
  | multi other =>
    cases same
    obtain ⟨levels, value, proper⟩ := here
    have texts : (levels.map Value.text).map Value.plain = levels := by
      rw [List.map_map]
      exact List.map_id levels
    have read : written v = Text.join "/" levels ∧ v.readBack = .list (levels.map .text) := by
      rcases value with list | tuple
      · cases found.symm.trans list
        exact ⟨congrArg (Text.join "/") texts, rfl⟩
      · cases found.symm.trans tuple
        exact ⟨congrArg (Text.join "/") texts, rfl⟩
    have back := congrArg (List.map Value.text) (joinProper proper)
    rw [apply_ite (List.map Value.text)] at back
    rw [assigned, multiName.mpr inside, if_pos rfl, read.1, read.2]
    exact congrArg Value.list back

section reading

variable (takes : p.Takes d) (distinct : d.Distinct) (cuts : ∀ name ∈ p.names, '=' ∉ name)
include takes distinct cuts

theorem addsAssignment {entry : Value × Value} (member : entry ∈ d) {done : Dict}
    (fresh : ∀ other ∈ done, other.1 ≠ entry.1) :
    addAssignment p done (assignment entry) = .ok (done ++ [(entry.1, entry.2.readBack)]) := by
  obtain ⟨key, v⟩ := entry
  obtain ⟨name, known, named⟩ :=
    (takes.keys key).mp (List.mem_map.mpr ⟨_, member, rfl⟩)
  cases named
  have cut : Text.cut '=' (assignment (.text name, v)) = some (name, written v) :=
    Text.cutFirst (cuts name known) (written v)
  have found := Dict.findOfMember distinct member
  rw [addAssignment, cut]
  dsimp only
  rw [assignedWritten takes.given known found, Dict.putFresh fresh]

theorem readsFrom (done : Dict) {rest : Dict} (inside : ∀ entry ∈ rest, entry ∈ d)
    (apart : ((done ++ rest).map Prod.fst).Nodup) :
    (rest.map assignment).foldlM (addAssignment p) done = .ok (done ++ rest.readBack) := by
  induction rest generalizing done with
  | nil => exact congrArg Except.ok (List.append_nil done).symm
  | cons entry rest ih =>
    obtain ⟨here, others⟩ := List.forall_mem_cons.mp inside
    have fresh : ∀ other ∈ done, other.1 ≠ entry.1 := by
      intro other before same
      rw [List.map_append, List.nodup_append] at apart
      exact apart.2.2 _ (List.mem_map_of_mem before) _ List.mem_cons_self same
    rw [List.map_cons, List.foldlM_cons, addsAssignment takes distinct cuts here fresh]
    have keys : (done ++ [(entry.1, entry.2.readBack)] ++ rest).map Prod.fst =
        (done ++ entry :: rest).map Prod.fst := by simp
    have later := ih _ others (keys ▸ apart)
    rw [List.append_assoc] at later
    exact later

end reading

theorem filledReadBack {levels : List Text} {segments : List Segment}
    (filled : Pattern.Filled d segments levels) {back : Dict}
    (same : ∀ name, back.find? (.text name) = (d.find? (.text name)).map Value.readBack) :
    Pattern.Filled back segments levels := by
  induction filled with
  | nil => exact .nil
  | raw tail ih => exact .raw ih
  | single named value proper tail ih => exact .single named (by rw [same, value]; rfl) proper ih
  | @multi name levels named value proper =>
    refine .multi named (.inl ?_) proper
    rw [same]
    rcases value with list | tuple
    · rw [list]
      rfl
    · rw [tuple]
      rfl

theorem buildReadBack (distinct : d.Distinct) (texts : d.Texts) {topic : Text}
    (built : p.build (.dict d) = .ok topic) {order : Dict} (ordered : order.Perm d) :
    p.build (.dict order.readBack) = .ok topic := by
  obtain ⟨levels, filled, topicOf⟩ := Pattern.buildOk.mp built
  have apart : order.Distinct := Dict.permDistinct distinct texts ordered
  refine Pattern.buildOk.mpr ⟨levels, filledReadBack filled fun name => ?_, topicOf⟩
  have found : order.find? (.text name) = d.find? (.text name) := by
    refine Option.ext fun v => ⟨fun here => ?_, fun here => ?_⟩
    · exact Dict.findOfMember distinct (ordered.mem_iff.mp (Dict.findMember here))
    · exact Dict.findOfMember apart (ordered.mem_iff.mpr (Dict.findMember here))
  rw [Dict.findReadBack, found]

theorem readGivenTexts (p : Pattern) (given : List Text) :
    readGiven p (.list (given.map .text)) = readAssignments p given := by
  have same (d : Dict) : (given.map Value.text).foldlM (addGiven p) d =
      given.foldlM (addAssignment p) d := List.foldlM_map
  exact same []

theorem compilesAgain (p : Pattern) : Pattern.ofValue (.text p.source) = .ok p := by
  have again : Pattern.compile p.source = .ok p := by
    rw [Pattern.compile]
    split
    · rename_i segments read
      cases p.compiled.symm.trans read
      rfl
    · rename_i e failed
      cases p.compiled.symm.trans failed
  rw [Pattern.ofValue, again]
  rfl

/-- For every pattern that builds a topic from a mapping of its names, of which none holds an equals
sign: the assignments of the mapping, in any order, are read as the mapping in that order, the tool
builds the same topic from them, and matching the topic gives the parameters back. -/
theorem buildAndMatch (cuts : ∀ name ∈ p.names, '=' ∉ name) (distinct : d.Distinct)
    (keys : ∀ key, key ∈ d.map Prod.fst ↔ ∃ name ∈ p.names, key = .text name) {topic : Text}
    (built : p.build (.dict d) = .ok topic) {order : Dict} (ordered : order.Perm d) :
    let given := order.map assignment
    let query (command : Text) : Query :=
      { command := some (.text command), pattern := some (.text p.source) }
    readAssignments p given = .ok order.readBack ∧ order.readBack.Perm d.readBack ∧
      (∀ unused, run { query "build" with
          topic := unused, assignments := some (.list (given.map .text)) } =
        .ok [(.text "topic", .text topic)]) ∧
      ∃ params : Dict, params.Perm d.readBack ∧ ∀ unused,
        run { query "match" with topic := some (.text topic), assignments := unused } =
          .ok [(.text "matched", .bool true), (.text "params", .dict params)] := by
  intro given query
  obtain ⟨named, values⟩ := Pattern.builds.mp ⟨topic, built⟩
  have takes : p.Takes d := ⟨named, keys, values⟩
  have once : (order.map Prod.fst).Nodup :=
    (ordered.map Prod.fst).nodup_iff.mpr (Dict.keysNodup distinct takes.texts)
  have read : readAssignments p given = .ok order.readBack :=
    readsFrom takes distinct cuts [] (fun entry => ordered.mem_iff.mp) once
  have back : order.readBack.Perm d.readBack := ordered.map _
  have same := buildReadBack distinct takes.texts built ordered
  obtain ⟨params, matched, perm⟩ := Pattern.builtReadsBack distinct takes built
  refine ⟨read, back, fun unused => ?_, params.toDict, perm, fun unused => ?_⟩
  · have answered : answer { query "build" with
        topic := unused, assignments := some (.list (given.map .text)) } =
        .ok [(.text "topic", .text topic)] := by
      simp only [answer, required, query, compilesAgain, readGivenTexts, read, same, bind,
        Except.bind, show Command.ofName? "build" = some .buildTopic from rfl]
    rw [run, answered]
  · have answered : answer { query "match" with
        topic := some (.text topic), assignments := unused } = .ok (matchAnswer p topic) := by
      simp only [answer, required, query, compilesAgain, bind, Except.bind,
        show Command.ofName? "match" = some .matchTopic from rfl]
    rw [run, answered, matchAnswer, matched]

theorem builtWithEqualsSign :
    let p : Pattern := ⟨"a/+id/#rest", [.raw "a", .single "id", .multi "rest"], rfl⟩
    let d : Dict := [(.text "id", .text "x=1"), (.text "rest", .tuple [])]
    let given : List Text := ["rest=", "id=x=1"]
    let query (command : Text) : Query :=
      { command := some (.text command), pattern := some (.text "a/+id/#rest") }
    (∀ name ∈ p.names, '=' ∉ name) ∧ d.Distinct ∧
      (∀ key, key ∈ d.map Prod.fst ↔ ∃ name ∈ p.names, key = .text name) ∧
      p.build (.dict d) = .ok ("a/x=1/" : Text) ∧
      readAssignments p given = .ok [(.text "rest", .list []), (.text "id", .text "x=1")] ∧
      run { query "build" with assignments := some (.list (given.map .text)) } =
        .ok [(.text "topic", .text "a/x=1/")] ∧
      ∃ params : Dict, params.Perm [(.text "id", .text "x=1"), (.text "rest", .list [])] ∧
        run { query "match" with topic := some (.text "a/x=1/") } =
          .ok [(.text "matched", .bool true), (.text "params", .dict params)] := by
  intro p d given query
  have cuts : ∀ name ∈ p.names, '=' ∉ name := by decide
  have distinct : d.Distinct := List.pairwise_pair.mpr (Dict.otherKey (by simp))
  have keys : ∀ key, key ∈ d.map Prod.fst ↔ ∃ name ∈ p.names, key = .text name := by
    intro key
    simp [d, p, Pattern.names, Segment.name?]
  have built : p.build (.dict d) = .ok ("a/x=1/" : Text) := rfl
  obtain ⟨read, _, builds, params, perm, matched⟩ :=
    buildAndMatch cuts distinct keys built d.reverse_perm
  exact ⟨cuts, distinct, keys, built, read, builds none, params, perm, matched none⟩

end CommandLine
end TopicRouting
