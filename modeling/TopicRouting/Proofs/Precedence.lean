import TopicRouting.Proofs.History
import TopicRouting.Proofs.Spelling

/-! Which pattern takes a topic when patterns come and go. The entries before and behind the one
that is registered or removed are tried as before, and of two entries with one subscription topic
the later is never reached. -/
namespace TopicRouting.Router

variable {r : Router} {t : Table} {label : Label} {p : Pattern}

abbrev Entry := Label × Pattern

def Entry.found? (topic : Text) (entry : Entry) : Option Found :=
  (entry.2.match? topic).map fun params => ⟨entry.1, entry.2, params⟩

def firstOf (entries : List Entry) (topic : Text) : Option Found :=
  entries.findSome? (Entry.found? topic)

theorem matchIsFirst (r : Router) (topic : Text) : r.match? topic = firstOf r.entries topic := rfl

theorem firstAppend (front back : List Entry) (topic : Text) :
    firstOf (front ++ back) topic = (firstOf front topic).or (firstOf back topic) :=
  List.findSome?_append

theorem firstCons (entry : Entry) (back : List Entry) (topic : Text) :
    firstOf (entry :: back) topic = (entry.found? topic).or (firstOf back topic) := by
  rw [firstOf, List.findSome?_cons]
  cases entry.found? topic <;> rfl

theorem foundLabel {entry : Entry} {topic : Text} {found : Found}
    (here : entry.found? topic = some found) : found.label = entry.1 := by
  obtain ⟨params, _, rfl⟩ := Option.map_eq_some_iff.mp here
  rfl

theorem firstLabel {entries : List Entry} {topic : Text} {found : Found}
    (first : firstOf entries topic = some found) : ∃ entry ∈ entries, found.label = entry.1 := by
  obtain ⟨entry, member, here⟩ := List.exists_of_findSome?_eq_some first
  exact ⟨entry, member, foundLabel here⟩

theorem setEntries (represents : Represents r t) (fresh : r.has label = false) :
    ∃ later, r.set label p = .ok later ∧ later.entries = r.entries ++ [(label, p)] ∧
      later.remove label = .ok r := by
  have same := Label.sameRefl label
  have listeners : ∀ entry ∈ r.listeners, entry.1.same label = false :=
    fun entry member => by simpa using List.any_eq_false.mp fresh entry member
  have entries : ∀ entry ∈ r.entries, entry.1.same label = false := by
    have labels : ∀ l ∈ r.listeners.map Prod.fst, l.same label = false := by simpa using listeners
    rw [← sameLabels represents] at labels
    simpa using labels
  have kept {α : Type} {labelled : List (Label × α)}
      (others : ∀ entry ∈ labelled, entry.1.same label = false) (value : α) :
      (labelled ++ [(label, value)]).filter (!·.1.same label) = labelled := by
    have front : labelled.filter (!·.1.same label) = labelled :=
      List.filter_eq_self.mpr fun entry member => by simp [others entry member]
    rw [List.filter_append, front]
    simp [same]
  refine ⟨_, by rw [set, fresh]; rfl, rfl, ?_⟩
  have known : ({ r with
      entries := r.entries ++ [(label, p)]
      listeners := r.listeners ++ [(label, [])] } : Router).has label = true := by
    simp [has, same]
  rw [remove, if_pos known]
  simp only [kept entries, kept listeners]

theorem matchAfterSet {later : Router} (added : later.entries = r.entries ++ [(label, p)])
    (topic : Text) : later.match? topic =
      (r.match? topic).or ((p.match? topic).map fun params => ⟨label, p, params⟩) := by
  rw [matchIsFirst, added, firstAppend, firstCons]
  exact congrArg _ (Option.or_none)

theorem removeEntries (represents : Represents r t) (known : r.has label = true) :
    ∃ front entry back later, r.entries = front ++ entry :: back ∧ entry.1.same label = true ∧
      (∀ other ∈ front ++ back, other.1.same label = false) ∧
      r.remove label = .ok later ∧ later.entries = front ++ back := by
  rcases standsOrMissing represents.distinct label with missing | ⟨front, row, back, stands⟩
  · rw [hasRow represents, missingHas missing] at known
    contradiction
  · refine ⟨front.map Row.entry, row.entry, back.map Row.entry, _, ?_, stands.here, ?_,
      by rw [remove, if_pos known], ?_⟩
    · rw [represents.entries, stands.rows, List.map_append, List.map_cons]
    · rw [← List.map_append, List.forall_mem_map]
      exact List.forall_mem_append.mpr ⟨stands.before, stands.behind⟩
    · simpa using (removeStanding represents stands).entries

theorem matchAfterRemove {front back : List Entry} {entry : Entry} {later : Router}
    (stood : r.entries = front ++ entry :: back) (same : entry.1.same label = true)
    (others : ∀ other ∈ front ++ back, other.1.same label = false)
    (removed : later.entries = front ++ back) (topic : Text) :
    later.match? topic = match r.match? topic with
      | some found => if found.label.same label then firstOf back topic else some found
      | none => none := by
  obtain ⟨before, behind⟩ := List.forall_mem_append.mp others
  rw [matchIsFirst, matchIsFirst, stood, removed, firstAppend, firstAppend, firstCons]
  cases first : firstOf front topic with
  | some found =>
    obtain ⟨other, member, told⟩ := firstLabel first
    simp [told, before other member]
  | none =>
    cases here : entry.found? topic with
    | some found => simp [foundLabel here, same]
    | none =>
      cases last : firstOf back topic with
      | none => rfl
      | some found =>
        obtain ⟨other, member, told⟩ := firstLabel last
        simp [told, behind other member]

theorem matchesAlike {first second : Entry} (same : first.2.topic = second.2.topic)
    {topic : Text} (missed : first.found? topic = none) : second.found? topic = none := by
  simp only [Entry.found?, Pattern.match?, Option.map_eq_none_iff] at missed ⊢
  rw [← Pattern.groupsOfTopic same, missed]

theorem firstShadowed {front between back : List Entry} {first second : Entry}
    (same : first.2.topic = second.2.topic) (topic : Text) :
    firstOf (front ++ first :: between ++ second :: back) topic =
      firstOf (front ++ first :: between ++ back) topic := by
  simp only [firstAppend, firstCons]
  cases here : first.found? topic with
  | none => rw [matchesAlike same here, Option.none_or, Option.none_or]
  | some found => cases firstOf front topic <;> rfl

theorem matchShadowed {front between back : List Entry} {first second : Entry}
    (represents : Represents r t) (stood : r.entries = front ++ first :: between ++ second :: back)
    (same : first.2.topic = second.2.topic) {topic : Text} {found : Found}
    (taken : r.match? topic = some found) : found.label.same second.1 = false := by
  have distinct : r.entries.Pairwise fun a b => a.1.same b.1 = false := by
    rw [represents.entries]
    exact List.pairwise_map.mpr represents.distinct
  rw [stood] at distinct
  obtain ⟨_, rest, across⟩ := List.pairwise_append.mp distinct
  rw [matchIsFirst, stood, firstShadowed same] at taken
  obtain ⟨other, member, told⟩ := firstLabel taken
  rw [told]
  rcases List.mem_append.mp member with before | behind
  · exact across other before second List.mem_cons_self
  · have apart := (List.pairwise_cons.mp rest).1 other behind
    refine Bool.eq_false_iff.mpr fun alike => ?_
    rw [Label.sameSymm alike] at apart
    contradiction

/-- Whatever has been done to a router: a new label takes the topics that no label took before, if
its pattern matches them, and no other topics; removing it again gives the router back. When a
label is removed, the topics that it took go to the next entry that matches, and all others stay.
Of two entries with one subscription topic, the later never takes a topic. -/
theorem registrationsLocal (turns : List Turn) (logger : Logger) :
    let r := after turns
    (∀ label given p, r.has label = false → Pattern.ofValue given = .ok p →
      ∃ later added removed, r.run logger (.set label given) = .ok (.self, later, added) ∧
        r.run logger (.setCompiled label given) = .ok (.self, later, added) ∧
        (∀ topic, later.match? topic = match r.match? topic with
          | some found => some found
          | none => (p.match? topic).map fun params => ⟨label, p, params⟩) ∧
        later.run logger (.remove label) = .ok (.self, r, removed)) ∧
    (∀ label, r.has label = true →
      ∃ front entry back later removed, r.entries = front ++ entry :: back ∧
        entry.1.same label = true ∧
        r.run logger (.remove label) = .ok (.self, later, removed) ∧
        ∀ topic, later.match? topic = match r.match? topic with
          | some found => if found.label.same label then firstOf back topic else some found
          | none => none) ∧
    ∀ (front between back : List Entry) (first second : Entry),
      r.entries = front ++ first :: between ++ second :: back →
      first.2.topic = second.2.topic → ∀ topic found, r.match? topic = some found →
        found.label.same second.1 = false := by
  obtain ⟨t, represents⟩ := afterRepresents turns
  refine ⟨fun label given p fresh compiled => ?_, fun label known => ?_, ?_⟩
  · obtain ⟨later, set, entries, back⟩ := setEntries (p := p) represents fresh
    refine ⟨later, registeredRecord logger label p, removedRecord logger label, ?_, ?_, ?_, ?_⟩
    · simp [run, setValue, fresh, compiled, set, bind, Except.bind, Except.mapError]
    · simp [run, compiled, set, bind, Except.bind, Except.mapError]
    · intro topic
      rw [matchAfterSet entries]
      cases (after turns).match? topic <;> rfl
    · simp [run, back, bind, Except.bind, Except.mapError]
  · obtain ⟨front, entry, back, later, stood, same, others, remove, removed⟩ :=
      removeEntries represents known
    refine ⟨front, entry, back, later, removedRecord logger label, stood, same, ?_,
      matchAfterRemove stood same others removed⟩
    simp [run, remove, bind, Except.bind, Except.mapError]
  · intro front between back first second stood same topic found taken
    exact matchShadowed represents stood same taken

theorem registrationsLocalOfTwo :
    let logger : Logger := ⟨.text "router", .text "ERROR"⟩
    let r := after [.command logger (.set (.text "x") (.text "a/+p")),
      .command logger (.set (.text "y") (.text "a/+q"))]
    let named (r : Router) (topic : Text) : Option Label := (r.match? topic).map Found.label
    (r.has (.text "z") = false ∧ ∃ later added,
      r.run logger (.set (.text "z") (.text "#rest")) = .ok (.self, later, added) ∧
        named later "a/1" = some (.text "x") ∧ named later "b" = some (.text "z")) ∧
    (r.has (.text "x") = true ∧ ∃ later removed,
      r.run logger (.remove (.text "x")) = .ok (.self, later, removed) ∧
        named later "a/1" = some (.text "y")) ∧
    ∃ found, r.match? "a/1" = some found ∧ found.label.same (.text "y") = false := by
  intro logger r named
  obtain ⟨adds, removes, shadows⟩ := registrationsLocal
    [.command logger (.set (.text "x") (.text "a/+p")),
      .command logger (.set (.text "y") (.text "a/+q"))] logger
  obtain ⟨later, added, _, ran, _, taken, _⟩ := adds (.text "z") (.text "#rest") _ rfl rfl
  obtain ⟨front, entry, back, without, removed, stood, same, gone, left⟩ := removes (.text "x") rfl
  have entries : r.entries = [] ++ (.text "x", ⟨"a/+p", [.raw "a", .single "p"], rfl⟩) :: [] ++
      (.text "y", ⟨"a/+q", [.raw "a", .single "q"], rfl⟩) :: [] := rfl
  refine ⟨⟨rfl, later, added, ran, ?_, ?_⟩, ⟨rfl, without, removed, gone, ?_⟩, _, rfl,
    shadows _ _ _ _ _ entries rfl "a/1" _ rfl⟩
  · rw [show named later "a/1" = (later.match? "a/1").map Found.label from rfl, taken]
    rfl
  · rw [show named later "b" = (later.match? "b").map Found.label from rfl, taken]
    rfl
  · rw [show named without "a/1" = (without.match? "a/1").map Found.label from rfl, left]
    have stood := entries.symm.trans stood
    cases front with
    | nil =>
      obtain ⟨_, rfl⟩ := List.cons.inj stood
      rfl
    | cons first front =>
      obtain ⟨_, rest⟩ := List.cons.inj stood
      cases front with
      | nil =>
        obtain ⟨rfl, _⟩ := List.cons.inj rest
        contradiction
      | cons second front => simp at rest

end TopicRouting.Router
