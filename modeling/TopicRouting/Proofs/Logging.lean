import TopicRouting.Log
import TopicRouting.Proofs.Decimals
import TopicRouting.Proofs.Layers

/-! What the calls of loggers leave in a log. A call at or above the level of its logger leaves one
line, which is read back as the entry of that call: what a logger adds, with the fields of the call
over it. The line has no break inside, so that no field can add, split or alter another line. -/
namespace TopicRouting
namespace Dict

/- The keys of the first mapping in their places, each with its last value, and the new keys of
the second one behind them. -/
def merged (base fields : Dict) : Dict :=
  base.map (fun entry => (entry.1, (fields.find? entry.1).getD entry.2)) ++
    fields.filter fun field => !base.has field.1

theorem hasKeys {d e : Dict} (same : d.map Prod.fst = e.map Prod.fst) (key : Value) :
    d.has key = e.has key := by
  have keys (d : Dict) : d.has key = (d.map Prod.fst).any (·.sameKey key) := by
    simp [has, List.any_map, Function.comp_def]
  rw [keys, keys, same]

theorem sameKeySwap (name : Text) (key : Value) :
    (Value.text name).sameKey key = key.sameKey (.text name) :=
  Bool.eq_iff_iff.mpr (Value.sameKeyOfText.trans Value.sameKeyText.symm)

section merging

variable {base fields : Dict} {name : Text}

theorem putPlace (distinct : base.Distinct) (here : base.has (.text name) = true) (value : Value) :
    base.put (.text name) value =
      base.map fun entry => (entry.1, if entry.1.sameKey (.text name) then value else entry.2) := by
  induction base with
  | nil => contradiction
  | cons entry base ih =>
    obtain ⟨key, old⟩ := entry
    obtain ⟨apart, others⟩ := List.pairwise_cons.mp distinct
    cases same : key.sameKey (.text name) with
    | true =>
      cases Value.sameKeyText.mp same
      have kept : base.map (fun entry => (entry.1, if entry.1.sameKey (.text name) then value
          else entry.2)) = base := by
        refine (List.map_congr_left fun entry inside => ?_).trans (List.map_id base)
        have differs := apart entry inside
        rw [sameKeySwap] at differs
        rw [differs]
        rfl
      simp only [put, same, if_true, List.map_cons, kept]
    | false =>
      have later : Dict.has base (.text name) = true := by simpa [has, same] using here
      simp only [put, same, Bool.false_eq_true, if_false, List.map_cons, ih others later]

theorem mergedHere (distinct : base.Distinct) (here : base.has (.text name) = true)
    (alone : fields.find? (.text name) = none) (value : Value) :
    (base.put (.text name) value).merged fields = base.merged ((.text name, value) :: fields) := by
  have keys := hasKeys (@putKeys base (.text name) value here)
  simp only [merged, keys, List.filter_cons, here, Bool.not_true, Bool.false_eq_true, if_false]
  rw [putPlace distinct here, List.map_map]
  congr 1
  refine List.map_congr_left fun entry _ => Prod.ext rfl ?_
  simp only [Function.comp_apply]
  rw [findCons, sameKeySwap]
  cases same : entry.1.sameKey (.text name) with
  | true =>
    rw [Value.sameKeyText.mp same, alone]
    rfl
  | false => rfl

theorem mergedFresh (fresh : base.has (.text name) = false)
    (others : ∀ field ∈ fields, (Value.text name).sameKey field.1 = false) (value : Value) :
    (base.put (.text name) value).merged fields = base.merged ((.text name, value) :: fields) := by
  have alone : fields.find? (.text name) = none := @findAfter fields name value others
  rw [putOther fresh]
  simp only [merged, List.map_append, List.map_cons, List.map_nil, alone, Option.getD_none,
    List.filter_cons, fresh, Bool.not_false, if_true, List.append_assoc, List.singleton_append]
  congr 1
  · refine List.map_congr_left fun entry inside => Prod.ext rfl ?_
    have other := List.any_eq_false.mp fresh entry inside
    simp only [findCons, sameKeySwap, if_neg other]
  · congr 1
    refine List.filter_congr fun field inside => ?_
    simp [has, others field inside]

theorem overlayMerged (distinct : fields.Distinct) (texts : fields.Texts)
    (apart : base.Distinct) : base.overlay fields = base.merged fields := by
  induction fields generalizing base with
  | nil =>
    have kept (entry : Value × Value) :
        (entry.1, (Dict.find? [] entry.1).getD entry.2) = entry := rfl
    simp [merged, kept, overlay]
  | cons field fields ih =>
    obtain ⟨others, rest⟩ := List.pairwise_cons.mp distinct
    obtain ⟨⟨name, named⟩, textual⟩ := List.forall_mem_cons.mp texts
    obtain ⟨key, value⟩ := field
    cases named
    have laid : base.overlay ((.text name, value) :: fields) =
        (base.put (.text name) value).merged fields := ih rest textual (apart.put (.text name) value)
    rw [laid]
    cases here : base.has (.text name) with
    | true => exact mergedHere apart here (findAfter others) value
    | false => exact mergedFresh here others value

end merging

end Dict

namespace Json

theorem membersKeys {kvs : Dict} (form : Members kvs) : kvs.Distinct ∧ kvs.Texts := by
  induction kvs with
  | nil => exact ⟨.nil, by simp [Dict.Texts]⟩
  | cons entry kvs ih =>
    obtain ⟨key, value⟩ := entry
    obtain ⟨⟨name, rfl, fresh⟩, _, rest⟩ := form
    obtain ⟨distinct, texts⟩ := ih rest
    refine ⟨List.pairwise_cons.mpr ⟨fun entry inside => ?_, distinct⟩,
      List.forall_mem_cons.mpr ⟨⟨name, rfl⟩, texts⟩⟩
    rw [← Bool.not_eq_true, Value.sameKeyOfText]
    exact fresh entry inside

theorem membersForm {kvs : Dict} (form : Members kvs) : ∀ entry ∈ kvs, Form entry.2 := by
  induction kvs with
  | nil => simp
  | cons entry kvs ih => exact List.forall_mem_cons.mpr ⟨form.2.1, ih form.2.2⟩

open Draft (Fits fitsAlways)

/- A value whose text in a log is printable and is read back as it. -/
def Legible (v : Value) : Prop :=
  ∃ text, ReadsBack v text ∧ Printable text ∧
    ∀ depth, Fits (fun room => writeAt oneLine .asText depth room v) (nesting v) text

theorem legibleForm {v : Value} (form : Form v) : Legible v := by
  obtain ⟨text, spells, fits⟩ := valueShown .asText v form
  exact ⟨text, spells.back form, spells.printable, fits⟩

theorem legibleFloat {x : Binary64} (finite : Finite x) : Legible (.float x) :=
  ⟨number x, floatBack finite, printableNumber finite, fun _ => fitsAlways rfl⟩

theorem legibleMembers {kvs : Dict} (filled : kvs ≠ []) (texts : kvs.Texts)
    (shown : ∀ entry ∈ kvs, Legible entry.2) :
    ∃ text, MembersBack kvs text ∧ Printable text ∧ ∀ depth before,
      Fits (fun room => writeMembers oneLine .asText depth room before kvs) (memberNesting kvs)
        (before ++ text) := by
  induction kvs with
  | nil => contradiction
  | cons entry kvs ih =>
    obtain ⟨⟨name, named⟩, others⟩ := List.forall_mem_cons.mp texts
    obtain ⟨first, rest⟩ := List.forall_mem_cons.mp shown
    obtain ⟨key, value⟩ := entry
    cases named
    obtain ⟨text, back, printable, fits⟩ := first
    cases kvs with
    | nil =>
      refine ⟨member name text, lastMember name back, printableMember name printable,
        fun depth before => ?_⟩
      simpa [memberNesting] using fitsMember name (fits (depth + 1)) fitsNoMembers
    | cons next kvs =>
      obtain ⟨more, backMore, printableMore, fitsMore⟩ := ih (by simp) others rest
      refine ⟨member name text ++ ',' :: ([' '] ++ more),
        moreMembers name back blankSpace backMore,
        Json.printableMore (printableMember name printable) printableMore, fun depth before => ?_⟩
      exact fitsMember name (fits (depth + 1)) (fitsMore depth (',' :: oneLine.afterComma depth))

theorem legibleDict {d : Dict} (filled : d ≠ []) (texts : d.Texts) (distinct : d.Distinct)
    (shown : ∀ entry ∈ d, Legible entry.2) : Legible (.dict d) := by
  obtain ⟨text, back, printable, fits⟩ := legibleMembers filled texts shown
  have whole : Dict.ofEntries d = d := by
    refine (Dict.overlayMerged distinct texts .nil).trans ?_
    simp [Dict.merged, Dict.has]
  refine ⟨'\x7b' :: text ++ ['\x7d'], dictBack blankNone blankNone back whole,
    printableInside (by decide) (by decide) printable, fun depth => ?_⟩
  simpa [oneLine, nesting] using fitsDict filled (fits depth [])

end Json

namespace Logger

def rankOf (name : Text) : Nat :=
  if name = "DEBUG" then 10
  else if name = "WARN" ∨ name = "WARNING" then 30
  else if name = "ERROR" then 40
  else 20

theorem thresholdRank (component : Value) (given : Text) :
    (⟨component, .text (levelName given)⟩ : Logger).threshold = rankOf given.upper := by
  simp only [threshold, severity?, levelName]
  generalize given.upper = name
  by_cases warning : name = ("WARNING" : String).toList
  · subst warning
    rfl
  · rw [if_neg warning]
    cases found : Severity.ofName? name with
    | some s =>
      rw [Severity.ofName?] at found
      have named := List.find?_some found
      cases beq_iff_eq.mp named
      cases s <;> rfl
    | none =>
      have other (s : Severity) : name ≠ s.name := by
        rintro rfl
        cases s <;> contradiction
      have quiet : rankOf name = 20 := (if_neg (other .debug)).trans <|
        (if_neg (not_or.mpr ⟨other .warn, warning⟩)).trans (if_neg (other .error))
      rw [quiet]
      rfl

/- A call of a new logger: at what time, at which level, and with which fields. Their names are
no parameters of the call, and none is given twice; their values have a JSON form. -/
structure Call where
  component : Text
  level : Option Text
  environment : Option Text
  time : Binary64
  severity : Severity
  message : Text
  fields : Dict
  finite : Json.Finite time
  named : ∀ field ∈ fields, isFieldName field.1 = true
  form : Json.Members fields

namespace Call

def written (c : Call) : Except Error Text := do
  let logger ← Logger.ofLevel (.text c.component) (c.level.elim .null .text) c.environment
  logger.written c.time c.severity (.text c.message) (.dict c.fields)

def given (c : Call) : Text :=
  (c.level.filter fun name => !name.isEmpty).getD (c.environment.getD "INFO")

def enabled (c : Call) : Bool := rankOf c.given.upper ≤ c.severity.rank

def record (c : Call) : Record := ⟨c.severity, .text c.component, .text c.message, c.fields⟩

def base (c : Call) (time : Binary64) : Dict :=
  [(.text "timestamp", .float time), (.text "level", .text c.severity.name),
    (.text "component", .text c.component), (.text "message", .text c.message)]

def entry (c : Call) : Dict := (c.base c.time).merged c.fields

def line (c : Call) : Text :=
  (Json.writeAt Json.oneLine .asText 1 (Json.nesting (.dict c.entry)) (.dict c.entry)).text

def Fits (c : Call) : Prop := Json.nesting (.dict c.entry) ≤ Json.depthLimit
instance (c : Call) : Decidable c.Fits := inferInstanceAs (Decidable (_ ≤ _))

theorem ofLevelGiven (c : Call) :
    Logger.ofLevel (.text c.component) (c.level.elim .null .text) c.environment =
      .ok ⟨.text c.component, .text (levelName c.given)⟩ := by
  rw [given]
  cases c.level with
  | none => rfl
  | some name => cases name <;> rfl

theorem baseDistinct (c : Call) (time : Binary64) : (c.base time).Distinct := by
  have keys : (c.base time).map Prod.fst =
      [.text "timestamp", .text "level", .text "component", .text "message"] := rfl
  rw [Dict.distinctKeys, keys]
  decide

theorem entryMerged (c : Call) (time : Binary64) :
    c.record.entry time = (c.base time).merged c.fields :=
  Dict.overlayMerged (Json.membersKeys c.form).1 (Json.membersKeys c.form).2
    (c.baseDistinct time)

theorem entryShown (c : Call) {time : Binary64} (finite : Json.Finite time) :
    Json.Legible (.dict (c.record.entry time)) := by
  obtain ⟨distinct, texts⟩ := Json.membersKeys c.form
  have own : ∀ entry ∈ c.base time, (∃ name, entry.1 = .text name) ∧ Json.Legible entry.2 := by
    have text (t : Text) : Json.Legible (.text t) := Json.legibleForm trivial
    simp [base, Json.legibleFloat finite, text]
  refine Json.legibleDict ?_ ?_ (c.baseDistinct time).overlay ?_
  · rw [entryMerged]
    simp [Dict.merged, base]
  · rw [entryMerged]
    exact List.forall_mem_append.mpr
      ⟨List.forall_mem_map.mpr fun entry inside => (own entry inside).1,
        fun field inside => texts field (List.mem_of_mem_filter inside)⟩
  · rw [entryMerged]
    have forms := Json.membersForm c.form
    refine List.forall_mem_append.mpr ⟨List.forall_mem_map.mpr fun entry inside => ?_,
      fun field inside => Json.legibleForm (forms field (List.mem_of_mem_filter inside))⟩
    obtain ⟨⟨name, named⟩, shown⟩ := own entry inside
    rw [named]
    cases found : c.fields.find? (.text name) with
    | none => exact shown
    | some value =>
      exact Json.legibleForm (forms _ (Dict.findMember found))

theorem lineShown (c : Call) :
    c.record.text c.time = (if c.Fits then .ok c.line else .error .tooDeep) ∧
      Json.ReadsBack (.dict c.entry) c.line ∧ Json.Printable c.line := by
  obtain ⟨text, back, printable, fits⟩ := c.entryShown c.finite
  rw [entryMerged] at back fits
  have same : c.line = text := congrArg Draft.text (fits 1).own
  rw [same]
  refine ⟨?_, back, printable⟩
  rw [Record.text, entryMerged]
  exact fits 1 Json.depthLimit

theorem nestingTimeless (c : Call) (time : Binary64) :
    Json.nesting (.dict (c.record.entry time)) = Json.nesting (.dict c.entry) := by
  rw [entryMerged, entry]
  simp only [Json.nesting, Dict.merged, base, List.map_cons, List.map_nil, List.cons_append,
    List.nil_append, Json.memberNesting]
  cases c.fields.find? (.text "timestamp") <;> rfl

theorem writeRecords (c : Call) {l : Logger} (component : l.component = .text c.component) :
    l.write c.severity (.text c.message) (.dict c.fields) =
      if l.isEnabled c.severity = true ∧ ¬ c.Fits then .error .tooDeep
      else .ok (l.record? c.severity c.message c.fields) := by
  have zero : Json.Finite (.zero false) := ⟨false, 0, -1074, by decide⟩
  obtain ⟨early, _, _, fits⟩ := c.entryShown zero
  have checked : c.record.text (.zero false) =
      if c.Fits then .ok early else .error .tooDeep := by
    have room := fits 1 Json.depthLimit
    rwa [nestingTimeless] at room
  have fields : fieldsOf (.dict c.fields) = .ok c.fields := if_pos (List.all_eq_true.mpr c.named)
  rw [Logger.write, fields, record?, component]
  change (if (!l.isEnabled c.severity) = true then Except.ok [] else
    ((c.record.text (.zero false)).mapError Error.ofWrite).map fun _ => [c.record]) = _
  rw [checked]
  cases l.isEnabled c.severity with
  | false => rfl
  | true =>
    by_cases shallow : c.Fits
    · have narrow : ¬ (true = true ∧ ¬ c.Fits) := fun wide => wide.2 shallow
      rw [if_pos shallow, if_neg narrow]
      rfl
    · have wide : true = true ∧ ¬ c.Fits := ⟨rfl, shallow⟩
      rw [if_neg shallow, if_pos wide]
      rfl

theorem writtenLine (c : Call) :
    c.written = if c.enabled = true ∧ ¬ c.Fits then .error .tooDeep
      else .ok (if c.enabled then c.line ++ ['\n'] else []) := by
  generalize made : (⟨.text c.component, .text (levelName c.given)⟩ : Logger) = l
  have asked : l.isEnabled c.severity = c.enabled := by
    rw [← made, isEnabled, thresholdRank, enabled]
  have component : l.component = .text c.component := by rw [← made]
  rw [Call.written, ofLevelGiven, made]
  change (l.write c.severity (.text c.message) (.dict c.fields) >>= fun records => Except.ok
    (records.flatMap fun r => (r.text c.time).toOption.getD [] ++ ("\n" : String).toList)) = _
  rw [c.writeRecords component, record?, component, asked]
  cases c.enabled with
  | false => rfl
  | true =>
    by_cases shallow : c.Fits
    · have line := c.lineShown.1
      rw [if_pos shallow] at line
      have narrow : ¬ (true = true ∧ ¬ c.Fits) := fun wide => wide.2 shallow
      rw [if_neg narrow, if_neg narrow]
      change Except.ok ([c.record].flatMap _) = _
      rw [List.flatMap_cons, line]
      exact congrArg Except.ok (List.append_nil _)
    · have wide : true = true ∧ ¬ c.Fits := ⟨rfl, shallow⟩
      rw [if_pos wide, if_pos wide]
      rfl

def added (c : Call) : Text := c.written.toOption.getD []

theorem splitLines {lines : List Text} (clean : ∀ line ∈ lines, '\n' ∉ line) :
    (lines.flatMap (· ++ ['\n'])).splitOn '\n' = lines ++ [[]] := by
  induction lines with
  | nil => rfl
  | cons line lines ih =>
    obtain ⟨here, rest⟩ := List.forall_mem_cons.mp clean
    rw [List.flatMap_cons, List.append_assoc, List.singleton_append,
      List.splitOn_append_cons_self_of_not_mem here, ih rest, List.cons_append]

theorem printableNoBreak {text : Text} (printable : Json.Printable text) : '\n' ∉ text :=
  fun inside => absurd (printable _ inside).1 (by decide)

def kept (c : Call) : Bool := c.enabled && decide c.Fits

theorem addedLine (c : Call) : c.added = if c.kept then c.line ++ ['\n'] else [] := by
  rw [added, writtenLine, kept]
  cases c.enabled with
  | false => rfl
  | true =>
    by_cases shallow : c.Fits
    · simp [shallow, Except.toOption]
    · simp [shallow, Except.toOption]

theorem addedAll (calls : List Call) :
    calls.flatMap added = ((calls.filter kept).map line).flatMap (· ++ ['\n']) := by
  induction calls with
  | nil => rfl
  | cons c calls ih =>
    rw [List.flatMap_cons, addedLine, ih, List.filter_cons]
    cases c.kept <;> rfl

/-- Calls of loggers write the lines of those calls that are at or above the level of their logger,
each with one break at its end, and nothing else: the log is split at its breaks into just these
lines, in the order of the calls. Each line is printable ASCII and is read back as what the logger
adds, in its order, with the values of the fields where they are named the same, followed by the
other fields in the order of the call. Where more brackets stand inside each other than the writer
opens, and the reader would, the call fails and leaves nothing. -/
theorem logReadsBack (calls : List Call) :
    (calls.flatMap added).splitOn '\n' = (calls.filter kept).map line ++ [[]] ∧
    ∀ c ∈ calls,
      c.written = (if c.enabled = true ∧ ¬ c.Fits then .error .tooDeep
        else .ok (if c.enabled then c.line ++ ['\n'] else [])) ∧
      '\n' ∉ c.line ∧ Json.Printable c.line ∧
      (∀ limit, Json.nesting (.dict c.entry) ≤ limit →
        Json.readWithin limit c.line = .ok (.dict c.entry)) ∧
      Json.read c.line = if c.Fits then .ok (.dict c.entry) else .error .tooDeep := by
  have clean (c : Call) : '\n' ∉ c.line := printableNoBreak c.lineShown.2.2
  constructor
  · rw [addedAll, splitLines]
    exact List.forall_mem_map.mpr fun c _ => clean c
  · intro c _
    obtain ⟨_, back, printable⟩ := c.lineShown
    refine ⟨c.writtenLine, clean c, printable, fun limit shallow => ?_, Json.readsWhole back _⟩
    rw [Json.readsWhole back, if_pos shallow]

theorem logReadsBackForged : ∃ c : Call,
    c.message = "a\n\x7b" ∧
    c.fields = [(.text "timestamp", .text "now"), (.text "topic", .text "\"\n")] ∧
    c.written = .ok (c.line ++ ['\n']) ∧ c.added.splitOn '\n' = [c.line, []] ∧
    Json.read c.line = .ok (.dict
      [(.text "timestamp", .text "now"), (.text "level", .text "WARN"),
        (.text "component", .text "bus"), (.text "message", .text "a\n\x7b"),
        (.text "topic", .text "\"\n")]) := by
  let c : Call :=
    { component := "bus"
      level := none
      environment := none
      time := .zero false
      severity := .warn
      message := "a\n\x7b"
      fields := [(.text "timestamp", .text "now"), (.text "topic", .text "\"\n")]
      finite := ⟨false, 0, -1074, by decide⟩
      named := by decide
      form := by simp [Json.Members, Json.Form] }
  have loud : c.enabled = true := by decide
  have shallow : c.Fits := by decide
  have kept : c.kept = true := by decide
  obtain ⟨lines, back⟩ := logReadsBack [c]
  obtain ⟨written, _, _, _, read⟩ := back c List.mem_cons_self
  rw [if_neg (by simp [shallow]), if_pos loud] at written
  rw [List.filter_cons, if_pos kept, List.flatMap_cons, List.flatMap_nil, List.append_nil] at lines
  exact ⟨c, rfl, rfl, written, lines, read.trans (if_pos shallow)⟩

end Call
end Logger

end TopicRouting
