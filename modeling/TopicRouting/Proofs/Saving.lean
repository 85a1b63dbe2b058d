import TopicRouting.Proofs.Indenting
import TopicRouting.Proofs.Overlaying
import TopicRouting.Proofs.Storing

/-! A configuration that is saved as JSON and what is loaded from its file. What writes takes every
name that is not one of YAML for JSON, and what reads asks for the name of JSON: under other names
the file is there and is passed over. -/
namespace TopicRouting.Config
open Json (Form Members nesting depthLimit)

theorem membersOf {kvs : Dict} (distinct : kvs.Distinct)
    (all : ∀ entry ∈ kvs, (∃ name, entry.1 = .text name) ∧ Form entry.2) : Members kvs := by
  induction kvs with
  | nil => trivial
  | cons entry kvs ih =>
    obtain ⟨apart, others⟩ := List.pairwise_cons.mp distinct
    obtain ⟨⟨⟨name, named⟩, form⟩, rest⟩ := List.forall_mem_cons.mp all
    refine ⟨⟨name, named, fun other inside same => ?_⟩, form, ih others rest⟩
    have differs := apart other inside
    rw [named, same, Value.sameKeyText.mpr rfl] at differs
    contradiction

def Written (d : Dict) : Prop := ∀ setting ∈ d, (∃ key, setting.1 = .text key) ∧ Form setting.2

/- Sections that are named by texts and hold what can be written. -/
def Storable (s : Sections) : Prop :=
  ∀ entry ∈ s, (∃ name, entry.1 = .text name) ∧ Written entry.2

theorem Written.put {d : Dict} (written : Written d) (key : Text) {v : Value} (form : Form v) :
    Written (d.put (.text key) v) := by
  induction d with
  | nil => exact List.forall_mem_singleton.mpr ⟨⟨key, rfl⟩, form⟩
  | cons setting d ih =>
    obtain ⟨here, others⟩ := List.forall_mem_cons.mp written
    obtain ⟨k, old⟩ := setting
    rw [Dict.put]
    split
    · exact List.forall_mem_cons.mpr ⟨⟨here.1, form⟩, others⟩
    · exact List.forall_mem_cons.mpr ⟨here, ih others⟩

theorem Storable.settings {s : Sections} (storable : Storable s) (name : Value) :
    Written (s.settings name) :=
  Sections.settingsAll (fun entry inside => (storable entry inside).2) (List.forall_mem_nil _) name

theorem Storable.put {s : Sections} (storable : Storable s) (name : Text) {d : Dict}
    (written : Written d) : Storable (s.put (.text name) d) :=
  Sections.putAll storable ⟨⟨name, rfl⟩, written⟩ fun _ _ old => ⟨old.1, written⟩

theorem Storable.change {c : Config} (storable : Storable c.sections) (name key : Text)
    {v : Value} (form : Form v) :
    Storable (c.change (.text name) (.text key) v).1.sections :=
  storable.put name ((storable.settings (.text name)).put key form)

theorem storableDefaults : Storable defaults := by
  have short {n : Nat} (small : n < 10 ^ 4) : n < 10 ^ Number.digitLimit :=
    Nat.lt_trans small (Nat.pow_lt_pow_right (by decide) (by decide))
  simp only [Storable, Written, defaults, List.forall_mem_cons, and_true,
    Value.text.injEq, exists_eq', Form]
  simp [short]

variable {c : Config}

theorem storablePlain (made : Made c) (storable : Storable c.sections) :
    Sections.Plain c.sections where
  apart := made.apart
  distinct := made.distinct
  names entry inside := (storable entry inside).1
  keys entry inside setting within := ((storable entry inside).2 setting within).1

theorem storableForm (made : Made c) (storable : Storable c.sections) :
    Form (.dict c.sections.toDict) := by
  refine membersOf made.apart fun entry inside => ?_
  obtain ⟨⟨name, settings⟩, within, rfl⟩ := List.mem_map.mp inside
  obtain ⟨named, all⟩ := storable _ within
  exact ⟨named, membersOf (made.distinct _ within) all⟩

theorem unsetOverrides {env : Environment} {overrides : List Override}
    (unset : ∀ o ∈ overrides, Environment.find? env o.name = none) (s : Sections) :
    overrides.foldl (applyOverride env) s = s := by
  induction overrides with
  | nil => rfl
  | cons o overrides ih =>
    obtain ⟨here, others⟩ := List.forall_mem_cons.mp unset
    rw [List.foldl_cons, applyOverride, Override.value?, here]
    exact ih others

theorem loadUnset {env : Environment}
    (unset : ∀ o ∈ Override.all, Environment.find? env o.name = none) {name : Text}
    (named : name ≠ []) (folder : Folder) :
    load folder env name = (readSections folder name).map fun sections => ⟨name, sections⟩ := by
  have file : fileName env name = name := by
    rw [fileName, if_neg (by simpa using named)]
  rw [load, file]
  cases readSections folder name with
  | error e => rfl
  | ok sections => exact congrArg (fun s => Except.ok (Config.mk name s)) (unsetOverrides unset _)

theorem saveJson {name : Text} (named : name ≠ []) (other : Format.ofName? name ≠ some .yaml)
    {folder after : Folder}
    (stored : folder.write name (Json.draftIndented (.dict c.sections.toDict)).text = .ok after) :
    c.save folder name = (after, (Json.draftIndented (.dict c.sections.toDict)).result.mapError
      (Format.writeError · .json)) := by
  have file : (if name.isEmpty then c.file else name) = name := if_neg (by simpa using named)
  simp only [save, file, if_neg other, Format.draft, stored]

/-- For every configuration that there is: what is saved to a name of JSON is loaded from it as it
was, sections, keys and values in their order. From a name that is neither one of JSON nor of YAML
the defaults are loaded, whatever was saved. Only brackets inside each other beyond the limit of the
writer, which is the one of the reader, keep a configuration from being saved. -/
theorem savedThenLoaded (made : Made c) (storable : Storable c.sections) {folder : Folder}
    {env : Environment} (unset : ∀ o ∈ Override.all, Environment.find? env o.name = none)
    {name : Text} (named : name ≠ [])
    (notYaml : (Text.endsWith ".yaml" name || Text.endsWith ".yml" name) = false)
    (writable : ∃ after, folder.write name [] = .ok after) :
    ∃ after result, c.save folder name = (after, result) ∧
      (nesting (.dict c.sections.toDict) ≤ depthLimit → (∃ text, result = .ok text) ∧
        (Text.endsWith ".json" name = true → load after env name = .ok ⟨name, c.sections⟩)) ∧
      (depthLimit < nesting (.dict c.sections.toDict) → result = .error .tooDeep) ∧
      (Text.endsWith ".json" name = false → load after env name = .ok ⟨name, defaults⟩) := by
  obtain ⟨text, drafted, back, clean⟩ := Json.readIndented (storableForm made storable)
  obtain ⟨_, empty⟩ := writable
  obtain ⟨after, stored⟩ :=
    Folder.writesAny empty (Json.draftIndented (.dict c.sections.toDict)).text
  have format : Format.ofName? name =
      if Text.endsWith ".json" name then some .json else none := by
    rw [Format.ofName?, notYaml]
    rfl
  have other : Format.ofName? name ≠ some .yaml := by
    rw [format]
    split <;> simp
  refine ⟨after, _, saveJson named other stored, fun shallow => ?_, fun deep => ?_, fun other => ?_⟩
  · rw [if_pos shallow] at drafted back
    have whole : Json.draftIndented (.dict c.sections.toDict) = .done text :=
      Draft.resultOk.mp drafted
    rw [whole] at stored
    refine ⟨⟨text, by rw [drafted]; rfl⟩, fun json => ?_⟩
    have document : Format.read text .json = .ok (.dict c.sections.toDict) := by
      rw [Format.read, back]
      rfl
    have merged := mergeWhole name made.covered (storablePlain made storable)
    rw [loadUnset unset named, readSections, Folder.readsWritten stored clean, format, if_pos json]
    change ((Format.read text .json >>= merge name defaults).map _ : Except Error Config) = _
    rw [document]
    change ((merge name defaults (.dict c.sections.toDict)).map _ : Except Error Config) = _
    rw [merged]
    rfl
  · rw [drafted, if_neg (Nat.not_le.mpr deep)]
    rfl
  · rw [loadUnset unset named, readSections, Folder.readsLines stored, format,
      if_neg (Bool.eq_false_iff.mp other)]
    rfl

theorem savedThenLoadedLost :
    let c := ((Config.change ⟨"topicbus.yaml", defaults⟩ (.text "patterns") (.text "state")
      (.text "x/+id")).1.change (.text "extra") (.text "list") (.list [.null, .text "\r\n"])).1
    Made c ∧
    (∃ after text, c.save {} "saved.json" = (after, .ok text) ∧
      load after [] "saved.json" = .ok ⟨"saved.json", c.sections⟩) ∧
    (∃ after text, c.save {} "settings.conf" = (after, .ok text) ∧
      load after [] "settings.conf" = .ok ⟨"settings.conf", defaults⟩) ∧
    c.sections ≠ defaults := by
  intro c
  have start : load {} [] [] = .ok ⟨"topicbus.yaml", defaults⟩ := rfl
  have made : Made c := .changed (.changed (.loaded start) _ _ _) _ _ _
  have storable : Storable c.sections :=
    (storableDefaults.change (c := ⟨"topicbus.yaml", defaults⟩) "patterns" "state"
      (v := .text "x/+id") trivial).change "extra" "list"
      (v := .list [.null, .text "\r\n"]) ⟨trivial, trivial, trivial⟩
  have unset : ∀ o ∈ Override.all, Environment.find? [] o.name = none := fun _ _ => rfl
  have shallow : nesting (.dict c.sections.toDict) ≤ depthLimit := by decide
  have stored (name : Text) := @savedThenLoaded c made storable {} [] unset name
  obtain ⟨after, _, saved, fits, _⟩ := stored "saved.json" (by decide) (by decide) ⟨_, rfl⟩
  obtain ⟨⟨text, rfl⟩, loaded⟩ := fits shallow
  obtain ⟨later, _, savedOther, fitsOther, _, lost⟩ :=
    stored "settings.conf" (by decide) (by decide) ⟨_, rfl⟩
  obtain ⟨⟨other, rfl⟩, _⟩ := fitsOther shallow
  refine ⟨made, ⟨after, text, saved, loaded (by decide)⟩,
    ⟨later, other, savedOther, lost (by decide)⟩, fun same => ?_⟩
  exact absurd (congrArg List.length same) (by decide)

end TopicRouting.Config
