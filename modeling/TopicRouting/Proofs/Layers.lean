import TopicRouting.Proofs.Saving

/-! What a configuration holds under a name and a key, told by its three layers. A variable that
gives a value comes first, then the file, then the defaults; what says nothing is looked through. -/
namespace TopicRouting

theorem Value.sameKeyOfText {name : Text} {key : Value} :
    (Value.text name).sameKey key = true ↔ key = .text name := by
  cases key with
  | text other => exact beq_iff_eq.trans (by rw [Value.text.injEq, eq_comm])
  | float x => cases whole : x.toInt? <;> simp [sameKey, whole?, whole]
  | _ => simp [sameKey, whole?]

namespace Dict

theorem findCons (key value : Value) (d : Dict) (asked : Value) :
    Dict.find? ((key, value) :: d) asked =
      if key.sameKey asked then some value else d.find? asked := by
  rw [find?, List.find?_cons]
  cases key.sameKey asked <;> rfl

theorem findAfter {d : Dict} {name : Text} {value : Value}
    (apart : ∀ entry ∈ d, (Value.text name, value).1.sameKey entry.1 = false) :
    d.find? (.text name) = none := by
  have other : ∀ entry ∈ d, ¬ entry.1.sameKey (.text name) = true := by
    intro entry inside same
    have differs := apart entry inside
    rw [Value.sameKeyText.mp same, Value.sameKeyText.mpr rfl] at differs
    contradiction
  rw [find?, List.find?_eq_none.mpr other]
  rfl

theorem findPut (d : Dict) (key : Text) (value asked : Value) :
    (d.put (.text key) value).find? asked =
      if (Value.text key).sameKey asked then some value else d.find? asked := by
  induction d with
  | nil => exact findCons (.text key) value [] asked
  | cons entry d ih =>
    obtain ⟨k, old⟩ := entry
    cases own : k.sameKey (.text key) with
    | true =>
      cases Value.sameKeyText.mp own
      rw [put, if_pos own, findCons, findCons]
      split <;> rfl
    | false =>
      rw [put, if_neg (by simp [own]), findCons, findCons, ih]
      cases here : k.sameKey asked with
      | false => rfl
      | true =>
        rw [if_pos rfl, if_neg fun same => ?_]
        · rfl
        · cases Value.sameKeyOfText.mp same
          rw [here] at own
          contradiction

theorem findOverlay {later : Dict} (distinct : later.Distinct) (texts : later.Texts) (d : Dict)
    (asked : Value) : (d.overlay later).find? asked = (later.find? asked).or (d.find? asked) := by
  induction later generalizing d with
  | nil => rfl
  | cons entry later ih =>
    obtain ⟨apart, others⟩ := List.pairwise_cons.mp distinct
    obtain ⟨⟨name, named⟩, rest⟩ := List.forall_mem_cons.mp texts
    obtain ⟨key, value⟩ := entry
    cases named
    have laid := ih others rest (d.put (.text name) value)
    rw [findPut] at laid
    rw [findCons]
    refine laid.trans ?_
    split
    · rename_i same
      cases Value.sameKeyOfText.mp same
      rw [findAfter apart]
      rfl
    · rfl

end Dict

namespace Sections

def value? (s : Sections) (name key : Value) : Option Value := Dict.find? (s.settings name) key

theorem findCons (n : Value) (d : Dict) (s : Sections) (name : Value) :
    Sections.find? ((n, d) :: s) name = if n.sameKey name then some d else s.find? name := by
  rw [find?, List.find?_cons]
  cases n.sameKey name <;> rfl

theorem findDict (s : Sections) (name : Value) :
    s.toDict.find? name = (s.find? name).map Value.dict := by
  rw [toDict, Dict.find?, find?, List.find?_map, Option.map_map, Option.map_map]
  rfl

theorem findPut (s : Sections) (name : Text) (d : Dict) (asked : Value) :
    (s.put (.text name) d).find? asked =
      if (Value.text name).sameKey asked then some d else s.find? asked := by
  refine Option.map_injective (fun _ _ => Value.dict.inj) ?_
  rw [← findDict, putDict, Dict.findPut, findDict]
  split <;> rfl

theorem settingsPut (s : Sections) (name : Text) (d : Dict) (asked : Value) :
    (s.put (.text name) d).settings asked =
      if (Value.text name).sameKey asked then d else s.settings asked := by
  rw [settings, findPut]
  split <;> rfl

theorem valueSet (s : Sections) (name key : Text) (value askedName askedKey : Value) :
    (s.set (.text name) (.text key) value).value? askedName askedKey =
      if (Value.text name).sameKey askedName && (Value.text key).sameKey askedKey then some value
      else s.value? askedName askedKey := by
  rw [value?, set, settingsPut]
  cases own : (Value.text name).sameKey askedName with
  | false => rfl
  | true =>
    cases Value.sameKeyOfText.mp own
    rw [if_pos rfl, Dict.findPut]
    rfl

end Sections

namespace Config

def fileSection? (document : Dict) (name : Value) : Option Dict :=
  match document.find? name with
  | some (.dict settings) => some settings
  | _ => none

/- A document that names each section once, with no content or with keys of its own. -/
structure Sectioned (document : Dict) : Prop where
  distinct : document.Distinct
  texts : document.Texts
  contents : ∀ entry ∈ document, entry.2 = .null ∨
    ∃ settings : Dict, entry.2 = .dict settings ∧ settings.Distinct ∧ settings.Texts

theorem Sectioned.section {document : Dict} (sectioned : Sectioned document) {name : Value}
    {settings : Dict} (found : fileSection? document name = some settings) :
    settings.Distinct ∧ settings.Texts := by
  rw [fileSection?] at found
  split at found
  · rename_i here
    cases found
    obtain ⟨entry, first, same⟩ := Option.map_eq_some_iff.mp here
    rcases sectioned.contents entry (List.mem_of_find?_eq_some first) with null | ⟨d, content, all⟩
    · cases same.symm.trans null
    · cases same.symm.trans content
      exact all
  · contradiction

theorem fileSectionCons (key content : Value) (document : Dict) (name : Value) :
    fileSection? ((key, content) :: document) name =
      if key.sameKey name then
        match content with
        | .dict settings => some settings
        | _ => none
      else fileSection? document name := by
  rw [fileSection?, Dict.findCons]
  cases key.sameKey name with
  | false => rfl
  | true => cases content <;> rfl

theorem mergeLays (file : Text) {document : Dict} (sectioned : Sectioned document) (s : Sections) :
    ∃ after, merge file s (.dict document) = .ok after ∧ ∀ name, after.find? name =
      match fileSection? document name with
      | some settings => some ((s.settings name).overlay settings)
      | none => s.find? name := by
  induction document generalizing s with
  | nil => exact ⟨s, rfl, fun name => rfl⟩
  | cons entry document ih =>
    obtain ⟨apart, others⟩ := List.pairwise_cons.mp sectioned.distinct
    obtain ⟨⟨key, named⟩, texts⟩ := List.forall_mem_cons.mp sectioned.texts
    obtain ⟨content, contents⟩ := List.forall_mem_cons.mp sectioned.contents
    obtain ⟨k, content⟩ := entry
    cases named
    have rest : Sectioned document := ⟨others, texts, contents⟩
    have missing : fileSection? document (.text key) = none := by
      rw [fileSection?, Dict.findAfter apart]
    rcases content with null | ⟨settings, here, _⟩
    · cases null
      obtain ⟨after, merged, found⟩ := ih rest s
      refine ⟨after, merged, fun name => ?_⟩
      rw [found, fileSectionCons]
      cases own : (Value.text key).sameKey name with
      | false => rfl
      | true =>
        cases Value.sameKeyOfText.mp own
        rw [missing]
        rfl
    · cases here
      obtain ⟨after, merged, found⟩ := ih rest (s.extend (.text key) settings)
      refine ⟨after, merged, fun name => ?_⟩
      rw [found, fileSectionCons, Sections.extend, Sections.settingsPut, Sections.findPut]
      cases own : (Value.text key).sameKey name with
      | false => rfl
      | true =>
        cases Value.sameKeyOfText.mp own
        rw [missing]
        rfl

def Override.Gives (o : Override) (name key : Value) : Prop :=
  name = .text o.group ∧ key = .text o.key

theorem givesOf {o : Override} {name key : Value}
    (both : ((Value.text o.group).sameKey name && (Value.text o.key).sameKey key) = true) :
    o.Gives name key := by
  obtain ⟨group, own⟩ := Bool.and_eq_true_iff.mp both
  exact ⟨Value.sameKeyOfText.mp group, Value.sameKeyOfText.mp own⟩

section environment

variable {env : Environment} {overrides : List Override} {name key : Value}

theorem overridden {motive : Sections → Prop} {s : Sections} (before : motive s)
    (step : ∀ after, motive after → ∀ o ∈ overrides, ∀ v, o.value? env = some v →
      motive (after.set (.text o.group) (.text o.key) v)) :
    motive (overrides.foldl (applyOverride env) s) := by
  refine List.foldlRecOn overrides _ before fun after held o member => ?_
  rw [applyOverride]
  split
  · rename_i v given
    exact step after held o member v given
  · exact held

theorem overridesKeep (silent : ∀ o ∈ overrides, o.Gives name key → o.value? env = none)
    (s : Sections) :
    (overrides.foldl (applyOverride env) s).value? name key = s.value? name key := by
  refine overridden (motive := fun after => after.value? name key = s.value? name key) rfl
    fun after same o member v given => ?_
  rw [Sections.valueSet, if_neg fun both => ?_]
  · exact same
  · rw [silent o member (givesOf both)] at given
    contradiction

theorem overridesPass {name : Text} (other : ∀ o ∈ overrides, o.group ≠ name) (s : Sections) :
    (overrides.foldl (applyOverride env) s).settings (.text name) = s.settings (.text name) := by
  refine overridden (motive := fun after => after.settings (.text name) = s.settings (.text name)) rfl
    fun after same o member v _ => ?_
  rw [Sections.set, Sections.settingsPut, if_neg fun own => ?_]
  · exact same
  · exact other o member (Value.text.inj (Value.sameKeyText.mp own))

theorem overridesGive
    (apart : overrides.Pairwise fun a b => ¬ (a.group = b.group ∧ a.key = b.key)) {o : Override}
    (member : o ∈ overrides) {v : Value} (given : o.value? env = some v) (s : Sections) :
    (overrides.foldl (applyOverride env) s).value? (.text o.group) (.text o.key) = some v := by
  induction overrides generalizing s with
  | nil => contradiction
  | cons first overrides ih =>
    obtain ⟨here, later⟩ := List.pairwise_cons.mp apart
    rcases List.mem_cons.mp member with rfl | inside
    · have silent : ∀ other ∈ overrides,
          other.Gives (.text o.group) (.text o.key) → other.value? env = none := by
        rintro other inside ⟨group, own⟩
        exact absurd ⟨Value.text.inj group, Value.text.inj own⟩ (here other inside)
      have own (t : Text) : (Value.text t).sameKey (.text t) = true := Value.sameKeyText.mpr rfl
      rw [List.foldl_cons, overridesKeep silent, applyOverride, given]
      exact (Sections.valueSet ..).trans (if_pos (by rw [own, own]; rfl))
    · exact ih later inside _

theorem overridesInside {s : Sections} (known : ∀ o ∈ overrides, (s.find? (.text o.group)).isSome)
    (name : Value) :
    ((overrides.foldl (applyOverride env) s).find? name).isSome = (s.find? name).isSome := by
  refine overridden (motive := fun after => (after.find? name).isSome = (s.find? name).isSome) rfl
    fun after same o member v _ => ?_
  rw [Sections.set, Sections.findPut]
  split
  · rename_i own
    cases Value.sameKeyOfText.mp own
    exact (known o member).symm
  · exact same

end environment

/-- For every file of a known format with a document of sections, in every environment: a variable
that gives a value is what a configuration holds under its setting. All else is what the file has
there, or else what the defaults have, in no other sections than theirs. The patterns are those of
the file in its order. -/
theorem layered {folder : Folder} {env : Environment} {given text : Text} {format : Format}
    {document : Dict} (present : folder.read (fileName env given) = .ok (some text))
    (named : Format.ofName? (fileName env given) = some format)
    (read : format.read text = .ok (.dict document)) (sectioned : Sectioned document) :
    ∃ c, load folder env given = .ok c ∧
      c.patterns = (fileSection? document (.text "patterns")).getD [] ∧
      (∀ name, (c.sections.find? name).isSome ↔ (Sections.find? defaults name).isSome ∨
        (fileSection? document name).isSome) ∧
      ∀ name key,
        (∀ o ∈ Override.all, o.Gives name key → ∀ v, o.value? env = some v →
          c.sections.value? name key = some v) ∧
        ((∀ o ∈ Override.all, o.Gives name key → o.value? env = none) →
          c.sections.value? name key =
            ((fileSection? document name).bind (Dict.find? · key)).or
              (Sections.value? defaults name key)) := by
  obtain ⟨laid, merged, found⟩ := mergeLays (fileName env given) sectioned defaults
  have sections : readSections folder (fileName env given) = .ok laid := by
    simp only [readSections, present, named, read, merged, bind, Except.bind]
  have loaded : load folder env given = .ok ⟨fileName env given, applyEnvironment env laid⟩ := by
    simp only [load, sections, bind, Except.bind]
  have there (name : Value) : (laid.find? name).isSome ↔
      (Sections.find? defaults name).isSome ∨ (fileSection? document name).isSome := by
    rw [found]
    cases fileSection? document name <;> simp
  have known : ∀ o ∈ Override.all, (Sections.find? defaults (.text o.group)).isSome := by decide
  have value (name key : Value) : laid.value? name key =
      ((fileSection? document name).bind (Dict.find? · key)).or
        (Sections.value? defaults name key) := by
    rw [Sections.value?, Sections.settings, found]
    cases within : fileSection? document name with
    | none => rfl
    | some settings =>
      obtain ⟨distinct, texts⟩ := sectioned.section within
      exact Dict.findOverlay distinct texts (Sections.settings defaults name) key
  refine ⟨_, loaded, ?_, fun name => ?_, fun name key => ⟨?_, fun silent => ?_⟩⟩
  · have passed : patterns ⟨fileName env given, applyEnvironment env laid⟩ =
        laid.settings (.text "patterns") := overridesPass (by decide) laid
    rw [passed, Sections.settings, found]
    cases within : fileSection? document (.text "patterns") with
    | none => rfl
    | some settings =>
      obtain ⟨distinct, texts⟩ := sectioned.section within
      exact Dict.overlayWhole List.nil_prefix distinct texts
  · have inside : ∀ o ∈ Override.all, (laid.find? (.text o.group)).isSome :=
      fun o member => (there _).mpr (.inl (known o member))
    rw [← there]
    exact Bool.eq_iff_iff.mp (overridesInside inside name)
  · rintro o member ⟨rfl, rfl⟩ v given
    exact overridesGive (by decide) member given laid
  · exact (overridesKeep silent laid).trans (value name key)

theorem layeredThree :
    let document : Dict :=
      [(.text "bus", .dict [(.text "qos", .int 2), (.text "keepalive", .int 30)]),
        (.text "logging", .null),
        (.text "patterns", .dict [(.text "b", .text "x/+id"), (.text "a", .text "y")])]
    let env : Environment :=
      [("TOPICBUS_CONFIG", "a.json"), ("MQTT_QOS", "two"), ("MQTT_KEEPALIVE", "15")]
    ∃ (folder : Folder) (text : Text) (c : Config),
      folder.read (fileName env []) = .ok (some text) ∧
      Format.ofName? (fileName env []) = some .json ∧
      Format.read text .json = .ok (.dict document) ∧ Sectioned document ∧
      load folder env [] = .ok c ∧
      c.patterns = [(.text "b", .text "x/+id"), (.text "a", .text "y")] ∧
      c.sections.value? (.text "bus") (.text "qos") = some (.int 2) ∧
      c.sections.value? (.text "bus") (.text "keepalive") = some (.int 15) ∧
      c.sections.value? (.text "logging") (.text "level") = some (.text "INFO") := by
  intro document env
  have sectioned : Sectioned document := by
    refine ⟨by decide, ?_, ?_⟩
    · simp [document, Dict.Texts]
    · simp only [document, List.forall_mem_cons, List.not_mem_nil, false_implies, implies_true,
        and_true]
      exact ⟨.inr ⟨_, rfl, by decide, by simp [Dict.Texts]⟩, .inl trivial,
        .inr ⟨_, rfl, by decide, by simp [Dict.Texts]⟩⟩
  have form : Json.Form (.dict document) := by
    have short {n : Nat} (small : n < 10 ^ 4) : n < 10 ^ Number.digitLimit :=
      Nat.lt_trans small (Nat.pow_lt_pow_right (by decide) (by decide))
    simp [document, Json.Form, Json.Members, short]
  obtain ⟨text, _, back, clean⟩ := Json.readIndented form
  have empty : ∃ after, ({} : Folder).write "a.json" [] = .ok after := ⟨_, rfl⟩
  obtain ⟨folder, stored⟩ := Folder.writesAny empty.choose_spec text
  have present : folder.read (fileName env []) = .ok (some text) := Folder.readsWritten stored clean
  have read : Format.read text .json = .ok (.dict document) := by
    rw [Format.read, back, if_pos (by decide)]
    rfl
  have silent {group key : Text} {o : Override}
      (only : ∀ other ∈ Override.all, other.group = group → other.key = key → other = o)
      (none : o.value? env = none) : ∀ other ∈ Override.all,
        other.Gives (.text group) (.text key) → other.value? env = .none := by
    rintro other member ⟨inGroup, ofKey⟩
    rw [only other member (Value.text.inj inGroup).symm (Value.text.inj ofKey).symm, none]
  obtain ⟨c, loaded, patterns, _, values⟩ := layered present rfl read sectioned
  refine ⟨folder, text, c, present, rfl, read, sectioned, loaded, patterns, ?_, ?_, ?_⟩
  · exact (values _ _).2 (silent (o := ⟨"MQTT_QOS", "bus", "qos", .whole⟩) (by decide) rfl)
  · exact (values _ _).1 ⟨"MQTT_KEEPALIVE", "bus", "keepalive", .whole⟩ (by decide) ⟨rfl, rfl⟩ _ rfl
  · exact (values _ _).2 (silent (o := ⟨"LOG_LEVEL", "logging", "level", .text⟩) (by decide) rfl)

end Config
end TopicRouting
