import TopicRouting.Config
import TopicRouting.Proofs.Indenting
import TopicRouting.Proofs.Storing

/-! Which documents a configuration refuses, and why. A document of JSON is a mapping or is refused;
one of YAML may also be any value that counts as blank, and is then taken for an empty mapping. Of
the sections of a mapping, the first that is neither without content nor a mapping is refused. -/
namespace TopicRouting.Config

def IsContent (v : Value) : Prop := v = .null ∨ ∃ settings, v = .dict settings

def Format.Parses (text : Text) (d : Value) : Format → Prop
  | .yaml => Yaml.read text = .ok d
  | .json => Json.read text = .ok d

def Format.Refuses (format : Format) (d : Value) : Prop :=
  match d with
  | .dict document => ∃ entry ∈ document, ¬ IsContent entry.2
  | d => ¬ (format = .yaml ∧ d.isBlank = true)

/- The name of the first section whose content is none. -/
inductive FirstFault : Dict → Value → Prop
  | here {name content : Value} {rest : Dict} (other : ¬ IsContent content) :
      FirstFault ((name, content) :: rest) name
  | later {entry : Value × Value} {rest : Dict} {name : Value} (content : IsContent entry.2)
      (first : FirstFault rest name) : FirstFault (entry :: rest) name

/- What is wrong with a document. -/
inductive Refusal (format : Format) (file : Text) : Value → ValueError → Prop
  | whole {d : Value} (other : ∀ document, d ≠ .dict document) (refused : format.Refuses d) :
      Refusal format file d (.notMapping file)
  | part {document : Dict} {name : Value} (first : FirstFault document name) :
      Refusal format file (.dict document) (.sectionNotMapping name file)

theorem FirstFault.refused {format : Format} {document : Dict} {name : Value}
    (first : FirstFault document name) : format.Refuses (.dict document) := by
  induction first with
  | here other => exact ⟨_, List.mem_cons_self, other⟩
  | later _ _ ih =>
    obtain ⟨entry, inside, other⟩ := ih
    exact ⟨entry, List.mem_cons_of_mem _ inside, other⟩

theorem Refusal.refused {format : Format} {file : Text} {d : Value} {cause : ValueError}
    (refusal : Refusal format file d cause) : format.Refuses d := by
  cases refusal with
  | whole _ refused => exact refused
  | part first => exact first.refused

theorem mergeSectionAnswers (file : Text) (s : Sections) (entry : Value × Value) :
    (IsContent entry.2 ∧ ∃ after, mergeSection file s entry = .ok after) ∨
      (¬ IsContent entry.2 ∧
        mergeSection file s entry = .error (.value (.sectionNotMapping entry.1 file))) := by
  obtain ⟨name, content⟩ := entry
  cases content with
  | null => exact .inl ⟨.inl rfl, s, rfl⟩
  | dict settings => exact .inl ⟨.inr ⟨settings, rfl⟩, _, rfl⟩
  | _ =>
    refine .inr ⟨?_, rfl⟩
    rintro (null | ⟨settings, mapping⟩) <;> contradiction

theorem mergeAnswers (file : Text) (document : Dict) (s : Sections) :
    ((∀ entry ∈ document, IsContent entry.2) ∧
      ∃ after, merge file s (.dict document) = .ok after) ∨
      ∃ name, FirstFault document name ∧
        merge file s (.dict document) = .error (.value (.sectionNotMapping name file)) := by
  induction document generalizing s with
  | nil => exact .inl ⟨List.forall_mem_nil _, s, rfl⟩
  | cons entry rest ih =>
    have first : merge file s (.dict (entry :: rest)) =
        mergeSection file s entry >>= fun next => merge file next (.dict rest) := rfl
    rw [first]
    rcases mergeSectionAnswers file s entry with ⟨content, next, laid⟩ | ⟨other, failed⟩
    · rw [laid]
      rcases ih next with ⟨all, after, merged⟩ | ⟨name, fault, failed⟩
      · exact .inl ⟨List.forall_mem_cons.mpr ⟨content, all⟩, after, merged⟩
      · exact .inr ⟨name, .later content fault, failed⟩
    · rw [failed]
      exact .inr ⟨entry.1, .here other, rfl⟩

theorem mergeOther {file : Text} {s : Sections} {d : Value}
    (other : ∀ document, d ≠ .dict document) :
    merge file s d = .error (.value (.notMapping file)) := by
  cases d with
  | dict document => exact absurd rfl (other document)
  | _ => rfl

def Format.content (format : Format) (d : Value) : Value :=
  match format with
  | .yaml => d.orElse (.dict [])
  | .json => d

theorem readParsed {format : Format} {text : Text} {d : Value} (parsed : format.Parses text d) :
    format.read text = .ok (format.content d) := by
  cases format with
  | yaml =>
    rw [Format.read, show Yaml.read text = .ok d from parsed]
    rfl
  | json =>
    rw [Format.read, show Json.read text = .ok d from parsed]
    rfl

theorem contentBlank {d : Value} (blank : d.isBlank = true) :
    Format.content .yaml d = .dict [] := if_pos blank

theorem contentSame {format : Format} {d : Value}
    (same : (∃ document, d = .dict document) ∨ ¬ (format = .yaml ∧ d.isBlank = true)) :
    format.content d = d := by
  cases format with
  | json => rfl
  | yaml =>
    cases blank : d.isBlank with
    | false => exact if_neg (by simp [blank])
    | true =>
      rcases same with ⟨document, rfl⟩ | filled
      · have empty : document = [] := List.isEmpty_iff.mp blank
        rw [contentBlank blank, empty]
      · exact absurd ⟨rfl, blank⟩ filled

theorem mergeContent (format : Format) (file : Text) (d : Value) (s : Sections) :
    (¬ format.Refuses d ∧ ∃ after, merge file s (format.content d) = .ok after) ∨
      ∃ cause, Refusal format file d cause ∧
        merge file s (format.content d) = .error (.value cause) := by
  by_cases mapping : ∃ document, d = .dict document
  · obtain ⟨document, rfl⟩ := mapping
    rw [contentSame (.inl ⟨document, rfl⟩)]
    rcases mergeAnswers file document s with ⟨all, merged⟩ | ⟨name, first, failed⟩
    · exact .inl ⟨fun ⟨entry, inside, other⟩ => other (all entry inside), merged⟩
    · exact .inr ⟨_, .part first, failed⟩
  · have other (document : Dict) : d ≠ .dict document := fun same => mapping ⟨document, same⟩
    have refuses : format.Refuses d ↔ ¬ (format = .yaml ∧ d.isBlank = true) := by
      cases d with
      | dict document => exact absurd rfl (other document)
      | _ => exact Iff.rfl
    by_cases blank : format = .yaml ∧ d.isBlank = true
    · obtain ⟨rfl, empty⟩ := blank
      rw [contentBlank empty]
      exact .inl ⟨fun refused => refuses.mp refused ⟨rfl, empty⟩, s, rfl⟩
    · rw [contentSame (.inr blank)]
      exact .inr ⟨_, .whole other (refuses.mpr blank), mergeOther other⟩

section loading

variable {folder : Folder} {env : Environment} {given text : Text} {format : Format} {d : Value}

theorem loadParsed (present : folder.read (fileName env given) = .ok (some text))
    (named : Format.ofName? (fileName env given) = some format)
    (parsed : format.Parses text d) :
    load folder env given =
      (merge (fileName env given) defaults (format.content d)).map fun s =>
        ⟨fileName env given, applyEnvironment env s⟩ := by
  have sections : readSections folder (fileName env given) =
      merge (fileName env given) defaults (format.content d) := by
    simp only [readSections, present, named, readParsed parsed, bind, Except.bind]
  rw [load, sections]
  cases merge (fileName env given) defaults (format.content d) <;> rfl

/-- For every file of a known format and whatever document it holds: loading it is refused just if
the document is no mapping, or a section of it neither without content nor a mapping, with the cause
of the document or of the first such section. No other error comes of it. What is no mapping is
always refused in JSON; in YAML it is taken for an empty mapping if it is blank, which is what an
empty list, false, zero and the empty text are too, and leaves the defaults as they are. -/
theorem refusedUnlessMapping (present : folder.read (fileName env given) = .ok (some text))
    (named : Format.ofName? (fileName env given) = some format)
    (parsed : format.Parses text d) :
    ((∃ cause, load folder env given = .error (.value cause)) ↔ format.Refuses d) ∧
    (∀ e, load folder env given = .error e →
      ∃ cause, e = .value cause ∧ Refusal format (fileName env given) d cause) ∧
    (format = .yaml → d.isBlank = true →
      load folder env given = .ok ⟨fileName env given, applyEnvironment env defaults⟩) := by
  rw [loadParsed present named parsed]
  refine ⟨?_, ?_, ?_⟩
  · rcases mergeContent format (fileName env given) d defaults with
      ⟨fine, after, merged⟩ | ⟨cause, refusal, failed⟩
    · rw [merged]
      exact ⟨fun ⟨_, failed⟩ => by contradiction, fun refused => absurd refused fine⟩
    · rw [failed]
      exact ⟨fun _ => refusal.refused, fun _ => ⟨cause, rfl⟩⟩
  · intro e failed
    rcases mergeContent format (fileName env given) d defaults with
      ⟨_, after, merged⟩ | ⟨cause, refusal, stopped⟩
    · rw [merged] at failed
      contradiction
    · rw [stopped] at failed
      cases failed
      exact ⟨cause, rfl, refusal⟩
  · rintro rfl blank
    rw [contentBlank blank]
    rfl

end loading

theorem refusedUnlessMappingBlank :
    (∃ cause, load ⟨[(["a.json"], "[]")]⟩ [] "a.json" = .error (.value cause)) ∧
    load ⟨[(["a.yaml"], "[]\n")]⟩ [] "a.yaml" = .ok ⟨"a.yaml", defaults⟩ ∧
    ∃ folder : Folder, load folder [] "b.json" =
      .error (.value (.sectionNotMapping (.text "logging") "b.json")) := by
  have list := @refusedUnlessMapping ⟨[(["a.json"], "[]")]⟩ [] "a.json" "[]" .json (.list [])
    rfl (by decide) (show Json.read _ = _ from rfl)
  have blank := @refusedUnlessMapping ⟨[(["a.yaml"], "[]\n")]⟩ [] "a.yaml" "[]\n" .yaml (.list [])
    rfl (by decide) (show Yaml.read _ = _ from rfl)
  refine ⟨list.1.mpr (by simp [Format.Refuses]), blank.2.2 rfl rfl, ?_⟩
  have form : Json.Form (.dict [(.text "bus", .null), (.text "logging", .bool false)]) := by
    simp [Json.Form, Json.Members]
  obtain ⟨text, _, back, clean⟩ := Json.readIndented form
  have empty : ∃ after, ({} : Folder).write "b.json" [] = .ok after := ⟨_, rfl⟩
  obtain ⟨folder, stored⟩ := Folder.writesAny empty.choose_spec text
  rw [if_pos (by decide)] at back
  have words := @refusedUnlessMapping folder [] "b.json" text .json _
    (Folder.readsWritten stored clean) (by decide) back
  have other : ¬ IsContent (.bool false) := by
    rintro (null | ⟨settings, mapping⟩) <;> contradiction
  obtain ⟨cause, failed⟩ :=
    words.1.mpr ⟨_, List.mem_cons_of_mem _ List.mem_cons_self, other⟩
  obtain ⟨_, same, refusal⟩ := words.2.1 _ failed
  cases same
  refine ⟨folder, failed.trans ?_⟩
  cases refusal with
  | whole mapping _ => exact absurd rfl (mapping _)
  | part first =>
    cases first with
    | here filled => exact absurd (.inl rfl) filled
    | later _ first =>
      cases first with
      | here _ => rfl
      | later _ nothing => cases nothing

end TopicRouting.Config
