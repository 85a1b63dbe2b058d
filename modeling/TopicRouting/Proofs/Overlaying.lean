import TopicRouting.Proofs.Validating

/-! Laying a whole configuration over the defaults gives it back. Sections and keys keep their
places and none is ever taken away, so every configuration begins with the sections and the keys of
the defaults, in their order. -/
namespace TopicRouting

namespace Dict

theorem putExtends (d : Dict) (key value : Value) :
    d.map Prod.fst <+: (d.put key value).map Prod.fst := by
  cases here : d.has key with
  | true =>
    exact ⟨[], by rw [List.append_nil, putKeys here]⟩
  | false =>
    rw [putOther here, List.map_append]
    exact List.prefix_append _ _

theorem overlayExtends (d later : Dict) : d.map Prod.fst <+: (d.overlay later).map Prod.fst := by
  induction later generalizing d with
  | nil => exact List.prefix_rfl
  | cons entry later ih => exact (putExtends d entry.1 entry.2).trans (ih _)

theorem putAt {done : Dict} {key : Value} (apart : ∀ entry ∈ done, entry.1.sameKey key = false)
    (own : key.sameKey key = true) (old value : Value) (rest : Dict) :
    Dict.put (done ++ (key, old) :: rest) key value = done ++ (key, value) :: rest := by
  induction done with
  | nil => simp [put, own]
  | cons entry done ih =>
    obtain ⟨here, others⟩ := List.forall_mem_cons.mp apart
    simp [put, here, ih others]

theorem overlayFrom {done d later : Dict} (keys : d.map Prod.fst <+: later.map Prod.fst)
    (distinct : Dict.Distinct (done ++ later)) (texts : later.Texts) :
    Dict.overlay (done ++ d) later = done ++ later := by
  induction later generalizing done d with
  | nil =>
    have none : d = [] := List.map_eq_nil_iff.mp (List.prefix_nil.mp keys)
    rw [none]
    rfl
  | cons entry later ih =>
    obtain ⟨⟨name, named⟩, others⟩ := List.forall_mem_cons.mp texts
    obtain ⟨key, value⟩ := entry
    cases named
    have apart : ∀ entry ∈ done, entry.1.sameKey (.text name) = false := fun entry inside =>
      (List.pairwise_append.mp distinct).2.2 entry inside _ List.mem_cons_self
    have own : (Value.text name).sameKey (.text name) = true := Value.sameKeyText.mpr rfl
    have goOn {rest : Dict} (keys : rest.map Prod.fst <+: later.map Prod.fst) :
        Dict.overlay (done ++ (.text name, value) :: rest) later =
          done ++ (.text name, value) :: later := by
      rw [List.append_cons, List.append_cons done _ later] at *
      exact ih keys distinct others
    cases d with
    | nil =>
      have put : Dict.put (done ++ []) (.text name) value = done ++ [(.text name, value)] := by
        rw [List.append_nil]
        exact putOther
          (List.any_eq_false.mpr fun entry inside => by simp [apart entry inside]) value
      change Dict.overlay (Dict.put (done ++ []) (.text name) value) later = _
      rw [put]
      exact goOn List.nil_prefix
    | cons first d =>
      obtain ⟨key, old⟩ := first
      simp only [List.map_cons, List.cons_prefix_cons] at keys
      obtain ⟨rfl, keys⟩ := keys
      change Dict.overlay (Dict.put (done ++ (.text name, old) :: d) (.text name) value) later = _
      rw [putAt apart own]
      exact goOn keys

theorem overlayWhole {d later : Dict} (keys : d.map Prod.fst <+: later.map Prod.fst)
    (distinct : later.Distinct) (texts : later.Texts) : d.overlay later = later :=
  @overlayFrom [] d later keys distinct texts

end Dict

namespace Sections

inductive Over : Sections → Sections → Prop
  | rest (extra : Sections) : Over [] extra
  | more {name : Value} {d later : Dict} {base after : Sections}
      (keys : d.map Prod.fst <+: later.map Prod.fst) (tail : Over base after) :
      Over ((name, d) :: base) ((name, later) :: after)

theorem Over.refl (s : Sections) : Over s s := by
  induction s with
  | nil => exact .rest []
  | cons entry s ih => exact .more List.prefix_rfl ih

theorem settingsCons (n : Value) (d : Dict) (s : Sections) (name : Value) :
    Sections.settings ((n, d) :: s) name = if n.sameKey name then d else s.settings name := by
  rw [settings, find?, List.find?_cons]
  cases n.sameKey name <;> rfl

theorem Over.put {base s : Sections} (covered : Over base s) {name : Value} {settings : Dict}
    (keys : (s.settings name).map Prod.fst <+: settings.map Prod.fst) :
    Over base (s.put name settings) := by
  induction covered with
  | rest extra => exact .rest _
  | @more n d later base after own tail ih =>
    rw [settingsCons] at keys
    rw [Sections.put]
    split
    · rename_i same
      rw [if_pos same] at keys
      exact .more (own.trans keys) tail
    · rename_i other
      rw [if_neg other] at keys
      exact .more own (ih keys)

theorem Over.set {base s : Sections} (covered : Over base s) (name key value : Value) :
    Over base (s.set name key value) := covered.put (Dict.putExtends _ key value)

theorem Over.extend {base s : Sections} (covered : Over base s) (name : Value) (later : Dict) :
    Over base (s.extend name later) := covered.put (Dict.overlayExtends _ later)

theorem putDict (s : Sections) (name : Value) (settings : Dict) :
    (s.put name settings).toDict = s.toDict.put name (.dict settings) := by
  induction s with
  | nil => rfl
  | cons entry s ih =>
    obtain ⟨n, d⟩ := entry
    simp only [toDict] at ih
    cases same : n.sameKey name <;> simp [Sections.put, toDict, Dict.put, same, ih]

def Apart (s : Sections) : Prop := s.toDict.Distinct

instance (s : Sections) : Decidable s.Apart := inferInstanceAs (Decidable s.toDict.Distinct)

theorem apartPairs {s : Sections} : s.Apart ↔ s.Pairwise fun a b => a.1.sameKey b.1 = false :=
  List.pairwise_map

theorem Apart.put {s : Sections} (apart : s.Apart) (name : Value) (settings : Dict) :
    (s.put name settings).Apart := by
  rw [Apart, putDict]
  exact Dict.Distinct.put apart name (.dict settings)

theorem settingsAt {done : Sections} {name : Value}
    (apart : ∀ entry ∈ done, entry.1.sameKey name = false) (rest : Sections) :
    Sections.settings (done ++ rest) name = rest.settings name := by
  induction done with
  | nil => rfl
  | cons entry done ih =>
    obtain ⟨here, others⟩ := List.forall_mem_cons.mp apart
    rw [List.cons_append, settingsCons, if_neg (by simp [here]), ih others]

theorem putAfter {done : Sections} {name : Value}
    (apart : ∀ entry ∈ done, entry.1.sameKey name = false) (rest : Sections) (d : Dict) :
    Sections.put (done ++ rest) name d = done ++ rest.put name d := by
  induction done with
  | nil => rfl
  | cons entry done ih =>
    obtain ⟨here, others⟩ := List.forall_mem_cons.mp apart
    simp [Sections.put, here, ih others]

structure Plain (s : Sections) : Prop where
  apart : s.Apart
  distinct : s.Distinct
  names : ∀ entry ∈ s, ∃ name, entry.1 = .text name
  keys : ∀ entry ∈ s, Dict.Texts entry.2

end Sections

namespace Config
open Sections (Over Plain)

theorem mergeFrom (file : Text) {done base later : Sections} (covered : Over base later)
    (plain : Plain (done ++ later)) :
    merge file (done ++ base) (.dict (Sections.toDict later)) = .ok (done ++ later) := by
  induction later generalizing done base with
  | nil =>
    cases covered
    rfl
  | cons entry later ih =>
    obtain ⟨key, settings⟩ := entry
    have inside : (key, settings) ∈ done ++ (key, settings) :: later := by simp
    obtain ⟨name, named⟩ := plain.names _ inside
    cases named
    have apart : ∀ entry ∈ done, entry.1.sameKey (.text name) = false := fun entry inside =>
      (List.pairwise_append.mp (Sections.apartPairs.mp plain.apart)).2.2 entry inside _
        List.mem_cons_self
    have own : (Value.text name).sameKey (.text name) = true := Value.sameKeyText.mpr rfl
    have whole {d : Dict} (keys : d.map Prod.fst <+: settings.map Prod.fst) :
        d.overlay settings = settings :=
      Dict.overlayWhole keys (plain.distinct _ inside) (plain.keys _ inside)
    have goOn {rest : Sections} (tail : Over rest later) :
        merge file (done ++ (.text name, settings) :: rest) (.dict (Sections.toDict later)) =
          .ok (done ++ (.text name, settings) :: later) := by
      rw [List.append_cons, List.append_cons done _ later] at *
      exact ih tail plain
    have step (s : Sections) :
        merge file s (.dict (Sections.toDict ((.text name, settings) :: later))) =
          merge file (s.extend (.text name) settings) (.dict (Sections.toDict later)) := rfl
    rw [step, Sections.extend, Sections.settingsAt apart, Sections.putAfter apart]
    cases covered with
    | rest =>
      have new : Dict.overlay (Sections.settings [] (.text name)) settings = settings :=
        whole List.nil_prefix
      rw [new]
      exact goOn (.rest later)
    | more keys tail =>
      rw [Sections.settingsCons, if_pos own, whole keys, Sections.put, if_pos own]
      exact goOn tail

theorem mergeWhole (file : Text) {base later : Sections} (covered : Over base later)
    (plain : Plain later) : merge file base (.dict later.toDict) = .ok later :=
  @mergeFrom file [] base later covered plain

theorem overKept (base : Sections) : Keeps (Over base) where
  set name key value covered := covered.set name key value
  extend name later covered := covered.extend name later

theorem apartKept : Keeps Sections.Apart where
  set name _ _ apart := apart.put name _
  extend name _ apart := apart.put name _

theorem Made.covered {c : Config} (made : Made c) : Over defaults c.sections :=
  made.keeps (overKept defaults) (Over.refl defaults)

theorem Made.apart {c : Config} (made : Made c) : Sections.Apart c.sections :=
  made.keeps apartKept (by decide)

end Config
end TopicRouting
