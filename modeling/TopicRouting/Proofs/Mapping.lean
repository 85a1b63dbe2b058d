import Mathlib.Data.List.Nodup
import TopicRouting.Value

/-! Mappings by their text keys. Keys that are no texts are never mistaken for one, and a mapping
with no key twice is what its entries give one after the other. -/
namespace TopicRouting

theorem Value.sameKeyText {key : Value} {name : Text} :
    key.sameKey (.text name) = true ↔ key = .text name := by
  cases key with
  | float x => cases whole : x.toInt? <;> simp [sameKey, whole?, whole]
  | _ => simp [sameKey, whole?]

namespace Dict

theorem otherKey {key : Value} {name : Text} (other : key ≠ .text name) :
    key.sameKey (.text name) = false := by
  cases same : key.sameKey (.text name) with
  | false => rfl
  | true => exact absurd (Value.sameKeyText.mp same) other

theorem findMember {d : Dict} {name : Text} {v : Value} (found : d.find? (.text name) = some v) :
    (.text name, v) ∈ d := by
  obtain ⟨⟨key, value⟩, first, rfl⟩ := Option.map_eq_some_iff.mp found
  have named : key.sameKey (.text name) = true :=
    List.find?_some (p := fun entry : Value × Value => entry.1.sameKey (.text name)) first
  rw [Value.sameKeyText.mp named] at first
  exact List.mem_of_find?_eq_some first

theorem putFresh {d : Dict} {name : Text} (fresh : ∀ entry ∈ d, entry.1 ≠ .text name) (v : Value) :
    d.put (.text name) v = d ++ [(.text name, v)] := by
  induction d with
  | nil => rfl
  | cons entry d ih =>
    obtain ⟨here, rest⟩ := List.forall_mem_cons.mp fresh
    simp [Dict.put, otherKey here, ih rest]

def Distinct (d : Dict) : Prop := d.Pairwise fun a b => a.1.sameKey b.1 = false

def Texts (d : Dict) : Prop := ∀ entry ∈ d, ∃ name, entry.1 = .text name

theorem findOfMember {d : Dict} (distinct : d.Distinct) {name : Text} {v : Value}
    (member : (.text name, v) ∈ d) : d.find? (.text name) = some v := by
  induction d with
  | nil => contradiction
  | cons entry d ih =>
    obtain ⟨here, others⟩ := List.pairwise_cons.mp distinct
    rcases List.mem_cons.mp member with first | later
    · simp [find?, ← first, Value.sameKeyText]
    · simpa [find?, here _ later] using ih others later

theorem keysNodup {d : Dict} (distinct : d.Distinct) (texts : d.Texts) :
    (d.map Prod.fst).Nodup := by
  refine List.pairwise_map.mpr (distinct.imp_of_mem fun {a b} _ there other same => ?_)
  obtain ⟨name, named⟩ := texts b there
  rw [same, named, Value.sameKeyText.mpr rfl] at other
  contradiction

theorem permOfFind {a b : Dict} (distinctA : a.Distinct) (distinctB : b.Distinct)
    (textsA : a.Texts) (textsB : b.Texts)
    (same : ∀ name, a.find? (.text name) = b.find? (.text name)) : a.Perm b := by
  refine (List.perm_ext_iff_of_nodup (keysNodup distinctA textsA).of_map
    (keysNodup distinctB textsB).of_map).mpr fun entry => ?_
  constructor
  · intro member
    obtain ⟨name, named⟩ := textsA entry member
    obtain ⟨key, v⟩ := entry
    cases named
    exact findMember ((same name).symm.trans (findOfMember distinctA member))
  · intro member
    obtain ⟨name, named⟩ := textsB entry member
    obtain ⟨key, v⟩ := entry
    cases named
    exact findMember ((same name).trans (findOfMember distinctB member))

end Dict
end TopicRouting
