import TopicRouting.Pattern

/-! Parameters as a mapping. Putting a list of bindings one after the other leaves one entry for
each name, with the value of its last binding. -/
namespace TopicRouting.Params

def bindAll (params : Params) (bindings : List (Text × ParamValue)) : Params :=
  bindings.foldl (fun params binding => params.put binding.1 binding.2) params

theorem findPut (params : Params) (name other : Text) (value : ParamValue) :
    (params.put name value).find? other =
      if name = other then some value else params.find? other := by
  induction params with
  | nil => by_cases same : name = other <;> simp [put, find?, same]
  | cons entry rest ih =>
    obtain ⟨n, v⟩ := entry
    simp only [find?] at ih
    by_cases here : n = name
    · subst here
      by_cases same : n = other <;> simp [put, find?, same]
    · by_cases first : n = other
      · subst first
        simp [put, find?, here, Ne.symm here]
      · simp [put, find?, here, first, ih]

theorem putKeys (params : Params) (name : Text) (value : ParamValue) :
    (params.put name value).map Prod.fst =
      if name ∈ params.map Prod.fst then params.map Prod.fst else params.map Prod.fst ++ [name] := by
  induction params with
  | nil => rfl
  | cons entry rest ih =>
    obtain ⟨n, v⟩ := entry
    by_cases here : n = name
    · simp [put, here]
    · rw [put, if_neg here, List.map_cons, ih]
      by_cases later : name ∈ rest.map Prod.fst <;> simp [later, Ne.symm here]

theorem putUnique {params : Params} (unique : (params.map Prod.fst).Nodup) (name : Text)
    (value : ParamValue) : ((params.put name value).map Prod.fst).Nodup := by
  rw [putKeys]
  split
  · exact unique
  · rename_i fresh
    refine List.nodup_append.mpr ⟨unique, by simp, ?_⟩
    intro key member other alone same
    rw [List.mem_singleton.mp alone] at same
    exact fresh (same ▸ member)

theorem bindAllUnique {params : Params} (unique : (params.map Prod.fst).Nodup)
    (bindings : List (Text × ParamValue)) :
    ((params.bindAll bindings).map Prod.fst).Nodup := by
  induction bindings generalizing params with
  | nil => exact unique
  | cons binding rest ih => exact ih (putUnique unique binding.1 binding.2)

theorem findBindAll (params : Params) (bindings : List (Text × ParamValue)) (name : Text) :
    (params.bindAll bindings).find? name =
      (bindings.reverse.lookup name).or (params.find? name) := by
  induction bindings generalizing params with
  | nil => rfl
  | cons binding rest ih =>
    obtain ⟨key, value⟩ := binding
    have step : params.bindAll ((key, value) :: rest) = (params.put key value).bindAll rest := rfl
    rw [step, ih, findPut, List.reverse_cons, List.lookup_append, Option.or_assoc]
    congr 1
    by_cases same : key = name
    · simp [same]
    · have other : (name == key) = false := by simpa using Ne.symm same
      simp [List.lookup_cons, same, other]

theorem lookupMember {bindings : List (Text × ParamValue)} {name : Text} {value : ParamValue}
    (found : bindings.reverse.lookup name = some value) : (name, value) ∈ bindings := by
  obtain ⟨before, after, same, _⟩ := List.lookup_eq_some_iff.mp found
  exact List.mem_reverse.mp (same ▸ by simp)

theorem lookupAbsent {bindings : List (Text × ParamValue)} {name : Text}
    (missing : bindings.reverse.lookup name = none) : name ∉ bindings.map Prod.fst := by
  intro member
  obtain ⟨binding, inside, same⟩ := List.mem_map.mp member
  have other := List.lookup_eq_none_iff.mp missing binding (List.mem_reverse.mpr inside)
  simp [same] at other

theorem lookupDistinct {bindings : List (Text × ParamValue)}
    (distinct : (bindings.map Prod.fst).Nodup) {name : Text} {value : ParamValue}
    (member : (name, value) ∈ bindings) : bindings.reverse.lookup name = some value := by
  obtain ⟨before, after, same⟩ := List.append_of_mem member
  rw [same, List.map_append, List.map_cons, List.nodup_append] at distinct
  have absent : name ∉ after.map Prod.fst := (List.nodup_cons.mp distinct.2.1).1
  refine List.lookup_eq_some_iff.mpr ⟨after.reverse, before.reverse, by simp [same], ?_⟩
  intro entry inside
  have key : entry.1 ∈ after.map Prod.fst :=
    List.mem_map.mpr ⟨entry, List.mem_reverse.mp inside, rfl⟩
  simpa using fun same : name = entry.1 => absent (same ▸ key)

theorem findDict (params : Params) (name : Text) :
    Dict.find? params.toDict (.text name) = (params.find? name).map ParamValue.value := by
  induction params with
  | nil => rfl
  | cons entry rest ih =>
    obtain ⟨n, v⟩ := entry
    simp only [Dict.find?, toDict, find?, List.map_cons] at ih ⊢
    by_cases same : n = name
    · simp [Value.sameKey, same]
    · simpa [Value.sameKey, same] using ih

end TopicRouting.Params
