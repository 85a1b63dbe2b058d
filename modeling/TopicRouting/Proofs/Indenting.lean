import TopicRouting.Proofs.Payloads

/-! JSON over several lines, each item on a line of its own, is read back as JSON on one line is.
Such a text has no carriage return, so its lines end as they were written. -/
namespace TopicRouting.Json

theorem blankLine (depth : Nat) : Blank (indented.inside depth) := by
  intro c member
  rcases List.mem_cons.mp member with rfl | space
  · rfl
  · rw [(List.mem_replicate.mp space).2]
    rfl

theorem noReturnPrintable {text : Text} (printable : Printable text) : '\r' ∉ text :=
  fun member => absurd (printable _ member).1 (by decide)

theorem noReturnLine (depth : Nat) : '\r' ∉ indented.inside depth := by
  intro member
  rcases List.mem_cons.mp member with same | space
  · contradiction
  · exact absurd (List.mem_replicate.mp space).2 (by decide)

theorem noReturnMember (name : Text) {text : Text} (clean : '\r' ∉ text) :
    '\r' ∉ member name text := by
  have quoted := noReturnPrintable (printableString name)
  simp [member, quoted, clean]

open Draft (Fits fitsAlways)

mutual

theorem valueLaid : ∀ v : Value, Form v → ∀ depth, ∃ text, ReadsBack v text ∧ '\r' ∉ text ∧
    Fits (fun room => writeAt indented .refused depth room v) (nesting v) text
  | .null, _, _ => ⟨_, nullBack, by decide, fitsAlways rfl⟩
  | .bool b, _, _ => ⟨_, boolBack b, by cases b <;> decide, fitsAlways rfl⟩
  | .int i, short, _ =>
    ⟨_, intBack short, noReturnPrintable (printableInt i), fitsInt short⟩
  | .text t, _, _ => ⟨_, textBack t, noReturnPrintable (printableString t), fitsAlways rfl⟩
  | .list [], _, _ => ⟨_, emptyListBack, by decide, fitsEmptyList⟩
  | .list (x :: xs), form, depth => by
    obtain ⟨text, back, clean, fits⟩ := itemsLaid (x :: xs) (by simp) form depth
    exact ⟨_, listBack (blankLine depth) (blankLine (depth - 1)) back,
      by simp [noReturnLine, clean], fitsList (by simp) (fits _)⟩
  | .dict [], _, _ => ⟨_, emptyDictBack, by decide, fitsEmptyDict⟩
  | .dict (entry :: kvs), form, depth => by
    obtain ⟨text, back, clean, fits⟩ := membersLaid (entry :: kvs) (by simp) form depth
    exact ⟨_, dictBack (blankLine depth) (blankLine (depth - 1)) back (ofEntriesForm form),
      by simp [noReturnLine, clean], fitsDict (by simp) (fits [])⟩

theorem itemsLaid : ∀ xs : List Value, xs ≠ [] → Forms xs → ∀ depth, ∃ text,
    ItemsBack xs text ∧ '\r' ∉ text ∧ ∀ before,
      Fits (fun room => writeItems indented .refused depth room before xs) (nestings xs)
        (before ++ text)
  | [], nonempty, _, _ => absurd rfl nonempty
  | [x], _, form, depth => by
    obtain ⟨text, back, clean, fits⟩ := valueLaid x form.1 (depth + 1)
    refine ⟨text, lastItem back, clean, fun before => ?_⟩
    simpa [nestings] using fitsItem form.1 fits fitsNoItems
  | x :: y :: xs, _, form, depth => by
    obtain ⟨text, back, clean, fits⟩ := valueLaid x form.1 (depth + 1)
    obtain ⟨others, rest, cleanOthers, fitsRest⟩ := itemsLaid (y :: xs) (by simp) form.2 depth
    refine ⟨_, moreItems back (blankLine depth) rest, ?_, fun before => ?_⟩
    · simp [noReturnLine, clean, cleanOthers]
    · exact fitsItem form.1 fits (fitsRest (',' :: indented.afterComma depth))

theorem membersLaid : ∀ kvs : List (Value × Value), kvs ≠ [] → Members kvs → ∀ depth, ∃ text,
    MembersBack kvs text ∧ '\r' ∉ text ∧ ∀ before,
      Fits (fun room => writeMembers indented .refused depth room before kvs) (memberNesting kvs)
        (before ++ text)
  | [], nonempty, _, _ => absurd rfl nonempty
  | [(k, v)], _, ⟨⟨name, named, _⟩, form, _⟩, depth => by
    obtain ⟨text, back, clean, fits⟩ := valueLaid v form (depth + 1)
    subst named
    refine ⟨_, lastMember name back, noReturnMember name clean, fun before => ?_⟩
    simpa [memberNesting] using fitsMember name fits fitsNoMembers
  | (k, v) :: entry :: kvs, _, ⟨⟨name, named, _⟩, form, members⟩, depth => by
    obtain ⟨text, back, clean, fits⟩ := valueLaid v form (depth + 1)
    obtain ⟨others, rest, cleanOthers, fitsRest⟩ :=
      membersLaid (entry :: kvs) (by simp) members depth
    subst named
    refine ⟨_, moreMembers name back (blankLine depth) rest, ?_, fun before => ?_⟩
    · simp [noReturnMember, noReturnLine, clean, cleanOthers]
    · exact fitsMember name fits (fitsRest (',' :: indented.afterComma depth))

end

theorem readIndented {v : Value} (form : Form v) : ∃ text,
    (draftIndented v).result = (if nesting v ≤ depthLimit then .ok text else .error .tooDeep) ∧
    read text = (if nesting v ≤ depthLimit then .ok v else .error .tooDeep) ∧ '\r' ∉ text := by
  obtain ⟨text, back, clean, fits⟩ := valueLaid v form 1
  exact ⟨text, fits depthLimit, readsWhole back depthLimit, clean⟩

end TopicRouting.Json
