import TopicRouting.Proofs.ReadingBack

/-! Payloads that have a JSON form go out in printable ASCII and come back as they were, the
members of mappings in their order. Only brackets inside each other beyond the limit of the reader
keep one from coming back. -/
namespace TopicRouting.Json

def Printable (text : Text) : Prop := ∀ c ∈ text, ' ' ≤ c ∧ c ≤ '~'
instance (text : Text) : Decidable (Printable text) := List.decidableBAll _ text

theorem printableAppend {a b : Text} : Printable (a ++ b) ↔ Printable a ∧ Printable b :=
  List.forall_mem_append

theorem printableCons {c : Char} {text : Text} :
    Printable (c :: text) ↔ (' ' ≤ c ∧ c ≤ '~') ∧ Printable text := List.forall_mem_cons

theorem printableDigit {c : Char} (digit : c.isDigit = true) : ' ' ≤ c ∧ c ≤ '~' := by
  have range : 48 ≤ c.val ∧ c.val ≤ 57 := by simpa [Char.isDigit] using digit
  exact ⟨UInt32.le_trans (by decide) range.1, UInt32.le_trans range.2 (by decide)⟩

theorem printableHex {n : Nat} (small : n < 16) : ' ' ≤ n.digitChar ∧ n.digitChar ≤ '~' := by
  have all : ∀ n < 16, ' ' ≤ n.digitChar ∧ n.digitChar ≤ '~' := by decide
  exact all n small

theorem printableUnit {n : Nat} (small : n < 65536) : Printable (unitEscape n) := by
  have first := printableHex (n := n / 4096) (by omega)
  have second := printableHex (n := n / 256 % 16) (by omega)
  have third := printableHex (n := n / 16 % 16) (by omega)
  have fourth := printableHex (n := n % 16) (by omega)
  have none : Printable [] := by decide
  rw [unitEscape, Text.hexFour small]
  simp only [printableAppend, printableCons, first, second, third, fourth, none, and_true]
  decide

theorem printableEscape (c : Char) : Printable (escape c) := by
  unfold escape
  iterate 7
    split
    · decide
  split
  · rename_i shown
    exact printableCons.mpr ⟨shown, by decide⟩
  split
  · exact printableUnit ‹_›
  · have whole := notHalf c
    exact printableAppend.mpr ⟨printableUnit (by omega), printableUnit (by omega)⟩

theorem printableString (text : Text) : Printable (string text) := by
  have inside : Printable (text.flatMap escape) := by
    intro c member
    obtain ⟨d, _, shown⟩ := List.mem_flatMap.mp member
    exact printableEscape d c shown
  rw [string, printableAppend, printableCons]
  exact ⟨⟨by decide, inside⟩, by decide⟩

theorem printableInt (i : Int) : Printable (Text.ofInt i) := by
  have digits (n : Nat) : Printable (Text.ofNat n) := fun c member =>
    printableDigit (Nat.isDigit_of_mem_toDigits (by decide) (by decide) member)
  cases i with
  | ofNat n => exact digits n
  | negSucc n => exact printableCons.mpr ⟨by decide, digits (n + 1)⟩

theorem printableInside {first last : Char} {text : Text} (opens : ' ' ≤ first ∧ first ≤ '~')
    (closes : ' ' ≤ last ∧ last ≤ '~') (printable : Printable text) :
    Printable (first :: text ++ [last]) :=
  printableAppend.mpr ⟨printableCons.mpr ⟨opens, printable⟩, printableCons.mpr ⟨closes, by decide⟩⟩

theorem printableMore {text others : Text} (first : Printable text) (rest : Printable others) :
    Printable (text ++ ',' :: ' ' :: others) :=
  printableAppend.mpr ⟨first, printableCons.mpr ⟨by decide, printableCons.mpr ⟨by decide, rest⟩⟩⟩

theorem printableMember (name : Text) {text : Text} (printable : Printable text) :
    Printable (member name text) := by
  rw [member, printableAppend, printableAppend]
  exact ⟨⟨printableString name, by decide⟩, printable⟩

mutual

theorem Spells.printable {v : Value} {text : Text} : Spells v text → Printable text
  | .null => by decide
  | .bool b => by cases b <;> decide
  | .int i => printableInt i
  | .text t => printableString t
  | .emptyList => by decide
  | .list items => printableInside (by decide) (by decide) items.printable
  | .emptyDict => by decide
  | .dict members => printableInside (by decide) (by decide) members.printable

theorem SpellsItems.printable {xs : List Value} {text : Text} :
    SpellsItems xs text → Printable text
  | .last item => item.printable
  | .more item rest => printableMore item.printable rest.printable

theorem SpellsMembers.printable {kvs : List (Value × Value)} {text : Text} :
    SpellsMembers kvs text → Printable text
  | .last name value => printableMember name value.printable
  | .more name value rest => printableMore (printableMember name value.printable) rest.printable

end

end TopicRouting.Json

namespace TopicRouting.Payload
open Json (Form Spells Printable nesting writeWithin readWithin depthLimit)

theorem readsBackWhole {v : Value} (form : Form v) :
    ∃ text, Spells v text ∧ Printable text ∧
      (∀ limit, nesting v ≤ limit →
        writeWithin limit v = .ok text ∧ readWithin limit text = .ok v) ∧
      encode v = (if nesting v ≤ depthLimit then .ok (bytesOf text) else .error .tooDeep) ∧
      decode (.bytes (bytesOf text)) =
        if nesting v ≤ depthLimit then .ok (some v) else .error .tooDeep := by
  obtain ⟨text, spells, same⟩ := Json.readWritten form
  refine ⟨text, spells, spells.printable, fun limit shallow => ?_, decodeEncoded form same⟩
  obtain ⟨written, back⟩ := same limit
  rw [written, back, if_pos shallow, if_pos shallow]
  exact ⟨rfl, rfl⟩

theorem readsBackMixed :
    let v : Value := .dict
      [(.text "on", .list [.null, .bool true, .int (-12), .text "\"é\\\n😀'"]),
        (.text "", .dict [(.text "b", .list []), (.text "a", .int 0)])]
    Form v ∧ ∃ b, encode v = .ok b ∧ decode (.bytes b) = .ok (some v) := by
  intro v
  have short {n : Nat} (small : n < 10 ^ 2) : n < 10 ^ Number.digitLimit :=
    Nat.lt_trans small (Nat.pow_lt_pow_right (by decide) (by decide))
  have form : Form v := by
    simp [v, Form, Json.Forms, Json.Members, short]
  have shallow : nesting v ≤ depthLimit := by decide
  obtain ⟨text, _, _, _, sent, decoded⟩ := readsBackWhole form
  rw [if_pos shallow] at sent decoded
  exact ⟨form, _, sent, decoded⟩

end TopicRouting.Payload
