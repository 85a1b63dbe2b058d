import TopicRouting.Router.Dispatch

/-! The table that a router stands for: rows of a label, its pattern and its registrations, in
the order in which the labels came. A call changes the first row that it is about and leaves all
other rows as they are. -/
namespace TopicRouting
open Router (Command Reply Found)

structure Row where
  label : Label
  pattern : Pattern
  registrations : List Registration

namespace Row

def entry (row : Row) : Label × Pattern := (row.label, row.pattern)

def listened (row : Row) : Label × List Registration := (row.label, row.registrations)

def under (label : Label) (row : Row) : Bool := row.label.same label

def takes (topic : Text) (row : Row) : Bool := (row.pattern.match? topic).isSome

def change (f : List Registration → List Registration) (row : Row) : Row :=
  { row with registrations := f row.registrations }

end Row

structure Table where
  rows : List Row := []
  registered : Nat := 0

namespace Table

def replaceFirst (p : Row → Bool) (f : Row → List Row) : List Row → Option (List Row)
  | [] => none
  | row :: rows =>
      if p row then some (f row ++ rows) else (replaceFirst p f rows).map (row :: ·)

def has (t : Table) (label : Label) : Bool := t.rows.any (Row.under label)

def row? (t : Table) (label : Label) : Option Row := t.rows.find? (Row.under label)

def append (t : Table) (label : Label) (pattern : Pattern) : Table :=
  { t with rows := t.rows ++ [⟨label, pattern, []⟩] }

def replace (t : Table) (label : Label) (missing : LabelError) (f : Row → List Row) :
    Except Error Table :=
  match replaceFirst (Row.under label) f t.rows with
  | some rows => .ok { t with rows }
  | none => .error (.label missing)

def listen (t : Table) (label : Label) (listener : ListenerId) (once : Bool) :
    Except Error Table := do
  let added ← t.replace label (.invalid label) fun row =>
    [row.change (· ++ [⟨listener, once, t.registered⟩])]
  .ok { added with registered := t.registered + 1 }

def found? (t : Table) (topic : Text) : Option Found :=
  t.rows.findSome? fun row =>
    (row.pattern.match? topic).map fun params => ⟨row.label, row.pattern, params⟩

def run (t : Table) : Command → Except Error (Reply × Table)
  | .set label given =>
      if t.has label then .error (.label (.inUse label))
      else do
        let pattern ← Pattern.ofValue given
        .ok (.self, t.append label pattern)
  | .setCompiled label source => do
      let pattern ← Pattern.ofValue source
      if t.has label then .error (.label (.inUse label)) else .ok (.self, t.append label pattern)
  | .remove label => do
      let after ← t.replace label (.unknown label) fun _ => []
      .ok (.self, after)
  | .on label listener => do
      let after ← t.listen label listener false
      .ok (.self, after)
  | .once label listener => do
      let after ← t.listen label listener true
      .ok (.self, after)
  | .off label listener => do
      let after ← t.replace label (.invalid label) fun row =>
        [row.change (·.eraseP (·.listener == listener))]
      .ok (.self, after)
  | .offAll (some label) => do
      let after ← t.replace label (.invalid label) fun row => [row.change fun _ => []]
      .ok (.self, after)
  | .offAll none => .ok (.self, { t with rows := t.rows.map (Row.change fun _ => []) })
  | .get label =>
      match t.row? label with
      | some row => .ok (.pattern (some row.pattern), t)
      | none => .error (.label (.unknown label))
  | .count label =>
      match t.row? label with
      | some row => .ok (.count row.registrations.length, t)
      | none => .error (.label (.invalid label))
  | .labels => .ok (.entries (t.rows.map Row.entry), t)
  | .contains label => .ok (.contains (t.has label), t)
  | .match topic => .ok (.found (t.found? topic), t)

def takers (t : Table) (topic : Text) : List Registration :=
  ((t.rows.find? (Row.takes topic)).map Row.registrations).getD []

def deliver (t : Table) (topic : Text) : Table :=
  match replaceFirst (Row.takes topic) (fun row => [row.change (·.filter (!·.once))]) t.rows with
  | some rows => { t with rows }
  | none => t

end Table

namespace Label

mutual

theorem sameRefl : ∀ a : Label, a.same a = true
  | scalar a => by simp [same]
  | tuple as => by
    rw [same]
    exact samesRefl as

theorem samesRefl : ∀ as : List Label, sames as as = true
  | [] => rfl
  | a :: as => by
    rw [sames, sameRefl a, samesRefl as]
    rfl

end

mutual

theorem sameOfCommon : ∀ {a b c : Label}, a.same c = true → b.same c = true → a.same b = true
  | scalar a, b, c, left, right => by
    cases c with
    | tuple cs => simp [same] at left
    | scalar c =>
      cases b with
      | tuple bs => simp [same] at right
      | scalar b =>
        simp only [same, beq_iff_eq] at left right ⊢
        exact left.trans right.symm
  | tuple as, b, c, left, right => by
    cases c with
    | scalar c => simp [same] at left
    | tuple cs =>
      cases b with
      | scalar b => simp [same] at right
      | tuple bs =>
        rw [same] at left right ⊢
        exact samesOfCommon left right

theorem samesOfCommon : ∀ {as bs cs : List Label},
    sames as cs = true → sames bs cs = true → sames as bs = true
  | [], bs, cs, left, right => by
    cases cs with
    | cons c cs => contradiction
    | nil => cases bs <;> trivial
  | a :: as, bs, cs, left, right => by
    cases cs with
    | nil => contradiction
    | cons c cs =>
      cases bs with
      | nil => contradiction
      | cons b bs =>
        simp only [sames, Bool.and_eq_true] at left right ⊢
        exact ⟨sameOfCommon left.1 right.1, samesOfCommon left.2 right.2⟩

end

theorem sameSymm {a b : Label} (same : a.same b = true) : b.same a = true :=
  sameOfCommon (sameRefl b) same

end Label

namespace Table

def Distinct (rows : List Row) : Prop := rows.Pairwise fun a b => a.label.same b.label = false

theorem distinctOfLabels {rows others : List Row} (same : others.map Row.label = rows.map Row.label)
    (distinct : Distinct rows) : Distinct others := by
  have labels : (rows.map Row.label).Pairwise fun a b => a.same b = false :=
    List.pairwise_map.mpr distinct
  rw [← same] at labels
  exact List.pairwise_map.mp labels

theorem underOnce {row other : Row} {label : Label} (here : row.under label = true)
    (distinct : row.label.same other.label = false) : other.under label = false := by
  cases there : other.under label with
  | false => rfl
  | true =>
    rw [Label.sameOfCommon here there] at distinct
    contradiction

theorem alone {front back : List Row} {row : Row} (distinct : Distinct (front ++ row :: back)) :
    (∀ other ∈ front, other.under row.label = false) ∧
      ∀ other ∈ back, other.under row.label = false := by
  obtain ⟨_, rest, across⟩ := List.pairwise_append.mp distinct
  refine ⟨fun other member => across other member row List.mem_cons_self, ?_⟩
  intro other member
  exact underOnce (Label.sameRefl row.label) ((List.pairwise_cons.mp rest).1 other member)

theorem firstOfKind (p : Row → Bool) (rows : List Row) :
    (∀ row ∈ rows, p row = false) ∨ ∃ front row back, rows = front ++ row :: back ∧
      (∀ other ∈ front, p other = false) ∧ p row = true := by
  cases found : rows.find? p with
  | none => exact .inl (by simpa using found)
  | some row =>
    obtain ⟨here, front, back, rfl, before⟩ := List.find?_eq_some_iff_append.mp found
    exact .inr ⟨front, row, back, rfl, by simpa using before, here⟩

theorem replaceNone {p : Row → Bool} {rows : List Row} (none : ∀ row ∈ rows, p row = false)
    (f : Row → List Row) : replaceFirst p f rows = .none := by
  induction rows with
  | nil => rfl
  | cons row rows ih =>
    obtain ⟨here, rest⟩ := List.forall_mem_cons.mp none
    simp [replaceFirst, here, ih rest]

theorem replaceAt {p : Row → Bool} {front : List Row} {row : Row}
    (before : ∀ other ∈ front, p other = false) (here : p row = true) (back : List Row)
    (f : Row → List Row) :
    replaceFirst p f (front ++ row :: back) = some (front ++ f row ++ back) := by
  induction front with
  | nil => simp [replaceFirst, here]
  | cons other front ih =>
    obtain ⟨first, rest⟩ := List.forall_mem_cons.mp before
    simp [replaceFirst, first, ih rest]

end Table
end TopicRouting
