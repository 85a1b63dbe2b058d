import TopicRouting.Value

/-! Labels name patterns. They are texts as a rule; a configuration may also give other values
that cannot change, which are shown in messages as they are written in a program. -/
namespace TopicRouting

inductive Scalar where
  | null
  | bool (value : Bool)
  | int (value : Int)
  | float (value : Binary64)
  | text (value : Text)
  | bytes (value : ByteArray)
  | date (value : Date)
  | moment (value : Moment)
  deriving DecidableEq

namespace Scalar

def value : Scalar → Value
  | null => .null
  | bool b => .bool b
  | int i => .int i
  | float x => .float x
  | text t => .text t
  | bytes b => .bytes b
  | date d => .date d
  | moment m => .moment m

def ofValue? : Value → Option Scalar
  | .null => some null
  | .bool b => some (bool b)
  | .int i => some (int i)
  | .float x => some (float x)
  | .text t => some (text t)
  | .bytes b => some (bytes b)
  | .date d => some (date d)
  | .moment m => some (moment m)
  | _ => none

/-- What scalars that count as the same have in common: a number is the whole number that it
equals, if there is one, and a moment of a known clock is told by the common clock. -/
inductive Key where
  | whole (value : Int)
  | instant (known : Bool) (microseconds : Int)
  | itself (value : Scalar)
  deriving DecidableEq

def key (s : Scalar) : Key :=
  match s with
  | bool b => .whole (if b then 1 else 0)
  | int i => .whole i
  | float x =>
      match x.toInt? with
      | some i => .whole i
      | none => .itself (.float x)
  | moment m => .instant m.instant.1 m.instant.2
  | _ => .itself s

end Scalar

inductive Label where
  | scalar (value : Scalar)
  | tuple (items : List Label)

namespace Label

instance : Inhabited Label := ⟨scalar .null⟩

mutual

def decEq : (a b : Label) → Decidable (a = b)
  | scalar a, scalar b => decidable_of_iff (a = b) (by simp)
  | scalar _, tuple _ | tuple _, scalar _ => isFalse nofun
  | tuple as, tuple bs =>
      match decEqs as bs with
      | isTrue h => isTrue (h ▸ rfl)
      | isFalse h => isFalse (h <| tuple.inj ·)

def decEqs : (as bs : List Label) → Decidable (as = bs)
  | [], [] => isTrue rfl
  | [], _ :: _ | _ :: _, [] => isFalse nofun
  | a :: as, b :: bs =>
      match decEq a b, decEqs as bs with
      | isTrue h, isTrue hs => isTrue (h ▸ hs ▸ rfl)
      | isFalse h, _ => isFalse (h <| List.head_eq_of_cons_eq ·)
      | _, isFalse hs => isFalse (hs <| List.tail_eq_of_cons_eq ·)

end

instance : DecidableEq Label := decEq

@[match_pattern] abbrev text (name : Text) : Label := scalar (.text name)

@[match_pattern] abbrev null : Label := scalar .null

mutual

def value : Label → Value
  | scalar s => s.value
  | tuple items => .tuple (values items)

def values : List Label → List Value
  | [] => []
  | l :: ls => value l :: values ls

end

mutual

def ofValue? : Value → Option Label
  | .tuple items => (ofValues? items).map tuple
  | v => (Scalar.ofValue? v).map scalar

def ofValues? : List Value → Option (List Label)
  | [] => some []
  | v :: vs => do some ((← ofValue? v) :: (← ofValues? vs))

end

mutual

/-- Whether two labels are the same: numbers that are equal are one label, and so are moments
at the same time. -/
def same : Label → Label → Bool
  | scalar a, scalar b => a.key == b.key
  | tuple as, tuple bs => sames as bs
  | _, _ => false

def sames : List Label → List Label → Bool
  | [], [] => true
  | a :: as, b :: bs => same a b && sames as bs
  | _, _ => false

end

def shown (label : Label) : Text := label.value.plain

end Label
end TopicRouting
