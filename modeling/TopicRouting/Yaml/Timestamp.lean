import TopicRouting.Value

/-! Dates, and moments as a date and a clock, in numbers of fixed widths. Of the numbers only
the form is looked at; whether there is such a date or moment the calendar says. -/
namespace TopicRouting.Yaml

structure Clock where
  hour : Nat
  minute : Nat
  second : Nat
  fraction : Text
  zone : Option Int
  deriving DecidableEq, Repr

structure Timestamp where
  year : Nat
  month : Nat
  day : Nat
  clock : Option Clock
  deriving DecidableEq, Repr

namespace Timestamp

def number? (least most : Nat) (text : Text) : Option (Nat × Text) :=
  let digits := (text.takeWhile Char.isDigit).take most
  if least ≤ digits.length then some (Text.toNat digits, text.drop digits.length) else none

def after? (mark : Char) : Text → Option Text
  | c :: rest => if c = mark then some rest else none
  | [] => none

def afterBlanks (text : Text) : Text := text.dropWhile fun c => c = ' ' || c = '\t'

def zone? (text : Text) : Option (Option Int) :=
  match afterBlanks text with
  | ['Z'] => some (some 0)
  | c :: rest => do
      let sign : Int ← if c = '+' then some 1 else if c = '-' then some (-1) else none
      let (hours, rest) ← number? 1 2 rest
      match rest with
      | [] => some (some (sign * (60 * hours : Nat)))
      | rest => do
          let (minutes, rest) ← number? 2 2 (← after? ':' rest)
          if rest.isEmpty then some (some (sign * (60 * hours + minutes : Nat))) else none
  | [] => if text.isEmpty then some none else none

def clock? (text : Text) : Option Clock := do
  let (hour, rest) ← number? 1 2 text
  let (minute, rest) ← number? 2 2 (← after? ':' rest)
  let (second, rest) ← number? 2 2 (← after? ':' rest)
  let (fraction, rest) := match rest with
    | '.' :: rest => (rest.takeWhile Char.isDigit, rest.dropWhile Char.isDigit)
    | rest => ([], rest)
  some ⟨hour, minute, second, fraction, ← zone? rest⟩

def read? (text : Text) : Option Timestamp := do
  let (year, rest) ← number? 4 4 text
  let (month, rest) ← number? 1 2 (← after? '-' rest)
  let (day, rest) ← number? 1 2 (← after? '-' rest)
  match rest with
  | [] => some ⟨year, month, day, none⟩
  | c :: rest =>
      let clock ←
        if c = 'T' || c = 't' then clock? rest
        else if c = ' ' || c = '\t' then clock? (afterBlanks rest)
        else none
      some ⟨year, month, day, some clock⟩

def isWritten (text : Text) : Bool :=
  (read? text).any fun t => t.clock.isSome || text.length = 10

def millionths (digits : Text) : Nat :=
  Text.toNat ((digits ++ List.replicate 6 '0').take 6)

def value (t : Timestamp) : Except CalendarError Value :=
  match t.clock with
  | none => (Date.ofNumbers t.year t.month t.day).map .date
  | some c => do
      let zone ← c.zone.mapM Moment.checkZone
      let m : Moment :=
        ⟨⟨t.year, t.month, t.day⟩, c.hour, c.minute, c.second, millionths c.fraction, zone⟩
      m.check.map .moment

end Timestamp
end TopicRouting.Yaml
