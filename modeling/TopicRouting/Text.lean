/-! A text is the list of its characters, so that cutting, joining and matching are
functions on lists. Literals are written as strings and read as texts. -/
namespace TopicRouting

abbrev Text := List Char

instance : Coe String Text := ⟨String.toList⟩

namespace Text

def ofNat (n : Nat) : Text := Nat.toDigits 10 n

def ofInt : Int → Text
  | .ofNat n => ofNat n
  | .negSucc n => '-' :: ofNat (n + 1)

def toNat (digits : Text) : Nat := Nat.ofDigitChars 10 digits 0

def cut (mark : Char) : Text → Option (Text × Text)
  | [] => none
  | c :: rest =>
      if c = mark then some ([], rest)
      else (cut mark rest).map fun (before, after) => (c :: before, after)

def cutLast (mark : Char) (text : Text) : Option (Text × Text) :=
  (cut mark text.reverse).map fun (after, before) => (before.reverse, after.reverse)

def hasPart (part : Text) : Text → Bool
  | [] => part.isEmpty
  | c :: rest => part.isPrefixOf (c :: rest) || hasPart part rest

def endsWith (ending text : Text) : Bool := ending.isSuffixOf text

def join (separator : Text) (parts : List Text) : Text := separator.intercalate parts

def lowerAscii (text : Text) : Text := text.map Char.toLower

def isDigits (text : Text) : Bool := !text.isEmpty && text.all Char.isDigit

def hex (width : Nat) (n : Nat) : Text :=
  let digits := Nat.toDigits 16 n
  List.replicate (width - digits.length) '0' ++ digits

end Text
end TopicRouting
