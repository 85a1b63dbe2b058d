import TopicRouting.Text.Printable

/-! A text shown in quotation marks: single ones, unless it holds a single one and no double
one. Marks of the kind used, backslashes and characters without a printed form are escaped. -/
namespace TopicRouting.Text

def quotedChar (mark : Char) (c : Char) : Text :=
  if c = '\\' then "\\\\"
  else if c = mark then ['\\', mark]
  else if c = '\n' then "\\n"
  else if c = '\r' then "\\r"
  else if c = '\t' then "\\t"
  else if isPrintable c then [c]
  else if c.toNat < 0x100 then "\\x" ++ hex 2 c.toNat
  else if c.toNat < 0x10000 then "\\u" ++ hex 4 c.toNat
  else "\\U" ++ hex 8 c.toNat

def quoteMark (text : Text) : Char :=
  if text.contains '\'' && !text.contains '"' then '"' else '\''

def quoted (text : Text) : Text :=
  let mark := quoteMark text
  mark :: text.flatMap (quotedChar mark) ++ [mark]

end TopicRouting.Text
