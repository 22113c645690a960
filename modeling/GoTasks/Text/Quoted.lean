import GoTasks.Text.Blank
import GoTasks.Text.Combining
import GoTasks.Text.Unprintable

/-!
# Quoted text

Text is quoted in diagnostics so that every character of it can be seen. A quote and a
backslash are escaped, common controls have short escapes, and a character that shows nothing
of its own is given by its code point.
-/

namespace GoTasks.Text

/-- Whether a character can be seen when it stands alone. -/
def isVisible (c : Char) : Bool :=
  c.toNat < 0x7F ||
    !(inRanges combiningRanges c.toNat || inRanges unprintableRanges c.toNat)

/-- A number in hexadecimal, without leading zeros. -/
def hexadecimal (n : Nat) : String :=
  String.ofList (Nat.toDigits 16 n)

def quoteChar (c : Char) : String :=
  if c = '\x00' then "\\0"
  else if c = '\t' then "\\t"
  else if c = '\r' then "\\r"
  else if c = '\n' then "\\n"
  else if c = '"' then "\\\""
  else if c = '\\' then "\\\\"
  else if 0x20 ≤ c.toNat && isVisible c then c.toString
  else "\\u\x7b" ++ hexadecimal c.toNat ++ "\x7d"

/-- A text between quotes, with every character visible. -/
def quoted (s : String) : String :=
  "\"" ++ String.join (s.toList.map quoteChar) ++ "\""

/-- Texts as a list, each of them between quotes. -/
def quotedList (ss : List String) : String :=
  "[" ++ ", ".intercalate (ss.map quoted) ++ "]"

end GoTasks.Text
