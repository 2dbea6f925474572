/-
  Text shown between quotes.

  A message that repeats what somebody typed puts it between double quotes, so that empty texts,
  stray blanks and control characters can be seen.  A quote and a backslash are written after a
  backslash, the common controls by their letter, and every other hidden character by its code
  point in braces.  All else stands for itself.
-/
import QuorumRescue.Numeral
import QuorumRescue.Text.Hidden

namespace QuorumRescue.Text

/-- How one character is written between quotes. -/
def quoteChar (c : Char) : List Char :=
  if c = '"' then ['\\', '"']
  else if c = '\\' then ['\\', '\\']
  else if c = '\n' then ['\\', 'n']
  else if c = '\r' then ['\\', 'r']
  else if c = '\t' then ['\\', 't']
  else if c.toNat = 0 then ['\\', '0']
  else if isHidden c then ['\\', 'u', '\x7b'] ++ Numeral.hexadecimal c.toNat ++ ['\x7d']
  else [c]

/-- The text between double quotes. -/
def quoted (text : String) : String :=
  String.ofList ('"' :: text.toList.flatMap quoteChar ++ ['"'])

end QuorumRescue.Text
