import ContextualQuery.Text.Unprintable

/-!
# Text literals

Text in double quotes as it is shown in messages and dumps.  Quotes and backslashes get a
backslash, the common controls their letters, and every other character that does not show is
written by its code point.
-/

namespace ContextualQuery
namespace Literal

/-- One character between the quotes of a literal. -/
def escape (c : Char) : List Char :=
  if c = '"' then ['\\', '"']
  else if c = '\\' then ['\\', '\\']
  else if c = '\t' then ['\\', 't']
  else if c = '\r' then ['\\', 'r']
  else if c = '\n' then ['\\', 'n']
  else if c = '\x00' then ['\\', '0']
  else if Unprintable.contains c then
    ['\\', 'u', '\x7b'] ++ Nat.toDigits 16 c.toNat ++ ['\x7d']
  else [c]

end Literal

/-- Text in quotes, with every character visible. -/
def literal (text : String) : String :=
  String.ofList ('"' :: text.toList.flatMap Literal.escape ++ ['"'])

end ContextualQuery
