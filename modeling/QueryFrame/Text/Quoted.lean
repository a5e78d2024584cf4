import QueryFrame.Text.Unprintable

/-!
# Quoted text

A text between double quotes, in one line and with every character visible: quotes, backslashes
and the common control characters get a backslash, other characters without a glyph their code
point in hexadecimal.
-/

namespace QueryFrame.Text

/-- What stands for a character inside quotes. -/
def escape (c : Char) : List Char :=
  if c = '"' ∨ c = '\\' then ['\\', c]
  else if c = '\n' then ['\\', 'n']
  else if c = '\r' then ['\\', 'r']
  else if c = '\t' then ['\\', 't']
  else if c.toNat = 0 then ['\\', '0']
  else if isUnprintable c then
    "\\u\x7b".toList ++ Nat.toDigits 16 c.toNat ++ ['\x7d']
  else [c]

def quote (s : String) : String :=
  .ofList ('"' :: s.toList.flatMap escape ++ ['"'])

end QueryFrame.Text
