import FileCatalog.Numeral
import FileCatalog.Text.Unprintable

/-!
# Quoted text

A text is quoted between double quotes. A backslash goes before quotes and backslashes, the usual
controls have a letter of their own, and every other unprintable character is written as its code
point, in hexadecimal digits between braces.
-/

namespace FileCatalog.Text

/-- A character as it stands in a quoted text. -/
def quoteChar (c : Char) : List Char :=
  if c = '\x00' then ['\x5c', '0']
  else if c = '\t' then ['\x5c', 't']
  else if c = '\r' then ['\x5c', 'r']
  else if c = '\n' then ['\x5c', 'n']
  else if c = '\x22' ∨ c = '\x5c' then ['\x5c', c]
  else if isUnprintable c then
    ['\x5c', 'u', '\x7b'] ++ Numeral.hexChars c.toNat ++ ['\x7d']
  else [c]

def quote (s : String) : String :=
  .ofList ('\x22' :: s.toList.flatMap quoteChar ++ ['\x22'])

end FileCatalog.Text
