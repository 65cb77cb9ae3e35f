/-
# CxlMailbox.Text.Quoted — text between quotes

The form in which startup errors and device records show a text: in double quotes, with short
escapes for the usual controls and `\u{...}` for every unprintable character. Single quotes stay
as they are.
-/
import CxlMailbox.Text.Numeral
import CxlMailbox.Text.Unprintable

namespace CxlMailbox.Text

set_option autoImplicit false

/-- One character inside quotes. -/
def quoteChar (c : Char) : String :=
  if c = '\x00' then "\\0"
  else if c = '\t' then "\\t"
  else if c = '\n' then "\\n"
  else if c = '\r' then "\\r"
  else if c = '\\' || c = '"' then "\\".push c
  else if isUnprintable c then "\\u\x7b" ++ hexDigits 1 c.toNat ++ "\x7d"
  else String.singleton c

/-- A text in quotes. -/
def quoted (text : String) : String :=
  "\"" ++ String.join (text.toList.map quoteChar) ++ "\""

end CxlMailbox.Text
