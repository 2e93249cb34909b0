import Sightline.Text.Joining
import Sightline.Text.Shapeless

/-!
# Quoted texts in reports

A text is quoted so that it stays on its line: quotes, backslashes and the common control
characters by a backslash and a letter, and by their code point the other characters that cannot be
seen by themselves.
-/

set_option autoImplicit false

namespace Sightline.Text

def hexText (n : Nat) : String := String.ofList (Nat.toDigits 16 n)

def standsAlone (c : Char) : Bool := !joining.contains c && !shapeless.contains c

def escape (c : Char) : String :=
  if c = '"' then "\\\""
  else if c = '\\' then "\\\\"
  else if c = '\x00' then "\\0"
  else if c = '\t' then "\\t"
  else if c = '\n' then "\\n"
  else if c = '\r' then "\\r"
  else if standsAlone c then String.singleton c
  else "\\u\x7b" ++ hexText c.toNat ++ "\x7d"

def quoted (text : String) : String :=
  "\"" ++ String.join (text.toList.map escape) ++ "\""

end Sightline.Text
