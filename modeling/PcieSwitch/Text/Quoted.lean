import PcieSwitch.Text.Layout
import PcieSwitch.Text.Unseen

/-!
This module contains quoted text for people to read. A quote, a backslash and what cannot be seen are
escaped.
-/

namespace PcieSwitch.Text

def quotedChar (c : Char) : String :=
  if c = '"' then "\\\""
  else if c = '\\' then "\\\\"
  else if c = '\n' then "\\n"
  else if c = '\r' then "\\r"
  else if c = '\t' then "\\t"
  else if c = '\x00' then "\\0"
  else if isUnseen c then "\\u\x7b" ++ hex c.toNat ++ "\x7d"
  else c.toString

def quoted (s : String) : String :=
  "\"" ++ String.join (s.toList.map quotedChar) ++ "\""

end PcieSwitch.Text
