import PcieSwitch.Decimal.Shortest
import PcieSwitch.Text.Layout

/-!
This module contains JSON values and their text over several lines, indented by two spaces a level. The
fields of an object stand in the order they are given in.
-/

namespace PcieSwitch

inductive Json where
  | null
  | bool (value : Bool)
  | nat (value : Nat)
  | float (value : Float)
  | string (value : String)
  | array (items : List Json)
  | object (fields : List (String × Json))

namespace Json

def escaped (c : Char) : List Char :=
  if c = '"' then ['\\', '"']
  else if c = '\\' then ['\\', '\\']
  else if c = '\x08' then ['\\', 'b']
  else if c = '\x0c' then ['\\', 'f']
  else if c = '\n' then ['\\', 'n']
  else if c = '\r' then ['\\', 'r']
  else if c = '\t' then ['\\', 't']
  else if c.toNat < 0x20 then ['\\', 'u'] ++ (Text.hex c.toNat 4).toList
  else [c]

def quoted (s : String) : String :=
  "\"" ++ String.ofList (s.toList.flatMap escaped) ++ "\""

def indent (depth : Nat) : String :=
  String.ofList (List.replicate (2 * depth) ' ')

def block (opening closing : String) (depth : Nat) (parts : List String) : String :=
  if parts.isEmpty then
    opening ++ closing
  else
    opening ++ "\n" ++ ",\n".intercalate (parts.map (indent (depth + 1) ++ ·)) ++ "\n" ++ indent depth
      ++ closing

mutual

def render (depth : Nat) : Json → String
  | .null => "null"
  | .bool value => if value then "true" else "false"
  | .nat value => toString value
  | .float value => Decimal.shortestText value
  | .string value => quoted value
  | .array items => block "[" "]" depth (renderItems (depth + 1) items)
  | .object fields => block "\x7b" "\x7d" depth (renderFields (depth + 1) fields)

def renderItems (depth : Nat) : List Json → List String
  | [] => []
  | item :: items => item.render depth :: renderItems depth items

def renderFields (depth : Nat) : List (String × Json) → List String
  | [] => []
  | (key, value) :: fields => (quoted key ++ ": " ++ value.render depth) :: renderFields depth fields

end

def pretty (value : Json) : String :=
  value.render 0

end Json
end PcieSwitch
