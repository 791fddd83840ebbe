import PcieSwitch.Config.Toml
import PcieSwitch.Discovery.FileSystem
import PcieSwitch.Json

/-!
This module contains the settings of the program and the file that they are kept in.
-/

namespace PcieSwitch

structure Settings where
  device : Option String := none
  pager : String := "less"
  hexdump : String := "hd"
  measureTime : Nat := 5
  deriving DecidableEq, Repr

namespace Settings

def set? (s : Settings) : String × Toml.Value → Option Settings
  | ("device", .string v) => some { s with device := some v }
  | ("pager", .string v) => some { s with pager := v }
  | ("hexdump", .string v) => some { s with hexdump := v }
  | ("measure_time", .integer n) =>
    if 0 ≤ n ∧ n ≤ maxTime then some { s with measureTime := n.toNat } else none
  | _ => none
where
  maxTime : Int := UInt64.size - 1

def ofToml? (text : String) : Option Settings := do
  (← Toml.parse? text).foldlM set? {}

def toJson (s : Settings) : Json := .object [
  ("device", (s.device.map Json.string).getD .null),
  ("pager", .string s.pager),
  ("hexdump", .string s.hexdump),
  ("measure_time", .nat s.measureTime)
]

def environmentVariable : String := "SWITCHTEC_CONFIG"

def systemPath : String := "/etc/switchtec/switchtec.toml"

inductive LoadError where
  | unreadable (path : String) (cause : SystemError)
  | malformed (path : String)
  deriving DecidableEq, Repr

def LoadError.message : LoadError → String
  | .unreadable path _ => "read config " ++ path
  | .malformed path => "parse config " ++ path

variable [Monad m]

def ofFile (fs : Files m) (path : String) : ExceptT LoadError m Settings := do
  match ← fs.text path with
  | .error e => throw (.unreadable path e)
  | .ok text =>
    match ofToml? text with
    | some s => return s
    | none => throw (.malformed path)

def load (fs : Files m) (named environment : Option String) : ExceptT LoadError m Settings := do
  match named <|> environment with
  | some path => ofFile fs path
  | none => if ← fs.isThere systemPath then ofFile fs systemPath else return {}

end Settings
end PcieSwitch
