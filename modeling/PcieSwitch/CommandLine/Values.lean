import PcieSwitch.Counter.Kind
import PcieSwitch.Event.Basic
import PcieSwitch.Text.Blank
import PcieSwitch.Text.Numeral
import PcieSwitch.Text.Split

/-!
This module contains the reading of the values that are given on the command line.
-/

namespace PcieSwitch

inductive ValueError where
  | numeral (cause : NumeralError)
  | notASize (text : String)
  | notADword (text : String)
  | notPorts (item : String)
  | unknownKind (name : String)
  | unknownEvent (name : String)
  | unknownLevel (name : String)
  deriving DecidableEq, Repr

def ValueError.message : ValueError → String
  | .numeral cause => cause.message
  | .notASize text => "invalid number: " ++ text
  | .notADword text => "expected a hex dword prefixed with 0x, found " ++ text
  | .notPorts item => "invalid port range " ++ item ++ "; ports are 0-7"
  | .unknownKind name => "unknown event type " ++ name
  | .unknownEvent name => "unknown event " ++ name
  | .unknownLevel name => "Invalid log level: " ++ name

namespace Value

def parseMarked (bits : Nat) (cs : List Char) : Except NumeralError Nat :=
  match Numeral.afterHexMark? cs with
  | some digits => Numeral.parseHex bits digits
  | none => Numeral.parseDec bits cs

def sizePower? (c : Char) : Option Nat :=
  if c = 'k' ∨ c = 'K' then some 10
  else if c = 'm' ∨ c = 'M' then some 20
  else if c = 'g' ∨ c = 'G' then some 30
  else none

def splitSize (cs : List Char) : List Char × Nat :=
  match cs.getLast?.bind sizePower? with
  | some power => (cs.dropLast, power)
  | none => (cs, 0)

def parseSize (s : String) : Except ValueError Nat :=
  let cs := Text.trim s.toList
  let refused := Except.error (.notASize (String.ofList cs))
  let (digits, power) := splitSize cs
  match parseMarked 64 digits with
  | .error _ => refused
  | .ok n => if n <<< power < UInt64.size then .ok (n <<< power) else refused

def parseDword (s : String) : Except ValueError UInt32 :=
  match Numeral.afterHexMark? s.toList with
  | none => .error (.notADword s)
  | some digits => ((Numeral.parseHex 32 digits).map UInt32.ofNat).mapError .numeral

def parseEnds (item : List Char) : Except NumeralError (Nat × Nat) := do
  match Text.splitAtFirst? '-' item with
  | some (low, high) =>
    let low ← Numeral.parseDec 32 (Text.trim low)
    let high ← Numeral.parseDec 32 (Text.trim high)
    return (low, high)
  | none =>
    let port ← Numeral.parseDec 32 item
    return (port, port)

def rangeMask (low high : Nat) : Nat :=
  1 <<< (high + 1) - 1 <<< low

def parsePorts (mask : UInt8) : List (List Char) → Except ValueError UInt8
  | [] => .ok mask
  | item :: items =>
    match parseEnds item with
    | .error e => .error (.numeral e)
    | .ok (low, high) =>
      if low ≤ high ∧ high ≤ 7 then parsePorts (mask ||| UInt8.ofNat (rangeMask low high)) items
      else .error (.notPorts (String.ofList item))

/--
A mask of ports: hexadecimal after a mark, or a list of ports and ranges such as `0,2,4-6`. Empty items
count for nothing.
-/
def parsePortMask (s : String) : Except ValueError UInt8 :=
  match Numeral.afterHexMark? s.toList with
  | some digits => ((Numeral.parseHex 8 digits).map UInt8.ofNat).mapError .numeral
  | none =>
    let items := (Text.splitAtEach ',' s.toList).map Text.trim
    parsePorts 0 (items.filter (· ≠ []))

def parseKind (s : String) : Except ValueError UInt32 :=
  match CountedKind.ofName? s with
  | some k => .ok k.mask
  | none => .error (.unknownKind s)

def parseEvent (s : String) : Except ValueError Event :=
  match Event.ofDriverName? s with
  | some e => .ok e
  | none => .error (.unknownEvent s)

end Value

inductive LogLevel where
  | critical
  | error
  | warning
  | info
  | debug
  | trace
  deriving DecidableEq, Repr

namespace LogLevel

def name : LogLevel → String
  | .critical => "CRITICAL"
  | .error => "ERROR"
  | .warning => "WARNING"
  | .info => "INFO"
  | .debug => "DEBUG"
  | .trace => "TRACE"

/--
The levels by their long names. Silence has a name, but is no level.
-/
def longNames : List (String × Option LogLevel) := [
  ("OFF", none), ("CRITICAL", some .critical), ("ERROR", some .error), ("WARNING", some .warning),
  ("INFO", some .info), ("DEBUG", some .debug), ("TRACE", some .trace)
]

def shortNames : List (String × Option LogLevel) := [
  ("OFF", none), ("CRIT", some .critical), ("ERRO", some .error), ("WARN", some .warning),
  ("INFO", some .info), ("DEBG", some .debug), ("TRCE", some .trace)
]

/--
The first name that a text abbreviates, in any case of its letters. The long names go before the short ones.
-/
def parse (s : String) : Except ValueError LogLevel :=
  let abbreviates := fun (entry : String × Option LogLevel) =>
    s ≠ "" && (Text.lowered s).isPrefixOf (Text.lowered entry.1)
  match (longNames ++ shortNames).find? abbreviates with
  | some (_, some level) => .ok level
  | _ => .error (.unknownLevel s)

end LogLevel
end PcieSwitch
