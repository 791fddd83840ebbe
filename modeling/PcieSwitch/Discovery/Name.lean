import PcieSwitch.Error
import PcieSwitch.Text.Numeral
import PcieSwitch.Text.Split

/-!
This module contains the ways in which a device can be named.
-/

namespace PcieSwitch

inductive DeviceName where
  | path (path : String)
  | index (n : Nat)
  | address (domain bus device function : Nat)
  deriving DecidableEq, Repr

namespace DeviceName

def hexWord? (cs : List Char) : Option Nat :=
  (Numeral.parseHex 32 cs).toOption

def decWord? (cs : List Char) : Option Nat :=
  (Numeral.parseDec 32 cs).toOption

def parseAddress? (cs : List Char) : Option DeviceName := do
  let (head, function) ← Text.splitAtLast? '.' cs
  match Text.splitAtEach ':' head with
  | [bus, device] => return .address 0 (← hexWord? bus) (← hexWord? device) (← hexWord? function)
  | [domain, bus, device] =>
    return .address (← hexWord? domain) (← hexWord? bus) (← hexWord? device) (← hexWord? function)
  | _ => none

def parseIndex? (cs : List Char) : Option Nat :=
  match Numeral.afterHexMark? cs with
  | some digits => hexWord? digits
  | none => decWord? cs

def parse (s : String) : Except Error DeviceName :=
  let cs := s.toList
  if '/' ∈ cs then
    .ok (.path s)
  else
    match parseAddress? cs with
    | some name => .ok name
    | none =>
      match parseIndex? cs with
      | some n => .ok (.index n)
      | none =>
        match (Text.after? "switchtec".toList cs).bind decWord? with
        | some n => .ok (.index n)
        | none => .error (.deviceNotFound s)

end DeviceName
end PcieSwitch
