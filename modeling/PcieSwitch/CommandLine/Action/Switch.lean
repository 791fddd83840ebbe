import PcieSwitch.CommandLine.Consent
import PcieSwitch.CommandLine.Locale
import PcieSwitch.Decimal.Fixed
import PcieSwitch.Report.Values

/-!
This module contains the commands that concern the switch as a whole.
-/

namespace PcieSwitch

def DeviceInfo.lines (verbose : Bool) (d : DeviceInfo) : List String :=
  let line := Text.left 20 d.name ++ "\t" ++ Text.left 15 d.productId ++ "\t" ++ Text.left 5 d.productRevision
    ++ "\t" ++ Text.left 10 d.firmwareVersion ++ "\t" ++ d.pciDevice
  line :: if verbose then ["\t" ++ d.path] else []

namespace Context

def listDevices (c : Context) (verbose : Bool) : Session Unit := do
  let devices ← Session.within "list" (Session.ofDevice (Program.call (I := sessionInterface) .listDevices))
  c.output (Json.list DeviceInfo.toJson devices) (devices.flatMap (DeviceInfo.lines verbose))

def test (c : Context) : Session Unit := do
  let h ← c.openDevice
  let word ← Session.ask .calendar
  let answer ← Session.within "echo" (Session.perform (h.echo word))
  if answer ≠ ~~~word then
    throw (.wrongEcho answer (~~~word))
  Session.report (h.name ++ ": success")

def temperature (c : Context) : Session Unit := do
  let h ← c.openDevice
  let degrees := (← Session.within "die_temp" (Session.perform h.dieTemperature)).toFloat
  if c.json then
    Session.printJson (.object [("die_temp", .float degrees)])
  else
    Session.printLine (Decimal.threeDigits degrees ++ " " ++ Locale.celsius (← Locale.ask))

def resetWarning : String :=
  Text.lines [
    "WARNING: if your system does not support hotplug,",
    "a hard reset can leave the system in a broken state.",
    "Make sure you reboot after issuing this command."
  ]

def hardReset (c : Context) (yes : Bool) : Session Unit := do
  let h ← c.openDevice
  if !yes then
    Session.report resetWarning
  Consent.require yes
  Session.within "hard reset" (Session.perform h.hardReset)
  Session.log .warning "hard reset issued" [("device", h.name)]
  Session.report (h.name ++ ": hard reset")

end Context
end PcieSwitch
