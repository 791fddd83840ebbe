import PcieSwitch.CommandLine.Action.Counters
import PcieSwitch.CommandLine.Action.Events
import PcieSwitch.CommandLine.Action.Injection
import PcieSwitch.CommandLine.Action.Ports
import PcieSwitch.CommandLine.Action.Registers
import PcieSwitch.CommandLine.Action.Switch

/-!
This module contains the carrying out of a command of the program.
-/

namespace PcieSwitch

def Action.perform (c : Context) : Action → Session Unit
  | .list verbose => c.listDevices verbose
  | .status reset => c.status reset
  | .bandwidth time verbose => c.measureBandwidth time verbose
  | .selectBandwidth kind => c.selectBandwidth kind
  | .latency time egress ingress => c.measureLatency time egress ingress
  | .events all reset clear => c.events all reset clear
  | .waitEvent event partition port timeout => c.waitEvent event partition port timeout
  | .test => c.test
  | .temperature => c.temperature
  | .hardReset yes => c.hardReset yes
  | .bindInfo physical => c.bindInfo physical
  | .bind partition logical physical => c.bind partition logical physical
  | .unbind partition logical => c.unbind partition logical
  | .counters stack reset => c.counters stack reset
  | .setupCounter a => c.setupCounter a
  | .showCounter stack counter => c.showCounter stack counter
  | .deleteCounter stack counter => c.deleteCounter stack counter
  | .waitCounters timeout => c.waitCounters timeout
  | .dump count text => c.dump count text
  | .readRegisters address bytes count style => c.readRegisters address bytes count style
  | .writeRegister address bytes value yes => c.writeRegister address bytes value yes
  | .inject a => c.inject a

namespace Invocation

def loadSettings (i : Invocation) : Session Settings := do
  let fromVariable ← Session.ask (.variable Settings.environmentVariable)
  match ← ExceptT.lift (Settings.load Session.files i.config fromVariable).run with
  | .ok s => return s
  | .error e => throw (.settings e)

def context (i : Invocation) (s : Settings) : Context where
  device := i.device <|> s.device
  measureTime := s.measureTime
  json := i.json
  tunnelled := i.tunnelled

def run (i : Invocation) : Session Unit := do
  i.action.perform (i.context (← i.loadSettings))

end Invocation
end PcieSwitch
