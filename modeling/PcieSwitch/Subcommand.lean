/-!
This module contains the subcommands of those commands that do several things. A request for such a command begins with
the number of its subcommand.
-/

namespace PcieSwitch

inductive MonitorSubcommand where
  | counterValues
  | setupCounter
  | counterSetups
  | bandwidth
  | selectBandwidth
  | latency
  | setupLatency
  deriving DecidableEq, Repr

namespace MonitorSubcommand

def all : List MonitorSubcommand :=
  [.counterValues, .setupCounter, .counterSetups, .bandwidth, .selectBandwidth, .latency, .setupLatency]

def number : MonitorSubcommand → UInt8
  | .counterValues => 1
  | .setupCounter => 2
  | .counterSetups => 3
  | .bandwidth => 4
  | .selectBandwidth => 5
  | .latency => 6
  | .setupLatency => 7

end MonitorSubcommand

inductive BindingSubcommand where
  | info
  | bind
  | unbind
  deriving DecidableEq, Repr

namespace BindingSubcommand

def all : List BindingSubcommand :=
  [.info, .bind, .unbind]

def number : BindingSubcommand → UInt8
  | .info => 0
  | .bind => 1
  | .unbind => 2

end BindingSubcommand

inductive TemperatureSubcommand where
  | measure
  | read
  deriving DecidableEq, Repr

namespace TemperatureSubcommand

def all : List TemperatureSubcommand :=
  [.measure, .read]

def number : TemperatureSubcommand → UInt32
  | .measure => 1
  | .read => 2

end TemperatureSubcommand

inductive InjectionSubcommand where
  | dllp
  | dllpCrc
  | tlpLcrc
  | tlpSequence
  | nack
  | creditTimeout
  deriving DecidableEq, Repr

namespace InjectionSubcommand

def all : List InjectionSubcommand :=
  [.dllp, .dllpCrc, .tlpLcrc, .tlpSequence, .nack, .creditTimeout]

def number : InjectionSubcommand → UInt8
  | .dllp => 0
  | .dllpCrc => 1
  | .tlpLcrc => 2
  | .tlpSequence => 3
  | .nack => 4
  | .creditTimeout => 5

end InjectionSubcommand
end PcieSwitch
