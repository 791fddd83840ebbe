/-!
This module contains the commands of the switch's firmware. Their numbers follow the firmware's command
table, which leaves some slots out.
-/

namespace PcieSwitch

inductive Command where
  | twoWire
  | gpio
  | pulseWidth
  | dieTemperature
  | firmwareDownload
  | firmwareLogRead
  | performanceMonitor
  | portLink
  | portArbitrationSet
  | multicastOverlay
  | stackBifurcation
  | portPartition
  | tlpInjection
  | eyeCapture
  | realTimeEyeCapture
  | ltssmMonitor
  | tlpAnalyzer
  | portAdaptation
  | receiverPeaking
  | portEqualization
  | portTuningMode
  | multicastCapable
  | tachometer
  | portArbitration
  | smbus
  | reset
  | linkStatus
  | multiConfiguration
  | readFlash
  | spiErrorCorrection
  | patternGenerator
  | internalLoopback
  | routeToSelf
  | referenceClock
  | syntheticEndpoint
  | eventsQuery
  | gasRead
  | aerGenerator
  | partitionInfo
  | earlyTuningDump
  | earlyTuning
  | eyeObservation
  | receiverObjectDump
  | equalizationStatus
  | equalizationControl
  | gasWrite
  | errorInjection
  | echo
  deriving DecidableEq, Repr

namespace Command

def info : Command → UInt32 × String × String
  | .twoWire => (1, "Twi", "TWI Access")
  | .gpio => (2, "Vgpio", "GPIO")
  | .pulseWidth => (3, "Pwm", "Pulse Width Modulator")
  | .dieTemperature => (4, "DieTemp", "Die Temperature")
  | .firmwareDownload => (5, "FwDnld", "Firmware Download")
  | .firmwareLogRead => (6, "FwLogRd", "Firmware Log Retrieval")
  | .performanceMonitor => (7, "Pmon", "Performance Monitor")
  | .portLink => (8, "PortLn", "Port Link")
  | .portArbitrationSet => (9, "PortArb", "Port Arbitration Set")
  | .multicastOverlay => (10, "McOvrly", "MC Overlay Setting")
  | .stackBifurcation => (11, "StackBif", "Dynamic Port Bifurcation")
  | .portPartition => (12, "PortPartP2p", "Port Partition P2P Binding")
  | .tlpInjection => (13, "DiagTlpInject", "TLP Injection")
  | .eyeCapture => (15, "DiagPortEye", "2D Eye Capture")
  | .realTimeEyeCapture => (16, "DiagPotVhist", "Real Time Eye Capture")
  | .ltssmMonitor => (17, "DiagPortLtssmLog", "LTSSM Monitor")
  | .tlpAnalyzer => (18, "DiagPortTlpAnl", "PCIe Analyzer")
  | .portAdaptation => (19, "DiagPortLnAdpt", "Port Adaptation Objects")
  | .receiverPeaking => (20, "SrdsPciePeak", "Receiver Peaking Control")
  | .portEqualization => (21, "SrdsEqCtrl", "Port Equalization Control")
  | .portTuningMode => (22, "SrdsLnTuningMode", "Port Tuning Mode")
  | .multicastCapable => (23, "NtMcgCapableConfig", "NT MCG Capable Configuration")
  | .tachometer => (24, "Tch", "Tachometer")
  | .portArbitration => (25, "Arb", "Port Arbitration")
  | .smbus => (26, "Smbus", "SMBus")
  | .reset => (27, "Reset", "Reset")
  | .linkStatus => (28, "LnkStat", "Link Status Retrieve")
  | .multiConfiguration => (29, "MultiCfg", "Multi-Configuration")
  | .readFlash => (30, "RdFlash", "Read Flash")
  | .spiErrorCorrection => (31, "SpiEcc", "SPI Single Bit ECC")
  | .patternGenerator => (32, "PatGen", "Pattern Generator and Monitor")
  | .internalLoopback => (33, "IntLoopback", "Internal Loopback")
  | .routeToSelf => (35, "RouteToSelf", "Route-To-Self")
  | .referenceClock => (36, "RefclkS", "REFCLK_S Control")
  | .syntheticEndpoint => (37, "SynthEp", "Synthetic EP")
  | .eventsQuery => (38, "EventsQuery", "Events Query")
  | .gasRead => (39, "GasRead", "GAS Read")
  | .aerGenerator => (40, "AerGen", "AER Events Generator")
  | .partitionInfo => (41, "PartInfo", "Get Partition Info")
  | .earlyTuningDump => (42, "PcieGen12Dump", "PCIe Gen1/2 Port Tuning Dump")
  | .earlyTuning => (43, "PcieGen12Tune", "PCIe Gen1/2 Port Tuning")
  | .eyeObservation => (44, "EyeObserve", "Eye Observation Monitor")
  | .receiverObjectDump => (45, "RcvrObjDump", "Receiver Object Dump")
  | .equalizationStatus => (47, "PortEqStatus", "Port Equalization Status")
  | .equalizationControl => (48, "PortEqCtrl", "Port Equalization Control")
  | .gasWrite => (49, "GasWrite", "GAS Write")
  | .errorInjection => (50, "ErrInj", "MRPC Link Error Injection")
  | .echo => (65, "Echo", "Echo")

def id (c : Command) : UInt32 :=
  c.info.1

def name (c : Command) : String :=
  c.info.2.1

def description (c : Command) : String :=
  c.info.2.2

def all : List Command := [
  .twoWire, .gpio, .pulseWidth, .dieTemperature, .firmwareDownload, .firmwareLogRead,
  .performanceMonitor, .portLink, .portArbitrationSet, .multicastOverlay, .stackBifurcation,
  .portPartition, .tlpInjection, .eyeCapture, .realTimeEyeCapture, .ltssmMonitor, .tlpAnalyzer,
  .portAdaptation, .receiverPeaking, .portEqualization, .portTuningMode, .multicastCapable,
  .tachometer, .portArbitration, .smbus, .reset, .linkStatus, .multiConfiguration, .readFlash,
  .spiErrorCorrection, .patternGenerator, .internalLoopback, .routeToSelf, .referenceClock,
  .syntheticEndpoint, .eventsQuery, .gasRead, .aerGenerator, .partitionInfo, .earlyTuningDump,
  .earlyTuning, .eyeObservation, .receiverObjectDump, .equalizationStatus, .equalizationControl,
  .gasWrite, .errorInjection, .echo
]

def ofName? (name : String) : Option Command :=
  all.find? (·.name == name)

end Command
end PcieSwitch
