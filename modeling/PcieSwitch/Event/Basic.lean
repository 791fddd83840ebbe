import PcieSwitch.Text.Layout

/-!
This module contains the events that a switch can raise, and where each one is reported.
-/

namespace PcieSwitch

inductive EventKind where
  | global
  | partition
  | function
  deriving DecidableEq, Repr

inductive Event where
  | stackError
  | ppuError
  | ispError
  | systemReset
  | firmwareException
  | firmwareInterrupt
  | firmwareNonFatal
  | firmwareFatal
  | twoWireComplete
  | twoWireCompleteAsync
  | consoleComplete
  | consoleCompleteAsync
  | gpioInterrupt
  | partitionReset
  | commandComplete
  | commandCompleteAsync
  | bindingComplete
  | errorReportBridge
  | errorReportEndpoint
  | containment
  | completionTimeout
  | hotplug
  | internalError
  | counterThreshold
  | powerManagement
  | tlpThrottling
  | forceSpeed
  | creditTimeout
  | linkState
  deriving DecidableEq, Repr

namespace Event

structure Info where
  kind : EventKind
  bit : Nat
  name : String
  driverName : String
  description : String

def info : Event → Info
  | .stackError => ⟨.global, 0, "StackError", "STACK_ERROR", "Stack Error"⟩
  | .ppuError => ⟨.global, 1, "PpuError", "PPU_ERROR", "PPU Error"⟩
  | .ispError => ⟨.global, 2, "IspError", "ISP_ERROR", "ISP Error"⟩
  | .systemReset => ⟨.global, 3, "SysReset", "SYS_RESET", "System Reset"⟩
  | .firmwareException => ⟨.global, 4, "FwExc", "FW_EXC", "Firmware Exception"⟩
  | .firmwareInterrupt => ⟨.global, 5, "FwNmi", "FW_NMI", "Firmware Non-Maskable Interrupt"⟩
  | .firmwareNonFatal => ⟨.global, 6, "FwNonFatal", "FW_NON_FATAL", "Firmware Non-Fatal Error"⟩
  | .firmwareFatal => ⟨.global, 7, "FwFatal", "FW_FATAL", "Firmware Fatal Error"⟩
  | .twoWireComplete => ⟨.global, 8, "TwiMrpcComp", "TWI_MRPC_COMP", "TWI MRPC Completion"⟩
  | .twoWireCompleteAsync => ⟨.global, 9, "TwiMrpcCompAsync", "TWI_MRPC_COMP_ASYNC", "TWI MRPC Async Completion"⟩
  | .consoleComplete => ⟨.global, 10, "CliMrpcComp", "CLI_MRPC_COMP", "CLI MRPC Completion"⟩
  | .consoleCompleteAsync => ⟨.global, 11, "CliMrpcCompAsync", "CLI_MRPC_COMP_ASYNC", "CLI MRPC Async Completion"⟩
  | .gpioInterrupt => ⟨.global, 12, "GpioInt", "GPIO_INT", "GPIO Interrupt"⟩
  | .partitionReset => ⟨.partition, 0, "PartReset", "PART_RESET", "Partition Reset"⟩
  | .commandComplete => ⟨.partition, 1, "MrpcComp", "MRPC_COMP", "MRPC Completion"⟩
  | .commandCompleteAsync => ⟨.partition, 2, "MrpcCompAsync", "MRPC_COMP_ASYNC", "MRPC Async Completion"⟩
  | .bindingComplete => ⟨.partition, 3, "DynPartBindComp", "DYN_PART_BIND_COMP", "Dynamic Partition Binding Completion"⟩
  | .errorReportBridge => ⟨.function, 0, "AerInP2p", "AER_IN_P2P", "Advanced Error Reporting in P2P Port"⟩
  | .errorReportEndpoint => ⟨.function, 1, "AerInVep", "AER_IN_VEP", "Advanced Error Reporting in vEP"⟩
  | .containment => ⟨.function, 2, "Dpc", "DPC", "Downstream Port Containment Event"⟩
  | .completionTimeout => ⟨.function, 3, "Cts", "CTS", "Completion Timeout Synthesis Event"⟩
  | .hotplug => ⟨.function, 5, "Hotplug", "HOTPLUG", "Hotplug Event"⟩
  | .internalError => ⟨.function, 6, "Ier", "IER", "Internal Error Reporting Event"⟩
  | .counterThreshold => ⟨.function, 7, "Thresh", "THRESH", "Event Counter Threshold Reached"⟩
  | .powerManagement => ⟨.function, 8, "PowerMgmt", "POWER_MGMT", "Power Management Event"⟩
  | .tlpThrottling => ⟨.function, 9, "TlpThrottling", "TLP_THROTTLING", "TLP Throttling Event"⟩
  | .forceSpeed => ⟨.function, 10, "ForceSpeed", "FORCE_SPEED", "Force Speed Error"⟩
  | .creditTimeout => ⟨.function, 11, "CreditTimeout", "CREDIT_TIMEOUT", "Credit Timeout"⟩
  | .linkState => ⟨.function, 12, "LinkState", "LINK_STATE", "Link State Change Event"⟩

def kind (e : Event) : EventKind := e.info.kind
def bit (e : Event) : Nat := e.info.bit
def name (e : Event) : String := e.info.name
def driverName (e : Event) : String := e.info.driverName
def description (e : Event) : String := e.info.description

def all : List Event := [
  .stackError, .ppuError, .ispError, .systemReset, .firmwareException, .firmwareInterrupt,
  .firmwareNonFatal, .firmwareFatal, .twoWireComplete, .twoWireCompleteAsync, .consoleComplete,
  .consoleCompleteAsync, .gpioInterrupt, .partitionReset, .commandComplete, .commandCompleteAsync,
  .bindingComplete, .errorReportBridge, .errorReportEndpoint, .containment, .completionTimeout,
  .hotplug, .internalError, .counterThreshold, .powerManagement, .tlpThrottling, .forceSpeed,
  .creditTimeout, .linkState
]

def number (e : Event) : Nat :=
  e.ctorIdx

def mask (e : Event) : UInt32 :=
  1 <<< UInt32.ofNat e.number

def ofDriverName? (name : String) : Option Event :=
  all.find? fun e => Text.eqIgnoreCase e.driverName name

def ofBit? (kind : EventKind) (bit : Nat) : Option Event :=
  all.find? fun e => e.kind == kind && e.bit == bit

end Event
end PcieSwitch
