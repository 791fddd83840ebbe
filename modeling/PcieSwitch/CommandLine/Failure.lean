import PcieSwitch.Error
import PcieSwitch.Config.Settings

/-!
This module contains what can make a command of the program fail, and the texts that it is reported with.
-/

namespace PcieSwitch

inductive Failure where
  | noDevice
  | timeout
  | aborted
  | portNotAllowed
  | placeIncomplete
  | noFreeCounter (stack : UInt8)
  | thresholdAmbiguous
  | wrongEcho (got expected : UInt32)
  | conflictingRates
  | creditTimeoutUnsupported
  | device (cause : Error)
  | system (cause : SystemError)
  | settings (cause : Settings.LoadError)
  | within (step : String) (cause : Failure)
  deriving DecidableEq, Repr

namespace Failure

/--
The texts of a failure and of what caused it, outermost first. What is wrong with malformed settings is not
told.
-/
def chain : Failure → List String
  | .noDevice => ["no device given; use --device or set one in the config file"]
  | .timeout => ["timeout"]
  | .aborted => ["aborted by user"]
  | .portNotAllowed => ["Port cannot be specified for this event type."]
  | .placeIncomplete => ["Must specify partition and port for this event type."]
  | .noFreeCounter stack => [s!"no free event counter in stack {stack}"]
  | .thresholdAmbiguous =>
    ["A threshold can only be used with a counter that has a single port and single event"]
  | .wrongEcho got expected => [
      "echo command returned the wrong result; got " ++ Text.hex got.toNat ++ ", expected "
        ++ Text.hex expected.toNat
    ]
  | .conflictingRates => ["Cannot enable both rate configurations."]
  | .creditTimeoutUnsupported => ["Credit timeout error injection is only supported on Gen5."]
  | .device cause => cause.chain
  | .system cause => [cause.message]
  | .settings cause =>
    match cause with
    | .unreadable _ reason => [cause.message, reason.message]
    | .malformed _ => [cause.message]
  | .within step cause => step :: cause.chain

def message (f : Failure) : String :=
  f.chain.headD ""

end Failure
end PcieSwitch
