import PcieSwitch.CommandLine.Invocation
import PcieSwitch.CommandLine.Session
import PcieSwitch.Port.Injection

/-!
This module contains the command that injects link errors.
-/

namespace PcieSwitch

namespace InjectionArguments

def ignored (a : InjectionArguments) : List String :=
  (if a.enable ≠ 0 ∧ a.kind ≠ .dllpCrc ∧ a.kind ≠ .tlpLcrc then ["-e enable"] else [])
    ++ (if a.count ≠ 0 ∧ a.kind ≠ .nack then ["-c"] else [])
    ++ (if a.sequence ≠ 0 ∧ a.kind ≠ .nack then ["-S"] else [])
    ++ (if a.tlpLcrcRate ≠ 0 ∧ a.kind ≠ .tlpLcrc then ["-R"] else [])
    ++ (if a.dllpCrcRate ≠ 0 ∧ a.kind ≠ .dllpCrc then ["-r"] else [])
    ++ (if a.data.isSome ∧ a.kind ≠ .dllp then ["-i"] else [])

def operation (a : InjectionArguments) (h : Handle) : Operation UInt32 :=
  match a.kind with
  | .dllp => h.injectDllp a.port (a.data.getD 0)
  | .dllpCrc => h.injectDllpCrc a.port (a.enable != 0) a.dllpCrcRate
  | .tlpLcrc => h.injectTlpLcrc a.port (a.enable != 0) a.tlpLcrcRate
  | .tlpSequence => h.injectTlpSequence a.port
  | .nack => h.injectNack a.port a.sequence a.count
  | .creditTimeout => h.injectCreditTimeout a.port

end InjectionArguments

namespace Context

def inject (c : Context) (a : InjectionArguments) : Session Unit := do
  Session.printLines (a.ignored.map fun option =>
    "Ignoring " ++ option ++ " flag, not valid for the currently selected command.")
  if a.dllpCrcRate ≠ 0 ∧ a.tlpLcrcRate ≠ 0 then
    throw .conflictingRates
  let h ← c.openDevice
  if a.kind = .creditTimeout ∧ h.generation ≠ .gen5 then
    throw .creditTimeoutUnsupported
  let status ← Session.within "linkerr-inject" (Session.perform (a.operation h))
  Session.log .debug "injection complete" [("port", toString a.port), ("status", toString status)]

end Context
end PcieSwitch
