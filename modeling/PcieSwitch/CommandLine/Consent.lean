import PcieSwitch.CommandLine.Session

/-!
This module contains the consent of the user to what cannot be undone. The input can be read, though not always as text.
-/

namespace PcieSwitch

namespace Consent

def ofAnswer (answer : Bytes) : Except SystemError Bool :=
  match answer.utf8? with
  | none => .error .notText
  | some text =>
    let answer := Text.dropEndWhile (· == '\n') text.toList
    .ok (answer == ['y'] || answer == ['Y'])

def firstLine : Bytes → Bytes
  | [] => []
  | b :: bs => if b = 0x0A then [b] else b :: firstLine bs

def isGiven (yes : Bool) : Session Bool := do
  if yes then
    return true
  let answer ← Session.ask (.question "Do you want to continue? [y/N] ")
  match ofAnswer answer with
  | .ok given => return given
  | .error e => throw (.system e)

def require (yes : Bool) : Session Unit := do
  unless ← isGiven yes do
    Session.report "Abort."
    throw .aborted

end Consent
end PcieSwitch
