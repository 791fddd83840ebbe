import PcieSwitch.CharDevice.Packet
import PcieSwitch.Device.Handle
import PcieSwitch.Proofs.Transcript

/-!
This module contains commands whose replies are copied to a buffer of the caller's. They ask what the commands
that return their replies ask, and a failing one leaves the buffer as it was.
-/

namespace PcieSwitch

abbrev Buffered (I : Interface) (α : Type) := ExceptT Error (StateT Bytes (Program I)) α

namespace Buffered

variable {I : Interface}

def lift (work : ExceptT Error (Program I) α) : Buffered I α :=
  ExceptT.mk (StateT.lift work.run)

def kept (buffer : Bytes) : Except Error Bytes → Except Error Unit × Bytes
  | .ok reply => (.ok (), reply)
  | .error e => (.error e, buffer)

def Fills (filling : Buffered I Unit) (work : ExceptT Error (Program I) Bytes) (buffer : Bytes) : Prop :=
  filling.run.run buffer = kept buffer <$> work.run

namespace Fills

variable {buffer : Bytes}

theorem set (data : Bytes)
    : Fills (set data : Buffered I Unit) (pure data) buffer := by
  rfl

theorem throw (e : Error) : Fills (throw e : Buffered I Unit) (MonadExcept.throw e) buffer := by
  rfl

theorem throw_bind (e : Error) (f : α → Buffered I Unit) (g : α → ExceptT Error (Program I) Bytes)
    : Fills (MonadExcept.throw e >>= f) (MonadExcept.throw e >>= g) buffer := by
  rfl

theorem lift_bind {work : ExceptT Error (Program I) α} {f : α → Buffered I Unit}
    {g : α → ExceptT Error (Program I) Bytes} (h : ∀ value, Fills (f value) (g value) buffer)
    : Fills (lift work >>= f) (work >>= g) buffer := by
  have hlift : (lift work >>= f).run.run buffer = work.run >>= fun result =>
      match result with
      | .ok value => (f value).run.run buffer
      | .error e => pure (.error e, buffer) := by
    change (work.run >>= fun result => pure (result, buffer)) >>= _ = _
    rw [bind_assoc]
    apply bind_congr
    intro result
    cases result <;> rfl
  have hwork : (work >>= g).run = work.run >>= fun result =>
      match result with
      | .ok value => (g value).run
      | .error e => pure (.error e) := by
    rw [ExceptT.run_bind]
    apply bind_congr
    intro result
    cases result <;> rfl
  unfold Fills
  rw [hlift, hwork, map_bind]
  apply bind_congr
  intro result
  cases result with
  | ok value => exact h value
  | error e => rfl

end Fills

theorem Fills.run {filling : Buffered I Unit} {work : ExceptT Error (Program I) Bytes} {buffer : Bytes}
    (h : Fills filling work buffer) (outside : Handler I σ) (s : σ)
    : (filling.run.run buffer).run outside s
        =
      (kept buffer (work.run.run outside s).1, (work.run.run outside s).2) := by
  rw [h, map_eq_pure_bind]
  apply Program.run_bind

end Buffered

def Exchange.fillOverFile (command : UInt32) (payload : Bytes) : Buffered fileInterface Unit := do
  let x : Exchange := ⟨command, payload, (← get).length⟩
  let written ← Buffered.lift (FileWork.write x.frame)
  if written ≠ x.frame.length then
    throw (.shortTransfer written x.frame.length)
  let packet ← Buffered.lift (FileWork.read x.packetLength)
  if packet.length ≠ x.packetLength then
    throw (.shortTransfer packet.length x.packetLength)
  let status := packet.read Read.u32
  if status ≠ 0 then
    throw (.firmware ⟨status⟩)
  set (packet.drop 4)

theorem Exchange.fillOverFile_fills (command : UInt32) (payload buffer : Bytes)
    : (fillOverFile command payload).Fills (overFile ⟨command, payload, buffer.length⟩) buffer := by
  apply Buffered.Fills.lift_bind
  intro written
  dsimp only
  split
  . apply Buffered.Fills.throw_bind
  . apply Buffered.Fills.lift_bind
    intro packet
    unfold ofPacket
    dsimp only
    split
    . apply Buffered.Fills.throw
    . split
      . apply Buffered.Fills.throw
      . apply Buffered.Fills.set

def Handle.sendInto (h : Handle) (c : Command) (payload : Bytes) : Buffered deviceInterface Unit := do
  let expected := (← get).length
  if maxDataLength < payload.length then
    throw (.requestTooLarge payload.length)
  if maxDataLength < expected then
    throw (.replyTooLarge expected)
  Buffered.lift (h.log "mrpc" [
    ("cmd", c.description),
    ("id", toString c.id),
    ("payload", toString payload.length),
    ("resp", toString expected)
  ])
  match ← Buffered.lift (Operation.ask (.exchange ⟨c.id, payload, expected⟩)) with
  | .ok reply => set (reply.fit expected)
  | .error e =>
    Buffered.lift (h.log "mrpc failed" [("cmd", c.description), ("error", e.message)])
    throw e

theorem Handle.sendInto_fills (h : Handle) (c : Command) (payload buffer : Bytes)
    : (h.sendInto c payload).Fills (h.send c payload buffer.length) buffer := by
  unfold send
  change Buffered.Fills (if _ then _ else _) _ _
  split
  . apply Buffered.Fills.throw_bind
  . split
    . apply Buffered.Fills.throw_bind
    . apply Buffered.Fills.lift_bind
      intro _
      apply Buffered.Fills.lift_bind
      intro answer
      cases answer with
      | ok reply => apply Buffered.Fills.set
      | error e =>
        apply Buffered.Fills.lift_bind
        intro _
        apply Buffered.Fills.throw

end PcieSwitch
