import Mathlib.Data.List.Basic
import PcieSwitch.Proofs.RegisterFetches

/-!
This module contains the commands that a span of the register window is read and written by. They tile the span: each of
them starts at the register behind the last one of the command before, so none is read or written twice.
-/

namespace PcieSwitch

structure Transfer where
  address : Nat
  length : Nat
  data : Bytes
  deriving DecidableEq, Repr

def Transfer.registers (x : Transfer) : List Nat :=
  List.range' x.address x.length

def Exchange.transfer (x : Exchange) : Transfer :=
  ⟨Bytes.toNat (x.payload.take 4), Bytes.toNat ((x.payload.drop 4).take 4), x.payload.drop 8⟩

inductive Tiles (most stop : Nat) : (address : Nat) → List Transfer → Prop where
  | done : Tiles most stop stop []
  | next {address length : Nat} {rest : List Transfer} (hpositive : 0 < length) (hmost : length ≤ most)
    (hrest : Tiles most stop (address + length) rest) (data : Bytes) :
    Tiles most stop address (⟨address, length, data⟩ :: rest)

namespace Tiles

variable {most stop address : Nat} {transfers : List Transfer}

theorem sum_length (h : Tiles most stop address transfers)
    : address + (transfers.map Transfer.length).sum = stop := by
  induction h with
  | done => simp
  | next _ _ _ _ ih =>
    rw [List.map_cons, List.sum_cons, ← ih]
    apply Nat.add_assoc _ _ _ |>.symm

theorem eq_nil_iff (h : Tiles most stop address transfers) : transfers = [] ↔ address = stop := by
  cases h with
  | done => simp
  | next hpositive _ hrest _ =>
    have hsum := hrest.sum_length
    simp only [reduceCtorEq, false_iff]
    omega

theorem flatMap_registers (h : Tiles most stop address transfers)
    : transfers.flatMap Transfer.registers = List.range' address (stop - address) := by
  induction h with
  | done => simp
  | next _ _ hrest _ ih =>
    have hsum := hrest.sum_length
    rw [List.flatMap_cons, ih, Transfer.registers]
    dsimp only
    rw [List.range'_append_1]
    congr 1
    omega

end Tiles

/--
Commands are sent one after the other, up to the first one that fails. What is got is every reply, in the length that is
expected of it, or the failure.
-/
inductive SentInTurn : List Exchange → List Sent → Except Error (List Bytes) → Prop where
  | done : SentInTurn [] [] (.ok [])
  | failed (x : Exchange) (rest : List Exchange) (e : Error) : SentInTurn (x :: rest) [(x, .error e)] (.error e)
  | next (x : Exchange) (reply : Bytes) :
    SentInTurn rest sent replies →
      SentInTurn (x :: rest) ((x, .ok reply) :: sent) (replies.map (reply.fit x.replyLength :: ·))

namespace Exchange

theorem transfer_readWindow {offset length : Nat} (h : offset + length ≤ windowSize)
    : (readWindow offset length).transfer = ⟨offset, length, []⟩ := by
  have hoffset : Bytes.toNat (.ofNat 4 offset) = offset := toNat_ofNat_of_le_windowSize (by omega)
  have hlength : Bytes.toNat (.ofNat 4 length) = length := toNat_ofNat_of_le_windowSize (by omega)
  simp [transfer, readWindow, List.drop_append, hoffset, hlength, List.take_of_length_le]

theorem transfer_writeWindow {offset : Nat} {data : Bytes} (h : offset + data.length ≤ windowSize)
    : (writeWindow offset data).transfer = ⟨offset, data.length, data⟩ := by
  have hoffset : Bytes.toNat (.ofNat 4 offset) = offset := toNat_ofNat_of_le_windowSize (by omega)
  have hlength : Bytes.toNat (.ofNat 4 data.length) = data.length := toNat_ofNat_of_le_windowSize (by omega)
  simp [transfer, writeWindow, List.drop_append, hoffset, hlength]

end Exchange

theorem Handle.sends_writeWindow {h : Handle} {offset : Nat} {data : Bytes} (hmax : data.length ≤ Tunnelled.maxWrite)
    {sent : List Sent} {result : Except Error Unit}
    : (h.order (.writeWindow (UInt32.ofNat offset) data)).Sends sent result
        ↔
      ∃ answer, sent = [(.writeWindow offset data, answer)] ∧ result = answer.map fun _ => () := by
  have hfits := Request.fits_writeWindow h.generation offset (Tunnelled.add_le_of_le_maxWrite hmax)
  rw [sends_order hfits, Request.exchange_writeWindow]

namespace Tunnelled

open Operation

def readCommands (offset length : Nat) : List Exchange :=
  (spans maxDataLength offset length).map fun (offset, length) => .readWindow offset length

def writeCommands (offset : Nat) (data : Bytes) : List Exchange :=
  (placed maxWrite offset data).map fun (offset, piece) => .writeWindow offset piece

theorem tiles_readCommands {offset length : Nat} (hinside : offset + length ≤ windowSize)
    : Tiles maxDataLength (offset + length) offset ((readCommands offset length).map Exchange.transfer) := by
  unfold readCommands
  fun_induction spans maxDataLength offset length with
  | case1 offset => exact Tiles.done
  | case2 => contradiction
  | case3 offset length hsome hsize ih =>
    have hrest := ih (by omega)
    rw [Nat.add_assoc, Nat.add_sub_cancel' (Nat.min_le_right _ _)] at hrest
    rw [List.map_cons, List.map_cons, Exchange.transfer_readWindow (by omega)]
    exact Tiles.next (by omega) (Nat.min_le_left _ _) hrest []

theorem placed_go_tiles (offset : Nat) {pieces : List Bytes} (hinside : offset + pieces.flatten.length ≤ windowSize)
    (hpieces : ∀ piece ∈ pieces, 0 < piece.length ∧ piece.length ≤ maxWrite)
    : let transfers := (placed.go offset pieces).map fun (offset, piece) => (Exchange.writeWindow offset piece).transfer
      Tiles maxWrite (offset + pieces.flatten.length) offset transfers ∧ transfers.map Transfer.data = pieces := by
  induction pieces generalizing offset with
  | nil => exact ⟨Tiles.done, rfl⟩
  | cons piece rest ih =>
    obtain ⟨⟨hpositive, hmost⟩, hpieces⟩ := List.forall_mem_cons.mp hpieces
    rw [List.flatten_cons, List.length_append] at hinside ⊢
    obtain ⟨htiles, hdata⟩ := ih (offset + piece.length) (by omega) hpieces
    rw [Nat.add_assoc] at htiles
    have htransfer : (Exchange.writeWindow offset piece).transfer = ⟨offset, piece.length, piece⟩ :=
      Exchange.transfer_writeWindow (by omega)
    dsimp only
    rw [placed.go, List.map_cons, htransfer]
    exact ⟨Tiles.next hpositive hmost htiles piece, congrArg (piece :: ·) hdata⟩

theorem tiles_writeCommands {offset : Nat} {data : Bytes} (hinside : offset + data.length ≤ windowSize)
    : let transfers := (writeCommands offset data).map Exchange.transfer
      Tiles maxWrite (offset + data.length) offset transfers ∧ (transfers.map Transfer.data).flatten = data := by
  have hsize : 0 < maxWrite := by decide
  have hflatten := flatten_pages hsize data
  have hpieces : ∀ piece ∈ pages maxWrite data, 0 < piece.length ∧ piece.length ≤ maxWrite := by
    intro piece hpiece
    exact ⟨List.length_pos_iff.mpr (ne_nil_of_mem_pages hsize hpiece), length_le_of_mem_pages hsize hpiece⟩
  have htiles := placed_go_tiles offset (by rw [hflatten]; exact hinside) hpieces
  unfold writeCommands placed
  dsimp only at htiles ⊢
  rw [hflatten] at htiles
  rw [List.map_map]
  exact ⟨htiles.1, (congrArg List.flatten htiles.2).trans hflatten⟩

theorem sends_command_bind {x : Exchange} {command : Operation α} {f : Bytes → α}
    (hcommand : ∀ {sent result}, command.Sends sent result ↔ ∃ answer, sent = [(x, answer)] ∧ result = answer.map f)
    {next : α → Operation β} {sent : List Sent} {result : Except Error β}
    (h : (command >>= next).Sends sent result)
    : (∃ e, sent = [(x, .error e)] ∧ result = .error e) ∨
      (∃ reply rest, sent = (x, .ok reply) :: rest ∧ (next (f reply)).Sends rest result) := by
  rcases sends_bind.mp h with ⟨e, hfirst, rfl⟩ | ⟨value, s₁, s₂, rfl, hfirst, hrest⟩
  . obtain ⟨answer, rfl, hanswer⟩ := hcommand.mp hfirst
    cases answer with
    | ok _ => cases hanswer
    | error cause =>
      cases hanswer
      exact .inl ⟨e, rfl, rfl⟩
  . obtain ⟨answer, rfl, hanswer⟩ := hcommand.mp hfirst
    cases answer with
    | error _ => cases hanswer
    | ok reply =>
      cases hanswer
      exact .inr ⟨reply, s₂, rfl, hrest⟩

theorem sentInTurn_of_sends_readBytes_go {h : Handle} {spans : List (Nat × Nat)}
    (hmax : ∀ span ∈ spans, span.2 ≤ maxDataLength) {sent : List Sent} {result : Except Error Bytes}
    (hsends : (readBytes.go h spans).Sends sent result)
    : ∃ replies,
        SentInTurn (spans.map fun (offset, length) => .readWindow offset length) sent replies
          ∧
        result = replies.map List.flatten := by
  induction spans generalizing sent result with
  | nil =>
    obtain ⟨rfl, rfl⟩ := sends_pure.mp hsends
    exact ⟨.ok [], SentInTurn.done, rfl⟩
  | cons span spans ih =>
    obtain ⟨offset, length⟩ := span
    obtain ⟨hmost, hmax⟩ := List.forall_mem_cons.mp hmax
    rw [readBytes.go] at hsends
    rcases sends_command_bind (Handle.sends_readWindow hmost) hsends with ⟨e, rfl, rfl⟩ | ⟨reply, rest, rfl, hrest⟩
    . exact ⟨.error e, SentInTurn.failed _ _ e, rfl⟩
    . obtain ⟨others, hothers, rfl⟩ := sends_bind_pure.mp hrest
      obtain ⟨replies, hturn, rfl⟩ := ih hmax hothers
      refine ⟨_, SentInTurn.next _ reply hturn, ?_⟩
      rw [except_map_map, except_map_map]
      rfl

theorem sentInTurn_of_sends_writeBytes_go {h : Handle} {pieces : List (Nat × Bytes)}
    (hmax : ∀ piece ∈ pieces, piece.2.length ≤ maxWrite) {sent : List Sent} {result : Except Error Unit}
    (hsends : (writeBytes.go h pieces).Sends sent result)
    : ∃ replies,
        SentInTurn (pieces.map fun (offset, piece) => .writeWindow offset piece) sent replies
          ∧
        result = replies.map fun _ => () := by
  induction pieces generalizing sent result with
  | nil =>
    obtain ⟨rfl, rfl⟩ := sends_pure.mp hsends
    exact ⟨.ok [], SentInTurn.done, rfl⟩
  | cons piece pieces ih =>
    obtain ⟨offset, data⟩ := piece
    obtain ⟨hmost, hmax⟩ := List.forall_mem_cons.mp hmax
    rw [writeBytes.go] at hsends
    rcases sends_command_bind (Handle.sends_writeWindow hmost) hsends with ⟨e, rfl, rfl⟩ | ⟨reply, rest, rfl, hrest⟩
    . exact ⟨.error e, SentInTurn.failed _ _ e, rfl⟩
    . obtain ⟨replies, hturn, rfl⟩ := ih hmax hrest
      refine ⟨_, SentInTurn.next _ reply hturn, ?_⟩
      rw [except_map_map]

theorem of_mem_spans {size offset length : Nat} {span : Nat × Nat} (h : span ∈ spans size offset length)
    : span.2 ≤ size ∧ span.1 + span.2 ≤ offset + length := by
  fun_induction spans size offset length with
  | case1 => contradiction
  | case2 => contradiction
  | case3 offset length _ _ ih =>
    rcases List.mem_cons.mp h with rfl | hrest
    . dsimp only
      omega
    . have hspan := ih hrest
      omega

theorem of_mem_placed_go {offset : Nat} {pieces : List Bytes} {piece : Nat × Bytes}
    (h : piece ∈ placed.go offset pieces)
    : piece.2 ∈ pieces ∧ piece.1 + piece.2.length ≤ offset + pieces.flatten.length := by
  induction pieces generalizing offset with
  | nil => contradiction
  | cons first rest ih =>
    rw [List.flatten_cons, List.length_append]
    rcases List.mem_cons.mp h with rfl | hrest
    . refine ⟨List.mem_cons_self, ?_⟩
      dsimp only
      omega
    . obtain ⟨hmem, hend⟩ := ih hrest
      exact ⟨List.mem_cons_of_mem _ hmem, by omega⟩

theorem of_mem_readCommands {offset length : Nat} (hinside : offset + length ≤ windowSize) {x : Exchange}
    (h : x ∈ readCommands offset length)
    : x.command = Command.gasRead.id ∧ x.payload.length = 8 ∧ x.replyLength = x.transfer.length := by
  obtain ⟨span, hspan, rfl⟩ := List.mem_map.mp h
  have hend := (of_mem_spans hspan).2
  rw [Exchange.transfer_readWindow (by omega)]
  simp [Exchange.readWindow]

theorem of_mem_writeCommands {offset : Nat} {data : Bytes} (hinside : offset + data.length ≤ windowSize) {x : Exchange}
    (h : x ∈ writeCommands offset data)
    : x.command = Command.gasWrite.id ∧ x.payload.length = 8 + x.transfer.length ∧ x.replyLength = 0 := by
  obtain ⟨piece, hpiece, rfl⟩ := List.mem_map.mp h
  have hend := (of_mem_placed_go hpiece).2
  rw [flatten_pages (by decide)] at hend
  rw [Exchange.transfer_writeWindow (by omega)]
  simp [Exchange.writeWindow, ← Nat.add_assoc]

end Tunnelled

/--
A span of the window is read and written by commands that tile it, whatever the switch answers. By what they carry over
the wire, each of them starts where the one before ended, and none asks for nothing or for more than fits.
They are sent in turn, and none follows one that fails. What is read is the replies put together, and the data of the
writes put together is what was to be written.
-/
theorem tunnelled_transfers_tile_the_span (h : Handle) (offset : Nat)
    : (∀ length, offset + length ≤ windowSize →
        ∃ commands : List Exchange,
          (∀ x ∈ commands,
            x.command = Command.gasRead.id ∧ x.payload.length = 8 ∧ x.replyLength = x.transfer.length)
            ∧
          Tiles 1024 (offset + length) offset (commands.map Exchange.transfer)
            ∧
          (commands.map Exchange.transfer).flatMap Transfer.registers = List.range' offset length
            ∧
          ((commands.map Exchange.transfer).map Transfer.length).sum = length
            ∧
          (commands = [] ↔ length = 0)
            ∧
          ∀ {σ : Type} (outside : Handler deviceInterface σ) (s : σ),
            let read := h.window.readSpan offset length
            ∃ replies,
              SentInTurn commands (Operation.sent outside read s) replies
                ∧
              Operation.result outside read s = replies.map List.flatten)
        ∧
      (∀ data : Bytes, offset + data.length ≤ windowSize →
        ∃ commands : List Exchange,
          (∀ x ∈ commands,
            x.command = Command.gasWrite.id ∧ x.payload.length = 8 + x.transfer.length ∧ x.replyLength = 0)
            ∧
          Tiles 1016 (offset + data.length) offset (commands.map Exchange.transfer)
            ∧
          (commands.map Exchange.transfer).flatMap Transfer.registers = List.range' offset data.length
            ∧
          ((commands.map Exchange.transfer).map Transfer.data).flatten = data
            ∧
          (commands = [] ↔ data = [])
            ∧
          ∀ {σ : Type} (outside : Handler deviceInterface σ) (s : σ),
            let write := Tunnelled.writeBytes h offset data
            ∃ replies,
              SentInTurn commands (Operation.sent outside write s) replies
                ∧
              Operation.result outside write s = replies.map fun _ => ()) := by
  constructor
  . intro length hinside
    have htiles := Tunnelled.tiles_readCommands hinside
    have hcommands := fun x => Tunnelled.of_mem_readCommands (x := x) hinside
    refine ⟨Tunnelled.readCommands offset length, hcommands, htiles, ?_, ?_, ?_, ?_⟩
    . rw [htiles.flatMap_registers, Nat.add_sub_cancel_left]
    . have hsum := htiles.sum_length
      omega
    . have hnil := htiles.eq_nil_iff
      rw [List.map_eq_nil_iff] at hnil
      rw [hnil]
      omega
    . intro σ outside s read
      have hread : read = Tunnelled.readBytes h offset length :=
        Operation.ofExcept_ok_bind (Window.checkSpan_eq_ok_iff.mpr hinside)
      rw [hread]
      exact Tunnelled.sentInTurn_of_sends_readBytes_go (fun _ hspan => (Tunnelled.of_mem_spans hspan).1)
        (Operation.sends_sent outside _ s)
  . intro data hinside
    obtain ⟨htiles, hdata⟩ := Tunnelled.tiles_writeCommands hinside
    have hcommands := fun x => Tunnelled.of_mem_writeCommands (x := x) hinside
    refine ⟨Tunnelled.writeCommands offset data, hcommands, htiles, ?_, hdata, ?_, ?_⟩
    . rw [htiles.flatMap_registers, Nat.add_sub_cancel_left]
    . have hnil := htiles.eq_nil_iff
      rw [List.map_eq_nil_iff] at hnil
      rw [hnil, ← List.length_eq_zero_iff]
      omega
    . intro σ outside s write
      have hmax : ∀ piece ∈ Tunnelled.placed Tunnelled.maxWrite offset data, piece.2.length ≤ Tunnelled.maxWrite :=
        fun _ hpiece => length_le_of_mem_pages (by decide) (Tunnelled.of_mem_placed_go hpiece).1
      exact Tunnelled.sentInTurn_of_sends_writeBytes_go hmax (Operation.sends_sent outside write s)

def failingFirmware (broken : Nat) : Handler deviceInterface Unit
  | .exchange x, s =>
    if x.transfer.address = broken then (.error (.firmware ⟨0x64005⟩), s) else (.ok (.zeros x.replyLength), s)
  | .event _, s => (.error (.unsupported "switch events"), s)
  | .now, s => (0, s)
  | .log _, s => ((), s)

/--
The last 2049 bytes of the window take three commands either way. Of those that read them the second one fails here, so
the third one, which is for a single byte, is not sent.
-/
theorem second_of_three_reads_fails
    : let h : Handle := { name := "switch", partition := 0, generation := .gen4 }
      let outside := failingFirmware 4193279
      let read := h.window.readSpan 4192255 2049
      let write := Tunnelled.writeBytes h 4192255 (.zeros 2049)
      4192255 + 2049 ≤ windowSize
        ∧
      (∃ commands,
        Tiles 1024 4194304 4192255 (commands.map Exchange.transfer)
          ∧
        SentInTurn commands
          [(.readWindow 4192255 1024, .ok (.zeros 1024)), (.readWindow 4193279 1024, .error (.firmware ⟨0x64005⟩))]
          (.error (.firmware ⟨0x64005⟩)))
        ∧
      Operation.result outside read () = .error (.firmware ⟨0x64005⟩)
        ∧
      (∃ commands replies,
        Tiles 1016 4194304 4192255 (commands.map Exchange.transfer)
          ∧
        SentInTurn commands
          [(.writeWindow 4192255 (.zeros 1016), .ok []), (.writeWindow 4193271 (.zeros 1016), .ok []),
            (.writeWindow 4194287 (.zeros 17), .ok [])]
          replies)
        ∧
      Operation.result outside write () = .ok () := by
  intro h outside read write
  have hsent : Operation.sent outside read ()
      = [(.readWindow 4192255 1024, .ok (.zeros 1024)), (.readWindow 4193279 1024, .error (.firmware ⟨0x64005⟩))] := by
    decide +kernel
  have hwritten : Operation.sent outside write ()
      = [(.writeWindow 4192255 (.zeros 1016), .ok []), (.writeWindow 4193271 (.zeros 1016), .ok []),
          (.writeWindow 4194287 (.zeros 17), .ok [])] := by
    decide +kernel
  have hfailed : Operation.result outside read () = .error (.firmware ⟨0x64005⟩) := by decide +kernel
  have hdone : Operation.result outside write () = .ok () := by decide +kernel
  have hlength : (Bytes.zeros 2049).length = 2049 := List.length_replicate
  obtain ⟨hreads, hwrites⟩ := tunnelled_transfers_tile_the_span h 4192255
  obtain ⟨commands, _, htiles, _, _, _, hturn⟩ := hreads 2049 (by decide)
  obtain ⟨writes, _, hwriteTiles, _, _, _, hwriteTurn⟩ := hwrites (.zeros 2049) (by rw [hlength]; decide)
  obtain ⟨replies, hreplies, hresult⟩ := hturn outside ()
  obtain ⟨acknowledged, hacknowledged, _⟩ := hwriteTurn outside ()
  rw [hlength] at hwriteTiles
  rw [hsent] at hreplies
  rw [hwritten] at hacknowledged
  refine ⟨by decide, ⟨commands, htiles, ?_⟩, hfailed, ⟨writes, acknowledged, hwriteTiles, hacknowledged⟩, hdone⟩
  cases replies with
  | ok _ => cases hfailed.symm.trans hresult
  | error e =>
    cases hfailed.symm.trans hresult
    exact hreplies

end PcieSwitch
