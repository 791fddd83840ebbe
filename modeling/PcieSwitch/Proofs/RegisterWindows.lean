import PcieSwitch.Register.Mapped
import PcieSwitch.Register.Tunnelled
import PcieSwitch.Proofs.Bytes
import PcieSwitch.Proofs.Pages
import PcieSwitch.Proofs.RegisterAccess

/-!
This module contains the two windows that there are, a mapping and the firmware's commands, as views of the
same registers. Every sequence of checked accesses has the same results through either.
-/

namespace PcieSwitch

open Program

theorem Mapping.locate_eq_ok {m : Mapping} {offset length alignment : Nat}
    (hinside : offset + length ≤ m.size) (haligned : offset % alignment = 0)
    : m.locate offset length alignment = .ok () := by
  unfold locate
  rw [if_neg (Nat.not_lt.mpr hinside), if_neg (not_not_intro haligned)]

theorem Mapping.window_views {m : Mapping} (hwritable : m.writable = true)
    : m.window.Views memory id where
  read {bytes offset width} _ hplace := by
    refine ⟨bytes, ?_, rfl⟩
    unfold window load
    rw [attempt_bind, locate_eq_ok hplace.inside hplace.aligned]
    rfl
  write {bytes offset width} _ hplace value := by
    refine ⟨bytes.overwrite offset (Bytes.ofNat width.bytes value.toNat), ?_, rfl⟩
    unfold window store
    dsimp only
    rw [if_pos hwritable, attempt_bind, locate_eq_ok hplace.inside hplace.aligned]
    rfl
  readBytes {bytes offset length} _ hinside := by
    refine ⟨bytes, ?_, rfl⟩
    unfold window load
    rw [attempt_bind, locate_eq_ok hinside (Nat.mod_one offset)]
    rfl

def Exchange.readWindow (offset length : Nat) : Exchange :=
  ⟨Command.gasRead.id, .ofNat 4 offset ++ .ofNat 4 length, length⟩

def Exchange.writeWindow (offset : Nat) (data : Bytes) : Exchange :=
  ⟨Command.gasWrite.id, .ofNat 4 offset ++ .ofNat 4 data.length ++ data, 0⟩

/--
The firmware answers reads of the register window from registers that are part of the outside, and stores
what it is told to write there.
-/
structure Handler.ServesRegisters (outside : Handler deviceInterface σ) (registers : σ → Bytes)
    : Prop where
  log : ∀ line s, registers (outside (.log line) s).2 = registers s
  read : ∀ {s address length}, (registers s).length = windowSize → address + length ≤ windowSize →
    length ≤ maxDataLength →
      ∃ s',
        outside (.exchange (.readWindow address length)) s = (.ok ((registers s).slice address length), s')
          ∧
        registers s' = registers s
  write : ∀ {s address data}, (registers s).length = windowSize →
    address + data.length ≤ windowSize → 8 + data.length ≤ maxDataLength →
      ∃ s',
        outside (.exchange (.writeWindow address data)) s = (.ok [], s')
          ∧
        registers s' = (registers s).overwrite address data

theorem Tunnelled.add_le_of_le_maxWrite {n : Nat} (h : n ≤ maxWrite) : 8 + n ≤ maxDataLength := by
  unfold maxWrite maxDataLength at h
  unfold maxDataLength
  omega

namespace Request

theorem exchange_readWindow (generation : Generation) (offset : Nat) {length : Nat}
    (hmax : length ≤ maxDataLength)
    : (readWindow (UInt32.ofNat offset) (UInt32.ofNat length)).exchange generation
        =
      .readWindow offset length := by
  have hlength : (UInt32.ofNat length).toNat = length := by
    unfold maxDataLength at hmax
    rw [UInt32.toNat_ofNat']
    omega
  unfold exchange payload fields Exchange.readWindow
  rw [Bytes.ofFields_cons, Bytes.ofFields_cons, Bytes.ofFields_nil, List.append_nil]
  rw [Field.encode_u32_ofNat, Field.encode_u32_ofNat, replyLength, hlength, command]

theorem exchange_writeWindow (generation : Generation) (offset : Nat) (data : Bytes)
    : (writeWindow (UInt32.ofNat offset) data).exchange generation = .writeWindow offset data := by
  unfold exchange payload fields Exchange.writeWindow
  rw [Bytes.ofFields_cons, Bytes.ofFields_cons, Bytes.ofFields_cons, Bytes.ofFields_nil, List.append_nil]
  rw [Field.encode_u32_ofNat, Field.encode_u32_ofNat, Field.encode_bytes, List.append_assoc]
  rw [replyLength, command]

theorem fits_readWindow (generation : Generation) (offset : Nat) {length : Nat}
    (hmax : length ≤ maxDataLength)
    : (readWindow (UInt32.ofNat offset) (UInt32.ofNat length)).Fits generation := by
  apply fits_of_exchange_eq (exchange_readWindow generation offset hmax) _ hmax
  unfold Exchange.readWindow
  rw [List.length_append, Bytes.length_ofNat, Bytes.length_ofNat]
  decide

theorem fits_writeWindow (generation : Generation) (offset : Nat) {data : Bytes}
    (hmax : 8 + data.length ≤ maxDataLength)
    : (writeWindow (UInt32.ofNat offset) data).Fits generation := by
  apply fits_of_exchange_eq (exchange_writeWindow generation offset data) _ (Nat.zero_le _)
  unfold Exchange.writeWindow
  rw [List.length_append, List.length_append, Bytes.length_ofNat, Bytes.length_ofNat]
  exact hmax

end Request

namespace Handler.ServesRegisters

variable {outside : Handler deviceInterface σ} {registers : σ → Bytes}

theorem attempt_readWindow (hserves : outside.ServesRegisters registers) {s : σ}
    (hlength : (registers s).length = windowSize) (h : Handle) (offset length : Nat)
    (hinside : offset + length ≤ windowSize) (hmax : length ≤ maxDataLength)
    : ∃ s',
        attempt outside (h.request (.readWindow (UInt32.ofNat offset) (UInt32.ofNat length))) s
          =
        (.ok ((registers s).slice offset length), s')
          ∧
        registers s' = registers s := by
  have hexchange := Request.exchange_readWindow h.generation offset hmax
  have hreply : ((registers s).slice offset length).fit length = (registers s).slice offset length := by
    apply Bytes.fit_eq_self
    apply Bytes.length_slice
    omega
  rw [← hreply]
  apply Handle.attempt_request_of_answer hexchange (Request.fits_readWindow h.generation offset hmax)
  intro line
  have hlog := hserves.log line s
  obtain ⟨s', hanswer, hkept⟩ := hserves.read (hlog.symm ▸ hlength) hinside hmax
  rw [hlog] at hanswer hkept
  exact ⟨s', hanswer, hkept⟩

theorem attempt_writeWindow (hserves : outside.ServesRegisters registers) {s : σ}
    (hlength : (registers s).length = windowSize) (h : Handle) (offset : Nat) (data : Bytes)
    (hinside : offset + data.length ≤ windowSize) (hmax : 8 + data.length ≤ maxDataLength)
    : ∃ s',
        attempt outside (h.order (.writeWindow (UInt32.ofNat offset) data)) s = (.ok (), s')
          ∧
        registers s' = (registers s).overwrite offset data := by
  have hanswer : ∀ line, ∃ s',
      outside (.exchange (.writeWindow offset data)) (outside (.log line) s).2 = (.ok [], s')
        ∧
      registers s' = (registers s).overwrite offset data := by
    intro line
    have hlog := hserves.log line s
    obtain ⟨s', hanswer, hstored⟩ := hserves.write (hlog.symm ▸ hlength) hinside hmax
    rw [hlog] at hstored
    exact ⟨s', hanswer, hstored⟩
  obtain ⟨s', hrequest, hstored⟩ := Handle.attempt_request_of_answer
    (Request.exchange_writeWindow h.generation offset data)
    (Request.fits_writeWindow h.generation offset hmax) hanswer
  refine ⟨s', ?_, hstored⟩
  unfold Handle.order
  rw [attempt_bind_of_ok hrequest]
  rfl

theorem attempt_readBytes (hserves : outside.ServesRegisters registers) {s : σ}
    (hlength : (registers s).length = windowSize) (h : Handle) {offset length : Nat}
    (hinside : offset + length ≤ windowSize)
    : ∃ s',
        attempt outside (Tunnelled.readBytes h offset length) s
          =
        (.ok ((registers s).slice offset length), s')
          ∧
        registers s' = registers s := by
  unfold Tunnelled.readBytes
  fun_induction spans maxDataLength offset length generalizing s with
  | case1 offset => exact ⟨s, by rw [Bytes.slice_zero]; rfl, rfl⟩
  | case2 => contradiction
  | case3 offset length hsome hsize ih =>
    obtain ⟨s', hfirst, hkept⟩ :=
      hserves.attempt_readWindow hlength h offset (min maxDataLength length) (by omega) (by omega)
    -- the first command changes nothing, so the others read from the same registers
    obtain ⟨s'', hrest, hkept'⟩ := ih (hkept ▸ hlength) (by omega)
    refine ⟨s'', ?_, hkept'.trans hkept⟩
    rw [Tunnelled.readBytes.go, attempt_bind_of_ok hfirst, attempt_bind_of_ok hrest, attempt_pure, hkept]
    rw [Bytes.slice_append, Nat.add_sub_cancel' (Nat.min_le_right _ _)]

theorem attempt_writeBytes_go (hserves : outside.ServesRegisters registers) {s : σ}
    (hlength : (registers s).length = windowSize) (h : Handle) (offset : Nat) {pieces : List Bytes}
    (hpieces : ∀ piece ∈ pieces, piece.length ≤ Tunnelled.maxWrite)
    (hinside : offset + pieces.flatten.length ≤ windowSize)
    : ∃ s',
        attempt outside (Tunnelled.writeBytes.go h (Tunnelled.placed.go offset pieces)) s = (.ok (), s')
          ∧
        registers s' = (registers s).overwrite offset pieces.flatten := by
  induction pieces generalizing s offset with
  | nil => exact ⟨s, rfl, (Bytes.overwrite_nil _ _).symm⟩
  | cons piece pieces ih =>
    rw [List.flatten_cons, List.length_append] at hinside
    obtain ⟨hpiece, hpieces⟩ := List.forall_mem_cons.mp hpieces
    have hmax : 8 + piece.length ≤ maxDataLength := Tunnelled.add_le_of_le_maxWrite hpiece
    obtain ⟨s', hfirst, hstored⟩ :=
      hserves.attempt_writeWindow hlength h offset piece (by omega) hmax
    have hlength' : (registers s').length = windowSize := by
      rw [hstored, Bytes.length_overwrite, hlength]
    obtain ⟨s'', hrest, hstored'⟩ := ih hlength' (offset + piece.length) hpieces (by omega)
    refine ⟨s'', ?_, ?_⟩
    . rw [Tunnelled.placed.go, Tunnelled.writeBytes.go, attempt_bind_of_ok hfirst, hrest]
    . rw [hstored', hstored, Bytes.overwrite_append, List.flatten_cons]

theorem attempt_writeBytes (hserves : outside.ServesRegisters registers) {s : σ}
    (hlength : (registers s).length = windowSize) (h : Handle) {offset : Nat} {data : Bytes}
    (hinside : offset + data.length ≤ windowSize)
    : ∃ s',
        attempt outside (Tunnelled.writeBytes h offset data) s = (.ok (), s')
          ∧
        registers s' = (registers s).overwrite offset data := by
  have hsize : 0 < Tunnelled.maxWrite := by decide
  have hflatten := flatten_pages hsize data
  have hpieces : ∀ piece ∈ pages Tunnelled.maxWrite data, piece.length ≤ Tunnelled.maxWrite :=
    fun _ => length_le_of_mem_pages hsize
  have hwrite := hserves.attempt_writeBytes_go hlength h offset hpieces (by rw [hflatten]; exact hinside)
  rw [hflatten] at hwrite
  exact hwrite

end Handler.ServesRegisters

theorem Handle.window_views (h : Handle) {outside : Handler deviceInterface σ} {registers : σ → Bytes}
    (hserves : outside.ServesRegisters registers)
    : h.window.Views outside registers where
  read {s offset width} hlength hplace := by
    obtain ⟨s', hread, hkept⟩ := hserves.attempt_readBytes hlength h hplace.inside
    refine ⟨s', ?_, hkept⟩
    unfold window
    dsimp only
    rw [attempt_bind_of_ok hread]
    rfl
  write {s offset width} hlength hplace value := by
    apply hserves.attempt_writeBytes hlength h
    rw [Bytes.length_ofNat]
    exact hplace.inside
  readBytes {s offset length} hlength hinside := hserves.attempt_readBytes hlength h hinside

/--
Every sequence of checked accesses has the same results through a writable mapping of the registers as
through a firmware that serves them, and leaves the same registers behind. An access fails only by being
refused.
-/
theorem mapped_and_tunnelled_agree (h : Handle) {outside : Handler deviceInterface σ}
    {registers : σ → Bytes} (hserves : outside.ServesRegisters registers) {s : σ}
    (hlength : (registers s).length = windowSize) (accesses : List Access)
    : let mapped := ((Mapping.mk windowSize true).window.performAll accesses).run memory (registers s)
      let tunnelled := (h.window.performAll accesses).run outside s
      tunnelled.1 = mapped.1
        ∧
      registers tunnelled.2 = mapped.2
        ∧
      ∀ e, .error e ∈ mapped.1 → e.RefusesAccess := by
  have hmapping : (Mapping.mk windowSize true).window.Views memory id := Mapping.window_views rfl
  obtain ⟨hmapped, hmemory⟩ := hmapping.run_performAll (s := registers s) hlength accesses
  obtain ⟨htunnelled, hregisters⟩ := (h.window_views hserves).run_performAll hlength accesses
  -- both runs are what the accesses do to the string of bytes itself
  refine ⟨?_, ?_, ?_⟩
  . rw [htunnelled, hmapped]
    rfl
  . rw [hregisters]
    exact hmemory.symm
  . intro e he
    rw [hmapped] at he
    exact Access.refusesAccess_of_mem_allOnRegisters he

def registerFirmware : Handler deviceInterface Bytes
  | .exchange x, registers =>
    let address := Bytes.toNat (x.payload.take 4)
    let length := Bytes.toNat ((x.payload.drop 4).take 4)
    if x.command = Command.gasRead.id then
      (.ok (registers.slice address length), registers)
    else if x.command = Command.gasWrite.id then
      (.ok [], registers.overwrite address ((x.payload.drop 8).take length))
    else
      (.error (.firmware ⟨0x64005⟩), registers)
  | .event _, registers => (.error (.unsupported "switch events"), registers)
  | .now, registers => (0, registers)
  | .log _, registers => ((), registers)

theorem toNat_ofNat_of_le_windowSize {n : Nat} (h : n ≤ windowSize) : Bytes.toNat (.ofNat 4 n) = n := by
  apply Bytes.toNat_ofNat
  unfold windowSize at h
  omega

theorem registerFirmware_servesRegisters : registerFirmware.ServesRegisters id where
  log _ _ := rfl
  read {registers address length} _ hinside hmax := by
    have haddress : Bytes.toNat (.ofNat 4 address) = address := toNat_ofNat_of_le_windowSize (by omega)
    have hcount : Bytes.toNat (.ofNat 4 length) = length := toNat_ofNat_of_le_windowSize (by omega)
    refine ⟨registers, ?_, rfl⟩
    unfold registerFirmware Exchange.readWindow
    dsimp only
    rw [if_pos rfl, List.take_left' (Bytes.length_ofNat 4 address), haddress]
    rw [List.drop_left' (Bytes.length_ofNat 4 address), List.take_of_length_le (by simp), hcount]
    rfl
  write {registers address data} _ hinside hmax := by
    have haddress : Bytes.toNat (.ofNat 4 address) = address := toNat_ofNat_of_le_windowSize (by omega)
    have hcount : Bytes.toNat (.ofNat 4 data.length) = data.length :=
      toNat_ofNat_of_le_windowSize (by omega)
    refine ⟨registers.overwrite address data, ?_, rfl⟩
    unfold registerFirmware Exchange.writeWindow
    dsimp only
    rw [if_neg (by decide), if_pos rfl, List.append_assoc]
    rw [List.take_left' (Bytes.length_ofNat 4 address), haddress]
    rw [List.drop_left' (Bytes.length_ofNat 4 address)]
    rw [List.take_left' (Bytes.length_ofNat 4 data.length), hcount]
    rw [← List.append_assoc, List.drop_left' (by simp), List.take_length]

theorem cleared_registers_agree
    : registerFirmware.ServesRegisters id
        ∧
      (Bytes.zeros windowSize).length = windowSize
        ∧
      let h : Handle := { name := "switch", partition := 0, generation := .gen4 }
      let accesses : List Access := [
        .write 6 4 0x11223344,
        .read 5 2,
        .write 4194300 8 0xffffffffffffffff,
        .validate 3 1 256,
        .readSpan 4194303 2,
        .read 18446744073709551615 3
      ]
      let mapped := ((Mapping.mk windowSize true).window.performAll accesses).run memory (.zeros windowSize)
      let tunnelled := (h.window.performAll accesses).run registerFirmware (.zeros windowSize)
      tunnelled.1 = mapped.1
        ∧
      tunnelled.2 = mapped.2
        ∧
      ∀ e, .error e ∈ mapped.1 → e.RefusesAccess := by
  have hlength : (Bytes.zeros windowSize).length = windowSize := List.length_replicate
  refine ⟨registerFirmware_servesRegisters, hlength, ?_⟩
  exact mapped_and_tunnelled_agree _ registerFirmware_servesRegisters hlength _

end PcieSwitch
