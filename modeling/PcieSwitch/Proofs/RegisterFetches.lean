import PcieSwitch.Proofs.RegisterActions

/-!
This module contains the fetching of registers for a session. A span is fetched from its first register to its last
one, through one load from memory or through some commands, of which the first one that fails is the last.
-/

namespace PcieSwitch

structure Fetch where
  address : Nat
  length : Nat
  failure : Option Error
  deriving DecidableEq, Repr

namespace Fetch

def registers (f : Fetch) : List Nat :=
  List.range' f.address f.length

def failureOf? : Except ε α → Option ε
  | .ok _ => none
  | .error e => some e

end Fetch

def Sent.fetch? : Sent → Option Fetch
  | (x, answer) =>
    if x.command = Command.gasRead.id then
      some ⟨Bytes.toNat (x.payload.take 4), Bytes.toNat (x.payload.drop 4), Fetch.failureOf? answer⟩
    else
      none

def Entry.fetch? : Entry sessionInterface → Option Fetch
  | ⟨.device c, answer⟩ => (Entry.sent? ⟨c, answer⟩).bind Sent.fetch?
  | ⟨.memory (.load offset length), _⟩ => some ⟨offset, length, none⟩
  | _ => none

theorem Sent.fetch?_readWindow {address length : Nat} (h : address + length ≤ windowSize)
    (answer : Except Error Bytes)
    : Sent.fetch? (.readWindow address length, answer) = some ⟨address, length, Fetch.failureOf? answer⟩ := by
  have haddress : Bytes.toNat (.ofNat 4 address) = address := toNat_ofNat_of_le_windowSize (by omega)
  have hlength : Bytes.toNat (.ofNat 4 length) = length := toNat_ofNat_of_le_windowSize (by omega)
  unfold fetch? Exchange.readWindow
  dsimp only
  rw [if_pos rfl, List.take_left' (Bytes.length_ofNat 4 address), List.drop_left' (Bytes.length_ofNat 4 address)]
  rw [haddress, hlength]

theorem Entry.filterMap_fetch_ofDevice (asked : List (Entry deviceInterface))
    : (asked.map Entry.ofDevice).filterMap Entry.fetch? = (asked.filterMap Entry.sent?).filterMap Sent.fetch? := by
  rw [List.filterMap_map, List.filterMap_filterMap]
  rfl

/--
Registers are fetched from an address on, one fetch after the other, up to the stop or up to the first fetch that
fails, which is told by its address and its error.
-/
inductive Fetched (stop : Nat) : (address : Nat) → List Fetch → Option (Nat × Error) → Prop where
  | done : Fetched stop stop [] none
  | next {address length : Nat} {fetches : List Fetch} {failure : Option (Nat × Error)}
    (hrest : Fetched stop (address + length) fetches failure) :
    Fetched stop address (⟨address, length, none⟩ :: fetches) failure
  | failed {address length : Nat} (hpositive : 0 < length) (hinside : address + length ≤ stop) (cause : Error) :
    Fetched stop address [⟨address, length, some cause⟩] (some (address, cause))

namespace Fetched

variable {stop address : Nat} {fetches : List Fetch} {failure : Option (Nat × Error)}

theorem append {middle : Nat} {others : List Fetch} (h : Fetched middle address fetches none)
    (hothers : Fetched stop middle others failure) : Fetched stop address (fetches ++ others) failure := by
  generalize hnone : none = done at h
  induction h with
  | done => exact hothers
  | next _ ih => exact next (ih hnone)
  | failed => cases hnone

end Fetched

def Bytes.spanOrFailure (memory : Bytes) (address length : Nat) : Option (Nat × Error) → Except Error Bytes
  | none => .ok (memory.slice address length)
  | some (_, cause) => .error cause

/--
The registers hold `memory` all the time. The file of registers is as long, and what is read of them is from there,
though a command may fail.
-/
structure Handler.ServesMemory (outside : Handler sessionInterface σ) (memory : Bytes) : Prop where
  opened : ∀ {path writable s size}, (outside (.openRegisters path writable) s).1 = .ok size → size = memory.length
  load : ∀ {offset length s}, offset + length ≤ memory.length →
    (outside (.memory (.load offset length)) s).1 = memory.slice offset length
  read : ∀ {address length s reply}, address + length ≤ memory.length →
    (outside (.device (.exchange (.readWindow address length))) s).1 = .ok reply → reply = memory.slice address length

structure Window.Fetches (w : Context.Registers) (outside : Handler sessionInterface σ) (memory : Bytes) : Prop where
  size : w.size = memory.length
  readBytes : ∀ {address length u result}, address + length ≤ memory.length →
    (w.readBytes address length).run.Yields u result → outside.Answers u →
      u.filterMap Entry.printed? = []
        ∧
      ∃ failure,
        Fetched (address + length) address (u.filterMap Entry.fetch?) failure
          ∧
        result = memory.spanOrFailure address length failure

open Program Session

theorem Handle.sends_readWindow {h : Handle} {address length : Nat} (hmax : length ≤ maxDataLength) {sent : List Sent}
    {result : Except Error Bytes}
    : (h.request (.readWindow (UInt32.ofNat address) (UInt32.ofNat length))).Sends sent result
        ↔
      ∃ answer, sent = [(.readWindow address length, answer)] ∧ result = answer.map (·.fit length) := by
  have hexchange := Request.exchange_readWindow h.generation address hmax
  have hreply : (Request.readWindow (UInt32.ofNat address) (UInt32.ofNat length)).replyLength = length :=
    congrArg Exchange.replyLength hexchange
  rw [sends_request (Request.fits_readWindow h.generation address hmax), hexchange, hreply]

theorem Handler.ServesMemory.reply_eq {outside : Handler sessionInterface σ} {memory : Bytes}
    (hserves : outside.ServesMemory memory) {asked : List (Entry deviceInterface)}
    (hanswers : outside.Answers (asked.map Entry.ofDevice)) {address length : Nat} {reply : Bytes}
    (hmem : (.readWindow address length, .ok reply) ∈ asked.filterMap Entry.sent?)
    (hinside : address + length ≤ memory.length) : reply = memory.slice address length := by
  obtain ⟨⟨c, answer⟩, hentry, hsent⟩ := List.mem_filterMap.mp hmem
  cases c with
  | exchange x =>
    cases hsent
    obtain ⟨s, hs⟩ := hanswers _ (List.mem_map_of_mem hentry)
    exact hserves.read hinside hs.symm
  | _ => cases hsent

theorem Handle.fetched_of_sends_readBytes {h : Handle} {memory : Bytes} (hmemory : memory.length = windowSize)
    {address length : Nat} (hinside : address + length ≤ memory.length) {sent : List Sent} {result : Except Error Bytes}
    (hserved : ∀ address length reply, (.readWindow address length, .ok reply) ∈ sent →
      address + length ≤ memory.length → reply = memory.slice address length)
    (hsends : (Tunnelled.readBytes h address length).Sends sent result)
    : ∃ failure,
        Fetched (address + length) address (sent.filterMap Sent.fetch?) failure
          ∧
        result = memory.spanOrFailure address length failure := by
  unfold Tunnelled.readBytes at hsends
  fun_induction spans maxDataLength address length generalizing sent result with
  | case1 address =>
    obtain ⟨rfl, rfl⟩ := Operation.sends_pure.mp hsends
    refine ⟨none, Fetched.done, ?_⟩
    rw [Bytes.spanOrFailure, Bytes.slice_zero]
  | case2 => contradiction
  | case3 address length hsome hsize ih =>
    have hmax : min maxDataLength length ≤ maxDataLength := Nat.min_le_left _ _
    have hinside : address + min maxDataLength length ≤ windowSize := by omega
    have hfetch := Sent.fetch?_readWindow hinside
    rw [Tunnelled.readBytes.go] at hsends
    rcases Operation.sends_bind.mp hsends with ⟨e, hfail, rfl⟩ | ⟨data, s₁, s₂, rfl, hfirst, hrest⟩
    . obtain ⟨answer, rfl, hanswer⟩ := (sends_readWindow hmax).mp hfail
      cases answer with
      | ok _ => cases hanswer
      | error cause =>
        cases hanswer
        refine ⟨some (address, e), ?_, rfl⟩
        rw [List.filterMap_cons, hfetch]
        exact Fetched.failed (by omega) (by omega) e
    . obtain ⟨answer, rfl, hanswer⟩ := (sends_readWindow hmax).mp hfirst
      obtain ⟨others, hothers, rfl⟩ := Operation.sends_bind_pure.mp hrest
      cases answer with
      | error _ => cases hanswer
      | ok reply =>
        have hdata : data = memory.slice address (min maxDataLength length) := by
          rw [Except.ok.inj hanswer, hserved _ _ reply List.mem_cons_self (by omega)]
          exact Bytes.fit_eq_self (Bytes.length_slice (by omega))
        have hserved' := fun address length reply hmem => hserved address length reply (List.mem_append_right _ hmem)
        obtain ⟨failure, hfetched, rfl⟩ := ih (by omega) hserved' hothers
        rw [Nat.add_assoc, Nat.add_sub_cancel' (Nat.min_le_right _ _)] at hfetched
        refine ⟨failure, ?_, ?_⟩
        . rw [List.filterMap_append, List.filterMap_cons, hfetch]
          exact Fetched.next hfetched
        . cases failure with
          | some place => rfl
          | none =>
            rw [hdata]
            change Except.ok (_ ++ _) = Except.ok _
            rw [Bytes.slice_append, Nat.add_sub_cancel' (Nat.min_le_right _ _)]

theorem Handle.window_fetches (h : Handle) {outside : Handler sessionInterface σ} {memory : Bytes}
    (hserves : outside.ServesMemory memory) (hmemory : memory.length = windowSize)
    : Window.Fetches (h.window.map onDevice) outside memory where
  size := hmemory.symm
  readBytes {address length u result} hinside hyields hanswers := by
    obtain ⟨asked, rfl, hasked⟩ := yields_onDevice.mp hyields
    refine ⟨Entry.filterMap_printed_ofDevice asked, ?_⟩
    rw [Entry.filterMap_fetch_ofDevice]
    exact fetched_of_sends_readBytes hmemory hinside (fun _ _ _ => hserves.reply_eq hanswers) ⟨asked, hasked, rfl⟩

theorem Mapping.window_fetches {size : Nat} {outside : Handler sessionInterface σ} {memory : Bytes}
    (hserves : outside.ServesMemory memory) (hsize : size = memory.length) (writable : Bool)
    : Window.Fetches ((Mapping.window ⟨size, writable⟩).map onMemory) outside memory where
  size := hsize
  readBytes {address length u result} hinside hyields hanswers := by
    have hload : (Mapping.window ⟨size, writable⟩).readBytes address length = load address length := by
      unfold window
      dsimp only
      rw [locate_eq_ok (hsize ▸ hinside) (Nat.mod_one address)]
      rfl
    obtain ⟨asked, rfl, hasked⟩ := yields_onMemory.mp hyields
    rw [hload] at hasked
    obtain ⟨data, rest, rfl, hrest⟩ := yields_ask.mp hasked
    obtain ⟨rfl, rfl⟩ := yields_done.mp hrest
    obtain ⟨s, hs⟩ := hanswers _ List.mem_cons_self
    refine ⟨rfl, none, Fetched.next Fetched.done, ?_⟩
    have hdata : data = memory.slice address length := hs.trans (hserves.load hinside)
    rw [hdata]
    rfl

namespace Window.Fetches

variable {w : Context.Registers} {outside : Handler sessionInterface σ} {memory : Bytes}

theorem readSpan (h : w.Fetches outside memory) {address length : Nat} (hinside : address + length ≤ memory.length)
    {u : List (Entry sessionInterface)} {result : Except Failure Bytes}
    (hyields : (ofDevice (w.readSpan address length)).run.Yields u result) (hanswers : outside.Answers u)
    : u.filterMap Entry.printed? = []
        ∧
      ∃ failure,
        Fetched (address + length) address (u.filterMap Entry.fetch?) failure
          ∧
        result = (memory.spanOrFailure address length failure).mapError .device := by
  obtain ⟨inner, hinner, rfl⟩ := yields_map.mp hyields
  have hspan : w.readSpan address length = w.readBytes address length := by
    unfold Window.readSpan
    rw [checkSpan_eq_ok_iff.mpr (h.size ▸ hinside)]
    rfl
  rw [hspan] at hinner
  obtain ⟨hprinted, failure, hfetched, rfl⟩ := h.readBytes hinside hinner hanswers
  exact ⟨hprinted, failure, hfetched, rfl⟩

end Window.Fetches

theorem Context.Reached.fetches {c : Context} {writable : Bool} {t : List (Entry sessionInterface)}
    {w : Context.Registers} (h : c.Reached writable t w) {outside : Handler sessionInterface σ} {memory : Bytes}
    (hserves : outside.ServesMemory memory) (hsize : c.tunnelled = true → memory.length = windowSize)
    (hanswers : outside.Answers t) : w.Fetches outside memory := by
  cases h with
  | tunnelled h htunnelled => exact h.window_fetches hserves (hsize htunnelled)
  | mapped hmapped hopened =>
    obtain ⟨s, hs⟩ := hanswers _ hopened
    exact Mapping.window_fetches hserves (hserves.opened hs.symm) writable

end PcieSwitch
