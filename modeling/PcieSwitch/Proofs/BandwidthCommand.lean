import PcieSwitch.CommandLine.Action.Ports
import PcieSwitch.Proofs.CounterPages
import PcieSwitch.Proofs.Sessions

/-!
This module contains what the command that measures traffic tells. It takes two listings of the ports'
counters and pairs them by position, so its results are right for exactly those listings that name the same
port at the same position.
-/

namespace PcieSwitch

theorem Traffic.sub_left_inj {t t' u : Traffic} : t.sub u = t'.sub u ↔ t = t' := by
  cases t
  cases t'
  unfold sub
  simp only [Traffic.mk.injEq, UInt64.sub_left_inj]

theorem Bandwidth.sub_left_inj {b b' c : Bandwidth} : b.sub c = b'.sub c ↔ b = b' := by
  cases b
  cases b'
  unfold sub
  simp only [Bandwidth.mk.injEq, UInt64.sub_left_inj, Traffic.sub_left_inj]

theorem PortStatus.ofReply_of_sorted {reply : Bytes}
    (h : ((reply.read (Read.times maxPorts read)).filterMap id).Pairwise fun s t => s.le t = true)
    : PortStatus.ofReply reply = (reply.read (Read.times maxPorts read)).filterMap id := by
  unfold ofReply
  exact List.mergeSort_of_pairwise h

namespace Context

theorem length_trafficBetween (before after : List (PortId × Bandwidth))
    : (trafficBetween before after).length = min before.length after.length := by
  unfold trafficBetween
  rw [List.length_map, List.length_zip]

theorem getElem?_trafficBetween {before after : List (PortId × Bandwidth)} {i : Nat} {p q : PortId}
    {old new : Bandwidth} (hbefore : before[i]? = some (p, old)) (hafter : after[i]? = some (q, new))
    : (trafficBetween before after)[i]? = some (p, new.sub old) := by
  have hzip : (before.zip after)[i]? = some ((p, old), (q, new)) :=
    List.getElem?_zip_eq_some.mpr ⟨hbefore, hafter⟩
  unfold trafficBetween
  rw [List.getElem?_map, hzip]
  rfl

theorem exists_of_mem_trafficBetween {before after : List (PortId × Bandwidth)}
    {r : PortId × Bandwidth} (h : r ∈ trafficBetween before after)
    : ∃ (i : Nat) (q : PortId) (old new : Bandwidth),
        before[i]? = some (r.1, old) ∧ after[i]? = some (q, new) ∧ r.2 = new.sub old := by
  unfold trafficBetween at h
  obtain ⟨⟨⟨p, old⟩, ⟨q, new⟩⟩, hzip, rfl⟩ := List.mem_map.mp h
  obtain ⟨i, hi⟩ := List.mem_iff_getElem?.mp hzip
  obtain ⟨hbefore, hafter⟩ := List.getElem?_zip_eq_some.mp hi
  exact ⟨i, q, old, new, hbefore, hafter, rfl⟩

def listing (ports : List PortId) (counters : UInt8 → Bandwidth) : List (PortId × Bandwidth) :=
  ports.map fun p => (p, counters p.physical)

theorem getElem?_listing {ports : List PortId} {counters : UInt8 → Bandwidth} {i : Nat} {p : PortId}
    {b : Bandwidth}
    : (listing ports counters)[i]? = some (p, b) ↔ ports[i]? = some p ∧ b = counters p.physical := by
  unfold listing
  rw [List.getElem?_map, Option.map_eq_some_iff]
  constructor
  . rintro ⟨q, hq, heq⟩
    cases heq
    exact ⟨hq, rfl⟩
  . rintro ⟨hp, rfl⟩
    exact ⟨p, hp, rfl⟩

/--
Whatever the ports count, each result is the difference of its own port's counters: this holds for the
listings that agree on the physical port wherever both have one, and for no others.
-/
theorem results_are_own_iff {first second : List PortId}
    : (∀ counters counters', ∀ r ∈ trafficBetween (listing first counters) (listing second counters'),
        r.2 = (counters' r.1.physical).sub (counters r.1.physical))
        ↔
      ∀ (i : Nat) (p q : PortId), first[i]? = some p → second[i]? = some q → p.physical = q.physical := by
  constructor
  . intro hown i p q hp hq
    -- only the port of the second listing has counted anything
    let quiet : UInt8 → Bandwidth := fun _ => .zero
    let busy : UInt8 → Bandwidth := fun n => if n = q.physical then ⟨1, .zero, .zero⟩ else .zero
    have hresult := getElem?_trafficBetween
      (getElem?_listing.mpr ⟨hp, rfl⟩ : (listing first quiet)[i]? = some (p, quiet p.physical))
      (getElem?_listing.mpr ⟨hq, rfl⟩ : (listing second busy)[i]? = some (q, busy q.physical))
    have hequal := hown quiet busy _ (List.mem_of_getElem? hresult)
    rw [Bandwidth.sub_left_inj] at hequal
    dsimp only [busy] at hequal
    rw [if_pos rfl] at hequal
    by_cases hsame : p.physical = q.physical
    . exact hsame
    . rw [if_neg hsame] at hequal
      contradiction
  . intro hsame counters counters' r hr
    obtain ⟨i, q, old, new, hbefore, hafter, heq⟩ := exists_of_mem_trafficBetween hr
    obtain ⟨hp, rfl⟩ := getElem?_listing.mp hbefore
    obtain ⟨hq, rfl⟩ := getElem?_listing.mp hafter
    rw [heq, hsame i r.1 q hp hq]

def trafficPieces (c : Context) (localPartition : UInt8) (verbose : Bool)
    (results : List (PortId × Bandwidth)) : List Bytes :=
  c.pieces (Json.list (fun (port, b) => .array [port.toJson, b.toJson]) results)
    (Report.bandwidthLines localPartition verbose results)

theorem measured_of_shows {h : Handle} {clear : Bool} {step : String} {sent : List Sent}
    {printed : List Bytes} {result : Except Failure (List (PortId × Bandwidth))}
    (hshows : (Session.within step (Session.perform (h.bandwidthOfAll clear))).Shows sent printed result)
    : printed = []
        ∧
      ∀ listed, result = .ok listed → Measured h.generation clear sent listed := by
  obtain ⟨outer, hperform, rfl⟩ := Session.shows_within.mp hshows
  obtain ⟨inner, hsends, rfl, rfl⟩ := Session.shows_perform.mp hperform
  refine ⟨rfl, ?_⟩
  intro listed hlisted
  cases inner with
  | error e => cases hlisted
  | ok value =>
    cases hlisted
    exact Handle.measured_of_sends hsends

theorem traffic_of_shows {c : Context} {time : Option Nat} {verbose : Bool} {sent : List Sent}
    {printed : List Bytes} {result : Except Failure Unit}
    (hshows : (c.measureBandwidth time verbose).Shows sent printed result)
    : ((∃ e, result = .error e) ∧ printed = [])
        ∨
      ∃ (h : Handle) (before after : List (PortId × Bandwidth)) (s₁ s₂ : List Sent),
        result = .ok ()
          ∧
        sent = s₁ ++ s₂
          ∧
        Measured h.generation false s₁ before
          ∧
        Measured h.generation false s₂ after
          ∧
        printed = c.trafficPieces h.partition verbose (trafficBetween before after) := by
  unfold measureBandwidth at hshows
  -- every step but the last prints nothing, so a failing one leaves nothing printed
  rcases Session.shows_bind.mp hshows with ⟨e, hopen, rfl⟩ | ⟨h, _, _, _, _, rfl, rfl, hopen, hopened⟩
  . exact .inl ⟨⟨e, rfl⟩, (quiet_of_shows_openDevice hopen).2⟩
  obtain ⟨rfl, rfl⟩ := quiet_of_shows_openDevice hopen
  rcases Session.shows_bind.mp hopened with ⟨e, hfirst, rfl⟩ | ⟨before, s₁, _, _, _, rfl, rfl, hfirst, hlisted⟩
  . exact .inl ⟨⟨e, rfl⟩, (measured_of_shows hfirst).1⟩
  obtain ⟨rfl, hbefore⟩ := measured_of_shows hfirst
  rcases Session.shows_bind.mp hlisted with ⟨e, hwait, rfl⟩ | ⟨_, _, _, _, _, rfl, rfl, hwait, hwaited⟩
  . cases (shows_measure.mp hwait).2.2
  obtain ⟨rfl, rfl, _⟩ := shows_measure.mp hwait
  rcases Session.shows_bind.mp hwaited with ⟨e, hsecond, rfl⟩ | ⟨after, s₂, _, _, _, rfl, rfl, hsecond, hlast⟩
  . exact .inl ⟨⟨e, rfl⟩, (measured_of_shows hsecond).1⟩
  obtain ⟨rfl, hafter⟩ := measured_of_shows hsecond
  obtain ⟨rfl, rfl, rfl⟩ := shows_output.mp hlast
  refine .inr ⟨h, before, after, s₁, s₂, rfl, ?_, hbefore before rfl, hafter after rfl, rfl⟩
  rw [List.nil_append, List.nil_append, List.append_nil]

def Lists (listed : List (PortId × Bandwidth)) (physical : UInt8) (b : Bandwidth) : Prop :=
  ∃ p, (p, b) ∈ listed ∧ p.physical = physical

/--
What the command prints are the differences of two listings, taken position by position. A result is the
difference of its own port's counters exactly if the second listing has for that port the counters that
stand at the same position. Whatever the ports count, that is so for exactly those listings that agree on
the physical port wherever both have one.
-/
theorem bandwidth_is_paired_by_position (c : Context) (time : Option Nat) (verbose : Bool)
    (outside : Handler sessionInterface σ) (s : σ)
    : (((∃ e, (c.measureBandwidth time verbose).result outside s = .error e)
            ∧
          (c.measureBandwidth time verbose).printed outside s = [])
          ∨
        ∃ (h : Handle) (before after : List (PortId × Bandwidth)) (s₁ s₂ : List Sent),
          (c.measureBandwidth time verbose).result outside s = .ok ()
            ∧
          (c.measureBandwidth time verbose).sent outside s = s₁ ++ s₂
            ∧
          Measured h.generation false s₁ before
            ∧
          Measured h.generation false s₂ after
            ∧
          (c.measureBandwidth time verbose).printed outside s
            = c.trafficPieces h.partition verbose (trafficBetween before after)
            ∧
          (trafficBetween before after).length = min before.length after.length
            ∧
          ∀ (i : Nat) p old q new, before[i]? = some (p, old) → after[i]? = some (q, new) →
            (trafficBetween before after)[i]? = some (p, Bandwidth.sub new old)
              ∧
            ((∃ own, Lists after p.physical own ∧ Bandwidth.sub new old = own.sub old)
                ↔
              Lists after p.physical new))
        ∧
      ∀ first second : List PortId,
        (∀ counters counters', ∀ r ∈ trafficBetween (listing first counters) (listing second counters'),
          r.2 = (counters' r.1.physical).sub (counters r.1.physical))
          ↔
        ∀ (i : Nat) (p q : PortId), first[i]? = some p → second[i]? = some q →
          p.physical = q.physical := by
  refine ⟨?_, fun first second => results_are_own_iff⟩
  rcases traffic_of_shows (Session.shows_run outside (c.measureBandwidth time verbose) s) with
    hfail | ⟨h, before, after, s₁, s₂, hresult, hsent, hbefore, hafter, hprinted⟩
  . exact .inl hfail
  refine .inr ⟨h, before, after, s₁, s₂, hresult, hsent, hbefore, hafter, hprinted, ?_, ?_⟩
  . apply length_trafficBetween
  . intro i p old q new hp hq
    refine ⟨getElem?_trafficBetween hp hq, ?_⟩
    constructor
    . rintro ⟨own, hown, heq⟩
      rw [Bandwidth.sub_left_inj.mp heq]
      exact hown
    . intro hnew
      exact ⟨new, hnew, rfl⟩

/--
Ports 3 and 5 exchange their logical numbers while they are measured, and so their places in the listing.
Port 3 counts 100 bytes and port 5 counts 200. What is told is 210 and 90.
-/
theorem renumbered_ports_are_mixed
    : let entry (physical logical place : UInt8) : Bytes :=
        [physical, 0, logical, place, 4, 4, 0, 0x84, 3, 1, 0, 0]
      let unused : Bytes := (List.replicate 46 [255, 255, 255, 255, 4, 4, 0, 0, 0, 0, 0, 0]).flatten
      let snapshot (time posted : Nat) : Bytes := .ofNat 8 time ++ .ofNat 8 posted ++ .zeros 40
      let listed (status counters : Bytes) : List (PortId × Bandwidth) :=
        ((PortStatus.ofReply status).map PortStatus.port).zip (Bandwidth.ofReply 2 counters)
      let posted (ports : List (PortId × Bandwidth)) : List (UInt8 × UInt64) :=
        ports.map fun (p, b) => (p.physical, b.egress.posted)
      let before := listed (entry 3 1 0x00 ++ entry 5 2 0x01 ++ unused) (snapshot 1000 10 ++ snapshot 1000 20)
      let after := listed (entry 5 1 0x01 ++ entry 3 2 0x00 ++ unused) (snapshot 3000 220 ++ snapshot 3000 110)
      posted before = [(3, 10), (5, 20)]
        ∧
      posted after = [(5, 220), (3, 110)]
        ∧
      posted (trafficBetween before after) = [(3, 210), (5, 90)] := by
  dsimp only
  rw [PortStatus.ofReply_of_sorted (by decide +kernel), PortStatus.ofReply_of_sorted (by decide +kernel)]
  decide +kernel

end Context
end PcieSwitch
