import Mathlib.Logic.Function.Basic
import PcieSwitch.Proofs.Attempt
import PcieSwitch.Proofs.CounterEntries

/-!
This module contains counters that are kept as one record for each port. Serving a list of entries answers
each with the record of its port and may set that record back, so what an entry is answered depends on those
before it. A read that serves its ports in order does the same whether it is done at once or in parts.
-/

namespace PcieSwitch

def serve (fresh : β) (records : UInt8 → β) : List (UInt8 × Bool) → List β × (UInt8 → β)
  | [] => ([], records)
  | (port, clear) :: rest =>
    let left := if clear then Function.update records port fresh else records
    (records port :: (serve fresh left rest).1, (serve fresh left rest).2)

theorem serve_append (fresh : β) (records : UInt8 → β) (entries others : List (UInt8 × Bool))
    : serve fresh records (entries ++ others)
        =
      ((serve fresh records entries).1 ++ (serve fresh (serve fresh records entries).2 others).1,
        (serve fresh (serve fresh records entries).2 others).2) := by
  induction entries generalizing records with
  | nil => rfl
  | cons entry rest ih => rw [List.cons_append, serve, serve, ih, List.cons_append]

theorem length_serve (fresh : β) (records : UInt8 → β) (entries : List (UInt8 × Bool))
    : (serve fresh records entries).1.length = entries.length := by
  induction entries generalizing records with
  | nil => rfl
  | cons entry rest ih => rw [serve, List.length_cons, ih, List.length_cons]

def servePorts (fresh : β) (clear : Bool) (records : UInt8 → β) (ports : List UInt8)
    : List β × (UInt8 → β) :=
  serve fresh records (ports.map (·, clear))

theorem servePorts_append (fresh : β) (clear : Bool) (records : UInt8 → β) (ports others : List UInt8)
    : servePorts fresh clear records (ports ++ others)
        =
      ((servePorts fresh clear records ports).1
          ++ (servePorts fresh clear (servePorts fresh clear records ports).2 others).1,
        (servePorts fresh clear (servePorts fresh clear records ports).2 others).2) := by
  unfold servePorts
  rw [List.map_append, serve_append]

theorem length_servePorts (fresh : β) (clear : Bool) (records : UInt8 → β) (ports : List UInt8)
    : (servePorts fresh clear records ports).1.length = ports.length := by
  unfold servePorts
  rw [length_serve, List.length_map]

open Program (attempt attempt_bind_of_ok attempt_pure)

namespace Operation

def ActsAlike (outside : Handler deviceInterface σ) (view : σ → ρ) (operation other : Operation α)
    : Prop :=
  ∀ s, ∃ value s₁ s₂,
    attempt outside operation s = (.ok value, s₁)
      ∧
    attempt outside other s = (.ok value, s₂)
      ∧
    view s₁ = view s₂

def ReadsInOrder (outside : Handler deviceInterface σ) (records : σ → UInt8 → β) (fresh : β)
    (clear : Bool) (operation : Operation (List β)) (ports : List UInt8) : Prop :=
  ∀ s, ∃ s',
    attempt outside operation s = (.ok (servePorts fresh clear (records s) ports).1, s')
      ∧
    records s' = (servePorts fresh clear (records s) ports).2

namespace ReadsInOrder

variable {outside : Handler deviceInterface σ} {records : σ → UInt8 → β} {fresh : β} {clear : Bool}

theorem actsAlike {operation other : Operation (List β)} {ports : List UInt8}
    (hoperation : ReadsInOrder outside records fresh clear operation ports)
    (hother : ReadsInOrder outside records fresh clear other ports)
    : ActsAlike outside records operation other := by
  intro s
  obtain ⟨s₁, hrun, hleft⟩ := hoperation s
  obtain ⟨s₂, hrun', hleft'⟩ := hother s
  refine ⟨_, s₁, s₂, hrun, hrun', ?_⟩
  rw [hleft, hleft']

theorem nil : ReadsInOrder outside records fresh clear (pure []) [] := by
  intro s
  exact ⟨s, rfl, rfl⟩

theorem append {operation other : Operation (List β)} {ports others : List UInt8}
    (hoperation : ReadsInOrder outside records fresh clear operation ports)
    (hother : ReadsInOrder outside records fresh clear other others)
    : ReadsInOrder outside records fresh clear
        (do
          let first ← operation
          let rest ← other
          return first ++ rest)
        (ports ++ others) := by
  intro s
  obtain ⟨s₁, hfirst, hleft⟩ := hoperation s
  -- the second operation meets the records as the first one left them
  obtain ⟨s₂, hrest, hleft'⟩ := hother s₁
  refine ⟨s₂, ?_, ?_⟩
  . rw [attempt_bind_of_ok hfirst, attempt_bind_of_ok hrest, attempt_pure, servePorts_append, hleft]
  . rw [hleft', hleft, servePorts_append]

theorem paged {read : List UInt8 → Operation (List β)} {parts : List (List UInt8)} {ports : List UInt8}
    (hports : parts.flatten = ports)
    (h : ∀ part ∈ parts, ReadsInOrder outside records fresh clear (read part) part)
    : ReadsInOrder outside records fresh clear (Operation.paged read parts) ports := by
  induction parts generalizing ports with
  | nil =>
    rw [← hports]
    apply nil
  | cons part rest ih =>
    obtain ⟨hpart, hrest⟩ := List.forall_mem_cons.mp h
    rw [Operation.paged, ← hports, List.flatten_cons]
    apply append hpart
    apply ih rfl hrest

theorem mapM {read : UInt8 → Operation (List β)} {ports : List UInt8}
    (h : ∀ port ∈ ports, ReadsInOrder outside records fresh clear (read port) [port])
    : ReadsInOrder outside records fresh clear (do return (← ports.mapM read).flatten) ports := by
  induction ports with
  | nil =>
    rw [List.mapM_nil, pure_bind]
    apply nil
  | cons port rest ih =>
    obtain ⟨hport, hrest⟩ := List.forall_mem_cons.mp h
    have happend := append hport (ih hrest)
    simp only [List.mapM_cons, bind_assoc, pure_bind, List.flatten_cons] at happend ⊢
    exact happend

end ReadsInOrder
end Operation
end PcieSwitch
