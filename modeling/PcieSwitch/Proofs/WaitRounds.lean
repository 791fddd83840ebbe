import PcieSwitch.Proofs.EventAnswers

/-!
This module contains the rounds of waiting for what a summary can show: a wait, a summary if the switch woke up, and
a look at the clock, until it shows or the time is over.
-/

namespace PcieSwitch
namespace Entry

def summary? : Entry deviceInterface → Option Summary
  | ⟨.event .summary, .ok s⟩ => some s
  | _ => none

def reading? : Entry deviceInterface → Option Nanoseconds
  | ⟨.now, reading⟩ => some reading
  | _ => none

def isWait : Entry deviceInterface → Bool
  | ⟨.event (.wait _), _⟩ => true
  | _ => false

inductive Answered : Entry deviceInterface → Prop where
  | time (reading : Nanoseconds) : Answered ⟨.now, reading⟩
  | woken (left : Option Nanoseconds) (woken : Bool) : Answered ⟨.event (.wait left), .ok woken⟩
  | shown (s : Summary) : Answered ⟨.event .summary, .ok s⟩

end Entry

structure Round where
  before : Nanoseconds
  shown : Option Summary
  after : Nanoseconds

structure Watch where
  Shows : Summary → Prop
  timeout : Option Nanoseconds
  start : Nanoseconds

namespace Watch

variable (w : Watch)

def clock (reading : Nanoseconds) : List (Entry deviceInterface) :=
  match w.timeout with
  | none => []
  | some _ => [⟨.now, reading⟩]

def passed (reading : Nanoseconds) : Bool :=
  w.timeout.any (· ≤ reading - w.start)

def waiting (reading : Nanoseconds) (answer : Except Error Bool) : List (Entry deviceInterface) :=
  w.clock reading ++ [⟨.event (.wait (w.timeout.map (· - (reading - w.start)))), answer⟩]

def entries (r : Round) : List (Entry deviceInterface) :=
  w.waiting r.before (.ok r.shown.isSome) ++ r.shown.toList.map (fun s => ⟨.event .summary, .ok s⟩) ++ w.clock r.after

def Missed (r : Round) : Prop :=
  ∀ s, r.shown = some s → ¬w.Shows s

inductive Runs : Nat → List (Entry deviceInterface) → Except Error WaitOutcome → Prop where
  | abandoned : Runs 0 [] (.ok .abandoned)
  | waitFailed (reading : Nanoseconds) (e : Error) : Runs (n + 1) (w.waiting reading (.error e)) (.error e)
  | summaryFailed (reading : Nanoseconds) (e : Error) :
    Runs (n + 1) (w.waiting reading (.ok true) ++ [⟨.event .summary, .error e⟩]) (.error e)
  | occurred (reading : Nanoseconds) (s : Summary) : w.Shows s →
    Runs (n + 1) (w.waiting reading (.ok true) ++ [⟨.event .summary, .ok s⟩]) (.ok (.occurred s))
  | timedOut (r : Round) : w.Missed r → w.passed r.after = true → Runs (n + 1) (w.entries r) (.ok .timedOut)
  | again (r : Round) : w.Missed r → w.passed r.after = false → Runs n t outcome →
    Runs (n + 1) (w.entries r ++ t) outcome

variable {w : Watch} {r : Round} {n : Nat} {t : List (Entry deviceInterface)} {outcome : Except Error WaitOutcome}
  {reading : Nanoseconds} {answer : Except Error Bool}

@[simp]
theorem filterMap_summary_waiting : (w.waiting reading answer).filterMap Entry.summary? = [] := by
  unfold waiting clock
  cases w.timeout <;> rfl

theorem filterMap_summary_entries : (w.entries r).filterMap Entry.summary? = r.shown.toList := by
  unfold entries clock
  cases w.timeout <;> cases r.shown <;> simp [Entry.summary?]

theorem entries_append (r : Round) (rest : List (Entry deviceInterface))
    : w.entries r ++ rest
        =
      w.waiting r.before (.ok r.shown.isSome)
        ++ (r.shown.toList.map (fun s => ⟨.event .summary, .ok s⟩) ++ (w.clock r.after ++ rest)) := by
  unfold entries
  rw [List.append_assoc, List.append_assoc]

theorem answered_clock : ∀ y ∈ w.clock reading, y.Answered := by
  unfold clock
  intro y hy
  split at hy
  . contradiction
  . rw [List.mem_singleton.mp hy]
    exact .time reading

theorem answered_waiting {woken : Bool} : ∀ y ∈ w.waiting reading (.ok woken), y.Answered := by
  unfold waiting
  intro y hy
  rcases List.mem_append.mp hy with hclock | hwait
  . exact answered_clock y hclock
  . rw [List.mem_singleton.mp hwait]
    exact .woken _ woken

theorem answered_entries : ∀ y ∈ w.entries r, y.Answered := by
  unfold entries
  intro y hy
  rcases List.mem_append.mp hy with hasked | hclock
  . rcases List.mem_append.mp hasked with hwaiting | hsummary
    . exact answered_waiting y hwaiting
    . obtain ⟨s, _, rfl⟩ := List.mem_map.mp hsummary
      exact .shown s
  . exact answered_clock y hclock

namespace Runs

theorem summaries (h : w.Runs n t outcome)
    : ∃ missed, (∀ s ∈ missed, ¬w.Shows s)
        ∧
      ((∃ s, outcome = .ok (.occurred s) ∧ w.Shows s ∧ t.filterMap Entry.summary? = missed ++ [s]) ∨
        ((∀ s, outcome ≠ .ok (.occurred s)) ∧ t.filterMap Entry.summary? = missed)) := by
  have hshown : ∀ {r}, w.Missed r → ∀ s ∈ r.shown.toList, ¬w.Shows s := by
    intro r hmissed s hs
    exact hmissed s (Option.mem_toList.mp hs)
  induction h with
  | abandoned => exact ⟨[], by simp, .inr ⟨nofun, rfl⟩⟩
  | waitFailed reading e => exact ⟨[], by simp, .inr ⟨nofun, filterMap_summary_waiting⟩⟩
  | summaryFailed reading e => exact ⟨[], by simp, .inr ⟨nofun, by simp [Entry.summary?]⟩⟩
  | occurred reading s hshows => exact ⟨[], by simp, .inl ⟨s, rfl, hshows, by simp [Entry.summary?]⟩⟩
  | timedOut r hmissed _ => exact ⟨_, hshown hmissed, .inr ⟨nofun, filterMap_summary_entries⟩⟩
  | again r hmissed _ _ ih =>
    obtain ⟨missed, hmiss, hlast⟩ := ih
    refine ⟨r.shown.toList ++ missed, ?_, ?_⟩
    . intro s hs
      rcases List.mem_append.mp hs with hs | hs
      . exact hshown hmissed s hs
      . exact hmiss s hs
    . rw [List.filterMap_append, filterMap_summary_entries]
      rcases hlast with ⟨s, houtcome, hshows, ht⟩ | ⟨houtcome, ht⟩
      . exact .inl ⟨s, houtcome, hshows, by rw [ht, List.append_assoc]⟩
      . exact .inr ⟨houtcome, by rw [ht]⟩

theorem passed_of_timedOut (h : w.Runs n t (.ok .timedOut))
    : ∃ reading, w.passed reading = true ∧ (t.filterMap Entry.reading?).getLast? = some reading := by
  generalize houtcome : Except.ok WaitOutcome.timedOut = outcome at h
  induction h with
  | timedOut r _ hpassed =>
    refine ⟨r.after, hpassed, ?_⟩
    unfold entries clock
    unfold passed at hpassed
    cases htimeout : w.timeout with
    | none =>
      rw [htimeout] at hpassed
      cases hpassed
    | some limit =>
      rw [List.filterMap_append]
      simp [Entry.reading?]
  | again r _ _ _ ih =>
    obtain ⟨reading, hpassed, hlast⟩ := ih houtcome
    refine ⟨reading, hpassed, ?_⟩
    rw [List.filterMap_append, List.getLast?_append, hlast]
    rfl
  | _ => cases houtcome

theorem countP_isWait_of_zero (h : w.Runs (n + 1) t outcome) (hzero : w.timeout = some 0)
    : t.countP Entry.isWait = 1 := by
  cases h with
  | again r _ hpassed _ =>
    unfold passed at hpassed
    rw [hzero] at hpassed
    simp at hpassed
  | timedOut r _ _ =>
    unfold entries waiting clock
    rw [hzero]
    cases r.shown <;> rfl
  | _ =>
    unfold waiting clock
    rw [hzero]
    rfl

theorem answered (h : w.Runs n t outcome)
    : (∃ o, outcome = .ok o ∧ ∀ y ∈ t, y.Answered) ∨
      (∃ before c e, outcome = .error e ∧ t = before ++ [⟨.event c, .error e⟩] ∧ (∀ y ∈ before, y.Answered)
        ∧ ∀ event index flags, c ≠ .control event index flags) := by
  induction h with
  | abandoned => exact .inl ⟨_, rfl, List.forall_mem_nil _⟩
  | waitFailed reading e =>
    exact .inr ⟨w.clock reading, _, e, rfl, rfl, answered_clock, nofun⟩
  | summaryFailed reading e =>
    exact .inr ⟨w.waiting reading (.ok true), _, e, rfl, rfl, answered_waiting, nofun⟩
  | occurred reading s _ =>
    refine .inl ⟨_, rfl, ?_⟩
    rw [List.forall_mem_append, List.forall_mem_singleton]
    exact ⟨answered_waiting, .shown s⟩
  | timedOut r _ _ => exact .inl ⟨_, rfl, answered_entries⟩
  | again r _ _ _ ih =>
    rcases ih with ⟨o, houtcome, ht⟩ | ⟨before, c, e, houtcome, rfl, hbefore, hc⟩
    . exact .inl ⟨o, houtcome, List.forall_mem_append.mpr ⟨answered_entries, ht⟩⟩
    . refine .inr ⟨w.entries r ++ before, c, e, houtcome, (List.append_assoc _ _ _).symm, ?_, hc⟩
      exact List.forall_mem_append.mpr ⟨answered_entries, hbefore⟩

theorem control_not_mem (h : w.Runs n t outcome) {event : Event} {index : EventIndex} {flags : UInt32}
    {answer : (EventCall.control event index flags).Answer}
    : ⟨.event (.control event index flags), answer⟩ ∉ t := by
  intro hmem
  rcases h.answered with ⟨_, _, ht⟩ | ⟨before, c, e, _, rfl, hbefore, hc⟩
  . cases ht _ hmem
  . rcases List.mem_append.mp hmem with hmem | hmem
    . cases hbefore _ hmem
    . cases List.mem_singleton.mp hmem
      exact hc event index flags rfl

theorem more (h : w.Runs n t outcome) (houtcome : outcome ≠ .ok .abandoned) (more : Nat)
    : w.Runs (n + more) t outcome := by
  have hsucc : ∀ n, n + 1 + more = n + more + 1 := fun n => Nat.add_right_comm n 1 more
  induction h with
  | abandoned => contradiction
  | waitFailed reading e =>
    rw [hsucc]
    exact .waitFailed reading e
  | summaryFailed reading e =>
    rw [hsucc]
    exact .summaryFailed reading e
  | occurred reading s hshows =>
    rw [hsucc]
    exact .occurred reading s hshows
  | timedOut r hmissed hpassed =>
    rw [hsucc]
    exact .timedOut r hmissed hpassed
  | again r hmissed hpassed _ ih =>
    rw [hsucc]
    exact .again r hmissed hpassed (ih houtcome)

end Runs
end Watch

namespace Handle

open Operation

variable {h : Handle} {w : Watch} {marked : Summary} {t : List (Entry deviceInterface)}

theorem yields_left_bind {f : Option Nanoseconds → Operation α} {result : Except Error α}
    : (waitMarked.left w.timeout w.start >>= f).run.Yields t result
        ↔
      ∃ reading rest,
        t = w.clock reading ++ rest
          ∧
        (f (w.timeout.map (· - (reading - w.start)))).run.Yields rest result := by
  unfold waitMarked.left Watch.clock
  cases w.timeout with
  | none =>
    constructor
    . intro h
      exact ⟨0, t, rfl, h⟩
    . rintro ⟨_, rest, rfl, h⟩
      exact h
  | some limit => exact yields_ask_bind

theorem yields_expired_bind {f : Bool → Operation α} {result : Except Error α}
    : (waitMarked.expired w.timeout w.start >>= f).run.Yields t result
        ↔
      ∃ reading rest, t = w.clock reading ++ rest ∧ (f (w.passed reading)).run.Yields rest result := by
  unfold waitMarked.expired Watch.clock Watch.passed
  cases w.timeout with
  | none =>
    constructor
    . intro h
      exact ⟨0, t, rfl, h⟩
    . rintro ⟨_, rest, rfl, h⟩
      exact h
  | some limit => exact yields_ask_bind

theorem yields_wait_bind (hevents : h.hasEvents = true) {f : Bool → Operation α} {result : Except Error α}
    : (waitMarked.left w.timeout w.start >>= fun remaining => h.waitEvents remaining >>= f).run.Yields t result
        ↔
      ∃ reading,
        (∃ e, t = w.waiting reading (.error e) ∧ result = .error e) ∨
        (∃ woken rest, t = w.waiting reading (.ok woken) ++ rest ∧ (f woken).run.Yields rest result) := by
  rw [yields_left_bind]
  refine exists_congr fun reading => ?_
  unfold Watch.waiting
  constructor
  . rintro ⟨_, rfl, hwait⟩
    rcases (yields_askEvents_bind hevents).mp hwait with ⟨e, rfl, rfl⟩ | ⟨woken, rest, rfl, hrest⟩
    . exact .inl ⟨e, rfl, rfl⟩
    . exact .inr ⟨woken, rest, List.append_cons _ _ _, hrest⟩
  . rintro (⟨e, rfl, rfl⟩ | ⟨woken, rest, rfl, hrest⟩)
    . exact ⟨_, rfl, (yields_askEvents_bind hevents).mpr (.inl ⟨e, rfl, rfl⟩)⟩
    . rw [List.append_assoc]
      exact ⟨_, rfl, (yields_askEvents_bind hevents).mpr (.inr ⟨woken, rest, rfl, hrest⟩)⟩

theorem yields_checkEvents_bind (hevents : h.hasEvents = true) {f : Bool × Summary → Operation α}
    {result : Except Error α}
    : (h.checkEvents marked >>= f).run.Yields t result
        ↔
      (∃ e, t = [⟨.event .summary, .error e⟩] ∧ result = .error e) ∨
      (∃ s rest, t = ⟨.event .summary, .ok s⟩ :: rest ∧ (f (marked.intersects s, s)).run.Yields rest result) := by
  unfold checkEvents summary
  rw [bind_assoc]
  exact yields_askEvents_bind hevents

theorem yields_again {n : Nat} {outcome : Except Error WaitOutcome}
    : (do
        if ← waitMarked.expired w.timeout w.start then
          return .timedOut
        h.waitMarked marked w.timeout w.start n : Operation WaitOutcome).run.Yields t outcome
        ↔
      ∃ reading rest,
        t = w.clock reading ++ rest
          ∧
        ((w.passed reading = true ∧ rest = [] ∧ outcome = .ok .timedOut) ∨
          (w.passed reading = false ∧ (h.waitMarked marked w.timeout w.start n).run.Yields rest outcome)) := by
  rw [yields_expired_bind]
  refine exists_congr fun reading => exists_congr fun rest => and_congr_right fun _ => ?_
  cases w.passed reading with
  | true =>
    simp only [true_and, Bool.true_eq_false, false_and, or_false]
    exact yields_pure
  | false => simp

theorem yields_waitMarked_succ (hevents : h.hasEvents = true) {n : Nat} {outcome : Except Error WaitOutcome}
    : (h.waitMarked marked w.timeout w.start (n + 1)).run.Yields t outcome
        ↔
      (∃ reading e, t = w.waiting reading (.error e) ∧ outcome = .error e) ∨
      (∃ reading e, t = w.waiting reading (.ok true) ++ [⟨.event .summary, .error e⟩] ∧ outcome = .error e) ∨
      (∃ reading s, t = w.waiting reading (.ok true) ++ [⟨.event .summary, .ok s⟩]
        ∧ marked.intersects s = true ∧ outcome = .ok (.occurred s)) ∨
      (∃ r rest, t = w.entries r ++ rest ∧ (∀ s, r.shown = some s → marked.intersects s = false)
        ∧ ((w.passed r.after = true ∧ rest = [] ∧ outcome = .ok .timedOut) ∨
          (w.passed r.after = false ∧ (h.waitMarked marked w.timeout w.start n).run.Yields rest outcome))) := by
  rw [waitMarked, yields_wait_bind hevents]
  constructor
  . rintro ⟨before, ⟨e, rfl, rfl⟩ | ⟨woken, rest, rfl, hrest⟩⟩
    . exact .inl ⟨before, e, rfl, rfl⟩
    . cases woken with
      | false =>
        obtain ⟨after, rest, rfl, hafter⟩ := yields_again.mp hrest
        have ht := Watch.entries_append (w := w) ⟨before, none, after⟩ rest
        exact .inr (.inr (.inr ⟨⟨before, none, after⟩, rest, ht.symm, by rintro s ⟨⟩, hafter⟩))
      | true =>
        rcases (yields_checkEvents_bind hevents).mp hrest with ⟨e, rfl, rfl⟩ | ⟨s, rest, rfl, hshown⟩
        . exact .inr (.inl ⟨before, e, rfl, rfl⟩)
        . cases hshows : marked.intersects s with
          | true =>
            rw [hshows] at hshown
            obtain ⟨rfl, rfl⟩ := yields_pure.mp hshown
            exact .inr (.inr (.inl ⟨before, s, rfl, hshows, rfl⟩))
          | false =>
            rw [hshows] at hshown
            obtain ⟨after, rest, rfl, hafter⟩ := yields_again.mp hshown
            have ht := Watch.entries_append (w := w) ⟨before, some s, after⟩ rest
            refine .inr (.inr (.inr ⟨⟨before, some s, after⟩, rest, ht.symm, ?_, hafter⟩))
            rintro _ ⟨⟩
            exact hshows
  . rintro (⟨reading, e, rfl, rfl⟩ | ⟨reading, e, rfl, rfl⟩ | ⟨reading, s, rfl, hshows, rfl⟩ |
      ⟨⟨before, shown, after⟩, rest, rfl, hmissed, hafter⟩)
    . exact ⟨reading, .inl ⟨e, rfl, rfl⟩⟩
    . refine ⟨reading, .inr ⟨true, _, rfl, ?_⟩⟩
      exact (yields_checkEvents_bind hevents).mpr (.inl ⟨e, rfl, rfl⟩)
    . refine ⟨reading, .inr ⟨true, _, rfl, ?_⟩⟩
      refine (yields_checkEvents_bind hevents).mpr (.inr ⟨s, _, rfl, ?_⟩)
      rw [hshows]
      exact yields_pure.mpr ⟨rfl, rfl⟩
    . have hagain := (yields_again (h := h) (w := w)).mpr ⟨after, rest, rfl, hafter⟩
      refine ⟨before, .inr ⟨_, _, Watch.entries_append _ _, ?_⟩⟩
      cases shown with
      | none => exact hagain
      | some s =>
        refine (yields_checkEvents_bind hevents).mpr (.inr ⟨s, _, rfl, ?_⟩)
        rw [hmissed s rfl]
        exact hagain

/--
A summary that meets exactly those which show what is waited for is waited for in these runs.
-/
theorem yields_waitMarked_iff (hevents : h.hasEvents = true)
    (hmarked : ∀ s, marked.intersects s = true ↔ w.Shows s) {n : Nat} {outcome : Except Error WaitOutcome}
    : (h.waitMarked marked w.timeout w.start n).run.Yields t outcome ↔ w.Runs n t outcome := by
  have hmissed : ∀ r, (∀ s, r.shown = some s → marked.intersects s = false) ↔ w.Missed r := by
    intro r
    unfold Watch.Missed
    simp only [← hmarked, Bool.not_eq_true]
  induction n generalizing t with
  | zero =>
    constructor
    . intro hyields
      obtain ⟨rfl, rfl⟩ := yields_pure.mp hyields
      exact .abandoned
    . rintro ⟨⟩
      exact yields_pure.mpr ⟨rfl, rfl⟩
  | succ n ih =>
    simp only [yields_waitMarked_succ hevents, hmarked, hmissed, ih]
    constructor
    . rintro (⟨reading, e, rfl, rfl⟩ | ⟨reading, e, rfl, rfl⟩ | ⟨reading, s, rfl, hshows, rfl⟩ |
        ⟨r, rest, rfl, hmiss, ⟨hpassed, rfl, rfl⟩ | ⟨hpassed, hruns⟩⟩)
      . exact .waitFailed reading e
      . exact .summaryFailed reading e
      . exact .occurred reading s hshows
      . rw [List.append_nil]
        exact .timedOut r hmiss hpassed
      . exact .again r hmiss hpassed hruns
    . intro hruns
      cases hruns with
      | waitFailed reading e => exact .inl ⟨reading, e, rfl, rfl⟩
      | summaryFailed reading e => exact .inr (.inl ⟨reading, e, rfl, rfl⟩)
      | occurred reading s hshows => exact .inr (.inr (.inl ⟨reading, s, rfl, hshows, rfl⟩))
      | timedOut r hmiss hpassed =>
        exact .inr (.inr (.inr ⟨r, [], (List.append_nil _).symm, hmiss, .inl ⟨hpassed, rfl, rfl⟩⟩))
      | again r hmiss hpassed hruns =>
        exact .inr (.inr (.inr ⟨r, _, rfl, hmiss, .inr ⟨hpassed, hruns⟩⟩))

end Handle
end PcieSwitch
