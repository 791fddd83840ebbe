import PcieSwitch.Program

/-!
This module contains the transcripts of programs: what a program asks and what it is answered, in order.
`Yields` says which transcripts a program can have and which value it then ends in, whatever is outside.
A run against a handler has one of them.
-/

namespace PcieSwitch

abbrev Entry (I : Interface) := (c : I.Call) × I.Answer c

variable {I : Interface}

namespace Program

inductive Yields : Program I α → List (Entry I) → α → Prop where
  | done (value : α) : Yields (.done value) [] value
  | ask (c : I.Call) (answer : I.Answer c) {next : I.Answer c → Program I α} :
    Yields (next answer) t value → Yields (.ask c next) (⟨c, answer⟩ :: t) value

def transcript (handler : Handler I σ) (program : Program I α) (state : σ) : List (Entry I) :=
  match program with
  | .done _ => []
  | .ask c next =>
    let (answer, state) := handler c state
    ⟨c, answer⟩ :: (next answer).transcript handler state

theorem yields_transcript (handler : Handler I σ) (program : Program I α) (state : σ)
    : program.Yields (program.transcript handler state) (program.run handler state).1 := by
  induction program generalizing state with
  | done => apply Yields.done
  | ask c next ih =>
    apply Yields.ask
    apply ih

theorem run_of_yields_transcript {handler : Handler I σ} {state : σ} {program : Program I α} {other : Program I β}
    {value : α} (h : program.Yields (other.transcript handler state) value)
    : program.transcript handler state = other.transcript handler state ∧ (program.run handler state).1 = value := by
  generalize ht : other.transcript handler state = t at h
  induction h generalizing other state with
  | done value => exact ⟨rfl, rfl⟩
  | ask c answer _ ih =>
    cases other with
    | done _ => cases ht
    | ask c' next =>
      cases ht
      obtain ⟨htranscript, hrun⟩ := ih rfl
      exact ⟨congrArg _ htranscript, hrun⟩

theorem yields_done {value other : α} {t : List (Entry I)}
    : (Program.done value).Yields t other ↔ t = [] ∧ other = value := by
  constructor
  . intro h
    cases h
    exact ⟨rfl, rfl⟩
  . rintro ⟨rfl, rfl⟩
    apply Yields.done

theorem yields_ofExcept {answer result : Except ε α} {t : List (Entry I)}
    : (ofExcept answer : ExceptT ε (Program I) α).run.Yields t result ↔ t = [] ∧ result = answer := by
  cases answer <;> apply yields_done

theorem yields_ask {c : I.Call} {next : I.Answer c → Program I α} {t : List (Entry I)} {value : α}
    : (Program.ask c next).Yields t value
        ↔
      ∃ answer rest, t = ⟨c, answer⟩ :: rest ∧ (next answer).Yields rest value := by
  constructor
  . intro h
    cases h with
    | ask c answer hrest => exact ⟨answer, _, rfl, hrest⟩
  . rintro ⟨answer, rest, rfl, hrest⟩
    apply Yields.ask
    exact hrest

theorem yields_bind {program : Program I α} {f : α → Program I β} {t : List (Entry I)} {value : β}
    : (program >>= f).Yields t value
        ↔
      ∃ middle t₁ t₂, t = t₁ ++ t₂ ∧ program.Yields t₁ middle ∧ (f middle).Yields t₂ value := by
  change (program.bind f).Yields t value ↔ _
  induction program generalizing t with
  | done start =>
    constructor
    . intro h
      exact ⟨start, [], t, rfl, Yields.done _, h⟩
    . rintro ⟨middle, t₁, t₂, rfl, hstart, hrest⟩
      rw [yields_done] at hstart
      rw [hstart.1, hstart.2] at *
      exact hrest
  | ask c next ih =>
    unfold Program.bind
    constructor
    . intro h
      obtain ⟨answer, rest, rfl, hrest⟩ := yields_ask.mp h
      obtain ⟨middle, t₁, t₂, rfl, h₁, h₂⟩ := (ih answer).mp hrest
      exact ⟨middle, ⟨c, answer⟩ :: t₁, t₂, rfl, Yields.ask c answer h₁, h₂⟩
    . rintro ⟨middle, t₁, t₂, rfl, h₁, h₂⟩
      obtain ⟨answer, rest, rfl, hrest⟩ := yields_ask.mp h₁
      apply Yields.ask
      apply (ih answer).mpr
      exact ⟨middle, rest, t₂, rfl, hrest, h₂⟩

theorem yields_run_bind {work : ExceptT ε (Program I) α} {f : α → ExceptT ε (Program I) β}
    {t : List (Entry I)} {result : Except ε β}
    : (work >>= f).run.Yields t result
        ↔
      (∃ e, work.run.Yields t (.error e) ∧ result = .error e) ∨
      (∃ value t₁ t₂, t = t₁ ++ t₂ ∧ work.run.Yields t₁ (.ok value) ∧ (f value).run.Yields t₂ result)
    := by
  rw [ExceptT.run_bind, yields_bind]
  constructor
  . rintro ⟨middle, t₁, t₂, rfl, h₁, h₂⟩
    cases middle with
    | error e =>
      obtain ⟨rfl, rfl⟩ := yields_done.mp h₂
      rw [List.append_nil]
      exact .inl ⟨e, h₁, rfl⟩
    | ok value => exact .inr ⟨value, t₁, t₂, rfl, h₁, h₂⟩
  . rintro (⟨e, h₁, rfl⟩ | ⟨value, t₁, t₂, rfl, h₁, h₂⟩)
    . exact ⟨.error e, t, [], (List.append_nil t).symm, h₁, Yields.done _⟩
    . exact ⟨.ok value, t₁, t₂, rfl, h₁, h₂⟩

end Program

/--
An outside answers the calls of a transcript as it says, and goes from one state to another by that.
-/
inductive Handler.Follows (outside : Handler I σ) : σ → List (Entry I) → σ → Prop where
  | nil (s : σ) : Follows outside s [] s
  | cons (c : I.Call) {s s' : σ} {t : List (Entry I)} :
    Follows outside (outside c s).2 t s' → Follows outside s (⟨c, (outside c s).1⟩ :: t) s'

def Handler.Answers (outside : Handler I σ) (t : List (Entry I)) : Prop :=
  ∀ entry ∈ t, ∃ s, entry.2 = (outside entry.1 s).1

namespace Handler

variable {outside : Handler I σ}

theorem Follows.answers {s s' : σ} {t : List (Entry I)} (h : outside.Follows s t s') : outside.Answers t := by
  induction h with
  | nil => apply List.forall_mem_nil
  | cons c _ ih => exact List.forall_mem_cons.mpr ⟨⟨_, rfl⟩, ih⟩

theorem follows_append {s s' : σ} {t u : List (Entry I)}
    : outside.Follows s (t ++ u) s' ↔ ∃ middle, outside.Follows s t middle ∧ outside.Follows middle u s' := by
  induction t generalizing s with
  | nil =>
    constructor
    . intro h
      exact ⟨s, Follows.nil s, h⟩
    . rintro ⟨_, hnil, h⟩
      cases hnil
      exact h
  | cons entry t ih =>
    constructor
    . rintro (_ | ⟨c, h⟩)
      obtain ⟨middle, ht, hu⟩ := ih.mp h
      exact ⟨middle, Follows.cons c ht, hu⟩
    . rintro ⟨middle, (_ | ⟨c, ht⟩), hu⟩
      exact Follows.cons c (ih.mpr ⟨middle, ht, hu⟩)

theorem follows_transcript (outside : Handler I σ) (program : Program I α) (s : σ)
    : outside.Follows s (program.transcript outside s) (program.run outside s).2 := by
  induction program generalizing s with
  | done => apply Follows.nil
  | ask c next ih => exact Follows.cons c (ih _ _)

/--
A run is known by a transcript that the program can have and that the outside follows.
-/
theorem Follows.run_eq {s s' : σ} {t : List (Entry I)} {program : Program I α} {value : α}
    (h : outside.Follows s t s') (hyields : program.Yields t value) : program.run outside s = (value, s') := by
  induction h generalizing program with
  | nil s =>
    cases hyields
    rfl
  | cons c _ ih =>
    cases hyields with
    | ask _ _ hrest => exact ih hrest

end Handler
end PcieSwitch
