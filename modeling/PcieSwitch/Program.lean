/-!
This module contains programs: descriptions of what is asked of the outside, in which order, and what
becomes of the answers. A program does nothing by itself. A handler answers its calls, so one program
runs against a real device, a simulated one or a proof's arbitrary one.
-/

namespace PcieSwitch

/--
What can be asked of the outside, and what each question is answered with.
-/
structure Interface where
  Call : Type
  Answer : Call → Type

inductive Program (I : Interface) (α : Type) where
  | done (value : α)
  | ask (call : I.Call) (next : I.Answer call → Program I α)

abbrev Handler (I : Interface) (σ : Type) := (call : I.Call) → StateM σ (I.Answer call)

namespace Program

def bind (program : Program I α) (next : α → Program I β) : Program I β :=
  match program with
  | .done value => next value
  | .ask call rest => .ask call fun answer => (rest answer).bind next

instance : Monad (Program I) where
  pure := done
  bind := bind

def call (c : I.Call) : Program I (I.Answer c) :=
  .ask c .done

def run (handler : Handler I σ) (program : Program I α) (state : σ) : α × σ :=
  match program with
  | .done value => (value, state)
  | .ask c next =>
    let (answer, state) := handler c state
    (next answer).run handler state

def lower (f : (c : I.Call) → Program J (I.Answer c)) : Program I α → Program J α
  | .done value => .done value
  | .ask c next => (f c).bind fun answer => (next answer).lower f

def interpret [Monad m] (f : (c : I.Call) → m (I.Answer c)) : Program I α → m α
  | .done value => pure value
  | .ask c next => do
    let answer ← f c
    (next answer).interpret f

@[simp]
theorem bind_done (program : Program I α) : program.bind .done = program := by
  induction program with
  | done => rfl
  | ask c next ih => simp [bind, ih]

theorem bind_assoc (program : Program I α) (f : α → Program I β) (g : β → Program I γ) :
    (program.bind f).bind g = program.bind fun value => (f value).bind g := by
  induction program with
  | done => rfl
  | ask c next ih => simp [bind, ih]

instance : LawfulMonad (Program I) :=
  LawfulMonad.mk' (Program I) bind_done (fun _ _ => rfl) bind_assoc

theorem run_bind (handler : Handler I σ) (program : Program I α) (f : α → Program I β) (state : σ) :
    (program.bind f).run handler state =
      (f (program.run handler state).1).run handler (program.run handler state).2 := by
  induction program generalizing state with
  | done => rfl
  | ask c next ih => exact ih _ _

end Program

def Handler.traced (handler : Handler I σ) : Handler I (σ × List I.Call) := fun c (state, trace) =>
  let (answer, state) := handler c state
  (answer, state, c :: trace)

end PcieSwitch
