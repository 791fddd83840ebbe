import PcieSwitch.CommandLine.Invocation
import PcieSwitch.Proofs.Checks

/-!
This module contains where the options that a command is given come from. A flag is among what was given only if an
argument spells it.
-/

namespace PcieSwitch

theorem of_ite_throw_eq_ok {c : Prop} [Decidable c] {e : ε} {f : α → Except ε β} {work : Except ε β} {value : β}
    (h : (if c then throw e >>= f else work) = .ok value) : ¬ c ∧ work = .ok value := by
  split at h
  . cases h
  . next hc => exact ⟨hc, h⟩

theorem eq_ok_of_toOption {answer : Except ε α} {value : α} (h : answer.toOption = some value) : answer = .ok value := by
  cases answer with
  | error _ => cases h
  | ok _ => exact congrArg Except.ok (Option.some.inj h)

theorem of_ite_bind_throw_eq_ok {c : Prop} [Decidable c] {check : Except ε γ} {e : ε} {f : α → Except ε β}
    {work : Except ε β} {value : β} (h : (if c then check >>= fun _ => throw e >>= f else work) = .ok value)
    : ¬ c ∧ work = .ok value := by
  split at h
  . obtain ⟨_, _, h⟩ := bind_eq_ok_iff.mp h
    cases h
  . next hc => exact ⟨hc, h⟩

namespace Grammar

def State.Mentions (st : State) (name : String) : Prop :=
  st.given.has name = true ∨ ∃ rule values, st.opened = some (rule, values) ∧ rule.name = name

theorem State.not_mentions_start {name : String} : ¬ State.Mentions {} name := by
  rintro (hhas | ⟨_, _, hopened, _⟩)
  . cases hhas
  . cases hopened

structure ReservesFlag (name : String) (letter : Char) (g : Grammar) : Prop where
  option : ∀ rule ∈ g.options, rule.name = name → rule.takes = .nothing ∧ rule.short = some letter
  positional : ∀ rule ∈ g.positionals, rule.name ≠ name

instance (name : String) (letter : Char) (g : Grammar) : Decidable (g.ReservesFlag name letter) :=
  decidable_of_iff
    ((∀ rule ∈ g.options, rule.name = name → rule.takes = .nothing ∧ rule.short = some letter) ∧
      ∀ rule ∈ g.positionals, rule.name ≠ name)
    ⟨fun h => ⟨h.1, h.2⟩, fun h => ⟨h.option, h.positional⟩⟩

inductive Every (P : Grammar → Prop) : Grammar → Prop where
  | intro {g : Grammar} : P g → (∀ sub ∈ g.subcommands, Every P sub) → Every P g

def Spells (name : String) (letter : Char) (arg : String) : Prop :=
  arg.toList = '-' :: '-' :: name.toList ∨
    ∃ c letters, arg.toList = '-' :: c :: letters ∧ c ≠ '-' ∧ letter ∈ c :: letters

variable {name : String} {letter : Char} {g : Grammar} {st st' : State} {rule : OptionRule}

theorem exists_of_settleOption {given given' : Given} {values : List String}
    (h : settleOption given rule values = .ok given') : ∃ vs, given' = given ++ [(rule.name, vs)] := by
  unfold settleOption at h
  obtain ⟨_, h⟩ := of_ite_throw_eq_ok h
  split at h
  . obtain ⟨_, h⟩ := of_ite_throw_eq_ok h
    cases h
    exact ⟨_, rfl⟩
  . obtain ⟨_, h⟩ := of_ite_throw_eq_ok h
    obtain ⟨_, _, h⟩ := bind_eq_ok_iff.mp h
    cases h
    exact ⟨_, rfl⟩
  . obtain ⟨_, _, h⟩ := bind_eq_ok_iff.mp h
    cases h
    exact ⟨_, rfl⟩

theorem has_of_settleOption {given given' : Given} {values : List String}
    (h : settleOption given rule values = .ok given') (hhas : given'.has name = true)
    : given.has name = true ∨ rule.name = name := by
  obtain ⟨vs, rfl⟩ := exists_of_settleOption h
  unfold Given.has at *
  rw [List.any_append, Bool.or_eq_true] at hhas
  exact hhas.imp id fun hrule => by simpa using hrule

theorem mentions_of_settle (h : settle st = .ok st')
    : st'.opened = none ∧ (st'.given.has name = true → st.Mentions name) := by
  unfold settle at h
  split at h
  . next hopened =>
    cases h
    exact ⟨hopened, .inl⟩
  . next rule values hopened =>
    obtain ⟨given, hgiven, h⟩ := bind_eq_ok_iff.mp h
    cases h
    refine ⟨rfl, ?_⟩
    intro hhas
    apply (has_of_settleOption hgiven hhas).imp id
    intro hrule
    exact ⟨rule, values, hopened, hrule⟩

theorem mentions_of_takeOption {attached : Option String} (h : takeOption st rule attached = .ok st')
    (hmentions : st'.Mentions name) : st.Mentions name ∨ rule.name = name := by
  unfold takeOption at h
  obtain ⟨settled, hsettle, h⟩ := bind_eq_ok_iff.mp h
  obtain ⟨hnone, hsettled⟩ : settled.opened = none ∧ (settled.given.has name = true → st.Mentions name) :=
    mentions_of_settle hsettle
  have hgiven : ∀ {given values}, settleOption settled.given rule values = .ok given →
      State.Mentions { settled with given } name → st.Mentions name ∨ rule.name = name := by
    intro given values hsettle hmentions
    rcases hmentions with hhas | ⟨other, _, hopened, _⟩
    . exact (has_of_settleOption hsettle hhas).imp hsettled id
    . cases hnone.symm.trans hopened
  split at h
  . obtain ⟨given, hoption, h⟩ := bind_eq_ok_iff.mp h
    cases h
    exact hgiven hoption hmentions
  . obtain ⟨given, hoption, h⟩ := bind_eq_ok_iff.mp h
    cases h
    exact hgiven hoption hmentions
  . cases h
    rcases hmentions with hhas | ⟨other, _, hopened, hother⟩
    . exact .inl (hsettled hhas)
    . cases hopened
      exact .inr hother

theorem mentions_of_takeLong (hg : g.ReservesFlag name letter) {text : List Char} (h : g.takeLong st text = .ok st')
    (hmentions : st'.Mentions name) : st.Mentions name ∨ text = name.toList := by
  unfold takeLong at h
  dsimp only at h
  split at h
  . next rule hrule =>
    obtain ⟨hvalue, h⟩ := of_ite_throw_eq_ok h
    apply (mentions_of_takeOption h hmentions).imp id
    intro hname
    have hflag := hg.option rule (List.mem_of_find?_eq_some hrule) hname
    have hfound := List.find?_some hrule
    cases hsplit : Text.splitAtFirst? '=' text with
    | some =>
      -- a flag takes no value
      simp [hsplit, hflag.1] at hvalue
    | none =>
      rw [hsplit] at hfound
      have hlong : rule.name = String.ofList text := by simpa using hfound
      rw [← hname, hlong, String.toList_ofList]
  . obtain ⟨_, h⟩ := of_ite_throw_eq_ok h
    obtain ⟨_, h⟩ := of_ite_throw_eq_ok h
    obtain ⟨_, _, h⟩ := bind_eq_ok_iff.mp h
    cases h

theorem mentions_of_takeShorts (hg : g.ReservesFlag name letter) {letters : List Char}
    (h : g.takeShorts st letters = .ok st') (hmentions : st'.Mentions name)
    : st.Mentions name ∨ letter ∈ letters := by
  induction letters generalizing st with
  | nil =>
    cases h
    exact .inl hmentions
  | cons c cs ih =>
    unfold takeShorts at h
    split at h
    . next rule hrule =>
      have hletter : rule.name = name → letter ∈ c :: cs := by
        intro hname
        have hflag := hg.option rule (List.mem_of_find?_eq_some hrule) hname
        have hshort := List.find?_some hrule
        rw [hflag.2] at hshort
        have hc : letter = c := by simpa using hshort
        rw [hc]
        exact List.mem_cons_self
      split at h
      . obtain ⟨taken, htake, h⟩ := bind_eq_ok_iff.mp h
        rcases ih h with hmentioned | hmem
        . exact (mentions_of_takeOption htake hmentioned).imp id hletter
        . exact .inr (List.mem_cons_of_mem c hmem)
      . split at h
        all_goals exact (mentions_of_takeOption h hmentions).imp id hletter
    . obtain ⟨_, h⟩ := of_ite_bind_throw_eq_ok h
      obtain ⟨_, h⟩ := of_ite_bind_throw_eq_ok h
      cases h

theorem mentions_of_takePositional (hg : g.ReservesFlag name letter) {arg : String}
    (h : g.takePositional st arg = .ok st') (hmentions : st'.Mentions name) : st.Mentions name := by
  unfold takePositional at h
  split at h
  . next rule hrule =>
    obtain ⟨settled, hsettle, h⟩ := bind_eq_ok_iff.mp h
    cases h
    rcases hmentions with hhas | ⟨other, _, hopened, hother⟩
    . exact (mentions_of_settle hsettle).2 hhas
    . cases hopened
      exact absurd hother (hg.positional rule (List.mem_of_getElem? hrule))
  . obtain ⟨_, h⟩ := of_ite_throw_eq_ok h
    obtain ⟨_, h⟩ := of_ite_throw_eq_ok h
    cases h

inductive Moves (g : Grammar) (st : State) (arg : String) : State → Prop where
  | escape : Moves g st arg { st with escaped := true }
  | long {text : List Char} {next : State} (harg : arg.toList = '-' :: '-' :: text)
    (htake : g.takeLong st text = .ok next) : Moves g st arg next
  | shorts {c : Char} {cs : List Char} {next : State} (harg : arg.toList = '-' :: c :: cs) (hc : c ≠ '-')
    (htake : g.takeShorts st (c :: cs) = .ok next) : Moves g st arg next
  | value : Moves g st arg
      { st with opened := st.opened.map fun (rule, values) => (rule, values ++ [arg]), awaiting := false }
  | positional {next : State} (htake : g.takePositional st arg = .ok next) : Moves g st arg next

theorem Moves.mentions (h : g.Moves st arg st') (hg : g.ReservesFlag name letter) (hmentions : st'.Mentions name)
    : st.Mentions name ∨ Spells name letter arg := by
  cases h with
  | escape => exact .inl hmentions
  | long harg htake =>
    apply (mentions_of_takeLong hg htake hmentions).imp id
    rintro rfl
    exact .inl harg
  | shorts harg hc htake =>
    apply (mentions_of_takeShorts hg htake hmentions).imp id
    intro hletter
    exact .inr ⟨_, _, harg, hc, hletter⟩
  | value =>
    rcases hmentions with hhas | ⟨rule, values, hopened, hrule⟩
    . exact .inl (.inl hhas)
    . obtain ⟨⟨before, given⟩, hst, heq⟩ := Option.map_eq_some_iff.mp hopened
      cases heq
      exact .inl (.inr ⟨_, given, hst, hrule⟩)
  | positional htake => exact .inl (mentions_of_takePositional hg htake hmentions)

def readOwn (g : Grammar) (st : State) (arg : String) (args : List String)
    : Except UsageError (List (String × Given)) := do
  match arg.toList with
  | ['-', '-'] => g.read { st with escaped := true } args
  | '-' :: '-' :: text => g.read (← g.takeLong st text) args
  | '-' :: c :: cs => g.read (← g.takeShorts st (c :: cs)) args
  | _ =>
    if st.awaiting then
      g.read { st with opened := st.opened.map fun (rule, values) => (rule, values ++ [arg]), awaiting := false } args
    else
      g.read (← g.takePositional st arg) args

variable {arg : String} {args : List String} {levels : List (String × Given)}

theorem exists_moves_of_readOwn (h : g.readOwn st arg args = .ok levels)
    : ∃ next, g.Moves st arg next ∧ g.read next args = .ok levels := by
  unfold readOwn at h
  split at h
  . exact ⟨_, Moves.escape, h⟩
  . next text _ harg =>
    obtain ⟨next, htake, h⟩ := bind_eq_ok_iff.mp h
    exact ⟨next, Moves.long harg htake, h⟩
  . next c cs _ hc harg =>
    obtain ⟨next, htake, h⟩ := bind_eq_ok_iff.mp h
    exact ⟨next, Moves.shorts harg hc htake, h⟩
  . split at h
    . exact ⟨_, Moves.value, h⟩
    . obtain ⟨next, htake, h⟩ := bind_eq_ok_iff.mp h
      exact ⟨next, Moves.positional htake, h⟩

theorem read_cons_cases (h : g.read st (arg :: args) = .ok levels)
    : (∃ sub settled inner,
        sub ∈ g.subcommands
          ∧
        settle st = .ok settled
          ∧
        g.validate settled.given true = .ok ()
          ∧
        sub.read {} args = .ok inner
          ∧
        levels = (g.name, settled.given) :: inner) ∨
      ∃ next, g.Moves st arg next ∧ g.read next args = .ok levels := by
  unfold read at h
  dsimp only at h
  split at h
  . split at h
    . obtain ⟨_, h⟩ := of_ite_throw_eq_ok h
      split at h
      . next sub hsub =>
        obtain ⟨inner, hinner, h⟩ := bind_eq_ok_iff.mp h
        obtain ⟨settled, hsettle, h⟩ := bind_eq_ok_iff.mp h
        obtain ⟨_, hvalid, h⟩ := bind_eq_ok_iff.mp h
        cases h
        exact .inl ⟨sub, settled, inner, List.mem_of_find?_eq_some hsub, hsettle, hvalid, hinner, rfl⟩
      . exact .inr (exists_moves_of_readOwn h)
    . exact .inr (exists_moves_of_readOwn h)
  . obtain ⟨next, htake, h⟩ := bind_eq_ok_iff.mp h
    exact .inr ⟨next, Moves.positional htake, h⟩

theorem spelled_of_read (hg : g.Every (ReservesFlag name letter)) (h : g.read st args = .ok levels)
    {level : String × Given} (hlevel : level ∈ levels) (hhas : level.2.has name = true)
    : st.Mentions name ∨ ∃ arg ∈ args, Spells name letter arg := by
  -- on the arguments, for every command and state: a subcommand reads the rest with a state of its own
  induction args generalizing g st levels with
  | nil =>
    unfold read at h
    obtain ⟨settled, hsettle, h⟩ := bind_eq_ok_iff.mp h
    obtain ⟨_, _, h⟩ := bind_eq_ok_iff.mp h
    cases h
    cases List.mem_singleton.mp hlevel
    exact .inl ((mentions_of_settle hsettle).2 hhas)
  | cons arg args ih =>
    cases hg with
    | intro hown hbelow =>
      rcases read_cons_cases h with ⟨sub, settled, inner, hsub, hsettle, _, hread, rfl⟩ | ⟨next, hmoves, hread⟩
      . rcases List.mem_cons.mp hlevel with rfl | hinner
        . exact .inl ((mentions_of_settle hsettle).2 hhas)
        . rcases ih (hbelow sub hsub) hread hinner with hempty | ⟨other, hother, hspells⟩
          . -- nothing is mentioned where a subcommand starts
            exact absurd hempty State.not_mentions_start
          . exact .inr ⟨other, List.mem_cons_of_mem arg hother, hspells⟩
      . rcases ih (Every.intro hown hbelow) hread hlevel with hmentions | ⟨other, hother, hspells⟩
        . apply (hmoves.mentions hown hmentions).imp id
          intro hspells
          exact ⟨arg, List.mem_cons_self, hspells⟩
        . exact .inr ⟨other, List.mem_cons_of_mem arg hother, hspells⟩

end Grammar

def Action.yes : Action → Bool
  | .hardReset yes => yes
  | .writeRegister _ _ _ yes => yes
  | _ => false

namespace Invocation

open Grammar

theorem every_of_levels {P : Grammar → Prop} (hown : P grammar)
    (hlevels : ∀ sub ∈ grammar.subcommands, P sub ∧ ∀ below ∈ sub.subcommands, P below) : grammar.Every P := by
  have hlast : ∀ sub ∈ grammar.subcommands, ∀ below ∈ sub.subcommands, below.subcommands.isEmpty = true := by
    decide +kernel
  refine Every.intro hown ?_
  intro sub hsub
  obtain ⟨hown, hbelow⟩ := hlevels sub hsub
  refine Every.intro hown ?_
  intro below hmem
  refine Every.intro (hbelow below hmem) ?_
  rw [List.isEmpty_iff.mp (hlast sub hsub below hmem)]
  apply List.forall_mem_nil

theorem every_reservesYes : grammar.Every (ReservesFlag "yes" 'y') := by
  apply every_of_levels
  . decide +kernel
  . decide +kernel

theorem has_of_actionOf {names : List String} {given : Given} {a : Action} (h : actionOf names given = .ok a)
    (hyes : a.yes = true) : given.has "yes" = true := by
  unfold actionOf at h
  split at h
  all_goals
    -- the values that an action needs are there, and the action is that of its command
    repeat obtain ⟨_, _, h⟩ := bind_eq_ok_iff.mp h
    cases h
  all_goals
    first
    | exact hyes
    | cases hyes

theorem read_of_ofArguments {args : List String} {i : Invocation} (h : ofArguments args = .ok i)
    : ∃ levels,
        grammar.read {} args = .ok levels
          ∧
        actionOf (levels.tail.map Prod.fst) ((levels.getLast?.map Prod.snd).getD []) = .ok i.action := by
  unfold ofArguments at h
  obtain ⟨levels, hread, h⟩ := bind_eq_ok_iff.mp h
  dsimp only at h
  obtain ⟨_, _, h⟩ := bind_eq_ok_iff.mp h
  obtain ⟨_, _, h⟩ := bind_eq_ok_iff.mp h
  obtain ⟨_, _, h⟩ := bind_eq_ok_iff.mp h
  obtain ⟨a, haction, h⟩ := bind_eq_ok_iff.mp h
  cases h
  exact ⟨levels, hread, haction⟩

theorem spelled_of_yes {args : List String} {i : Invocation} (h : ofArguments args = .ok i)
    (hyes : i.action.yes = true) : ∃ arg ∈ args, Spells "yes" 'y' arg := by
  obtain ⟨levels, hread, haction⟩ := read_of_ofArguments h
  have hhas := has_of_actionOf haction hyes
  cases hlast : levels.getLast? with
  | none =>
    rw [hlast] at hhas
    cases hhas
  | some level =>
    rw [hlast] at hhas
    rcases spelled_of_read every_reservesYes hread (List.mem_of_getLast? hlast) hhas with hempty | hspelled
    . exact absurd hempty State.not_mentions_start
    . exact hspelled

end Invocation
end PcieSwitch
