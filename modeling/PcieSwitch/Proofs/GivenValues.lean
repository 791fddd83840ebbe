import PcieSwitch.Proofs.CounterBank
import PcieSwitch.Proofs.GivenOptions
import PcieSwitch.Proofs.WrittenText

/-!
This module contains what a command has been given once its arguments are read: every option that it requires, and some
values for every option that takes any. So whoever sets up a counter names what to count.
-/

namespace PcieSwitch

theorem of_mapM_eq_ok {f : α → Except ε β} {xs : List α} {ys : List β} (h : xs.mapM f = .ok ys)
    : ys.length = xs.length ∧ ∀ y ∈ ys, ∃ x ∈ xs, f x = .ok y := by
  induction xs generalizing ys with
  | nil =>
    rw [List.mapM_nil] at h
    cases h
    exact ⟨rfl, List.forall_mem_nil _⟩
  | cons x xs ih =>
    rw [List.mapM_cons] at h
    obtain ⟨y, hy, h⟩ := bind_eq_ok_iff.mp h
    obtain ⟨rest, hrest, h⟩ := bind_eq_ok_iff.mp h
    cases h
    obtain ⟨hlength, hmade⟩ := ih hrest
    refine ⟨congrArg (· + 1) hlength, List.forall_mem_cons.mpr ⟨⟨x, List.mem_cons_self, hy⟩, ?_⟩⟩
    intro other hother
    obtain ⟨source, hsource, heq⟩ := hmade other hother
    exact ⟨source, List.mem_cons_of_mem x hsource, heq⟩

theorem Given.values_ne_nil {given : Given} {name : String} (hhas : given.has name = true)
    (hvalued : ∀ values, (name, values) ∈ given → values ≠ []) : given.values name ≠ [] := by
  unfold has at hhas
  obtain ⟨⟨other, values⟩, hmem, hname⟩ := List.any_eq_true.mp hhas
  obtain rfl : other = name := by simpa using hname
  obtain ⟨value, hvalue⟩ := List.exists_mem_of_ne_nil values (hvalued values hmem)
  apply List.ne_nil_of_mem (a := value)
  unfold Given.values
  rw [List.mem_flatMap]
  exact ⟨_, hmem, by simpa using hvalue⟩

namespace Grammar

structure State.Valued (st : State) (name : String) : Prop where
  given : ∀ values, (name, values) ∈ st.given → values ≠ []
  opened : ∀ rule values, st.opened = some (rule, values) → rule.name = name → rule.takes ≠ .nothing

theorem State.valued_start (name : String) : State.Valued {} name := by
  constructor
  . intro values hmem
    cases hmem
  . intro rule values hopened
    cases hopened

def TakesValues (name : String) (g : Grammar) : Prop :=
  ∀ rule ∈ g.options, rule.name = name → rule.takes ≠ .nothing

instance (name : String) (g : Grammar) : Decidable (g.TakesValues name) :=
  inferInstanceAs (Decidable (∀ rule ∈ g.options, rule.name = name → rule.takes ≠ .nothing))

variable {name : String} {g : Grammar} {st st' : State} {rule : OptionRule}

theorem ne_nil_of_settleOption {given given' : Given} {values : List String}
    (h : settleOption given rule values = .ok given') (htakes : rule.takes ≠ .nothing)
    : ∃ vs, given' = given ++ [(rule.name, vs)] ∧ vs ≠ [] := by
  unfold settleOption at h
  obtain ⟨hvalues, h⟩ := of_ite_throw_eq_ok h
  have hne : values ≠ [] := by
    intro hnil
    exact hvalues ⟨htakes, by rw [hnil]; rfl⟩
  split at h
  . contradiction
  . obtain ⟨_, h⟩ := of_ite_throw_eq_ok h
    obtain ⟨_, _, h⟩ := bind_eq_ok_iff.mp h
    cases h
    exact ⟨values, rfl, hne⟩
  . obtain ⟨_, _, h⟩ := bind_eq_ok_iff.mp h
    cases h
    refine ⟨_, rfl, ?_⟩
    -- splitting at commas leaves a piece of every value
    obtain ⟨value, hvalue⟩ := List.exists_mem_of_ne_nil values hne
    intro hnil
    rw [List.flatMap_eq_nil_iff] at hnil
    exact Text.splitAtEach_ne_nil _ _ (List.map_eq_nil_iff.mp (hnil value hvalue))

theorem valued_of_settleOption {given given' : Given} {values : List String}
    (h : settleOption given rule values = .ok given') (htakes : rule.name = name → rule.takes ≠ .nothing)
    (hgiven : ∀ values, (name, values) ∈ given → values ≠ [])
    : ∀ values, (name, values) ∈ given' → values ≠ [] := by
  intro others hmem
  obtain ⟨vs, rfl⟩ := exists_of_settleOption h
  rcases List.mem_append.mp hmem with hbefore | hlast
  . exact hgiven others hbefore
  . obtain ⟨rfl, rfl⟩ := Prod.mk.inj (List.mem_singleton.mp hlast)
    obtain ⟨vs, heq, hne⟩ := ne_nil_of_settleOption h (htakes rfl)
    rw [List.append_cancel_left_eq] at heq
    cases heq
    exact hne

theorem valued_of_settle (h : settle st = .ok st') (hst : st.Valued name) : st'.opened = none ∧ st'.Valued name := by
  unfold settle at h
  split at h
  . next hopened =>
    cases h
    exact ⟨hopened, hst⟩
  . next rule values hopened =>
    obtain ⟨given, hgiven, h⟩ := bind_eq_ok_iff.mp h
    cases h
    refine ⟨rfl, valued_of_settleOption hgiven (hst.opened rule values hopened) hst.given, ?_⟩
    intro _ _ hnone
    cases hnone

theorem valued_of_takeOption {attached : Option String} (h : takeOption st rule attached = .ok st')
    (htakes : rule.name = name → rule.takes ≠ .nothing) (hst : st.Valued name) : st'.Valued name := by
  unfold takeOption at h
  obtain ⟨settled, hsettle, h⟩ := bind_eq_ok_iff.mp h
  obtain ⟨hnone, hsettled⟩ := valued_of_settle hsettle hst
  split at h
  . obtain ⟨given, hoption, h⟩ := bind_eq_ok_iff.mp h
    cases h
    exact ⟨valued_of_settleOption hoption htakes hsettled.given, hsettled.opened⟩
  . obtain ⟨given, hoption, h⟩ := bind_eq_ok_iff.mp h
    cases h
    exact ⟨valued_of_settleOption hoption htakes hsettled.given, hsettled.opened⟩
  . cases h
    refine ⟨hsettled.given, ?_⟩
    intro other values hopened
    cases hopened
    exact htakes

theorem valued_of_takeLong (hg : g.TakesValues name) {text : List Char} (h : g.takeLong st text = .ok st')
    (hst : st.Valued name) : st'.Valued name := by
  unfold takeLong at h
  dsimp only at h
  split at h
  . next rule hrule =>
    obtain ⟨_, h⟩ := of_ite_throw_eq_ok h
    exact valued_of_takeOption h (hg rule (List.mem_of_find?_eq_some hrule)) hst
  . obtain ⟨_, h⟩ := of_ite_throw_eq_ok h
    obtain ⟨_, h⟩ := of_ite_throw_eq_ok h
    obtain ⟨_, _, h⟩ := bind_eq_ok_iff.mp h
    cases h

theorem valued_of_takeShorts (hg : g.TakesValues name) {letters : List Char} (h : g.takeShorts st letters = .ok st')
    (hst : st.Valued name) : st'.Valued name := by
  induction letters generalizing st with
  | nil =>
    cases h
    exact hst
  | cons c cs ih =>
    unfold takeShorts at h
    split at h
    . next rule hrule =>
      have htakes := hg rule (List.mem_of_find?_eq_some hrule)
      split at h
      . obtain ⟨taken, htake, h⟩ := bind_eq_ok_iff.mp h
        exact ih h (valued_of_takeOption htake htakes hst)
      . split at h
        all_goals exact valued_of_takeOption h htakes hst
    . obtain ⟨_, h⟩ := of_ite_bind_throw_eq_ok h
      obtain ⟨_, h⟩ := of_ite_bind_throw_eq_ok h
      cases h

theorem valued_of_takePositional {arg : String} (h : g.takePositional st arg = .ok st') (hst : st.Valued name)
    : st'.Valued name := by
  unfold takePositional at h
  split at h
  . next rule hrule =>
    obtain ⟨settled, hsettle, h⟩ := bind_eq_ok_iff.mp h
    cases h
    refine ⟨(valued_of_settle hsettle hst).2.given, ?_⟩
    rintro _ _ ⟨⟩ _ ⟨⟩
  . obtain ⟨_, h⟩ := of_ite_throw_eq_ok h
    obtain ⟨_, h⟩ := of_ite_throw_eq_ok h
    cases h

theorem Moves.valued {arg : String} (h : g.Moves st arg st') (hg : g.TakesValues name) (hst : st.Valued name)
    : st'.Valued name := by
  cases h with
  | escape => exact ⟨hst.given, hst.opened⟩
  | long harg htake => exact valued_of_takeLong hg htake hst
  | shorts harg hc htake => exact valued_of_takeShorts hg htake hst
  | value =>
    refine ⟨hst.given, ?_⟩
    intro rule values hopened
    obtain ⟨⟨before, given⟩, hst', heq⟩ := Option.map_eq_some_iff.mp hopened
    cases heq
    exact hst.opened _ _ hst'
  | positional htake => exact valued_of_takePositional htake hst

structure Complete (g : Grammar) (name : String) (given : Given) : Prop where
  required : ∀ rule ∈ g.options, rule.required = true → given.has rule.name = true
  valued : ∀ values, (name, values) ∈ given → values ≠ []

theorem has_of_validate {given : Given} {hasSubcommand : Bool} (h : g.validate given hasSubcommand = .ok ())
    : ∀ rule ∈ g.options, rule.required = true → given.has rule.name = true := by
  unfold validate at h
  dsimp only at h
  obtain ⟨_, h⟩ := of_ite_throw_eq_ok h
  obtain ⟨_, h⟩ := of_ite_throw_eq_ok h
  obtain ⟨_, h⟩ := of_ite_throw_eq_ok h
  split at h
  . next hall =>
    intro rule hrule hrequired
    have hgiven := List.all_eq_true.mp hall rule hrule
    rw [hrequired] at hgiven
    exact hgiven
  . cases h

theorem complete_of_settle {settled : State} (hsettle : settle st = .ok settled) (hst : st.Valued name)
    {hasSubcommand : Bool} (hvalid : g.validate settled.given hasSubcommand = .ok ()) : g.Complete name settled.given :=
  ⟨has_of_validate hvalid, (valued_of_settle hsettle hst).2.given⟩

theorem exists_complete_of_read {P : Grammar → Prop} (hg : g.Every P)
    (hvalues : ∀ below, P below → below.TakesValues name) (hst : st.Valued name) {args : List String}
    {levels : List (String × Given)} (h : g.read st args = .ok levels) {level : String × Given} (hlevel : level ∈ levels)
    : ∃ below, P below ∧ below.name = level.1 ∧ below.Complete name level.2 := by
  induction args generalizing g st levels with
  | nil =>
    cases hg with
    | intro hown _ =>
      unfold read at h
      obtain ⟨settled, hsettle, h⟩ := bind_eq_ok_iff.mp h
      obtain ⟨_, hvalid, h⟩ := bind_eq_ok_iff.mp h
      cases h
      cases List.mem_singleton.mp hlevel
      exact ⟨g, hown, rfl, complete_of_settle hsettle hst hvalid⟩
  | cons arg args ih =>
    cases hg with
    | intro hown hbelow =>
      rcases read_cons_cases h with ⟨sub, settled, inner, hsub, hsettle, hvalid, hread, rfl⟩ |
        ⟨next, hmoves, hread⟩
      . rcases List.mem_cons.mp hlevel with rfl | hinner
        . exact ⟨g, hown, rfl, complete_of_settle hsettle hst hvalid⟩
        . exact ih (hbelow sub hsub) (State.valued_start name) hread hinner
      . exact ih (Every.intro hown hbelow) (hmoves.valued (hvalues g hown) hst) hread hlevel

end Grammar

namespace Invocation

open Grammar

def TakesEvents (g : Grammar) : Prop :=
  g.TakesValues "event" ∧
    (g.name = "evcntr-setup" → ∃ rule ∈ g.options, rule.name = "event" ∧ rule.required = true)

instance : DecidablePred TakesEvents :=
  fun g => inferInstanceAs (Decidable (_ ∧ (_ → ∃ rule ∈ g.options, rule.name = "event" ∧ rule.required = true)))

theorem every_takesEvents : grammar.Every TakesEvents := by
  apply every_of_levels
  . decide +kernel
  . decide +kernel

theorem kinds_of_actionOf {names : List String} {given : Given} {a : SetupArguments}
    (h : actionOf names given = .ok (.setupCounter a))
    : names = ["evcntr-setup"]
        ∧
      ((given.values "event").mapM fun s => refuse (Value.parseKind s)) = .ok a.kinds := by
  unfold actionOf at h
  split at h
  all_goals
    repeat obtain ⟨_, _, h⟩ := bind_eq_ok_iff.mp h
    cases h
  exact ⟨rfl, by assumption⟩

theorem named_of_ofArguments {args : List String} {i : Invocation} {a : SetupArguments}
    (h : ofArguments args = .ok i) (haction : i.action = .setupCounter a) : a.Named := by
  obtain ⟨levels, hread, hmade⟩ := read_of_ofArguments h
  rw [haction] at hmade
  obtain ⟨hnames, hkinds⟩ := kinds_of_actionOf hmade
  obtain ⟨hlength, hparsed⟩ := of_mapM_eq_ok hkinds
  constructor
  . -- the last command is the one that sets up counters, and there the option is required
    obtain ⟨first, last, rfl, hlast⟩ : ∃ first last, levels = [first, last] ∧ last.1 = "evcntr-setup" := by
      cases levels with
      | nil => cases hnames
      | cons first rest =>
        obtain ⟨last, hrest, hlast⟩ := List.map_eq_singleton_iff.mp hnames
        rw [List.tail_cons] at hrest
        exact ⟨first, last, by rw [hrest], hlast⟩
    obtain ⟨below, htakes, hname, hcomplete⟩ := exists_complete_of_read every_takesEvents (fun _ h => h.1)
      (State.valued_start "event") hread (List.mem_cons_of_mem first List.mem_cons_self)
    obtain ⟨rule, hrule, hevent, hrequired⟩ := htakes.2 (hname.trans hlast)
    have hhas := hcomplete.required rule hrule hrequired
    rw [hevent] at hhas
    have hvalues := Given.values_ne_nil hhas hcomplete.valued
    apply List.ne_nil_of_length_pos
    rw [hlength]
    exact List.length_pos_of_ne_nil hvalues
  . intro kind hkind
    obtain ⟨text, _, htext⟩ := hparsed kind hkind
    refine ⟨text, ?_⟩
    unfold refuse at htext
    cases hparse : Value.parseKind text with
    | error e =>
      rw [hparse] at htext
      cases htext
    | ok mask =>
      rw [hparse] at htext
      cases htext
      rfl

end Invocation
end PcieSwitch
