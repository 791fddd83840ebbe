import PcieSwitch.Proofs.QuietActions
import PcieSwitch.Proofs.WrittenText

/-!
This module contains what the user's answer to a question consents to, and the runs of work that waits for consent.
-/

namespace PcieSwitch

namespace Text

theorem dropEndWhile_eq_nil_iff {p : α → Bool} {xs : List α} : dropEndWhile p xs = [] ↔ ∀ x ∈ xs, p x = true := by
  induction xs with
  | nil => simp [dropEndWhile]
  | cons x xs ih =>
    unfold dropEndWhile
    rw [List.forall_mem_cons, ← ih]
    split
    . next hrest => cases hp : p x <;> simp [hrest]
    . next hrest =>
      constructor
      . exact nofun
      . exact fun h => (hrest h.2).elim

theorem dropEndWhile_eq_singleton_iff {p : α → Bool} {x : α} {xs : List α} (hx : p x = false)
    : dropEndWhile p xs = [x] ↔ ∃ rest, xs = x :: rest ∧ ∀ y ∈ rest, p y = true := by
  cases xs with
  | nil => simp [dropEndWhile]
  | cons y ys =>
    rw [dropEndWhile]
    simp only [List.cons.injEq, ← dropEndWhile_eq_nil_iff]
    constructor
    . intro h
      split at h
      . next hrest =>
        split at h
        . cases h
        . cases h
          exact ⟨ys, ⟨rfl, rfl⟩, hrest⟩
      . next hrest => exact (hrest (List.cons.inj h).2).elim
    . rintro ⟨_, ⟨rfl, rfl⟩, hnil⟩
      rw [hnil]
      dsimp only
      rw [hx]
      rfl

end Text

namespace Consent

def letters : List UInt8 := [0x79, 0x59] -- y and Y

/--
The answer consents: it is one of the letters with any number of line ends behind it, and nothing else.
-/
def Given (answer : Bytes) : Prop :=
  ∃ letter ∈ letters, ∃ n, answer = letter :: List.replicate n 0x0A

theorem encode_letter {c : Char} {letter : UInt8} (hletter : String.utf8EncodeChar c = [letter]) (n : Nat)
    : (c :: List.replicate n '\n').flatMap String.utf8EncodeChar = letter :: List.replicate n 0x0A := by
  rw [List.flatMap_cons, hletter, List.singleton_append]
  congr 1
  induction n with
  | zero => rfl
  | succ n ih =>
    rw [List.replicate_succ, List.replicate_succ, List.flatMap_cons, ih]
    rfl

theorem ofAnswer_eq_ok_true_iff {answer : Bytes} : ofAnswer answer = .ok true ↔ Given answer := by
  have hline : ∀ {c : Char} {cs : List Char}, (c == '\n') = false →
      (Text.dropEndWhile (· == '\n') cs = [c] ↔ ∃ n, cs = c :: List.replicate n '\n') := by
    intro c cs hc
    rw [Text.dropEndWhile_eq_singleton_iff (p := (· == '\n')) hc]
    constructor
    . rintro ⟨rest, rfl, hrest⟩
      refine ⟨rest.length, ?_⟩
      rw [← List.eq_replicate_of_mem fun y hy => beq_iff_eq.mp (hrest y hy)]
    . rintro ⟨n, rfl⟩
      exact ⟨_, rfl, fun y hy => beq_iff_eq.mpr (List.eq_of_mem_replicate hy)⟩
  unfold ofAnswer Given letters
  constructor
  . intro h
    split at h
    . cases h
    . next text htext =>
      rw [Bytes.utf8?_eq_some_iff] at htext
      rw [Except.ok.injEq, Bool.or_eq_true, beq_iff_eq, beq_iff_eq, hline rfl, hline rfl] at h
      rcases h with ⟨n, hn⟩ | ⟨n, hn⟩
      . rw [hn, encode_letter rfl] at htext
        exact ⟨0x79, List.mem_cons_self, n, htext⟩
      . rw [hn, encode_letter rfl] at htext
        exact ⟨0x59, List.mem_cons_of_mem _ List.mem_cons_self, n, htext⟩
  . rintro ⟨letter, hletter, n, rfl⟩
    have htext : ∀ {c : Char}, String.utf8EncodeChar c = [letter] →
        Bytes.utf8? (letter :: List.replicate n 0x0A) = some (String.ofList (c :: List.replicate n '\n')) := by
      intro c hc
      rw [Bytes.utf8?_eq_some_iff, String.toList_ofList, encode_letter hc]
    rw [List.mem_cons, List.mem_singleton] at hletter
    rcases hletter with rfl | rfl
    . rw [htext (c := 'y') rfl]
      dsimp only
      rw [String.toList_ofList, (hline rfl).mpr ⟨n, rfl⟩]
      rfl
    . rw [htext (c := 'Y') rfl]
      dsimp only
      rw [String.toList_ofList, (hline rfl).mpr ⟨n, rfl⟩]
      rfl

theorem given_firstLine_iff {input : Bytes}
    : Given (firstLine input) ↔ ∃ letter ∈ letters, input = [letter] ∨ ∃ rest, input = letter :: 0x0A :: rest := by
  have hletter : ∀ letter ∈ letters, letter ≠ 0x0A := by
    unfold letters
    rw [List.forall_mem_cons, List.forall_mem_singleton]
    decide
  constructor
  . rintro ⟨letter, hmem, n, hline⟩
    refine ⟨letter, hmem, ?_⟩
    cases input with
    | nil => cases hline
    | cons b bs =>
      rw [firstLine] at hline
      split at hline
      . next hb => exact (hletter letter hmem ((List.cons.inj hline).1.symm.trans hb)).elim
      . obtain ⟨rfl, hrest⟩ := List.cons.inj hline
        cases bs with
        | nil => exact Or.inl rfl
        | cons c cs =>
          have hc : c ∈ firstLine (c :: cs) := by
            rw [firstLine]
            split <;> exact List.mem_cons_self
          rw [hrest] at hc
          rw [List.eq_of_mem_replicate hc]
          exact Or.inr ⟨cs, rfl⟩
  . rintro ⟨letter, hmem, rfl | ⟨rest, rfl⟩⟩
    . refine ⟨letter, hmem, 0, ?_⟩
      rw [firstLine, if_neg (hletter letter hmem)]
      rfl
    . refine ⟨letter, hmem, 1, ?_⟩
      rw [firstLine, if_neg (hletter letter hmem), firstLine, if_pos rfl]
      rfl

/--
What the user is asked before work that cannot be undone is gone on with: nothing if consent is given already, and
otherwise one question, which the answer consents to.
-/
def Settled (yes : Bool) (asked : List (Entry sessionInterface)) : Prop :=
  yes = true ∧ asked = [] ∨ yes = false ∧ ∃ text answer, asked = [⟨.question text, answer⟩] ∧ Given answer

theorem yields_isGiven {t : List (Entry sessionInterface)} {result : Except Failure Bool}
    (h : (isGiven false).run.Yields t result)
    : ∃ text answer, t = [⟨.question text, answer⟩] ∧ result = (ofAnswer answer).mapError .system := by
  obtain ⟨answer, rest, rfl, hrest⟩ := Session.yields_ask_bind.mp h
  refine ⟨_, answer, ?_⟩
  cases hanswer : ofAnswer answer with
  | ok given =>
    rw [hanswer] at hrest
    obtain ⟨rfl, rfl⟩ := Program.yields_done.mp hrest
    exact ⟨rfl, rfl⟩
  | error e =>
    rw [hanswer] at hrest
    obtain ⟨rfl, rfl⟩ := Program.yields_done.mp hrest
    exact ⟨rfl, rfl⟩

theorem yields_require {yes : Bool} {t : List (Entry sessionInterface)} {result : Except Failure Unit}
    (h : (require yes).run.Yields t result)
    : Settled yes t ∧ result = .ok ()
        ∨
      ∃ text answer rest e, yes = false ∧ t = ⟨.question text, answer⟩ :: rest ∧ ¬ Given answer
        ∧ Quiet rest ∧ result = .error e := by
  cases yes with
  | true =>
    obtain ⟨rfl, rfl⟩ := Program.yields_done.mp h
    exact Or.inl ⟨Or.inl ⟨rfl, rfl⟩, rfl⟩
  | false =>
    rcases Program.yields_run_bind.mp h with ⟨e, hfail, rfl⟩ | ⟨given, t₁, t₂, rfl, hasked, hrest⟩
    . obtain ⟨text, answer, rfl, herror⟩ := yields_isGiven hfail
      refine Or.inr ⟨text, answer, [], e, rfl, rfl, ?_, List.forall_mem_nil _, rfl⟩
      rw [← ofAnswer_eq_ok_true_iff]
      intro hok
      rw [hok] at herror
      cases herror
    . obtain ⟨text, answer, rfl, hok⟩ := yields_isGiven hasked
      have hanswer : ofAnswer answer = .ok given := by
        cases hof : ofAnswer answer with
        | ok b =>
          rw [hof] at hok
          cases hok
          rfl
        | error e =>
          rw [hof] at hok
          cases hok
      cases given with
      | true =>
        obtain ⟨rfl, rfl⟩ := Program.yields_done.mp hrest
        rw [List.append_nil]
        exact Or.inl ⟨Or.inr ⟨rfl, text, answer, rfl, ofAnswer_eq_ok_true_iff.mp hanswer⟩, rfl⟩
      | false =>
        obtain ⟨_, rest, rfl, hthrow⟩ := Session.yields_ask_bind.mp hrest
        obtain ⟨rfl, rfl⟩ := Program.yields_done.mp hthrow
        refine Or.inr ⟨text, answer, _, .aborted, rfl, rfl, ?_, ?_, rfl⟩
        . rw [← ofAnswer_eq_ok_true_iff, hanswer]
          exact nofun
        . exact List.forall_mem_singleton.mpr ⟨rfl, rfl⟩

end Consent

/--
The runs of work that does one destructive thing. It may fail before the user is asked, or because the user does not
consent. Otherwise it does the one thing once consent is settled.
-/
inductive Deliberate (yes : Bool) (Step : SessionCall → Prop)
    : List (Entry sessionInterface) → Except Failure Unit → Prop where
  | unasked (hquiet : Quiet t) : Deliberate yes Step t (.error e)
  | refused (hyes : yes = false) (hbefore : Quiet before) (hanswer : ¬ Consent.Given answer) (hafter : Quiet after)
    : Deliberate yes Step (before ++ ⟨.question text, answer⟩ :: after) (.error e)
  | consented (hbefore : Quiet before) (hsettled : Consent.Settled yes asked) (hmiddle : Quiet middle)
    (hstep : Step entry.1) (hdestructive : entry.1.isDestructive = true) (hafter : Quiet after)
    : Deliberate yes Step (before ++ (asked ++ (middle ++ entry :: after))) result

theorem Quiet.not_destructive {t : List (Entry sessionInterface)} (h : Quiet t)
    : ∀ entry ∈ t, entry.1.isDestructive = false :=
  fun entry hentry => (h entry hentry).1

theorem Quiet.not_question {t : List (Entry sessionInterface)} (h : Quiet t)
    : ∀ entry ∈ t, entry.1.isQuestion = false :=
  fun entry hentry => (h entry hentry).2

theorem SessionCall.not_question_of_destructive (c : SessionCall) (h : c.isDestructive = true)
    : c.isQuestion = false := by
  cases c with
  | question => cases h
  | _ => rfl

theorem Consent.Settled.not_destructive {yes : Bool} {asked : List (Entry sessionInterface)}
    (h : Consent.Settled yes asked) : ∀ entry ∈ asked, entry.1.isDestructive = false := by
  rcases h with ⟨_, rfl⟩ | ⟨_, text, answer, rfl, _⟩
  . apply List.forall_mem_nil
  . exact List.forall_mem_singleton.mpr rfl

namespace Consent

def GivenBefore (yes : Bool) (t : List (Entry sessionInterface)) : Prop :=
  yes = true ∨ ∃ text answer, (⟨.question text, answer⟩ : Entry sessionInterface) ∈ t ∧ Given answer

theorem GivenBefore.append_right {yes : Bool} {t : List (Entry sessionInterface)} (h : GivenBefore yes t)
    (u : List (Entry sessionInterface)) : GivenBefore yes (t ++ u) := by
  rcases h with hyes | ⟨text, answer, hmem, hgiven⟩
  . exact Or.inl hyes
  . exact Or.inr ⟨text, answer, List.mem_append_left u hmem, hgiven⟩

theorem GivenBefore.append_left {yes : Bool} {t : List (Entry sessionInterface)} (h : GivenBefore yes t)
    (u : List (Entry sessionInterface)) : GivenBefore yes (u ++ t) := by
  rcases h with hyes | ⟨text, answer, hmem, hgiven⟩
  . exact Or.inl hyes
  . exact Or.inr ⟨text, answer, List.mem_append_right u hmem, hgiven⟩

theorem Settled.givenBefore {yes : Bool} {asked : List (Entry sessionInterface)} (h : Settled yes asked)
    : GivenBefore yes asked := by
  rcases h with ⟨hyes, _⟩ | ⟨_, text, answer, rfl, hgiven⟩
  . exact Or.inl hyes
  . exact Or.inr ⟨text, answer, List.mem_singleton_self _, hgiven⟩

end Consent

theorem countP_of_forall_not {p : α → Bool} {xs : List α} (h : ∀ x ∈ xs, p x = false) : xs.countP p = 0 := by
  rw [List.countP_eq_zero]
  intro x hx
  rw [h x hx]
  exact Bool.false_ne_true

theorem exists_append_of_not {P : α → Prop} {xs before rest after : List α} {y : α} (hxs : ∀ x ∈ xs, P x) (hy : ¬ P y)
    (h : xs ++ rest = before ++ y :: after) : ∃ middle, before = xs ++ middle := by
  induction xs generalizing before with
  | nil => exact ⟨before, rfl⟩
  | cons x xs ih =>
    rw [List.forall_mem_cons] at hxs
    cases before with
    | nil =>
      rw [(List.cons.inj h).1] at hxs
      exact absurd hxs.1 hy
    | cons z before =>
      obtain ⟨rfl, hrest⟩ := List.cons.inj h
      obtain ⟨middle, rfl⟩ := ih hxs.2 hrest
      exact ⟨middle, rfl⟩

namespace Deliberate

variable {yes : Bool} {Step : SessionCall → Prop} {t : List (Entry sessionInterface)} {result : Except Failure Unit}

theorem prepend (h : Deliberate yes Step t result) {before : List (Entry sessionInterface)} (hbefore : Quiet before)
    : Deliberate yes Step (before ++ t) result := by
  cases h with
  | unasked hquiet => exact unasked (hbefore.append hquiet)
  | refused hyes hquiet hanswer hafter =>
    rw [← List.append_assoc]
    exact refused hyes (hbefore.append hquiet) hanswer hafter
  | consented hquiet hsettled hmiddle hstep hdestructive hafter =>
    rw [← List.append_assoc]
    exact consented (hbefore.append hquiet) hsettled hmiddle hstep hdestructive hafter

theorem mono {Step' : SessionCall → Prop} (h : Deliberate yes Step t result) (hstep : ∀ c, Step c → Step' c)
    : Deliberate yes Step' t result := by
  cases h with
  | unasked hquiet => exact unasked hquiet
  | refused hyes hquiet hanswer hafter => exact refused hyes hquiet hanswer hafter
  | consented hquiet hsettled hmiddle hcall hdestructive hafter =>
    exact consented hquiet hsettled hmiddle (hstep _ hcall) hdestructive hafter

theorem destructive_cases (h : Deliberate yes Step t result)
    : ((∀ entry ∈ t, entry.1.isDestructive = false) ∧ ∃ e, result = .error e)
        ∨
      ∃ before entry after, t = before ++ entry :: after ∧ Step entry.1 ∧ entry.1.isDestructive = true
        ∧ (∀ other ∈ before, other.1.isDestructive = false) ∧ (∀ other ∈ after, other.1.isDestructive = false)
        ∧ Consent.GivenBefore yes before := by
  cases h with
  | unasked hquiet => exact Or.inl ⟨hquiet.not_destructive, _, rfl⟩
  | refused _ hbefore _ hafter =>
    refine Or.inl ⟨?_, _, rfl⟩
    rw [List.forall_mem_append, List.forall_mem_cons]
    exact ⟨hbefore.not_destructive, rfl, hafter.not_destructive⟩
  | @consented before asked middle entry after _ hbefore hsettled hmiddle hstep hdestructive hafter =>
    refine Or.inr ⟨before ++ (asked ++ middle), entry, after, ?_, hstep, hdestructive, ?_, hafter.not_destructive, ?_⟩
    . rw [List.append_assoc, List.append_assoc]
    . rw [List.forall_mem_append, List.forall_mem_append]
      exact ⟨hbefore.not_destructive, hsettled.not_destructive, hmiddle.not_destructive⟩
    . exact (hsettled.givenBefore.append_right middle).append_left before

theorem permitted (h : Deliberate yes Step t result) : ∀ entry ∈ t, entry.1.isDestructive = true → Step entry.1 := by
  intro entry hentry hdestructive
  rcases h.destructive_cases with ⟨hnone, _⟩ | ⟨before, only, after, rfl, hstep, _, hbefore, hafter, _⟩
  . rw [hnone entry hentry] at hdestructive
    cases hdestructive
  . rcases List.mem_append.mp hentry with hmem | hmem
    . rw [hbefore entry hmem] at hdestructive
      cases hdestructive
    . rcases List.mem_cons.mp hmem with rfl | hmem
      . exact hstep
      . rw [hafter entry hmem] at hdestructive
        cases hdestructive

theorem countP_eq (h : Deliberate yes Step t result)
    : t.countP (·.1.isDestructive) ≤ 1 ∧ (result = .ok () → t.countP (·.1.isDestructive) = 1) := by
  rcases h.destructive_cases with ⟨hnone, e, rfl⟩ | ⟨before, only, after, rfl, _, hdestructive, hbefore, hafter, _⟩
  . rw [countP_of_forall_not hnone]
    exact ⟨Nat.zero_le 1, nofun⟩
  . rw [List.countP_append, List.countP_cons, countP_of_forall_not hbefore, countP_of_forall_not hafter,
      if_pos hdestructive]
    exact ⟨Nat.le_refl 1, fun _ => rfl⟩

theorem givenBefore (h : Deliberate yes Step t result) {before after : List (Entry sessionInterface)}
    {entry : Entry sessionInterface} (ht : t = before ++ entry :: after) (hdestructive : entry.1.isDestructive = true)
    : Consent.GivenBefore yes before := by
  rcases h.destructive_cases with ⟨hnone, _⟩ | ⟨xs, only, ys, heq, _, _, hxs, _, hgiven⟩
  . rw [hnone entry (ht ▸ List.mem_append_right _ List.mem_cons_self)] at hdestructive
    cases hdestructive
  . -- the one destructive call stands behind all of `xs`, in which consent is found
    have hnot : ¬ entry.1.isDestructive = false := ne_false_of_eq_true hdestructive
    obtain ⟨middle, rfl⟩ := exists_append_of_not (P := fun e => e.1.isDestructive = false) hxs hnot (heq.symm.trans ht)
    exact hgiven.append_right middle

theorem question_cases (h : Deliberate yes Step t result)
    : (∀ entry ∈ t, entry.1.isQuestion = false)
        ∨
      ∃ before text answer after, t = before ++ ⟨.question text, answer⟩ :: after ∧ yes = false
        ∧ (∀ other ∈ before, other.1.isQuestion = false) ∧ (∀ other ∈ after, other.1.isQuestion = false)
        ∧ (¬ Consent.Given answer → (∀ entry ∈ t, entry.1.isDestructive = false) ∧ ∃ e, result = .error e) := by
  cases h with
  | unasked hquiet => exact Or.inl hquiet.not_question
  | refused hyes hbefore _ hafter =>
    refine Or.inr ⟨_, _, _, _, rfl, hyes, hbefore.not_question, hafter.not_question, fun _ => ⟨?_, _, rfl⟩⟩
    rw [List.forall_mem_append, List.forall_mem_cons]
    exact ⟨hbefore.not_destructive, rfl, hafter.not_destructive⟩
  | @consented before asked middle entry after _ hbefore hsettled hmiddle _ hdestructive hafter =>
    have hrest : ∀ other ∈ middle ++ entry :: after, other.1.isQuestion = false := by
      rw [List.forall_mem_append, List.forall_mem_cons]
      exact ⟨hmiddle.not_question, entry.1.not_question_of_destructive hdestructive, hafter.not_question⟩
    rcases hsettled with ⟨_, rfl⟩ | ⟨hyes, text, answer, rfl, hgiven⟩
    . exact Or.inl (List.forall_mem_append.mpr ⟨hbefore.not_question, hrest⟩)
    . exact Or.inr ⟨before, text, answer, _, rfl, hyes, hbefore.not_question, hrest, fun hnot => (hnot hgiven).elim⟩

theorem countP_question_le (h : Deliberate yes Step t result) : t.countP (·.1.isQuestion) ≤ 1 := by
  rcases h.question_cases with hnone | ⟨before, text, answer, after, rfl, _, hbefore, hafter, _⟩
  . rw [countP_of_forall_not hnone]
    exact Nat.zero_le 1
  . rw [List.countP_append, List.countP_cons, countP_of_forall_not hbefore, countP_of_forall_not hafter]
    exact Nat.le_refl 1

theorem asked (h : Deliberate yes Step t result) {text : String} {answer : Bytes}
    (hasked : (⟨.question text, answer⟩ : Entry sessionInterface) ∈ t)
    : yes = false
        ∧
      (¬ Consent.Given answer → (∀ entry ∈ t, entry.1.isDestructive = false) ∧ ∃ e, result = .error e) := by
  rcases h.question_cases with hnone | ⟨before, _, _, after, rfl, hyes, hbefore, hafter, hrefused⟩
  . cases hnone _ hasked
  . rcases List.mem_append.mp hasked with hmem | hmem
    . cases hbefore _ hmem
    . rcases List.mem_cons.mp hmem with heq | hmem
      . cases heq
        exact ⟨hyes, hrefused⟩
      . cases hafter _ hmem

end Deliberate
end PcieSwitch
