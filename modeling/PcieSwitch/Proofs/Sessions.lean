import PcieSwitch.CommandLine.Session
import PcieSwitch.Proofs.Exchanges
import PcieSwitch.Proofs.TextOutlines

/-!
This module contains what a session does that can be seen: the commands that it exchanges with the switch,
and what it prints.
-/

namespace PcieSwitch

def Entry.ofDevice : Entry deviceInterface → Entry sessionInterface
  | ⟨c, answer⟩ => ⟨.device c, answer⟩

def Entry.ofMemory : Entry memoryInterface → Entry sessionInterface
  | ⟨c, answer⟩ => ⟨.memory c, answer⟩

def Entry.exchanged? : Entry sessionInterface → Option Sent
  | ⟨.device c, answer⟩ => Entry.sent? ⟨c, answer⟩
  | _ => none

def Entry.printed? : Entry sessionInterface → Option Bytes
  | ⟨.print data, _⟩ => some data
  | _ => none

theorem Entry.filterMap_printed_ofDevice (asked : List (Entry deviceInterface))
    : (asked.map Entry.ofDevice).filterMap Entry.printed? = [] := by
  rw [List.filterMap_map, List.filterMap_eq_nil_iff]
  intro entry _
  rfl

namespace Program

theorem yields_map {program : Program I α} {f : α → β} {t : List (Entry I)} {value : β}
    : (f <$> program).Yields t value ↔ ∃ before, program.Yields t before ∧ value = f before := by
  rw [map_eq_pure_bind, yields_bind]
  constructor
  . rintro ⟨before, t₁, t₂, rfl, h₁, h₂⟩
    obtain ⟨rfl, rfl⟩ := yields_done.mp h₂
    rw [List.append_nil]
    exact ⟨before, h₁, rfl⟩
  . rintro ⟨before, h, rfl⟩
    exact ⟨before, t, [], (List.append_nil t).symm, h, Yields.done _⟩

theorem yields_mapError_ok {f : ε → δ} {work : ExceptT ε (Program I) α} {t : List (Entry I)} {value : α}
    : ((fun result => result.mapError f) <$> work.run).Yields t (.ok value) ↔ work.run.Yields t (.ok value) := by
  rw [yields_map]
  constructor
  . rintro ⟨before, h, hvalue⟩
    cases before with
    | error e => cases hvalue
    | ok first =>
      cases hvalue
      exact h
  . intro h
    exact ⟨.ok value, h, rfl⟩

theorem yields_lower {J : Interface} {f : (c : I.Call) → Program J (I.Answer c)} {lift : Entry I → Entry J}
    (hcall : ∀ c piece answer, (f c).Yields piece answer ↔ piece = [lift ⟨c, answer⟩])
    {program : Program I α} {t : List (Entry J)} {value : α}
    : (program.lower f).Yields t value ↔ ∃ asked, t = asked.map lift ∧ program.Yields asked value := by
  induction program generalizing t with
  | done start =>
    unfold lower
    rw [yields_done]
    constructor
    . rintro ⟨rfl, rfl⟩
      exact ⟨[], rfl, Yields.done _⟩
    . rintro ⟨asked, rfl, h⟩
      obtain ⟨rfl, rfl⟩ := yields_done.mp h
      exact ⟨rfl, rfl⟩
  | ask c next ih =>
    unfold lower
    constructor
    . intro h
      obtain ⟨answer, piece, rest, rfl, hpiece, hrest⟩ := yields_bind.mp h
      obtain ⟨asked, rfl, hasked⟩ := (ih answer).mp hrest
      rw [(hcall c piece answer).mp hpiece]
      exact ⟨⟨c, answer⟩ :: asked, rfl, Yields.ask c answer hasked⟩
    . rintro ⟨asked, rfl, h⟩
      obtain ⟨answer, rest, rfl, hrest⟩ := yields_ask.mp h
      have hpiece := (hcall c [lift ⟨c, answer⟩] answer).mpr rfl
      exact yields_bind.mpr ⟨answer, _, _, rfl, hpiece, (ih answer).mpr ⟨rest, rfl, hrest⟩⟩

theorem yields_call {c : I.Call} {t : List (Entry I)} {answer : I.Answer c}
    : (Program.call c).Yields t answer ↔ t = [⟨c, answer⟩] := by
  constructor
  . intro h
    obtain ⟨answer, rest, rfl, hrest⟩ := yields_ask.mp h
    obtain ⟨rfl, rfl⟩ := yields_done.mp hrest
    rfl
  . rintro rfl
    exact Yields.ask c answer (Yields.done answer)

theorem yields_onDevice {program : Program deviceInterface α} {t : List (Entry sessionInterface)}
    {value : α}
    : (Session.onDevice program).Yields t value
        ↔
      ∃ asked, t = asked.map Entry.ofDevice ∧ program.Yields asked value := by
  apply yields_lower
  intro c piece answer
  exact yields_call (I := sessionInterface) (c := .device c)

theorem yields_onMemory {program : Program memoryInterface α} {t : List (Entry sessionInterface)} {value : α}
    : (Session.onMemory program).Yields t value
        ↔
      ∃ asked, t = asked.map Entry.ofMemory ∧ program.Yields asked value := by
  apply yields_lower
  intro c piece answer
  exact yields_call (I := sessionInterface) (c := .memory c)

end Program

namespace Session

def Shows (session : Session α) (sent : List Sent) (printed : List Bytes) (result : Except Failure α)
    : Prop :=
  ∃ t,
    session.run.Yields t result
      ∧
    t.filterMap Entry.exchanged? = sent
      ∧
    t.filterMap Entry.printed? = printed

def sent (outside : Handler sessionInterface σ) (session : Session α) (state : σ) : List Sent :=
  (session.run.transcript outside state).filterMap Entry.exchanged?

def printed (outside : Handler sessionInterface σ) (session : Session α) (state : σ) : List Bytes :=
  (session.run.transcript outside state).filterMap Entry.printed?

def result (outside : Handler sessionInterface σ) (session : Session α) (state : σ)
    : Except Failure α :=
  (session.run.run outside state).1

theorem shows_run (outside : Handler sessionInterface σ) (session : Session α) (state : σ)
    : session.Shows (session.sent outside state) (session.printed outside state)
        (session.result outside state) := by
  exact ⟨_, Program.yields_transcript outside session.run state, rfl, rfl⟩

theorem shows_pure {value : α} {sent : List Sent} {printed : List Bytes} {result : Except Failure α}
    : (pure value : Session α).Shows sent printed result
        ↔
      sent = [] ∧ printed = [] ∧ result = .ok value := by
  constructor
  . rintro ⟨t, ht, rfl, rfl⟩
    obtain ⟨rfl, rfl⟩ := Program.yields_done.mp ht
    exact ⟨rfl, rfl, rfl⟩
  . rintro ⟨rfl, rfl, rfl⟩
    exact ⟨[], Program.Yields.done _, rfl, rfl⟩

theorem shows_throw {e : Failure} {sent : List Sent} {printed : List Bytes} {result : Except Failure α}
    : (throw e : Session α).Shows sent printed result
        ↔
      sent = [] ∧ printed = [] ∧ result = .error e := by
  constructor
  . rintro ⟨t, ht, rfl, rfl⟩
    obtain ⟨rfl, rfl⟩ := Program.yields_done.mp ht
    exact ⟨rfl, rfl, rfl⟩
  . rintro ⟨rfl, rfl, rfl⟩
    exact ⟨[], Program.Yields.done _, rfl, rfl⟩

theorem shows_bind {session : Session α} {f : α → Session β} {sent : List Sent}
    {printed : List Bytes} {result : Except Failure β}
    : (session >>= f).Shows sent printed result
        ↔
      (∃ e, session.Shows sent printed (.error e) ∧ result = .error e) ∨
      (∃ value s₁ s₂ p₁ p₂,
        sent = s₁ ++ s₂
          ∧
        printed = p₁ ++ p₂
          ∧
        session.Shows s₁ p₁ (.ok value)
          ∧
        (f value).Shows s₂ p₂ result) := by
  constructor
  . rintro ⟨t, ht, rfl, rfl⟩
    rcases Program.yields_run_bind.mp ht with ⟨e, h, rfl⟩ | ⟨value, t₁, t₂, rfl, h₁, h₂⟩
    . exact .inl ⟨e, ⟨t, h, rfl, rfl⟩, rfl⟩
    . refine .inr ⟨value, _, _, _, _, ?_, ?_, ⟨t₁, h₁, rfl, rfl⟩, ⟨t₂, h₂, rfl, rfl⟩⟩
      . rw [List.filterMap_append]
      . rw [List.filterMap_append]
  . rintro (⟨e, ⟨t, h, rfl, rfl⟩, rfl⟩ |
      ⟨value, _, _, _, _, rfl, rfl, ⟨t₁, h₁, rfl, rfl⟩, ⟨t₂, h₂, rfl, rfl⟩⟩)
    . exact ⟨t, Program.yields_run_bind.mpr (.inl ⟨e, h, rfl⟩), rfl, rfl⟩
    . refine ⟨t₁ ++ t₂, Program.yields_run_bind.mpr (.inr ⟨value, t₁, t₂, rfl, h₁, h₂⟩), ?_, ?_⟩
      . rw [List.filterMap_append]
      . rw [List.filterMap_append]

theorem shows_ask {c : SessionCall} {sent : List Sent} {printed : List Bytes}
    {result : Except Failure c.Answer}
    : (ask c).Shows sent printed result
        ↔
      ∃ answer,
        sent = (Entry.exchanged? ⟨c, answer⟩).toList
          ∧
        printed = (Entry.printed? ⟨c, answer⟩).toList
          ∧
        result = .ok answer := by
  have hrun : (ask c).run = .ask c fun answer => .done (.ok answer) := rfl
  unfold Shows
  rw [hrun]
  constructor
  . rintro ⟨t, ht, rfl, rfl⟩
    obtain ⟨answer, rest, rfl, hrest⟩ := Program.yields_ask.mp ht
    obtain ⟨rfl, rfl⟩ := Program.yields_done.mp hrest
    refine ⟨answer, ?_, ?_, rfl⟩
    . cases h : Entry.exchanged? ⟨c, answer⟩ <;> simp [h]
    . cases h : Entry.printed? ⟨c, answer⟩ <;> simp [h]
  . rintro ⟨answer, rfl, rfl, rfl⟩
    refine ⟨[⟨c, answer⟩], Program.yields_ask.mpr ⟨answer, [], rfl, Program.Yields.done _⟩, ?_, ?_⟩
    . cases h : Entry.exchanged? ⟨c, answer⟩ <;> simp [h]
    . cases h : Entry.printed? ⟨c, answer⟩ <;> simp [h]

theorem shows_log {level : LogLevel} {message : String} {values : List (String × String)} {sent : List Sent}
    {printed : List Bytes} {result : Except Failure Unit}
    : (Session.log level message values).Shows sent printed result ↔ sent = [] ∧ printed = [] ∧ result = .ok () := by
  unfold Session.log
  rw [shows_ask]
  constructor
  . rintro ⟨_, rfl, rfl, rfl⟩
    exact ⟨rfl, rfl, rfl⟩
  . rintro ⟨rfl, rfl, rfl⟩
    exact ⟨(), rfl, rfl, rfl⟩

theorem yields_ask_bind {c : SessionCall} {f : c.Answer → Session α} {t : List (Entry sessionInterface)}
    {result : Except Failure α}
    : (ask c >>= f).run.Yields t result
        ↔
      ∃ answer rest, t = ⟨c, answer⟩ :: rest ∧ (f answer).run.Yields rest result := by
  have hrun : (ask c >>= f).run = .ask c fun answer => (f answer).run := rfl
  rw [hrun]
  exact Program.yields_ask

theorem yields_bind_ok {session : Session α} {f : α → Session β} {t : List (Entry sessionInterface)} {value : β}
    : (session >>= f).run.Yields t (.ok value)
        ↔
      ∃ first t₁ t₂, t = t₁ ++ t₂ ∧ session.run.Yields t₁ (.ok first) ∧ (f first).run.Yields t₂ (.ok value) := by
  rw [Program.yields_run_bind]
  constructor
  . rintro (⟨e, _, he⟩ | h)
    . cases he
    . exact h
  . exact .inr

theorem yields_within_ok {step : String} {work : Session α} {t : List (Entry sessionInterface)} {value : α}
    : (within step work).run.Yields t (.ok value) ↔ work.run.Yields t (.ok value) :=
  Program.yields_mapError_ok

theorem yields_ofDevice_ok {work : ExceptT Error (Program sessionInterface) α} {t : List (Entry sessionInterface)}
    {value : α} : (ofDevice work).run.Yields t (.ok value) ↔ work.run.Yields t (.ok value) :=
  Program.yields_mapError_ok

theorem yields_perform_ok {operation : Operation α} {t : List (Entry sessionInterface)} {value : α}
    : (perform operation).run.Yields t (.ok value)
        ↔
      ∃ asked, t = asked.map Entry.ofDevice ∧ operation.run.Yields asked (.ok value) := by
  unfold perform
  rw [yields_ofDevice_ok]
  exact Program.yields_onDevice

theorem yields_perform {operation : Operation α} {t : List (Entry sessionInterface)} {result : Except Failure α}
    : (perform operation).run.Yields t result
        ↔
      ∃ asked answer, t = asked.map Entry.ofDevice ∧ operation.run.Yields asked answer ∧ result = answer.mapError .device := by
  have hrun : (perform operation).run = (fun answer => answer.mapError .device) <$> onDevice operation.run := rfl
  rw [hrun, Program.yields_map]
  simp only [Program.yields_onDevice]
  constructor
  . rintro ⟨answer, ⟨asked, rfl, hasked⟩, rfl⟩
    exact ⟨asked, answer, rfl, hasked, rfl⟩
  . rintro ⟨asked, answer, rfl, hasked, rfl⟩
    exact ⟨answer, ⟨asked, rfl, hasked⟩, rfl⟩

theorem yields_within {step : String} {work : Session α} {t : List (Entry sessionInterface)} {result : Except Failure α}
    : (within step work).run.Yields t result
        ↔
      ∃ inner, work.run.Yields t inner ∧ result = inner.mapError (.within step) :=
  Program.yields_map

theorem shows_within {step : String} {work : Session α} {sent : List Sent} {printed : List Bytes}
    {result : Except Failure α}
    : (within step work).Shows sent printed result
        ↔
      ∃ inner, work.Shows sent printed inner ∧ result = inner.mapError (.within step) := by
  have hrun : (within step work).run = (fun inner => inner.mapError (.within step)) <$> work.run := rfl
  unfold Shows
  rw [hrun]
  simp only [Program.yields_map]
  constructor
  . rintro ⟨t, ⟨inner, h, rfl⟩, hsent, hprinted⟩
    exact ⟨inner, ⟨t, h, hsent, hprinted⟩, rfl⟩
  . rintro ⟨inner, ⟨t, h, hsent, hprinted⟩, rfl⟩
    exact ⟨t, ⟨inner, h, rfl⟩, hsent, hprinted⟩

theorem shows_perform {operation : Operation α} {sent : List Sent} {printed : List Bytes}
    {result : Except Failure α}
    : (perform operation).Shows sent printed result
        ↔
      ∃ inner, operation.Sends sent inner ∧ printed = [] ∧ result = inner.mapError .device := by
  have hrun : (perform operation).run
      = (fun inner => inner.mapError .device) <$> onDevice operation.run := rfl
  have hsent : ∀ asked : List (Entry deviceInterface),
      (asked.map Entry.ofDevice).filterMap Entry.exchanged? = asked.filterMap Entry.sent? := by
    intro asked
    rw [List.filterMap_map]
    rfl
  unfold Shows
  rw [hrun]
  simp only [Program.yields_map, Program.yields_onDevice]
  constructor
  . rintro ⟨_, ⟨inner, ⟨asked, rfl, h⟩, rfl⟩, rfl, rfl⟩
    rw [hsent, Entry.filterMap_printed_ofDevice]
    exact ⟨inner, ⟨asked, h, rfl⟩, rfl, rfl⟩
  . rintro ⟨inner, ⟨asked, h, rfl⟩, rfl, rfl⟩
    exact ⟨_, ⟨inner, ⟨asked, rfl, h⟩, rfl⟩, hsent asked, Entry.filterMap_printed_ofDevice asked⟩

theorem shows_within_perform {step : String} {operation : Operation α} {sent : List Sent} {printed : List Bytes}
    {result : Except Failure α}
    : (within step (perform operation)).Shows sent printed result
        ↔
      ∃ inner,
        operation.Sends sent inner
          ∧
        printed = []
          ∧
        result = inner.mapError fun cause => .within step (.device cause) := by
  rw [shows_within]
  simp only [shows_perform]
  constructor
  . rintro ⟨_, ⟨inner, hsends, rfl, rfl⟩, rfl⟩
    refine ⟨inner, hsends, rfl, ?_⟩
    cases inner <;> rfl
  . rintro ⟨inner, hsends, rfl, rfl⟩
    refine ⟨_, ⟨inner, hsends, rfl, rfl⟩, ?_⟩
    cases inner <;> rfl

def linePieces (lines : List String) : List Bytes :=
  lines.map fun line => Bytes.ofString (line ++ "\n")

theorem flatten_linePieces (ls : List String) : (linePieces ls).flatten = Bytes.ofString (Text.lines ls) := by
  induction ls with
  | nil => exact Bytes.ofString_empty.symm
  | cons line ls ih =>
    rw [Text.lines_cons, Bytes.ofString_append, ← ih]
    rfl

theorem shows_printLine {line : String} {sent : List Sent} {printed : List Bytes}
    {result : Except Failure Unit}
    : (printLine line).Shows sent printed result
        ↔
      sent = [] ∧ printed = linePieces [line] ∧ result = .ok () := by
  unfold printLine print
  rw [shows_ask]
  constructor
  . rintro ⟨_, rfl, rfl, rfl⟩
    exact ⟨rfl, rfl, rfl⟩
  . rintro ⟨rfl, rfl, rfl⟩
    exact ⟨(), rfl, rfl, rfl⟩

theorem shows_printLines {lines : List String} {sent : List Sent} {printed : List Bytes}
    {result : Except Failure Unit}
    : (printLines lines).Shows sent printed result
        ↔
      sent = [] ∧ printed = linePieces lines ∧ result = .ok () := by
  unfold printLines
  induction lines generalizing sent printed with
  | nil => exact shows_pure
  | cons line lines ih =>
    unfold List.forM
    rw [shows_bind]
    simp only [shows_printLine, ih]
    constructor
    . rintro (⟨e, ⟨_, _, he⟩, _⟩ | ⟨_, _, _, _, _, rfl, rfl, ⟨rfl, rfl, _⟩, rfl, rfl, rfl⟩)
      . cases he
      . exact ⟨rfl, rfl, rfl⟩
    . rintro ⟨rfl, rfl, rfl⟩
      exact .inr ⟨(), [], [], _, _, rfl, rfl, ⟨rfl, rfl, trivial⟩, rfl, rfl, rfl⟩

end Session

namespace Context

def pieces (c : Context) (json : Json) (lines : List String) : List Bytes :=
  if c.json then Session.linePieces [json.pretty] else Session.linePieces lines

theorem shows_output {c : Context} {json : Json} {lines : List String} {sent : List Sent}
    {printed : List Bytes} {result : Except Failure Unit}
    : (c.output json lines).Shows sent printed result
        ↔
      sent = [] ∧ printed = c.pieces json lines ∧ result = .ok () := by
  unfold output pieces
  cases c.json with
  | true => apply Session.shows_printLine
  | false => apply Session.shows_printLines

theorem shows_measure {c : Context} {time : Option Nat} {sent : List Sent} {printed : List Bytes}
    {result : Except Failure Unit}
    : (c.measure time).Shows sent printed result ↔ sent = [] ∧ printed = [] ∧ result = .ok () := by
  unfold measure
  rw [Session.shows_ask]
  constructor
  . rintro ⟨_, rfl, rfl, rfl⟩
    exact ⟨rfl, rfl, rfl⟩
  . rintro ⟨rfl, rfl, rfl⟩
    exact ⟨(), rfl, rfl, rfl⟩

theorem quiet_of_shows_openDevice {c : Context} {sent : List Sent} {printed : List Bytes}
    {result : Except Failure Handle} (h : c.openDevice.Shows sent printed result)
    : sent = [] ∧ printed = [] := by
  unfold openDevice at h
  split at h
  . obtain ⟨rfl, rfl, _⟩ := Session.shows_throw.mp h
    exact ⟨rfl, rfl⟩
  . next name _ =>
    have hopening : ∀ {s p} {r : Except Failure Handle},
        (Session.within ("open " ++ name) (ExceptT.mk do
          return (← Program.call (I := sessionInterface) (.openDevice name)).mapError .device)).Shows s p r →
        s = [] ∧ p = [] := by
      intro s p r hwithin
      obtain ⟨inner, ⟨t, ht, rfl, rfl⟩, _⟩ := Session.shows_within.mp hwithin
      obtain ⟨answer, rest, rfl, hrest⟩ := Program.yields_ask.mp ht
      obtain ⟨rfl, _⟩ := Program.yields_done.mp hrest
      exact ⟨rfl, rfl⟩
    rcases Session.shows_bind.mp h with ⟨e, hfail, _⟩ | ⟨handle, s₁, s₂, p₁, p₂, rfl, rfl, hopen, hrest⟩
    . exact hopening hfail
    . obtain ⟨rfl, rfl⟩ := hopening hopen
      rcases Session.shows_bind.mp hrest with ⟨e, hlog, _⟩ | ⟨_, s₃, s₄, p₃, p₄, rfl, rfl, hlog, hlast⟩
      . obtain ⟨_, rfl, rfl, _⟩ := Session.shows_ask.mp hlog
        exact ⟨rfl, rfl⟩
      . obtain ⟨_, rfl, rfl, _⟩ := Session.shows_ask.mp hlog
        obtain ⟨rfl, rfl, _⟩ := Session.shows_pure.mp hlast
        exact ⟨rfl, rfl⟩

end Context
end PcieSwitch
