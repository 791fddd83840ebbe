import PcieSwitch.Proofs.RegisterDump

/-!
This module contains the showing of registers one by one, a line for each. It walks the window without a gap from the
register that holds the first address, reads every one of them once, and stops where the window ends.
-/

namespace PcieSwitch

open Program Session

def Bytes.registerOrFailure (memory : Bytes) (address n : Nat) : Option Error → Except Error UInt64
  | none => .ok (UInt64.ofNat (memory.slice address n).toNat)
  | some cause => .error cause

structure Window.FetchesRegisters (w : Context.Registers) (outside : Handler sessionInterface σ) (memory : Bytes)
    (tunnelled : Bool) : Prop where
  size : w.size = memory.length
  read : ∀ {address width u result}, Located memory.length width address →
    (w.read address width).run.Yields u result → outside.Answers u →
      u.filterMap Entry.printed? = []
        ∧
      ∃ failure,
        u.filterMap Entry.fetch? = [⟨address, width.bytes, failure⟩]
          ∧
        (failure ≠ none → tunnelled = true)
          ∧
        result = memory.registerOrFailure address width.bytes failure

theorem Tunnelled.readBytes_of_length_le (h : Handle) (offset : Nat) {length : Nat} (hpositive : 0 < length)
    (hmax : length ≤ maxDataLength)
    : readBytes h offset length = h.request (.readWindow (UInt32.ofNat offset) (UInt32.ofNat length)) := by
  unfold readBytes
  rw [spans_cons (by decide) hpositive, Nat.min_eq_right hmax, Nat.sub_self, spans_zero, readBytes.go]
  simp [readBytes.go]

theorem Handle.window_fetchesRegisters (h : Handle) {outside : Handler sessionInterface σ} {memory : Bytes}
    (hserves : outside.ServesMemory memory) (hmemory : memory.length = windowSize)
    : Window.FetchesRegisters (h.window.map onDevice) outside memory true where
  size := hmemory.symm
  read {address width u result} hplace hyields hanswers := by
    have hinside := hplace.inside
    have hmax : width.bytes ≤ maxDataLength := Nat.le_trans width.isSize_bytes.le (by decide)
    obtain ⟨asked, rfl, hasked⟩ := yields_onDevice.mp hyields
    refine ⟨Entry.filterMap_printed_ofDevice asked, ?_⟩
    have hsends : Operation.Sends (h.window.read address width) (asked.filterMap Entry.sent?) result :=
      ⟨asked, hasked, rfl⟩
    unfold window at hsends
    dsimp only at hsends
    rw [Tunnelled.readBytes_of_length_le h address width.bytes_pos hmax] at hsends
    obtain ⟨_, hrequest, rfl⟩ := Operation.sends_bind_pure.mp hsends
    obtain ⟨answer, hsent, rfl⟩ := (sends_readWindow hmax).mp hrequest
    refine ⟨Fetch.failureOf? answer, ?_, fun _ => rfl, ?_⟩
    . rw [Entry.filterMap_fetch_ofDevice, hsent, List.filterMap_cons,
        Sent.fetch?_readWindow (hmemory ▸ hinside)]
      rfl
    . cases answer with
      | error e => rfl
      | ok reply =>
        have hreply := hserves.reply_eq hanswers (by rw [hsent]; exact List.mem_cons_self) hinside
        change Except.ok (UInt64.ofNat (reply.fit width.bytes).toNat) = _
        rw [hreply, Bytes.fit_eq_self (Bytes.length_slice hinside)]
        rfl

theorem Mapping.window_fetchesRegisters {size : Nat} {outside : Handler sessionInterface σ} {memory : Bytes}
    (hserves : outside.ServesMemory memory) (hsize : size = memory.length) (writable : Bool)
    : Window.FetchesRegisters ((Mapping.window ⟨size, writable⟩).map onMemory) outside memory false where
  size := hsize
  read {address width u result} hplace hyields hanswers := by
    have hread : (Mapping.window ⟨size, writable⟩).read address width
        = (do return UInt64.ofNat (← load address width.bytes).toNat) := by
      unfold window
      dsimp only
      rw [locate_eq_ok (hsize ▸ hplace.inside) hplace.aligned]
      rfl
    obtain ⟨asked, rfl, hasked⟩ := yields_onMemory.mp hyields
    rw [hread] at hasked
    obtain ⟨data, rest, rfl, hrest⟩ := yields_ask.mp hasked
    obtain ⟨rfl, rfl⟩ := yields_done.mp hrest
    obtain ⟨s, hs⟩ := hanswers _ List.mem_cons_self
    have hdata : data = memory.slice address width.bytes := hs.trans (hserves.load hplace.inside)
    refine ⟨rfl, none, rfl, (absurd rfl ·), ?_⟩
    rw [hdata]
    rfl

theorem Context.Reached.fetchesRegisters {c : Context} {writable : Bool} {t : List (Entry sessionInterface)}
    {w : Context.Registers} (h : c.Reached writable t w) {outside : Handler sessionInterface σ} {memory : Bytes}
    (hserves : outside.ServesMemory memory) (hsize : c.tunnelled = true → memory.length = windowSize)
    (hanswers : outside.Answers t) : w.FetchesRegisters outside memory c.tunnelled := by
  cases h with
  | tunnelled h htunnelled =>
    rw [htunnelled]
    exact h.window_fetchesRegisters hserves (hsize htunnelled)
  | mapped hmapped hopened =>
    obtain ⟨s, hs⟩ := hanswers _ hopened
    rw [hmapped]
    exact Mapping.window_fetchesRegisters hserves (hserves.opened hs.symm) writable

theorem Window.readRegister_of_located {w : Context.Registers} {address n place : Nat} {width : Width}
    (h : locate w.size address n = .ok (width, place))
    : w.readRegister address n = (fun value => (place, value)) <$> w.read place width := by
  unfold readRegister
  rw [h]
  rfl

namespace Context

def registerText (style : PrintStyle) (n place value : Nat) : String :=
  match style with
  | .hex => Text.hexUpper place 6 ++ " - 0x" ++ Text.hexUpper value (2 * n)
  | _ => Text.hexUpper place 6 ++ " - " ++ toString value

variable {w : Registers} {outside : Handler sessionInterface σ} {memory : Bytes} {tunnelled : Bool}
  {style : PrintStyle}

theorem registerLine_eq (hstyle : style ≠ .text) (w : Registers) (address n : Nat)
    : registerLine w address n style
        =
      (fun (place, value) => registerText style n place value.toNat) <$> Session.ofDevice (w.readRegister address n)
    := by
  cases style with
  | hex => rfl
  | dec => rfl
  | text => contradiction

theorem of_yields_registerLine (hstyle : style ≠ .text) (hw : w.FetchesRegisters outside memory tunnelled)
    {address n : Nat} {u : List (Entry sessionInterface)} {result : Except Failure String}
    (hyields : (registerLine w address n style).run.Yields u result) (hanswers : outside.Answers u)
    : let place := address - address % n
      (∃ e, Window.locate memory.length address n = .error e ∧ u = [] ∧ result = .error (.device e)) ∨
      (Width.IsSize n
        ∧
      place + n ≤ memory.length
        ∧
      u.filterMap Entry.printed? = []
        ∧
      (u.filterMap Entry.fetch? = [⟨place, n, none⟩]
        ∧ result = .ok (registerText style n place (memory.slice place n).toNat) ∨
      tunnelled = true
        ∧ ∃ cause, u.filterMap Entry.fetch? = [⟨place, n, some cause⟩] ∧ result = .error (.device cause))) := by
  intro place
  rw [registerLine_eq hstyle, ExceptT.run_map] at hyields
  obtain ⟨_, hdevice, rfl⟩ := yields_map.mp hyields
  obtain ⟨_, hregister, rfl⟩ := yields_map.mp hdevice
  cases hlocate : Window.locate memory.length address n with
  | error e =>
    unfold Window.readRegister at hregister
    rw [hw.size, hlocate] at hregister
    obtain ⟨rfl, rfl⟩ := yields_done.mp hregister
    exact .inl ⟨e, rfl, rfl, rfl⟩
  | ok found =>
    obtain ⟨width, found⟩ := found
    obtain ⟨rfl, rfl, hinside⟩ := Window.place_of_locate_eq_ok hlocate
    rw [Window.readRegister_of_located (hw.size ▸ hlocate), ExceptT.run_map] at hregister
    obtain ⟨_, hread, rfl⟩ := yields_map.mp hregister
    obtain ⟨hprinted, failure, hfetch, hfailure, rfl⟩ :=
      hw.read (Window.located_of_locate_eq_ok hlocate) hread hanswers
    refine .inr ⟨width.isSize_bytes, hinside, hprinted, ?_⟩
    cases failure with
    | some cause => exact .inr ⟨hfailure (by simp), cause, hfetch, rfl⟩
    | none =>
      rw [← Bytes.toNat_word_slice hinside width.isSize_bytes.le]
      exact .inl ⟨hfetch, rfl⟩

def places (first n count : Nat) : List Nat :=
  (List.range count).map fun k => first + k * n

def shownAt (style : PrintStyle) (memory : Bytes) (n place : Nat) : Bytes :=
  Bytes.ofString (registerText style n place (memory.slice place n).toNat ++ "\n")

/--
How it goes to show registers of `n` bytes, as many as `count` from the first one on. All of them are shown, or those
before the first one that cannot be: no register has that width, it does not lie inside the window, or the command for
it fails.
-/
inductive Walks (tunnelled : Bool) (style : PrintStyle) (memory : Bytes) (first n count : Nat)
    : List Fetch → (printed : List Bytes) → Except Failure Unit → Prop where
  | done (hwidth : count = 0 ∨ Width.IsSize n) (hinside : ∀ i < count, first + i * n + n ≤ memory.length) :
    Walks tunnelled style memory first n count ((places first n count).map (Fetch.mk · n none))
      ((places first n count).map (shownAt style memory n)) (.ok ())
  | badWidth (hcount : 0 < count) (hwidth : ¬ Width.IsSize n) :
    Walks tunnelled style memory first n count [] [] (.error (.device (.invalidWidth n)))
  | outside {k : Nat} (hcount : k < count) (hwidth : Width.IsSize n)
    (hinside : ∀ i < k, first + i * n + n ≤ memory.length) (houtside : memory.length < first + k * n + n) :
    Walks tunnelled style memory first n count ((places first n k).map (Fetch.mk · n none))
      ((places first n k).map (shownAt style memory n)) (.error (.device (.outsideWindow (first + k * n) n)))
  | failed {k : Nat} (htunnelled : tunnelled = true) (hcount : k < count) (hwidth : Width.IsSize n)
    (hinside : ∀ i < k + 1, first + i * n + n ≤ memory.length) (cause : Error) :
    Walks tunnelled style memory first n count
      ((places first n k).map (Fetch.mk · n none) ++ [⟨first + k * n, n, some cause⟩])
      ((places first n k).map (shownAt style memory n)) (.error (.device cause))

theorem places_succ (first n count : Nat) : places first n (count + 1) = first :: places (first + n) n count := by
  unfold places
  rw [List.range_succ_eq_map, List.map_cons, List.map_map, Nat.zero_mul, Nat.add_zero]
  congr 1
  apply List.map_congr_left
  intro k _
  simp only [Function.comp_apply, Nat.succ_eq_add_one, Nat.succ_mul, Nat.add_assoc, Nat.add_comm n]

namespace Walks

variable {first n count : Nat} {fetches : List Fetch} {printed : List Bytes} {result : Except Failure Unit}

theorem inside_succ {k : Nat} (hfirst : first + n ≤ memory.length)
    (hrest : ∀ i < k, first + n + i * n + n ≤ memory.length)
    : ∀ i < k + 1, first + i * n + n ≤ memory.length := by
  intro i hi
  cases i with
  | zero => simpa using hfirst
  | succ i =>
    have hnext := hrest i (by omega)
    rw [Nat.succ_mul]
    omega

theorem next (hwidth : Width.IsSize n) (hfirst : first + n ≤ memory.length)
    (h : Walks tunnelled style memory (first + n) n count fetches printed result)
    : Walks tunnelled style memory first n (count + 1) (⟨first, n, none⟩ :: fetches)
        (shownAt style memory n first :: printed) result := by
  have hplace : ∀ k, first + n + k * n = first + (k + 1) * n := by
    intro k
    rw [Nat.succ_mul]
    omega
  -- what the walk from the next register on has shown, with this register before it, is one row
  have hrow : ∀ {α : Type} (f : Nat → α) k,
      f first :: (places (first + n) n k).map f = (places first n (k + 1)).map f := by
    intro α f k
    rw [places_succ, List.map_cons]
  cases h with
  | done _ hinside =>
    rw [hrow (Fetch.mk · n none), hrow]
    exact done (.inr hwidth) (inside_succ hfirst hinside)
  | badWidth _ hbad => contradiction
  | outside hcount _ hinside houtside =>
    rw [hplace] at houtside ⊢
    rw [hrow (Fetch.mk · n none), hrow]
    exact outside (Nat.succ_lt_succ hcount) hwidth (inside_succ hfirst hinside) houtside
  | failed htunnelled hcount _ hinside cause =>
    rw [hplace, ← List.cons_append, hrow (Fetch.mk · n none), hrow]
    exact failed htunnelled (Nat.succ_lt_succ hcount) hwidth (inside_succ hfirst hinside) cause

theorem succeeds_iff (h : Walks tunnelled style memory first n count fetches printed result)
    (hanswered : tunnelled = true → ∀ f ∈ fetches, f.failure = none)
    : result = .ok () ↔ count = 0 ∨ Width.IsSize n ∧ first + (count - 1) * n + n ≤ memory.length := by
  cases h with
  | done hwidth hinside =>
    simp only [true_iff]
    by_cases hcount : count = 0
    . exact .inl hcount
    . exact .inr ⟨hwidth.resolve_left hcount, hinside _ (by omega)⟩
  | badWidth hcount hwidth =>
    simp only [reduceCtorEq, false_iff]
    rintro (hzero | ⟨hsize, _⟩)
    . omega
    . exact hwidth hsize
  | @outside k hcount hwidth hinside houtside =>
    have hlast : k * n ≤ (count - 1) * n := Nat.mul_le_mul_right n (by omega)
    simp only [reduceCtorEq, false_iff]
    omega
  | failed htunnelled _ _ _ cause =>
    have hnone := hanswered htunnelled _ (List.mem_append_right _ List.mem_cons_self)
    cases hnone

theorem inside_of_lt_length (h : Walks tunnelled style memory first n count fetches printed result) {k : Nat}
    (hk : k < printed.length) : Width.IsSize n ∧ first + k * n + n ≤ memory.length := by
  cases h with
  | done hwidth hinside =>
    simp only [places, List.length_map, List.length_range] at hk
    exact ⟨hwidth.resolve_left (by omega), hinside k hk⟩
  | badWidth => contradiction
  | outside _ hwidth hinside _ | failed _ _ hwidth hinside _ =>
    simp only [places, List.length_map, List.length_range] at hk
    exact ⟨hwidth, hinside k (by omega)⟩

theorem address_lt (h : Walks tunnelled style memory first n count fetches printed result)
    (hmemory : memory.length ≤ 2 ^ 63) {address : Nat} (haddress : address < 2 ^ 64)
    (hfirst : first = address - address % n) {k : Nat} (hk : k ≤ printed.length) : address + k * n < 2 ^ 64 := by
  cases k with
  | zero => simpa using haddress
  | succ k =>
    obtain ⟨hwidth, hinside⟩ := h.inside_of_lt_length hk
    have hround := Nat.mod_lt address hwidth.pos
    have hle := hwidth.le
    rw [Nat.succ_mul]
    omega

end Walks

theorem walks_of_refused {address n count : Nat} (hcount : 0 < count) {e : Error}
    (h : Window.locate memory.length address n = .error e)
    : Walks tunnelled style memory (address - address % n) n count [] [] (.error (.device e)) := by
  by_cases hwidth : Width.IsSize n
  . by_cases hinside : address - address % n + n ≤ memory.length
    . obtain ⟨_, _, hlocated⟩ := Window.exists_locate_eq_ok hwidth hinside
      cases hlocated.symm.trans h
    . have houtside := Nat.not_le.mp hinside
      rw [Window.locate_of_outside hwidth houtside] at h
      cases h
      have hwalk : Walks tunnelled style memory (address - address % n) n count _ _ _ := Walks.outside hcount hwidth
        (fun _ hi => absurd hi (Nat.not_lt_zero _)) (by simpa using houtside)
      simpa [places] using hwalk
  . rw [Window.locate_of_not_isSize hwidth] at h
    cases h
    exact Walks.badWidth hcount hwidth

theorem walks_of_failing_line (hstyle : style ≠ .text) (hw : w.FetchesRegisters outside memory tunnelled)
    {address n count : Nat} (hcount : 0 < count) {u : List (Entry sessionInterface)} {e : Failure}
    (hyields : (registerLine w address n style).run.Yields u (.error e)) (hanswers : outside.Answers u)
    : Walks tunnelled style memory (address - address % n) n count (u.filterMap Entry.fetch?)
        (u.filterMap Entry.printed?) (.error e) := by
  rcases of_yields_registerLine hstyle hw hyields hanswers with
    ⟨cause, hlocate, rfl, hcause⟩ | ⟨hwidth, hinside, hprinted, ⟨_, hok⟩ | ⟨htunnelled, cause, hfetch, hcause⟩⟩
  . cases hcause
    exact walks_of_refused hcount hlocate
  . cases hok
  . cases hcause
    have hfirst : ∀ i < 0 + 1, address - address % n + i * n + n ≤ memory.length := by
      intro i hi
      simpa [Nat.lt_one_iff.mp hi] using hinside
    have hwalk : Walks tunnelled style memory (address - address % n) n count _ _ _ :=
      Walks.failed htunnelled hcount hwidth hfirst cause
    rw [hprinted, hfetch]
    simpa [places] using hwalk

theorem round_add (address n : Nat) : address + n - (address + n) % n = address - address % n + n := by
  have hle := Nat.mod_le address n
  rw [Nat.add_mod_right]
  omega

/--
The loop's address need not be that of a register. What it shows is a walk from the register that it is rounded down to.
-/
theorem walks_of_yields (hstyle : style ≠ .text) (hw : w.FetchesRegisters outside memory tunnelled)
    {address n count : Nat} {u : List (Entry sessionInterface)} {result : Except Failure Unit}
    (hyields : (printRegisters w address n style count).run.Yields u result) (hanswers : outside.Answers u)
    : Walks tunnelled style memory (address - address % n) n count (u.filterMap Entry.fetch?)
        (u.filterMap Entry.printed?) result := by
  induction count generalizing address u result with
  | zero =>
    obtain ⟨rfl, rfl⟩ := yields_done.mp hyields
    apply Walks.done (.inl rfl)
    intro i hi
    contradiction
  | succ count ih =>
    rw [printRegisters] at hyields
    rcases yields_run_bind.mp hyields with ⟨e, hfail, rfl⟩ | ⟨line, u₁, u₂, rfl, hline, hrest⟩
    . exact walks_of_failing_line hstyle hw (Nat.succ_pos count) hfail hanswers
    . obtain ⟨hanswers₁, hanswers₂⟩ := List.forall_mem_append.mp hanswers
      rcases of_yields_registerLine hstyle hw hline hanswers₁ with
        ⟨_, _, _, hcause⟩ | ⟨hwidth, hinside, hprinted, ⟨hfetch, hok⟩ | ⟨_, _, _, hcause⟩⟩
      . cases hcause
      . cases hok
        obtain ⟨_, u₃, rfl, hothers⟩ := yields_ask_bind.mp hrest
        have hwalk := ih hothers (List.forall_mem_cons.mp hanswers₂).2
        rw [round_add] at hwalk
        rw [List.filterMap_append, List.filterMap_append, hprinted, hfetch, List.nil_append,
          List.filterMap_cons_none rfl]
        exact hwalk.next hwidth hinside
      . cases hcause

theorem printRegisters_eq_forM (w : Registers) (address n : Nat) (style : PrintStyle) (count : Nat)
    : printRegisters w address n style count
        =
      forM (List.range count) fun k => registerLine w (address + k * n) n style >>= Session.printLine := by
  induction count generalizing address with
  | zero => rfl
  | succ count ih =>
    have hnext : ∀ k, address + n + k * n = address + (k + 1) * n := by
      intro k
      rw [Nat.succ_mul]
      omega
    rw [printRegisters, ih, List.range_succ_eq_map, List.forM_cons, List.forM_map, Nat.zero_mul, Nat.add_zero,
      LawfulMonad.bind_assoc]
    simp only [hnext, Nat.succ_eq_add_one]

theorem of_reached (c : Context) (f : Registers → Session Unit) (outside : Handler sessionInterface σ) (s : σ)
    : let session := c.registers false >>= f
      let t := session.run.transcript outside s
      let reached := (c.registers false).result outside s
      (∃ e,
        reached = .error e
          ∧
        session.result outside s = .error e
          ∧
        t.filterMap Entry.fetch? = []
          ∧
        t.filterMap Entry.printed? = []) ∨
      ∃ w before u,
        reached = .ok w
          ∧
        c.Reached false before w
          ∧
        outside.Answers before
          ∧
        (f w).run.Yields u (session.result outside s)
          ∧
        outside.Answers u
          ∧
        t.filterMap Entry.fetch? = u.filterMap Entry.fetch?
          ∧
        t.filterMap Entry.printed? = u.filterMap Entry.printed? := by
  intro session t reached
  have hfollows := Handler.follows_transcript outside session.run s
  rcases yields_run_bind.mp (yields_transcript outside session.run s) with
    ⟨e, hfail, hresult⟩ | ⟨w, before, u, htranscript, hreach, hrest⟩
  . obtain ⟨hfetches, hprinted⟩ := nothing_of_yields_registers hfail
    exact .inl ⟨e, congrArg Prod.fst (hfollows.run_eq hfail), hresult, hfetches, hprinted⟩
  . rw [htranscript] at hfollows
    obtain ⟨middle, hfirst, hsecond⟩ := Handler.follows_append.mp hfollows
    obtain ⟨hfetches, hprinted⟩ := nothing_of_yields_registers hreach
    have hreached : reached = .ok w := congrArg Prod.fst (hfirst.run_eq hreach)
    refine .inr ⟨w, before, u, hreached, reached_of_yields hreach, hfirst.answers, hrest, hsecond.answers, ?_, ?_⟩
    . change (session.run.transcript outside s).filterMap _ = _
      rw [htranscript, List.filterMap_append, hfetches, List.nil_append]
    . change (session.run.transcript outside s).filterMap _ = _
      rw [htranscript, List.filterMap_append, hprinted, List.nil_append]

/--
To show registers of `n` bytes from an address on is to walk the window, on either way to reach it. The walk begins at
the register that the address is rounded down to, though the loop counts on from the address itself, and it shows all
registers exactly if the last one lies inside the window. The loop's address does not overflow.
-/
theorem reading_walks_the_window (c : Context) (hstyle : style ≠ .text) {address : Nat} (haddress : address < 2 ^ 64)
    (n count : Nat) (hserves : outside.ServesMemory memory) (hmemory : memory.length ≤ 2 ^ 63)
    (hsize : c.tunnelled = true → memory.length = windowSize) (s : σ)
    : let session := c.readRegisters address n count style
      let fetches := (session.run.transcript outside s).filterMap Entry.fetch?
      let printed := session.printed outside s
      let result := session.result outside s
      let reached := (c.registers false).result outside s
      let first := address - address % n
      (session
          =
        do
          let w ← c.registers false
          forM (List.range count) fun k => registerLine w (address + k * n) n style >>= Session.printLine)
        ∧
      (∀ e, reached = .error e → result = .error e ∧ fetches = [] ∧ printed = [])
        ∧
      ∀ w, reached = .ok w →
        Walks c.tunnelled style memory first n count fetches printed result
          ∧
        ((c.tunnelled = true → ∀ f ∈ fetches, f.failure = none) →
          (result = .ok () ↔ count = 0 ∨ Width.IsSize n ∧ first + (count - 1) * n + n ≤ memory.length))
          ∧
        ∀ k ≤ printed.length, address + k * n < 2 ^ 64 := by
  intro session fetches printed result reached first
  have hloop := fun w => printRegisters_eq_forM w address n style count
  refine ⟨bind_congr hloop, ?_⟩
  rcases c.of_reached (fun w => printRegisters w address n style count) outside s with
    ⟨e, hreached, hresult, hfetches, hprinted⟩ |
    ⟨w, before, u, hreached, hw, hbefore, hyields, hanswers, hfetches, hprinted⟩
  . refine ⟨?_, fun w hw => by cases hreached.symm.trans hw⟩
    intro e' he'
    cases hreached.symm.trans he'
    exact ⟨hresult, hfetches, hprinted⟩
  . refine ⟨fun e he => (by cases hreached.symm.trans he), ?_⟩
    intro w' _
    have hwalk : Walks c.tunnelled style memory first n count fetches printed result := by
      have hwalk := walks_of_yields hstyle (hw.fetchesRegisters hserves hsize hbefore) hyields hanswers
      rw [← hfetches, ← hprinted] at hwalk
      exact hwalk
    exact ⟨hwalk, hwalk.succeeds_iff, fun k hk => hwalk.address_lt hmemory haddress rfl hk⟩

open Simulation in
def mappedRegisters (memory : Bytes) : Handler sessionInterface Console
  | .openRegisters _ _, console => (.ok memory.length, console)
  | .memory (.load offset length), console => (memory.slice offset length, console)
  | .device (.exchange _), console => (.error (.firmware ⟨0x64005⟩), console)
  | call, console => console.answer call

theorem mappedRegisters_servesMemory (memory : Bytes) : (mappedRegisters memory).ServesMemory memory where
  opened h := (Except.ok.inj h).symm
  load _ := rfl
  read _ h := by cases h

open Simulation in
/--
Five registers of four bytes are to be shown from within the second one on. The window has two of them left and half of
another one, which is refused.
-/
theorem walk_stops_at_half_a_register
    : let memory : Bytes := [1, 2, 3, 4, 5, 6, 7, 8, 9, 10, 11, 12, 13, 14]
      let outside := mappedRegisters memory
      let directory := "/sys/class/switchtec/switchtec0"
      let console : Console := { opening := fun name => .ok { name, partition := 0, generation := .gen4, directory } }
      let c : Context := ⟨some "switchtec0", 5, false, false⟩
      let session := c.readRegisters 5 4 5 .hex
      let printed := session.printed outside console
      outside.ServesMemory memory
        ∧
      memory.length ≤ 2 ^ 63
        ∧
      Walks false .hex memory 4 4 5 [⟨4, 4, none⟩, ⟨8, 4, none⟩] printed (.error (.device (.outsideWindow 12 4)))
        ∧
      (∀ k ≤ printed.length, 5 + k * 4 < 2 ^ 64)
        ∧
      printed = [Bytes.ofString "000004 - 0x08070605\n", Bytes.ofString "000008 - 0x0C0B0A09\n"] := by
  intro memory outside directory console c session printed
  have hserves : outside.ServesMemory memory := mappedRegisters_servesMemory memory
  have hresult : session.result outside console = .error (.device (.outsideWindow 12 4)) := by decide +kernel
  have hfetches : (session.run.transcript outside console).filterMap Entry.fetch?
      = [⟨4, 4, none⟩, ⟨8, 4, none⟩] := by
    decide +kernel
  obtain ⟨w, hreached⟩ : ∃ w, (c.registers false).result outside console = .ok w := ⟨_, rfl⟩
  obtain ⟨_, _, hwalks⟩ := reading_walks_the_window c (show PrintStyle.hex ≠ .text by decide)
    (show 5 < 2 ^ 64 by decide) 4 5 hserves (by decide) (fun h => by cases h) console
  obtain ⟨hwalk, _, haddress⟩ := hwalks w hreached
  rw [hresult, hfetches] at hwalk
  exact ⟨hserves, by decide, hwalk, haddress, by decide +kernel⟩

end Context
end PcieSwitch
