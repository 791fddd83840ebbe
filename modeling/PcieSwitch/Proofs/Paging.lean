import PcieSwitch.Device.Paging
import PcieSwitch.Proofs.Exchanges
import PcieSwitch.Proofs.Pages

/-!
This module contains the theory of work that is sent page by page: one command for each page, in order, up
to the first one that fails.
-/

namespace PcieSwitch

/--
The commands for some pages, each laid out by `layout`, were sent one after the other. The result is either
all replies or the failure of the last command sent.
-/
inductive Delivered (layout : List α → Exchange)
    : List (List α) → List Sent → Except Error (List Bytes) → Prop where
  | done : Delivered layout [] [] (.ok [])
  | failed (page : List α) (rest : List (List α)) (e : Error) :
    Delivered layout (page :: rest) [(layout page, .error e)] (.error e)
  | next (page : List α) (reply : Bytes) :
    Delivered layout rest sent replies →
      Delivered layout (page :: rest) ((layout page, .ok reply) :: sent) (replies.map (reply :: ·))

namespace Delivered

variable {layout : List α → Exchange} {pages : List (List α)} {sent : List Sent}

theorem length_le {replies : Except Error (List Bytes)} (h : Delivered layout pages sent replies)
    : sent.length ≤ pages.length := by
  induction h with
  | done => apply Nat.le_refl
  | failed page rest e => apply Nat.succ_le_succ (Nat.zero_le _)
  | next page reply _ ih => apply Nat.succ_le_succ ih

theorem map_fst {replies : Except Error (List Bytes)} (h : Delivered layout pages sent replies)
    : sent.map Prod.fst = (pages.take sent.length).map layout := by
  induction h with
  | done => rfl
  | failed page rest e => rfl
  | next page reply _ ih => rw [List.map_cons, List.length_cons, List.take_succ_cons, List.map_cons, ih]

theorem exists_page {replies : Except Error (List Bytes)} (h : Delivered layout pages sent replies)
    {i : Nat} {y : Sent} (hy : sent[i]? = some y)
    : ∃ page, pages[i]? = some page ∧ y.1 = layout page := by
  have hget : (sent.map Prod.fst)[i]? = some y.1 := by
    rw [List.getElem?_map, hy]
    rfl
  rw [h.map_fst, List.getElem?_map] at hget
  obtain ⟨page, htake, heq⟩ := Option.map_eq_some_iff.mp hget
  rw [List.getElem?_take] at htake
  split at htake
  . exact ⟨page, htake, heq.symm⟩
  . contradiction

theorem exists_page_of_mem {replies : Except Error (List Bytes)}
    (h : Delivered layout pages sent replies) {y : Sent} (hy : y ∈ sent)
    : ∃ page ∈ pages, y.1 = layout page := by
  obtain ⟨i, hi⟩ := List.mem_iff_getElem?.mp hy
  obtain ⟨page, hpage, heq⟩ := h.exists_page hi
  exact ⟨page, List.mem_of_getElem? hpage, heq⟩

theorem of_map {f : α → β} {layout : List β → Exchange} {replies : Except Error (List Bytes)}
    (h : Delivered (fun page => layout (page.map f)) pages sent replies)
    : Delivered layout (pages.map (List.map f)) sent replies := by
  induction h with
  | done => exact .done
  | failed page rest e => exact .failed _ _ e
  | next page reply _ ih => exact .next _ reply ih

theorem length_of_ok {replies : List Bytes} (h : Delivered layout pages sent (.ok replies))
    : replies.length = pages.length := by
  generalize hresult : Except.ok replies = result at h
  induction h generalizing replies with
  | done =>
    cases hresult
    rfl
  | failed page rest e => cases hresult
  | @next rest sent others page reply _ ih =>
    cases others with
    | error e => cases hresult
    | ok others =>
      cases hresult
      rw [List.length_cons, List.length_cons, ih rfl]

theorem map_snd_of_ok {replies : List Bytes} (h : Delivered layout pages sent (.ok replies))
    : sent.map Prod.snd = replies.map .ok := by
  generalize hresult : Except.ok replies = result at h
  induction h generalizing replies with
  | done =>
    cases hresult
    rfl
  | failed page rest e => cases hresult
  | @next rest sent others page reply _ ih =>
    cases others with
    | error e => cases hresult
    | ok others =>
      cases hresult
      rw [List.map_cons, List.map_cons, ih rfl]

theorem length_sent_of_ok {replies : List Bytes} (h : Delivered layout pages sent (.ok replies))
    : sent.length = pages.length := by
  rw [← h.length_of_ok, ← List.length_map Prod.snd, h.map_snd_of_ok, List.length_map]

theorem answered_of_ok {replies : List Bytes} (h : Delivered layout pages sent (.ok replies))
    : ∀ y ∈ sent, ∃ reply, y.2 = .ok reply := by
  intro y hy
  have hmem : y.2 ∈ sent.map Prod.snd := List.mem_map_of_mem hy
  rw [h.map_snd_of_ok] at hmem
  obtain ⟨reply, _, heq⟩ := List.mem_map.mp hmem
  exact ⟨reply, heq.symm⟩

theorem eq_append_of_error {e : Error} (h : Delivered layout pages sent (.error e))
    : ∃ before x,
        sent = before ++ [(x, .error e)]
          ∧
        ∀ y ∈ before, ∃ reply, y.2 = .ok reply := by
  generalize hresult : Except.error e = result at h
  induction h with
  | done => cases hresult
  | failed page rest e' =>
    cases hresult
    exact ⟨[], layout page, rfl, fun y hy => absurd hy List.not_mem_nil⟩
  | @next rest sent others page reply _ ih =>
    cases others with
    | ok others => cases hresult
    | error e' =>
      cases hresult
      obtain ⟨before, x, rfl, hbefore⟩ := ih rfl
      refine ⟨(layout page, .ok reply) :: before, x, rfl, ?_⟩
      intro y hy
      cases List.mem_cons.mp hy with
      | inl hfirst => exact ⟨reply, by rw [hfirst]⟩
      | inr hrest => exact hbefore y hrest

end Delivered

namespace Operation

theorem delivered_of_sends_paged {layout : List α → Exchange} {decode : List α → Bytes → List β}
    {work : List α → Operation (List β)} {pages : List (List α)}
    (hwork : ∀ page ∈ pages, ∀ {sent result}, (work page).Sends sent result →
      ∃ answer, sent = [(layout page, answer)] ∧ result = answer.map (decode page))
    {sent : List Sent} {result : Except Error (List β)} (h : (paged work pages).Sends sent result)
    : ∃ replies,
        Delivered layout pages sent replies
          ∧
        result = replies.map fun replies => (List.zipWith decode pages replies).flatten := by
  induction pages generalizing sent result with
  | nil =>
    obtain ⟨rfl, rfl⟩ := sends_pure.mp h
    exact ⟨.ok [], .done, rfl⟩
  | cons page rest ih =>
    unfold paged at h
    -- the page's command either ends the work or is followed by those of the rest
    rcases sends_bind.mp h with ⟨e, hpage, rfl⟩ | ⟨values, s₁, s₂, rfl, hpage, hrest⟩
    . obtain ⟨answer, rfl, hanswer⟩ := hwork page List.mem_cons_self hpage
      cases answer with
      | error e' =>
        cases hanswer
        exact ⟨.error e, .failed page rest e, rfl⟩
      | ok reply => cases hanswer
    . obtain ⟨answer, rfl, hanswer⟩ := hwork page List.mem_cons_self hpage
      cases answer with
      | error e' => cases hanswer
      | ok reply =>
        cases hanswer
        have hwork' : ∀ page ∈ rest, ∀ {sent result}, (work page).Sends sent result →
            ∃ answer, sent = [(layout page, answer)] ∧ result = answer.map (decode page) :=
          fun page hmem => hwork page (List.mem_cons_of_mem _ hmem)
        obtain ⟨inner, hothers, rfl⟩ := sends_bind_pure.mp hrest
        obtain ⟨replies, hdelivered, rfl⟩ := ih hwork' hothers
        refine ⟨replies.map (reply :: ·), .next page reply hdelivered, ?_⟩
        rw [except_map_map, except_map_map]
        rfl

theorem pagedOrders_eq_paged (order : List α → Operation Unit) (pages : List (List α))
    : pagedOrders order pages
        =
      (paged (fun page => do order page; return ([] : List Unit)) pages >>= fun _ => pure ()) := by
  induction pages with
  | nil => rfl
  | cons page rest ih =>
    unfold pagedOrders paged
    rw [ih]
    simp only [bind_assoc, pure_bind]

end Operation
end PcieSwitch
