import Mathlib.Data.List.Nodup

/-!
# A queue that hands out its messages in leased batches

Messages wait until a worker takes all of them as one batch under a fresh lease.  While it is in
flight new messages are kept apart.  The batch is settled by the holder of the lease, or a failed
attempt puts both lists together again; after `budget` failed attempts the queue gives up until a
new message arrives.  A message may push out older ones.

`Phase` is the state, `Move` its steps with a `Label`.  No message is lost, doubled or reordered
(`Conserved`), a batch is handed out a bounded number of times (`WithinBudget`), and a notice
survives until a batch is settled (`Move.notice_of_notice`).
-/

namespace LeasedBatch

open List

/-- Where the messages of a queue are. -/
inductive Phase (τ ℓ : Type*)
  | empty
  | waiting (texts : List τ) (retries : ℕ) (notice : Bool)
  /-- A batch is in flight; `pastBudget` when it had been given up before it was handed out. -/
  | inFlight (lease : ℓ) (batch pending : List τ) (retries : ℕ) (notice pastBudget : Bool)
  | givenUp (texts : List τ) (retries : ℕ) (notice : Bool)

/-- What a move does to messages. -/
inductive Label (τ ℓ : Type*)
  | quiet
  /-- The message arrives and pushes out the messages `lost`. -/
  | accept (message : τ) (lost : List τ)
  | handOut (lease : ℓ) (batch : List τ) (notice : Bool)
  | settle (lease : ℓ) (batch : List τ)
  | discard

variable {τ ℓ : Type*}

/-- The moves of the abstract queue. -/
inductive Move (budget : ℕ) : Phase τ ℓ → Label τ ℓ → Phase τ ℓ → Prop
  | stay (p) : Move budget p .quiet p
  | acceptFirst (m) : Move budget .empty (.accept m []) (.waiting [m] 0 false)
  | acceptWaiting {texts retries notice m lost kept} (h : lost ++ kept = texts ++ [m]) :
      Move budget (.waiting texts retries notice) (.accept m lost)
        (.waiting kept retries (notice || !lost.isEmpty))
  | acceptGivenUp {texts retries notice m lost kept} (h : lost ++ kept = texts ++ [m]) :
      Move budget (.givenUp texts retries notice) (.accept m lost)
        (.waiting kept 0 (notice || !lost.isEmpty))
  | acceptInFlight {lease batch pending retries notice pastBudget m lost kept}
      (h : lost ++ kept = pending ++ [m]) :
      Move budget (.inFlight lease batch pending retries notice pastBudget) (.accept m lost)
        (.inFlight lease batch kept (if pastBudget then 0 else retries)
          (notice || !lost.isEmpty) false)
  | handOut {texts retries notice} (lease) :
      Move budget (.waiting texts retries notice) (.handOut lease texts notice)
        (.inFlight lease texts [] retries notice false)
  | handOutGivenUp {texts retries notice} (lease) :
      Move budget (.givenUp texts retries notice) (.handOut lease texts notice)
        (.inFlight lease texts [] retries notice true)
  | handOutReplay {old batch pending retries notice pastBudget} (h : retries + 1 ≤ budget) (lease) :
      Move budget (.inFlight old batch pending retries notice pastBudget)
        (.handOut lease (batch ++ pending) notice)
        (.inFlight lease (batch ++ pending) [] (retries + 1) notice false)
  | requeue {lease batch pending retries notice pastBudget} (h : retries + 1 ≤ budget) :
      Move budget (.inFlight lease batch pending retries notice pastBudget) .quiet
        (.waiting (batch ++ pending) (retries + 1) notice)
  | giveUp {lease batch pending retries notice pastBudget} (h : budget < retries + 1) :
      Move budget (.inFlight lease batch pending retries notice pastBudget) .quiet
        (.givenUp (batch ++ pending) (retries + 1) notice)
  | settleRest {lease batch pending retries notice pastBudget} (h : pending ≠ []) :
      Move budget (.inFlight lease batch pending retries notice pastBudget) (.settle lease batch)
        (.waiting pending 0 false)
  | settleAll {lease batch retries notice pastBudget} :
      Move budget (.inFlight lease batch [] retries notice pastBudget) (.settle lease batch) .empty
  | discard (p) : Move budget p .discard .empty

/-! ## Conservation of messages -/

/-- All messages of the queue, a batch in flight first. -/
def Phase.messages : Phase τ ℓ → List τ
  | empty => []
  | waiting texts _ _ => texts
  | inFlight _ batch pending _ _ _ => batch ++ pending
  | givenUp texts _ _ => texts

/-- What has happened to messages so far. -/
structure Ledger (τ ℓ : Type*) where
  (arrived lost : List τ)
  handedOut : List (ℓ × List τ)
  settled : List (ℓ × List τ)

namespace Ledger

def blank : Ledger τ ℓ := ⟨[], [], [], []⟩

def record (l : Ledger τ ℓ) : Label τ ℓ → Ledger τ ℓ
  | .quiet => l
  | .accept m lost => { l with arrived := l.arrived ++ [m], lost := l.lost ++ lost }
  | .handOut lease batch _ => { l with handedOut := l.handedOut ++ [(lease, batch)] }
  | .settle lease batch => { l with settled := l.settled ++ [(lease, batch)] }
  | .discard => l

def settledMessages (l : Ledger τ ℓ) : List τ := l.settled.flatMap Prod.snd

@[simp] lemma settledMessages_settle (l : Ledger τ ℓ) (lease : ℓ) (batch : List τ) :
    (l.record (.settle lease batch)).settledMessages = l.settledMessages ++ batch := by
  simp [record, settledMessages]

def remaining [DecidableEq τ] (l : Ledger τ ℓ) : List τ :=
  l.arrived.filter fun m => m ∉ l.lost ∧ m ∉ l.settledMessages

end Ledger

/-- The queue and the ledger agree on every message. -/
structure Conserved [DecidableEq τ] (p : Phase τ ℓ) (l : Ledger τ ℓ) : Prop where
  nodup : l.arrived.Nodup
  lost_arrived : ∀ m ∈ l.lost, m ∈ l.arrived
  settled_arrived : ∀ m ∈ l.settledMessages, m ∈ l.arrived
  disjoint : ∀ m ∈ l.lost, m ∉ l.settledMessages
  order : p.messages = l.remaining
  leased : ∀ lease batch pending retries notice pastBudget,
    p = .inFlight lease batch pending retries notice pastBudget → (lease, batch) ∈ l.handedOut
  settled_handedOut : ∀ e ∈ l.settled, e ∈ l.handedOut

lemma filter_not_mem_segment [DecidableEq τ] {front segment rest : List τ}
    (h : (front ++ (segment ++ rest)).Nodup) :
    (front ++ (segment ++ rest)).filter (fun m => m ∉ segment) = front ++ rest := by
  simp only [nodup_append, mem_append] at h
  obtain ⟨-, ⟨-, -, hsegment⟩, hfront⟩ := h
  have hkeep : front.filter (fun m => m ∉ segment) = front := by
    rw [filter_eq_self]
    intro m hm
    have hne : m ∉ segment := fun hs => hfront m hm m (.inl hs) rfl
    simpa using hne
  have hdrop : segment.filter (fun m => m ∉ segment) = [] := by
    rw [filter_eq_nil_iff]
    intro m hm
    simpa using hm
  have hrest : rest.filter (fun m => m ∉ segment) = rest := by
    rw [filter_eq_self]
    intro m hm
    have hne : m ∉ segment := fun hs => hsegment m hs m hm rfl
    simpa using hne
  rw [filter_append, filter_append, hkeep, hdrop, hrest, nil_append]

namespace Conserved

variable [DecidableEq τ] {p q : Phase τ ℓ} {l : Ledger τ ℓ}

lemma blank : Conserved (.empty : Phase τ ℓ) .blank where
  nodup := nodup_nil
  lost_arrived := by simp [Ledger.blank]
  settled_arrived := by simp [Ledger.blank, Ledger.settledMessages]
  disjoint := by simp [Ledger.blank]
  order := rfl
  leased := by simp
  settled_handedOut := by simp [Ledger.blank]

section

variable (h : Conserved p l)
include h

lemma messages_nodup : p.messages.Nodup := by
  rw [h.order]
  exact h.nodup.filter _

lemma of_messages_eq (hmsgs : q.messages = p.messages)
    (hlsd : ∀ lease batch pending retries notice pastBudget,
      q = .inFlight lease batch pending retries notice pastBudget →
        (lease, batch) ∈ l.handedOut) : Conserved q l :=
  { h with order := hmsgs.trans h.order, leased := hlsd }

lemma handOut {lease : ℓ} {batch : List τ} {notice : Bool} (hmsgs : q.messages = p.messages)
    (hq : ∃ retries pastBudget, q = .inFlight lease batch [] retries notice pastBudget) :
    Conserved q (l.record (.handOut lease batch notice)) where
  nodup := h.nodup
  lost_arrived := h.lost_arrived
  settled_arrived := h.settled_arrived
  disjoint := h.disjoint
  order := hmsgs.trans h.order
  leased := by
    obtain ⟨_, _, rfl⟩ := hq
    rintro _ _ _ _ _ _ ⟨⟩
    simp [Ledger.record]
  settled_handedOut := fun e he => by
    simpa [Ledger.record] using .inl (h.settled_handedOut e he)

lemma accept (front old : List τ) {m : τ} {lost kept : List τ} (hm : m ∉ l.arrived)
    (hp : p.messages = front ++ old) (hcut : lost ++ kept = old ++ [m])
    (hq : q.messages = front ++ kept)
    (hlsd : ∀ lease batch pending retries notice pastBudget,
      q = .inFlight lease batch pending retries notice pastBudget → (lease, batch) ∈ l.handedOut) :
    Conserved q (l.record (.accept m lost)) := by
  have hrem : (l.arrived ++ [m]).filter
      (fun x => x ∉ l.lost ∧ x ∉ l.settledMessages) = front ++ (lost ++ kept) := by
    have hlast : [m].filter (fun x => decide (x ∉ l.lost ∧ x ∉ l.settledMessages)) = [m] := by
      have hlost : m ∉ l.lost := fun hx => hm (h.lost_arrived m hx)
      have hset : m ∉ l.settledMessages := fun hx => hm (h.settled_arrived m hx)
      simp [hlost, hset]
    rw [filter_append, hlast, hcut, ← append_assoc, ← hp, h.order]
    rfl
  have hnodup : (l.arrived ++ [m]).Nodup := by
    rw [nodup_append]
    refine ⟨h.nodup, nodup_singleton m, ?_⟩
    rintro x hx _ hy rfl
    exact hm (mem_singleton.mp hy ▸ hx)
  have hlost : ∀ x ∈ lost, x ∈ l.arrived ++ [m] ∧ x ∉ l.lost ∧ x ∉ l.settledMessages := by
    intro x hx
    have hmem : x ∈ front ++ (lost ++ kept) := by simp [hx]
    rw [← hrem, mem_filter] at hmem
    simpa using hmem
  refine ⟨hnodup, ?_, ?_, ?_, ?_, hlsd, h.settled_handedOut⟩
  · intro x hx
    rcases mem_append.mp hx with hx | hx
    · exact mem_append_left _ (h.lost_arrived x hx)
    · exact (hlost x hx).1
  · intro x hx
    exact mem_append_left _ (h.settled_arrived x hx)
  · intro x hx
    rcases mem_append.mp hx with hx | hx
    · exact h.disjoint x hx
    · exact (hlost x hx).2.2
  · have hsegment : (front ++ (lost ++ kept)).Nodup := hrem ▸ hnodup.filter _
    rw [hq, ← filter_not_mem_segment hsegment, ← hrem, filter_filter]
    apply filter_congr
    intro x _
    rw [Bool.eq_iff_iff]
    change _ ↔ decide (x ∉ l.lost ++ lost ∧ x ∉ l.settledMessages) = true
    simp only [Bool.and_eq_true, decide_eq_true_eq, mem_append]
    tauto

lemma settle {lease : ℓ} {batch pending : List τ} (hp : p.messages = batch ++ pending)
    (hlsd : (lease, batch) ∈ l.handedOut) (hq : q.messages = pending)
    (hidle : ∀ lease batch pending retries notice pastBudget,
      q ≠ .inFlight lease batch pending retries notice pastBudget) :
    Conserved q (l.record (.settle lease batch)) := by
  have hbatch : ∀ x ∈ batch, x ∈ l.arrived ∧ x ∉ l.lost := by
    intro x hx
    have hmem : x ∈ p.messages := by rw [hp]; exact mem_append_left _ hx
    rw [h.order, Ledger.remaining, mem_filter] at hmem
    have hstays := hmem.2
    simp only [decide_eq_true_eq] at hstays
    exact ⟨hmem.1, hstays.1⟩
  refine ⟨h.nodup, h.lost_arrived, ?_, ?_, ?_, ?_, ?_⟩
  · intro x hx
    rw [Ledger.settledMessages_settle, mem_append] at hx
    exact hx.elim (h.settled_arrived x) fun hx => (hbatch x hx).1
  · intro x hx
    rw [Ledger.settledMessages_settle, mem_append, not_or]
    exact ⟨h.disjoint x hx, fun hb => (hbatch x hb).2 hx⟩
  · have hnodup : ([] ++ (batch ++ pending)).Nodup := by
      rw [nil_append, ← hp]
      exact h.messages_nodup
    have hcut := filter_not_mem_segment hnodup
    rw [nil_append, nil_append, ← hp, h.order, Ledger.remaining, filter_filter] at hcut
    rw [hq, ← hcut]
    apply filter_congr
    intro _ _
    rw [Bool.eq_iff_iff, Ledger.settledMessages_settle]
    simp only [Bool.and_eq_true, decide_eq_true_eq, Ledger.record, mem_append]
    tauto
  · intro lease batch pending retries notice pastBudget heq
    exact absurd heq (hidle lease batch pending retries notice pastBudget)
  · intro e he
    rcases mem_append.mp he with he | he
    · exact h.settled_handedOut e he
    · rw [mem_singleton.mp he]
      exact hlsd

end

lemma move {budget : ℕ} {label : Label τ ℓ} (h : Conserved p l)
    (hmove : Move budget p label q) (hfresh : ∀ m lost, label = .accept m lost → m ∉ l.arrived)
    (hdiscard : label ≠ .discard) : Conserved q (l.record label) := by
  cases hmove with
  | stay => exact h
  | acceptFirst m =>
    exact h.accept [] [] (hfresh m [] rfl) rfl rfl rfl (by simp)
  | acceptWaiting hcut | acceptGivenUp hcut =>
    exact h.accept [] _ (hfresh _ _ rfl) rfl hcut rfl (by simp)
  | acceptInFlight hcut =>
    refine h.accept _ _ (hfresh _ _ rfl) rfl hcut rfl ?_
    rintro _ _ _ _ _ _ ⟨⟩
    exact h.leased _ _ _ _ _ _ rfl
  | handOut | handOutGivenUp | handOutReplay =>
    exact h.handOut (by simp [Phase.messages]) ⟨_, _, rfl⟩
  | requeue | giveUp => exact h.of_messages_eq rfl (by simp)
  | settleRest | settleAll => exact h.settle rfl (h.leased _ _ _ _ _ _ rfl) rfl (by simp)
  | discard => exact absurd rfl hdiscard

lemma fate (h : Conserved p l) {m : τ} (hm : m ∈ l.arrived) :
    (m ∈ p.messages ∧ m ∉ l.lost ∧ m ∉ l.settledMessages) ∨
      (m ∉ p.messages ∧ m ∈ l.lost ∧ m ∉ l.settledMessages) ∨
      (m ∉ p.messages ∧ m ∉ l.lost ∧ m ∈ l.settledMessages) := by
  have hmem : m ∈ p.messages ↔ m ∉ l.lost ∧ m ∉ l.settledMessages := by
    rw [h.order, Ledger.remaining, mem_filter, decide_eq_true_eq]
    exact and_iff_right hm
  have hdisjoint := h.disjoint m
  tauto

end Conserved

/-! ## The number of times a batch is handed out -/

/-- How often a batch was handed out since the last message arrived. -/
def countHandOuts (handouts : ℕ) : Label τ ℓ → ℕ
  | .accept _ _ => 0
  | .handOut _ _ _ => handouts + 1
  | _ => handouts

/-- The count of handed-out batches stays within the budget of failed attempts. -/
inductive WithinBudget (budget : ℕ) : Phase τ ℓ → ℕ → Prop
  | empty {handouts} (h : handouts ≤ budget + 1) : WithinBudget budget .empty handouts
  | waiting {texts retries notice handouts} (hretries : retries ≤ budget)
      (h : handouts ≤ retries) : WithinBudget budget (.waiting texts retries notice) handouts
  | inFlight {lease batch pending retries notice handouts} (hretries : retries ≤ budget)
      (h : handouts ≤ retries + 1) (hpending : pending ≠ [] → handouts = 0) :
      WithinBudget budget (.inFlight lease batch pending retries notice false) handouts
  | givenUp {texts retries notice handouts} (h : handouts ≤ budget + 1) :
      WithinBudget budget (.givenUp texts retries notice) handouts

namespace WithinBudget

variable {budget handouts : ℕ} {p q : Phase τ ℓ} {label : Label τ ℓ}

lemma handouts_le (h : WithinBudget budget p handouts) : handouts ≤ budget + 1 := by
  cases h <;> omega

lemma not_pastBudget {lease : ℓ} {batch pending : List τ} {retries : ℕ} {notice : Bool} :
    ¬ WithinBudget budget (.inFlight lease batch pending retries notice true) handouts := by
  rintro ⟨⟩

lemma move (h : WithinBudget budget p handouts) (hmove : Move budget p label q)
    (hgivenUp : ∀ texts retries notice, p = .givenUp texts retries notice →
      ∀ lease batch notice, label ≠ .handOut lease batch notice) :
    WithinBudget budget q (countHandOuts handouts label) := by
  cases hmove with
  | stay => exact h
  | acceptFirst | acceptGivenUp => exact .waiting (Nat.zero_le _) (Nat.zero_le _)
  | acceptWaiting =>
    obtain _ | ⟨hret, -⟩ := h
    exact .waiting hret (Nat.zero_le _)
  | acceptInFlight =>
    obtain _ | _ | ⟨hret, -, -⟩ := h
    exact .inFlight hret (Nat.zero_le _) fun _ => rfl
  | handOut =>
    obtain _ | ⟨hret, hle⟩ := h
    exact .inFlight hret (Nat.succ_le_succ hle) fun h => absurd rfl h
  | handOutGivenUp lease => exact absurd rfl (hgivenUp _ _ _ rfl lease _ _)
  | handOutReplay hbud =>
    obtain _ | _ | ⟨-, hle, -⟩ := h
    exact .inFlight hbud (Nat.succ_le_succ hle) fun h => absurd rfl h
  | requeue hbud =>
    obtain _ | _ | ⟨-, hle, -⟩ := h
    exact .waiting hbud hle
  | giveUp =>
    obtain _ | _ | ⟨hret, hle, -⟩ := h
    exact .givenUp (Nat.le_trans hle (Nat.succ_le_succ hret))
  | settleRest hpend =>
    -- the messages kept apart arrived after the batch was handed out for the last time
    obtain _ | _ | ⟨-, -, hzero⟩ := h
    exact .waiting (Nat.zero_le _) (Nat.le_of_eq (hzero hpend))
  | settleAll =>
    obtain _ | _ | ⟨hret, hle, -⟩ := h
    exact .empty (Nat.le_trans hle (Nat.succ_le_succ hret))
  | discard => exact .empty h.handouts_le

end WithinBudget

/-! ## The notice that messages were pushed out -/

/-- Whether the queue remembers that messages were pushed out. -/
def Phase.notice : Phase τ ℓ → Bool
  | empty => false
  | waiting _ _ notice => notice
  | inFlight _ _ _ _ notice _ => notice
  | givenUp _ _ notice => notice

namespace Move

variable {budget : ℕ} {p q : Phase τ ℓ} {label : Label τ ℓ}

lemma notice_handOut {lease : ℓ} {batch : List τ} {notice : Bool}
    (hmove : Move budget p (.handOut lease batch notice) q) : notice = p.notice := by
  cases hmove <;> rfl

lemma notice_of_lost {m : τ} {lost : List τ} (hmove : Move budget p (.accept m lost) q)
    (hlost : lost ≠ []) : q.notice = true := by
  cases hmove <;> simp_all [Phase.notice]

lemma notice_of_notice (hmove : Move budget p label q) (hp : p.notice = true)
    (hset : ∀ lease batch, label ≠ .settle lease batch) (hdiscard : label ≠ .discard) :
    q.notice = true := by
  cases hmove <;> simp_all [Phase.notice]

lemma notice_settle {lease : ℓ} {batch : List τ} (hmove : Move budget p (.settle lease batch) q) :
    q.notice = false := by
  cases hmove <;> rfl

lemma notice_of_not_lost (hmove : Move budget p label q) (hp : p.notice = false)
    (hlost : ∀ m lost, label = .accept m lost → lost = []) : q.notice = false := by
  cases hmove <;> simp_all [Phase.notice]

end Move

end LeasedBatch
