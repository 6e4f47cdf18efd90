import WispaceBot.Reschedule.ConfirmationStore

/-!
# The protocol of one approval

The tables and the running calls of `confirm` as seen from a single staged request.  `Move` lists
what one step of any process can do to this view, and `Invariant` is kept by every move: a call that
is about to write finds that no write for the request has returned (`Invariant.not_written`).  The
cron's `rearm` keeps it when no attempt is confirmed and no call holds the request.
-/

namespace WispaceBot

namespace Approval

/-- What a call of `confirm` is doing with a request it has claimed. -/
inductive Phase
  | asking
  | beginning
  | writing
  | recording
  | clearing
  | leaving
  | failing
  deriving DecidableEq

def Phase.Holds (a : Phase) : Prop :=
  a = .asking ∨ a = .beginning ∨ a = .writing ∨ a = .recording
  deriving Decidable

def Phase.Active (a : Phase) : Prop :=
  a = .writing ∨ a = .recording ∨ a = .clearing

/-- What a call in this phase relies on about the recorded attempt. -/
def Phase.Allows : Phase → Option RescheduleAttemptStatus → Prop
  | .asking, attempt => attempt ≠ some .confirmed
  | .beginning, attempt => attempt = none
  | .writing, attempt | .recording, attempt | .clearing, attempt => attempt = some .attempting
  | .leaving, _ | .failing, _ => True

variable {a : Phase}

open Phase

lemma Phase.allows_of_passive (hh : ¬ a.Holds) (ha : ¬ a.Active)
    (att : Option RescheduleAttemptStatus) : a.Allows att := by
  cases a <;> simp_all [Holds, Active, Allows]

lemma Phase.allows_none (ha : ¬ a.Active) : a.Allows none := by
  cases a <;> simp_all [Active, Allows]

lemma Phase.Active.attempting (ha : a.Active) {att : Option RescheduleAttemptStatus}
    (h : a.Allows att) : att = some .attempting := by
  rcases ha with rfl | rfl | rfl <;> exact h

/-- A staged request as its processes see it.  `ι` are the processes and `κ` the leases. -/
structure View (ι κ : Type) where
  (staged pending : Prop)
  claimed : κ → Prop
  attempt : Option RescheduleAttemptStatus
  work : ι → Option (κ × Phase)
  written : Prop

variable {ι κ : Type} {v w : View ι κ}

/-- The request is neither staged nor put back to pending nor claimed. -/
structure RowShrinks (v w : View ι κ) : Prop where
  staged : w.staged ↔ v.staged
  pending : w.pending → v.pending
  claimed : ∀ l, w.claimed l → v.claimed l

/-- Process `i` goes from phase `a` to phase `b` under its lease `l`, or stops. -/
structure Advances (i : ι) (l : κ) (a b : Phase) (v w : View ι κ) : Prop extends
    RowShrinks v w where
  before : v.work i = some (l, a)
  after : w.work i = some (l, b) ∨ w.work i = none
  others : ∀ j, j ≠ i → w.work j = v.work j

/-- What may happen to a request. -/
inductive Move (v w : View ι κ) : Prop
  | quiet (row : RowShrinks v w) (attempt : w.attempt = v.attempt) (written : w.written ↔ v.written)
      (work : ∀ i, w.work i = v.work i ∨ w.work i = none)
  | stage (new : ¬ v.staged) (staged : w.staged) (attempt : w.attempt = v.attempt)
      (written : w.written ↔ v.written) (work : w.work = v.work)
  /-- Process `i` claims the pending request under the fresh lease `l`. -/
  | claim (i : ι) (l : κ) (staged : w.staged ↔ v.staged) (pending : v.pending) (taken : ¬ w.pending)
      (claimed : ∀ m, w.claimed m → m = l) (fresh : ∀ j a, v.work j ≠ some (l, a))
      (attempt : w.attempt = v.attempt) (written : w.written ↔ v.written)
      (work : w.work i = some (l, .asking) ∨ w.work i = some (l, .failing) ∨ w.work i = none)
      (others : ∀ j, j ≠ i → w.work j = v.work j)
  /-- Process `i` turns the request down. -/
  | refuse (i : ι) (l : κ) (advances : Advances i l .asking .failing v w)
      (attempt : w.attempt = v.attempt) (written : w.written ↔ v.written)
  /-- Process `i` finds no open attempt. -/
  | look (i : ι) (l : κ) (advances : Advances i l .asking .beginning v w)
      (unopened : v.attempt ≠ some .attempting) (attempt : w.attempt = v.attempt)
      (written : w.written ↔ v.written)
  /-- Process `i` opens an attempt. -/
  | begin (i : ι) (l : κ) (advances : Advances i l .beginning .writing v w)
      (attempt : w.attempt = some .attempting) (written : w.written ↔ v.written)
  /-- The write of process `i` returns. -/
  | write (i : ι) (l : κ) (advances : Advances i l .writing .recording v w)
      (attempt : w.attempt = v.attempt)
  /-- The write of process `i` fails. -/
  | fail (i : ι) (l : κ) (advances : Advances i l .writing .clearing v w)
      (attempt : w.attempt = v.attempt) (written : w.written ↔ v.written)
  /-- Process `i` records its write. -/
  | record (i : ι) (l : κ) (advances : Advances i l .recording .leaving v w)
      (attempt : w.attempt = some .confirmed) (written : w.written ↔ v.written)
  /-- Process `i` clears its attempt, or fails to. -/
  | clear (i : ι) (l : κ) (advances : Advances i l .clearing .failing v w)
      (attempt : w.attempt = none ∨ w.attempt = v.attempt) (written : w.written ↔ v.written)
  /-- Process `i` gives the request back if it still has the lease. -/
  | giveBack (i : ι) (l : κ) (staged : w.staged ↔ v.staged)
      (failing : v.work i = some (l, .failing)) (pending : w.pending → v.pending ∨ v.claimed l)
      (claimed : ∀ m, w.claimed m → v.claimed m) (attempt : w.attempt = v.attempt)
      (written : w.written ↔ v.written) (work : ∀ j, w.work j = v.work j ∨ w.work j = none)
  | rearm (staged : w.staged ↔ v.staged) (known : v.staged)
      (unconfirmed : v.attempt ≠ some .confirmed)
      (unheld : ∀ i l a, v.work i = some (l, a) → ¬ a.Holds)
      (claimed : ∀ m, w.claimed m → v.claimed m) (attempt : w.attempt = v.attempt)
      (written : w.written ↔ v.written) (work : ∀ j, w.work j = v.work j ∨ w.work j = none)

/-- The invariant of the abstract requests: at most one holder can write. -/
structure Invariant (v : View ι κ) : Prop where
  unstaged : ¬ v.staged → ¬ v.pending ∧ v.attempt = none ∧ (∀ i, v.work i = none) ∧ ¬ v.written
  lease_inj : ∀ {i j l a b}, v.work i = some (l, a) → v.work j = some (l, b) → i = j
  holder_unique : ∀ {i j l m a b}, v.work i = some (l, a) → v.work j = some (m, b) →
    a.Holds → b.Holds → i = j
  holder_row : ∀ {i l a}, v.work i = some (l, a) → a.Holds → ¬ v.pending ∧ ∀ m, v.claimed m → m = l
  allowed : ∀ {i l a}, v.work i = some (l, a) → a.Allows v.attempt
  active_unique : ∀ {i j l m a b}, v.work i = some (l, a) → v.work j = some (m, b) →
    a.Active → b.Active → i = j
  pending_open : v.pending → v.attempt ≠ some .confirmed
  lease_open : ∀ {i l a}, v.work i = some (l, a) → a ≠ .leaving → v.claimed l →
    v.attempt ≠ some .confirmed
  written_recorded : v.written → v.attempt ≠ none
  written_quiet : v.written → ∀ {i l a}, v.work i = some (l, a) → a ≠ .writing ∧ a ≠ .clearing

lemma Invariant.not_written (h : Invariant v) {i : ι} {l : κ}
    (hi : v.work i = some (l, .writing)) : ¬ v.written :=
  fun hw => (h.written_quiet hw hi).1 rfl

lemma Advances.work_cases {i j : ι} {l m : κ} {a b c : Phase} (h : Advances i l a b v w)
    (hj : w.work j = some (m, c)) : (j = i ∧ m = l ∧ c = b) ∨ (j ≠ i ∧ v.work j = some (m, c)) := by
  by_cases hji : j = i
  · subst hji
    rcases h.after with hafter | hafter <;> rw [hafter] at hj
    · simp only [Option.some.injEq, Prod.mk.injEq] at hj
      exact .inl ⟨rfl, hj.1.symm, hj.2.symm⟩
    · simp at hj
  · exact .inr ⟨hji, h.others j hji ▸ hj⟩

/-- What the next phase of a call has to bring along so that the invariant is kept. -/
structure Advances.Sound (i : ι) (l : κ) (a b : Phase) (v w : View ι κ) : Prop extends
    Advances i l a b v w where
  holds : b.Holds → a.Holds
  active : b.Active → ∀ {j m c}, v.work j = some (m, c) → c.Active → j = i
  allowed : b.Allows w.attempt
  allowed_others : ∀ {j m c}, j ≠ i → v.work j = some (m, c) → c.Allows w.attempt
  confirmed : w.attempt = some .confirmed → v.attempt = some .confirmed ∨ a.Holds ∧ b = .leaving
  not_leaving : a ≠ .leaving
  written_recorded : w.written → w.attempt ≠ none
  written_self : w.written → b ≠ .writing ∧ b ≠ .clearing
  written_others : w.written → v.written ∨ a.Active

namespace Invariant

lemma advance {i : ι} {l : κ} {a b : Phase} (h : Invariant v)
    (hs : Advances.Sound i l a b v w) : Invariant w := by
  have hstaged : v.staged := by
    by_contra hnot
    have hidle := (h.unstaged hnot).2.2.1 i
    rw [hs.before] at hidle
    simp at hidle
  have hrow : ∀ {j m c}, w.work j = some (m, c) → c.Holds →
      ¬ v.pending ∧ ∀ n, v.claimed n → n = m := by
    intro j m c hj hc
    rcases hs.work_cases hj with ⟨-, rfl, rfl⟩ | ⟨-, hj'⟩
    · exact h.holder_row hs.before (hs.holds hc)
    · exact h.holder_row hj' hc
  refine ⟨fun hnot => absurd (hs.staged.mpr hstaged) hnot, ?_, ?_, ?_, ?_, ?_, ?_, ?_,
    hs.written_recorded, ?_⟩
  · intro j k m c d hj hk
    rcases hs.work_cases hj with ⟨rfl, rfl, -⟩ | ⟨-, hj'⟩ <;>
      rcases hs.work_cases hk with ⟨rfl, hm, -⟩ | ⟨-, hk'⟩
    · rfl
    · exact h.lease_inj hs.before hk'
    · exact h.lease_inj hj' (hm ▸ hs.before)
    · exact h.lease_inj hj' hk'
  · intro j k m n c d hj hk hc hd
    rcases hs.work_cases hj with ⟨rfl, -, rfl⟩ | ⟨-, hj'⟩ <;>
      rcases hs.work_cases hk with ⟨rfl, -, rfl⟩ | ⟨-, hk'⟩
    · rfl
    · exact h.holder_unique hs.before hk' (hs.holds hc) hd
    · exact h.holder_unique hj' hs.before hc (hs.holds hd)
    · exact h.holder_unique hj' hk' hc hd
  · intro j m c hj hc
    exact ⟨fun hp => (hrow hj hc).1 (hs.pending hp), fun n hn => (hrow hj hc).2 n (hs.claimed n hn)⟩
  · intro j m c hj
    rcases hs.work_cases hj with ⟨-, -, rfl⟩ | ⟨hji, hj'⟩
    · exact hs.allowed
    · exact hs.allowed_others hji hj'
  · intro j _ m _ c _ hj hk hc hd
    rcases hs.work_cases hj with ⟨rfl, -, rfl⟩ | ⟨-, hj'⟩ <;>
      rcases hs.work_cases hk with ⟨rfl, -, rfl⟩ | ⟨-, hk'⟩
    · rfl
    · exact (hs.active hc hk' hd).symm
    · exact hs.active hd hj' hc
    · exact h.active_unique hj' hk' hc hd
  · intro hp hconf
    rcases hs.confirmed hconf with hold | ⟨ha, -⟩
    · exact h.pending_open (hs.pending hp) hold
    · exact (h.holder_row hs.before ha).1 (hs.pending hp)
  · intro j m c hj hc hcl hconf
    rcases hs.work_cases hj with ⟨rfl, rfl, rfl⟩ | ⟨hji, hj'⟩ <;>
      rcases hs.confirmed hconf with hold | ⟨ha, hb⟩
    · exact h.lease_open hs.before hs.not_leaving (hs.claimed _ hcl) hold
    · exact hc hb
    · exact h.lease_open hj' hc (hs.claimed _ hcl) hold
    · -- process `i` held the request, so the lease on it is its own
      obtain rfl := (h.holder_row hs.before ha).2 m (hs.claimed m hcl)
      exact hji (h.lease_inj hj' hs.before)
  · intro hw _ _ _ hj
    rcases hs.work_cases hj with ⟨-, -, rfl⟩ | ⟨hji, hj'⟩
    · exact hs.written_self hw
    · rcases hs.written_others hw with hold | ha
      · exact h.written_quiet hold hj'
      · refine ⟨?_, ?_⟩ <;> rintro rfl
        · exact hji (h.active_unique hj' hs.before (.inl rfl) ha)
        · exact hji (h.active_unique hj' hs.before (.inr (.inr rfl)) ha)

lemma keep (h : Invariant v) (staged : w.staged ↔ v.staged)
    (claimed : ∀ m, w.claimed m → v.claimed m) (att : w.attempt = v.attempt)
    (written : w.written ↔ v.written) (work : ∀ j, w.work j = v.work j ∨ w.work j = none)
    (hknown : w.pending → v.staged) (hopen : w.pending → v.attempt ≠ some .confirmed)
    (hheld : ∀ {i l a}, v.work i = some (l, a) → a.Holds → ¬ w.pending) : Invariant w := by
  have hback : ∀ {j x}, w.work j = some x → v.work j = some x := by
    intro j _ hj
    rcases work j with hsame | hnone
    · exact hsame ▸ hj
    · exact absurd (hnone.symm.trans hj) (by simp)
  refine ⟨?_, fun hj hk => h.lease_inj (hback hj) (hback hk),
    fun hj hk => h.holder_unique (hback hj) (hback hk), ?_, fun hj => att ▸ h.allowed (hback hj),
    fun hj hk => h.active_unique (hback hj) (hback hk), fun hp => att ▸ hopen hp, ?_, ?_, ?_⟩
  · intro hnot
    obtain ⟨-, hatt, hidle, hunwr⟩ := h.unstaged (mt staged.mpr hnot)
    refine ⟨fun hp => hnot (staged.mpr (hknown hp)), att.trans hatt, fun j => ?_,
      mt written.mp hunwr⟩
    rcases work j with hsame | hnone
    · exact hsame.trans (hidle j)
    · exact hnone
  · intro j m c hj hc
    exact ⟨hheld (hback hj) hc, fun n hn => (h.holder_row (hback hj) hc).2 n (claimed n hn)⟩
  · intro _ m _ hj hc hm
    exact att ▸ h.lease_open (hback hj) hc (claimed m hm)
  · exact fun hw => att ▸ h.written_recorded (written.mp hw)
  · exact fun hw _ _ _ hj => h.written_quiet (written.mp hw) (hback hj)

lemma stage (h : Invariant v) (new : ¬ v.staged) (staged : w.staged)
    (att : w.attempt = v.attempt) (written : w.written ↔ v.written) (work : w.work = v.work) :
    Invariant w := by
  obtain ⟨-, hatt, hidle, hunwr⟩ := h.unstaged new
  have hnone : ∀ {j x}, w.work j ≠ some x := by
    intro j _
    rw [work, hidle j]
    simp
  have hw : ¬ w.written := mt written.mp hunwr
  refine ⟨fun hnot => absurd staged hnot, fun hj => absurd hj hnone, fun hj => absurd hj hnone,
    fun hj => absurd hj hnone, fun hj => absurd hj hnone, fun hj => absurd hj hnone, fun _ => ?_,
    fun hj => absurd hj hnone, fun hw' => absurd hw' hw, fun hw' => absurd hw' hw⟩
  rw [att, hatt]
  simp

lemma claim {i : ι} {l : κ} (h : Invariant v) (staged : w.staged ↔ v.staged) (pending : v.pending)
    (taken : ¬ w.pending) (claimed : ∀ m, w.claimed m → m = l)
    (fresh : ∀ j a, v.work j ≠ some (l, a)) (att : w.attempt = v.attempt)
    (written : w.written ↔ v.written)
    (work : w.work i = some (l, .asking) ∨ w.work i = some (l, .failing) ∨ w.work i = none)
    (others : ∀ j, j ≠ i → w.work j = v.work j) : Invariant w := by
  have hstaged : v.staged := by
    by_contra hnot
    exact (h.unstaged hnot).1 pending
  have hopen : w.attempt ≠ some .confirmed := att ▸ h.pending_open pending
  have hcases : ∀ {j m c}, w.work j = some (m, c) →
      (j = i ∧ m = l ∧ (c = .asking ∨ c = .failing)) ∨ (j ≠ i ∧ v.work j = some (m, c)) := by
    intro j m c hj
    by_cases hji : j = i
    · subst hji
      rcases work with hi | hi | hi <;> rw [hi] at hj <;>
        simp only [Option.some.injEq, Prod.mk.injEq, reduceCtorEq] at hj
      · exact .inl ⟨rfl, hj.1.symm, .inl hj.2.symm⟩
      · exact .inl ⟨rfl, hj.1.symm, .inr hj.2.symm⟩
    · exact .inr ⟨hji, others j hji ▸ hj⟩
  -- nobody held the request while it was pending
  have hunheld : ∀ {j m c}, v.work j = some (m, c) → ¬ c.Holds :=
    fun hj hc => (h.holder_row hj hc).1 pending
  have hpassive : ∀ {c : Phase}, (c = .asking ∨ c = .failing) → ¬ c.Active := by
    rintro c (rfl | rfl) <;> simp [Active]
  refine ⟨fun hnot => absurd (staged.mpr hstaged) hnot, ?_, ?_, ?_, ?_, ?_, fun _ => hopen,
    fun _ _ _ => hopen, fun hw => att ▸ h.written_recorded (written.mp hw), ?_⟩
  · intro j k m c d hj hk
    rcases hcases hj with ⟨rfl, rfl, -⟩ | ⟨-, hj'⟩ <;>
      rcases hcases hk with ⟨rfl, hm, -⟩ | ⟨-, hk'⟩
    · rfl
    · exact absurd hk' (fresh k d)
    · exact absurd hj' (hm ▸ fresh j c)
    · exact h.lease_inj hj' hk'
  · intro j k m n c d hj hk hc hd
    rcases hcases hj with ⟨rfl, -, -⟩ | ⟨-, hj'⟩ <;>
      rcases hcases hk with ⟨rfl, -, -⟩ | ⟨-, hk'⟩
    · rfl
    · exact absurd hd (hunheld hk')
    · exact absurd hc (hunheld hj')
    · exact absurd hc (hunheld hj')
  · intro j m c hj hc
    rcases hcases hj with ⟨-, rfl, -⟩ | ⟨-, hj'⟩
    · exact ⟨taken, claimed⟩
    · exact absurd hc (hunheld hj')
  · intro j m c hj
    rcases hcases hj with ⟨-, -, rfl | rfl⟩ | ⟨-, hj'⟩
    · exact hopen
    · trivial
    · exact att ▸ h.allowed hj'
  · intro j _ m _ c _ hj hk hc hd
    rcases hcases hj with ⟨-, -, hc'⟩ | ⟨-, hj'⟩
    · exact absurd hc (hpassive hc')
    · rcases hcases hk with ⟨-, -, hd'⟩ | ⟨-, hk'⟩
      · exact absurd hd (hpassive hd')
      · exact h.active_unique hj' hk' hc hd
  · intro hw _ _ _ hj
    rcases hcases hj with ⟨-, -, rfl | rfl⟩ | ⟨-, hj'⟩
    · simp
    · simp
    · exact h.written_quiet (written.mp hw) hj'

/-! ## The phases of a call -/

section

variable {i : ι} {l : κ} (h : Invariant v)

include h

lemma others_unheld {j : ι} {m : κ} {a c : Phase} (hi : v.work i = some (l, a)) (ha : a.Holds)
    (hji : j ≠ i) (hj : v.work j = some (m, c)) : ¬ c.Holds :=
  fun hc => hji (h.holder_unique hj hi hc ha)

lemma others_passive {j : ι} {m : κ} {a c : Phase} (hi : v.work i = some (l, a)) (ha : a.Active)
    (hji : j ≠ i) (hj : v.work j = some (m, c)) : ¬ c.Active :=
  fun hc => hji (h.active_unique hj hi hc ha)

lemma refuse (advances : Advances i l .asking .failing v w) (att : w.attempt = v.attempt)
    (written : w.written ↔ v.written) : Advances.Sound i l .asking .failing v w where
  toAdvances := advances
  holds hb := absurd hb (by simp [Holds])
  active hb := absurd hb (by simp [Active])
  allowed := trivial
  allowed_others _ hj := att ▸ h.allowed hj
  confirmed hc := .inl (att ▸ hc)
  not_leaving := by simp
  written_recorded hw := att ▸ h.written_recorded (written.mp hw)
  written_self _ := by simp
  written_others hw := .inl (written.mp hw)

lemma look (advances : Advances i l .asking .beginning v w)
    (unopened : v.attempt ≠ some .attempting) (att : w.attempt = v.attempt)
    (written : w.written ↔ v.written) : Advances.Sound i l .asking .beginning v w where
  toAdvances := advances
  holds _ := .inl rfl
  active hb := absurd hb (by simp [Active])
  allowed := by
    have hunconfirmed : v.attempt ≠ some .confirmed := h.allowed advances.before
    rw [att]
    cases hv : v.attempt with
    | none => rfl
    | some status => cases status <;> simp_all
  allowed_others _ hj := att ▸ h.allowed hj
  confirmed hc := .inl (att ▸ hc)
  not_leaving := by simp
  written_recorded hw := att ▸ h.written_recorded (written.mp hw)
  written_self _ := by simp
  written_others hw := .inl (written.mp hw)

lemma begin (advances : Advances i l .beginning .writing v w)
    (att : w.attempt = some .attempting) (written : w.written ↔ v.written) :
    Advances.Sound i l .beginning .writing v w := by
  have hnone : v.attempt = none := h.allowed advances.before
  have hpassive : ∀ {j m c}, v.work j = some (m, c) → ¬ c.Active := by
    intro _ _ _ hj hc
    have hatt := hc.attempting (h.allowed hj)
    rw [hnone] at hatt
    simp at hatt
  have hunwr : ¬ w.written := fun hw => h.written_recorded (written.mp hw) hnone
  exact
    { advances with
      holds := fun _ => .inr (.inl rfl)
      active := fun _ _ _ _ hj hc => absurd hc (hpassive hj)
      allowed := att
      allowed_others := fun hji hj => allows_of_passive
        (h.others_unheld advances.before (.inr (.inl rfl)) hji hj) (hpassive hj) _
      confirmed := fun hc => absurd (att.symm.trans hc) (by simp)
      not_leaving := by simp
      written_recorded := fun hw => absurd hw hunwr
      written_self := fun hw => absurd hw hunwr
      written_others := fun hw => absurd hw hunwr }

lemma write (advances : Advances i l .writing .recording v w) (att : w.attempt = v.attempt) :
    Advances.Sound i l .writing .recording v w where
  toAdvances := advances
  holds _ := .inr (.inr (.inl rfl))
  active _ _ _ _ hj hc := h.active_unique hj advances.before hc (.inl rfl)
  allowed := att.trans (h.allowed advances.before)
  allowed_others _ hj := att ▸ h.allowed hj
  confirmed hc := .inl (att ▸ hc)
  not_leaving := by simp
  written_recorded _ hnone := by
    have hatt : v.attempt = some .attempting := h.allowed advances.before
    rw [att, hatt] at hnone
    simp at hnone
  written_self _ := by simp
  written_others _ := .inr (.inl rfl)

lemma fail (advances : Advances i l .writing .clearing v w) (att : w.attempt = v.attempt)
    (written : w.written ↔ v.written) : Advances.Sound i l .writing .clearing v w where
  toAdvances := advances
  holds hb := absurd hb (by simp [Holds])
  active _ _ _ _ hj hc := h.active_unique hj advances.before hc (.inl rfl)
  allowed := att.trans (h.allowed advances.before)
  allowed_others _ hj := att ▸ h.allowed hj
  confirmed hc := .inl (att ▸ hc)
  not_leaving := by simp
  written_recorded hw := att ▸ h.written_recorded (written.mp hw)
  written_self hw := absurd (written.mp hw) (h.not_written advances.before)
  written_others hw := .inl (written.mp hw)

lemma record (advances : Advances i l .recording .leaving v w)
    (attempt : w.attempt = some .confirmed) (written : w.written ↔ v.written) :
    Advances.Sound i l .recording .leaving v w where
  toAdvances := advances
  holds hb := absurd hb (by simp [Holds])
  active hb := absurd hb (by simp [Active])
  allowed := trivial
  allowed_others hji hj := allows_of_passive
    (h.others_unheld advances.before (.inr (.inr (.inr rfl))) hji hj)
    (h.others_passive advances.before (.inr (.inl rfl)) hji hj) _
  confirmed _ := .inr ⟨.inr (.inr (.inr rfl)), rfl⟩
  not_leaving := by simp
  written_recorded _ := by simp [attempt]
  written_self _ := by simp
  written_others hw := .inl (written.mp hw)

lemma clear (advances : Advances i l .clearing .failing v w)
    (att : w.attempt = none ∨ w.attempt = v.attempt) (written : w.written ↔ v.written) :
    Advances.Sound i l .clearing .failing v w := by
  have hunwr : ¬ w.written :=
    fun hw => (h.written_quiet (written.mp hw) advances.before).2 rfl
  refine
    { advances with
      holds := fun hb => absurd hb (by simp [Holds])
      active := fun hb => absurd hb (by simp [Active])
      allowed := trivial
      allowed_others := fun hji hj => ?_
      confirmed := fun hc => ?_
      not_leaving := by simp
      written_recorded := fun hw => absurd hw hunwr
      written_self := fun hw => absurd hw hunwr
      written_others := fun hw => absurd hw hunwr }
  · rcases att with hnone | hsame
    · rw [hnone]
      exact allows_none (h.others_passive advances.before (.inr (.inr rfl)) hji hj)
    · exact hsame ▸ h.allowed hj
  · rcases att with hnone | hsame
    · exact absurd (hnone.symm.trans hc) (by simp)
    · exact .inl (hsame ▸ hc)

end

lemma move (h : Invariant v) (hmove : Move v w) : Invariant w := by
  cases hmove with
  | quiet row attempt written work =>
    refine h.keep row.staged row.claimed attempt written work (fun hp => ?_)
      (fun hp => h.pending_open (row.pending hp))
      (fun hi ha hp => (h.holder_row hi ha).1 (row.pending hp))
    by_contra hnot
    exact (h.unstaged hnot).1 (row.pending hp)
  | stage new staged attempt written work => exact h.stage new staged attempt written work
  | claim _ _ staged pending taken claimed fresh attempt written work others =>
    exact h.claim staged pending taken claimed fresh attempt written work others
  | refuse _ _ advances attempt written => exact h.advance (h.refuse advances attempt written)
  | look _ _ advances unopened attempt written =>
    exact h.advance (h.look advances unopened attempt written)
  | begin _ _ advances attempt written => exact h.advance (h.begin advances attempt written)
  | write _ _ advances attempt => exact h.advance (h.write advances attempt)
  | fail _ _ advances attempt written => exact h.advance (h.fail advances attempt written)
  | record _ _ advances attempt written => exact h.advance (h.record advances attempt written)
  | clear _ _ advances attempt written => exact h.advance (h.clear advances attempt written)
  | giveBack i l staged failing pending claimed attempt written work =>
    refine h.keep staged claimed attempt written work (fun _ => ?_) (fun hp => ?_)
      (fun {j m c} hj hc hp => ?_)
    · by_contra hnot
      exact absurd (((h.unstaged hnot).2.2.1 i).symm.trans failing) (by simp)
    · rcases pending hp with hpend | hcl
      · exact h.pending_open hpend
      · exact h.lease_open failing (by simp) hcl
    · rcases pending hp with hpend | hcl
      · exact (h.holder_row hj hc).1 hpend
      · -- the holder would have the lease of the call that gives the request back
        obtain rfl := (h.holder_row hj hc).2 l hcl
        obtain rfl := h.lease_inj hj failing
        rw [failing] at hj
        obtain rfl : Phase.failing = c := by simpa using hj
        simp [Holds] at hc
  | rearm staged known unconfirmed unheld claimed attempt written work =>
    exact h.keep staged claimed attempt written work (fun _ => known) (fun _ => unconfirmed)
      (fun hj hc _ => unheld _ _ _ hj hc)

end Invariant

end Approval

end WispaceBot
