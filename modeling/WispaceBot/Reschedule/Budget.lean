import WispaceBot.Reschedule.System

/-!
# The budget of a confirmation

A call of `confirm` takes a unit of the daily budget before it asks for an open attempt, and gives
it back after a write that has failed.  The exits in between keep the unit (`unit_lost`);
`budget_conserved_iff` is the exact condition.  The tables are an input of each step, and a budget
call that fails may have moved its unit.
-/

namespace WispaceBot

open TypeormRescheduleAttemptStore Transition Sample

/-- A confirmation with the units it has consumed and refunded, and whether it has written. -/
structure BudgetedConfirm where
  pc : ConfirmPc
  (consumed refunded : ℕ)
  written : Bool

namespace BudgetedConfirm

variable {options : RescheduleConfirmationOptions} {call : ConfirmCall} {s t : BudgetedConfirm}
  {input : Env × RescheduleDb} {inputs : List (Env × RescheduleDb)}

def start : BudgetedConfirm := ⟨.start, 0, 0, false⟩

def consumes (env : Env) : ConfirmPc → Bool
  | .consume _ => env.reply.applied && env.consumed
  | _ => false

def refunds (env : Env) : ConfirmPc → Bool
  | .refund _ _ => env.reply.applied
  | _ => false

/-- `rescheduleSession` returns. -/
def writes (env : Env) : ConfirmPc → Bool
  | .write _ => match env.write with
    | .returned _ => true
    | _ => false
  | _ => false

def step (options : RescheduleConfirmationOptions) (call : ConfirmCall) (s : BudgetedConfirm)
    (input : Env × RescheduleDb) : Option BudgetedConfirm :=
  some
    { pc := (call.step options input.1 input.2 s.pc).2
      consumed := s.consumed + (consumes input.1 s.pc).toNat
      refunded := s.refunded + (refunds input.1 s.pc).toNat
      written := s.written || writes input.1 s.pc }

/-- The units that were not refunded are those of the write. -/
def Balanced (s : BudgetedConfirm) : Prop :=
  s.consumed = s.refunded + s.written.toNat

/-- What has to happen at a call for the account to come out right. -/
def Exact (options : RescheduleConfirmationOptions) (call : ConfirmCall) (s : BudgetedConfirm)
    (input : Env × RescheduleDb) : Prop :=
  match s.pc with
  | .consume _ => ¬ (input.1.consumed = true ∧ input.1.reply = .failed true)
  | .lookup claim => options.consumeRescheduleBudget = true → input.1.reply = .returned ∧
      (findAttempt call.platform call.externalId claim.attemptNonce input.2).map
        RescheduleConfirmationAttemptEntity.status ≠ some .attempting
  | .begin _ => options.consumeRescheduleBudget = true → input.1.reply = .returned
  | .write _ => writes input.1 s.pc = true → options.consumeRescheduleBudget = true
  | .clear _ _ => options.consumeRescheduleBudget = true → options.refundRescheduleBudget = true
  | .refund _ _ => input.1.reply.applied = options.consumeRescheduleBudget
  | _ => True

def Empty (s : BudgetedConfirm) : Prop :=
  s.consumed = 0 ∧ s.refunded = 0 ∧ s.written = false

/-- The account of a call on its way to the write or to the refund. -/
def Open (options : RescheduleConfirmationOptions) (s : BudgetedConfirm) : Prop :=
  match s.pc with
  | .start | .take | .findRecorded | .recheckState => s.Empty
  | .consume _ => s.Empty ∧ options.consumeRescheduleBudget = true
  | .lookup _ | .begin _ | .write _ | .clear _ _ | .refund _ _ =>
    s.consumed = options.consumeRescheduleBudget.toNat ∧ s.refunded = 0 ∧ s.written = false
  | _ => True

/-- A call that does not touch the budget any more has its account in balance. -/
def Settled (s : BudgetedConfirm) : Prop :=
  match s.pc with
  | .record _ _ | .cleanup _ _ | .drop _ | .giveBack _ _ | .done _ => s.Balanced
  | _ => True

lemma snd_exec_eq_true {reply : Reply} {f : RescheduleDb → RescheduleDb} {db : RescheduleDb} :
    (reply.exec f db).2 = true ↔ reply = .returned := by
  rcases reply with _ | applied
  · simp [Reply.exec]
  · cases applied <;> simp [Reply.exec]

lemma settled_step (h : Open options s) (hstep : step options call s input = some t) :
    Open options t ∧ (Settled t ↔ Settled s ∧ Exact options call s input) := by
  obtain ⟨pc, _, _, _⟩ := s
  obtain ⟨⟩ := hstep
  cases pc with
  | start | take | findRecorded | recheckState =>
    simp only [ConfirmCall.step, ConfirmCall.afterTake]
    repeat' split
    all_goals simp_all [Open, Empty, Settled, Exact, Balanced, consumes, refunds, writes]
  | consume =>
    obtain ⟨⟨rfl, rfl, rfl⟩, _⟩ := h
    simp only [ConfirmCall.step]
    repeat' split
    all_goals
      cases hreply : input.1.reply <;>
        simp_all [Open, Settled, Exact, Balanced, consumes, refunds, writes, Reply.applied]
  | lookup claim | begin claim | write claim | clear claim cause =>
    simp only [ConfirmCall.step, ConfirmCall.afterRefund, snd_exec_eq_true]
    repeat' split
    all_goals simp_all [Open, Settled, Exact, Balanced, consumes, refunds, writes]
  | refund =>
    obtain ⟨rfl, rfl, rfl⟩ := h
    have hunits : options.consumeRescheduleBudget.toNat = input.1.reply.applied.toNat ↔
        input.1.reply.applied = options.consumeRescheduleBudget := by
      cases options.consumeRescheduleBudget <;> cases input.1.reply.applied <;> simp
    simp only [ConfirmCall.step, ConfirmCall.afterRefund]
    repeat' split
    all_goals simpa [Open, Settled, Exact, Balanced, consumes, refunds, writes] using hunits
  | record | cleanup | drop | giveBack | done =>
    simp only [ConfirmCall.step]
    repeat' split
    all_goals simp [Open, Settled, Exact, Balanced, consumes, refunds, writes]

lemma balanced_iff_of_open (h : Open options s) (hrun : run (step options call) s inputs = some t)
    (hdone : ∃ ans, t.pc = .done ans) :
    t.Balanced ↔ Settled s ∧ Along (step options call) (Exact options call) s inputs := by
  induction inputs generalizing s with
  | nil =>
    obtain ⟨⟩ := hrun
    obtain ⟨_, hpc⟩ := hdone
    simp [Settled, hpc, Along]
  | cons input inputs ih =>
    obtain ⟨u, hu, hrest⟩ := run_cons_eq_some.mp hrun
    obtain ⟨hopen, hset⟩ := settled_step h hu
    have halong : Along (step options call) (Exact options call) s (input :: inputs) ↔
        Exact options call s input ∧ Along (step options call) (Exact options call) u inputs := by
      simp [Along, hu]
    rw [ih hopen hrest, hset, halong, and_assoc]

/-- A confirmation that ends has paid for exactly what it wrote if and only if each of its calls was
exact. -/
theorem budget_conserved_iff (options : RescheduleConfirmationOptions) (call : ConfirmCall)
    {inputs : List (Env × RescheduleDb)} {s : BudgetedConfirm}
    (hrun : run (step options call) start inputs = some s) (hdone : ∃ answer, s.pc = .done answer) :
    s.consumed = s.refunded + s.written.toNat ↔
      Along (step options call) (Exact options call) start inputs := by
  have hopen : Open options start := ⟨rfl, rfl, rfl⟩
  have hbal := balanced_iff_of_open hopen hrun hdone
  rwa [show Settled start ↔ True from Iff.rfl, true_and] at hbal

/-- The sample request is staged, claimed and paid for. -/
def paid : List (Env × RescheduleDb) :=
  let staged := (TypeormRescheduleStore.save .messenger "" record .empty).1
  [(env 0, staged), ({ env 0 with uuid := "lease-1" }, staged), (env 0, .empty)]

/-- A request that is paid for and written. -/
theorem budget_conserved_iff_written : ∃ s,
    run (step ⟨true, true, none⟩ Sample.call) start
        (paid ++ List.replicate 4 (env 0, .empty)) = some s ∧
      s.written = true ∧ s.consumed = 1 ∧ s.refunded = 0 ∧
      Along (step ⟨true, true, none⟩ Sample.call) (Exact ⟨true, true, none⟩ Sample.call) start
        (paid ++ List.replicate 4 (env 0, .empty)) :=
  ⟨_, rfl, by decide, by decide, by decide,
    (budget_conserved_iff ⟨true, true, none⟩ Sample.call rfl
      ⟨.unknownOutcome, by rfl⟩).mp (by decide)⟩

/-- The attempt is already recorded: the confirmation ends without a write and keeps the unit. -/
theorem unit_lost : ∃ s,
    run (step ⟨true, true, none⟩ Sample.call) start
        (paid ++ [(env 0, beginAttempt .messenger "psid-1" nonce 42 .empty),
          (env 0, .empty)]) = some s ∧
      s.pc = .done .unknownOutcome ∧ s.written = false ∧ s.consumed = 1 ∧ s.refunded = 0 :=
  ⟨_, rfl, by rfl, by decide, by decide, by decide⟩

end BudgetedConfirm

end WispaceBot
