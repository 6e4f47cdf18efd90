import WispaceBot.ScheduledReport.ClaimAndSend

/-!
# Errors after a delivery

If a statement after the delivery throws, the `catch` block takes it for an error of the delivery:
it gives the claim back, and may queue another try.  `undone_iff` says exactly when, for both
services and every pattern of exceptions; with a claim every such error does (`LeadsBack`).
-/

namespace WispaceBot

open Script

namespace ReportErrors

variable {τ ε : Type}

/-- The delivery, the first repository exception after it, and what was undone after it. -/
structure Watch (ε : Type) where
  delivered : Bool
  failure : Option ε
  undone : Bool

def Watch.start : Watch ε :=
  ⟨false, none, false⟩

/-- A release and a recorded retry count as calls, whatever they answer. -/
def Watch.note (w : Watch ε) : (c : ReportCall τ) → Except ε c.Answer → Watch ε
  | .sendReport _ _, .ok (.ok _) => { w with delivered := true }
  | .releaseScheduledReportClaim _ _, _ => { w with undone := w.undone || w.delivered }
  | .recordRetryableFailure _, _ => { w with undone := w.undone || w.delivered }
  | .markScheduledReportClaimSent .., .error e =>
    { w with failure := w.failure.or (if w.delivered then some e else none) }
  | .markSentByExternalUserExamDate .., .error e =>
    { w with failure := w.failure.or (if w.delivered then some e else none) }
  | _, _ => w

open Watch

/-- The watch as a monitor, which allows everything. -/
def monitor : Monitor (ReportCall τ) ReportCall.Answer ε (Watch ε) where
  allowed := fun _ _ => True
  possible := fun _ _ => True
  after := note

/-- A call of one of the two orchestrations. -/
inductive Call (ε : Type)
  | shared (config : ReportOrchestration.Config ε) (mapping : ReportMapping)
      (opts : ReportOrchestration.Options ε)
  | messenger (config : MessengerReportOrchestration.Config ε) (mapping : ReportMapping)
      (opts : MessengerReportOrchestration.Options)

def Call.script : Call ε → ReportScript τ ε ClaimAndSendResult
  | .shared config mapping opts => ReportOrchestration.claimAndSend config mapping opts
  | .messenger config mapping opts => MessengerReportOrchestration.claimAndSend config mapping opts

/-- The errors that make the `catch` block give back the claim or queue a retry. -/
def Call.LeadsBack (error : ε) : Call ε → Prop
  | .shared config _ opts => opts.skipAlreadySentToday = true ∨
      (ReportOrchestration.classify config opts error).kind = .retryable ∧ config.hasOutbox = true
  | .messenger config _ opts => config.isPartialSend error = false ∧
      ¬ (config.isAmbiguous error = true ∧ opts.skipAlreadySentToday = true) ∧
      (opts.skipAlreadySentToday = true ∨
        config.isRetryable error = true ∧ isFalsy opts.examDateForOutbox = false)

/-- What was delivered is undone exactly if the exception after it leads back. -/
def Accounted (LeadsBack : ε → Prop) (w : Watch ε) : Prop :=
  w.undone = true ↔ ∃ e, w.failure = some e ∧ LeadsBack e

abbrev Accounts {α : Type} (LeadsBack : ε → Prop) (w : Watch ε) (x : ReportScript τ ε α) : Prop :=
  x.Follows monitor w (fun _ w => Accounted LeadsBack w) fun _ w => Accounted LeadsBack w

section Accounted

variable {LeadsBack : ε → Prop} {e : ε}

lemma accounted_start : Accounted LeadsBack start := by
  simp [Accounted, start]

lemma accounted_delivered : Accounted LeadsBack ⟨true, none, false⟩ := by
  simp [Accounted]

lemma accounted_undone (he : LeadsBack e) : Accounted LeadsBack ⟨true, some e, true⟩ := by
  simp [Accounted, he]

lemma accounted_failed (he : ¬ LeadsBack e) : Accounted LeadsBack ⟨true, some e, false⟩ := by
  simp [Accounted, he]

end Accounted

/-! ## Calls that change nothing in the watch -/

def NotSend : ReportCall τ → Prop
  | .sendReport _ _ => False
  | _ => True

def Marks : ReportCall τ → Prop
  | .markScheduledReportClaimSent .. => True
  | .markSentByExternalUserExamDate .. => True
  | _ => False

lemma note_start {c : ReportCall τ} (ans : Except ε c.Answer) (hc : NotSend c) :
    start.note c ans = start := by
  cases c with
  | sendReport => exact hc.elim
  | _ => cases ans <;> rfl

lemma note_failed {c : ReportCall τ} (ans : Except ε c.Answer) (hc : Marks c) (e : ε)
    (undone : Bool) : note ⟨true, some e, undone⟩ c ans = ⟨true, some e, undone⟩ := by
  cases c with
  | markScheduledReportClaimSent => cases ans <;> rfl
  | markSentByExternalUserExamDate => cases ans <;> rfl
  | _ => exact hc.elim

lemma note_undone (c : ReportCall τ) (ans : Except ε c.Answer) (e : ε) :
    note ⟨true, some e, true⟩ c ans = ⟨true, some e, true⟩ := by
  cases c with
  | sendReport =>
    match ans with
    | .ok (.ok out) => rfl
    | .ok .rateLimited => rfl
    | .ok (.refused reason) => rfl
    | .error e => rfl
  | _ => cases ans <;> rfl

variable {α : Type}

lemma accounted_of_uses {x : ReportScript τ ε α} (hx : x.Uses NotSend) (LeadsBack : ε → Prop) :
    Accounts LeadsBack start x := by
  refine (hx.follows (fun _ _ => trivial) fun c ans hc => note_start ans hc).imp ?_ ?_
  · rintro _ _ rfl
    exact accounted_start
  · rintro _ _ rfl
    exact accounted_start

variable {LeadsBack : ε → Prop}

lemma accounted_of_undone (x : ReportScript τ ε α) {e : ε} (he : LeadsBack e) :
    Accounts LeadsBack ⟨true, some e, true⟩ x := by
  have hall : x.Uses fun _ => True := by
    induction x with
    | done => trivial
    | throw => trivial
    | call _ _ ih => exact ⟨trivial, ih⟩
  refine (hall.follows (fun _ _ => trivial) fun c ans _ => note_undone c ans e).imp ?_ ?_
  · rintro _ _ rfl
    exact accounted_undone he
  · rintro _ _ rfl
    exact accounted_undone he

lemma accounted_of_marks {x : ReportScript τ ε α} (hx : x.Uses Marks) {e : ε} (he : ¬ LeadsBack e) :
    Accounts LeadsBack ⟨true, some e, false⟩ x := by
  refine (hx.follows (fun _ _ => trivial) fun c ans hc => note_failed ans hc e false).imp ?_ ?_
  · rintro _ _ rfl
    exact accounted_failed he
  · rintro _ _ rfl
    exact accounted_failed he

/-! ## Parts of both services -/

section Parts

variable {par : ReportClaimParams} {lease : Option τ} {mapping : ReportMapping}

variable {P : ReportCall τ → Prop} {rec key examDate : Option String}
  {out : Option DeliveryOutcome}

open ReportScript

lemma uses_markClaim (hP : ∀ tok, P (.markScheduledReportClaimSent par tok rec key out)) :
    (markClaim par lease rec key out : ReportScript τ ε Unit).Uses P := by
  cases lease with
  | none => trivial
  | some tok => exact (Uses.perform (hP tok)).bind fun _ => trivial

lemma uses_releaseClaim (hP : ∀ tok, P (.releaseScheduledReportClaim par tok)) :
    (releaseClaim par lease : ReportScript τ ε Unit).Uses P := by
  cases lease with
  | none => trivial
  | some tok => exact (Uses.perform (hP tok)).bind fun _ => trivial

lemma uses_markOutbox
    (hP : ∀ date, P (.markSentByExternalUserExamDate mapping.platform mapping.externalUserId
      date)) :
    (markOutbox mapping examDate : ReportScript τ ε Unit).Uses P := by
  unfold markOutbox
  split
  · split
    · trivial
    · exact Uses.perform (hP _)
  · trivial

lemma follows_markClaim :
    (markClaim par lease rec key out : ReportScript τ ε Unit).Follows
      monitor ⟨true, none, false⟩ (fun _ w => w = ⟨true, none, false⟩)
      fun e w => w = ⟨true, some e, false⟩ := by
  cases lease with
  | none => rfl
  | some => exact Follows.bind (Follows.perform trivial (fun _ _ => rfl) fun _ _ => rfl)

lemma follows_markOutbox :
    (markOutbox mapping examDate : ReportScript τ ε Unit).Follows
      monitor ⟨true, none, false⟩ (fun _ w => w = ⟨true, none, false⟩)
      fun e w => w = ⟨true, some e, false⟩ := by
  unfold markOutbox
  split
  · split
    · rfl
    · exact Follows.perform trivial (fun _ _ => rfl) fun _ _ => rfl
  · rfl

lemma follows_books {result : ClaimAndSendResult} {LeadsBack : ε → Prop} :
    (do
      markClaim par lease rec key out
      markOutbox mapping examDate
      pure result : ReportScript τ ε ClaimAndSendResult).Follows
      monitor ⟨true, none, false⟩ (fun _ w => Accounted LeadsBack w)
      fun e w => w = ⟨true, some e, false⟩ := by
  refine Follows.bind (follows_markClaim.imp ?_ fun _ _ h => h)
  rintro _ _ rfl
  refine Follows.bind (follows_markOutbox.imp ?_ fun _ _ h => h)
  rintro _ _ rfl
  exact accounted_delivered

lemma follows_releaseClaim {e : ε} :
    (releaseClaim par lease : ReportScript τ ε Unit).Follows monitor
      ⟨true, some e, false⟩ (fun _ w => w = ⟨true, some e, lease.isSome⟩)
      fun _ w => lease.isSome = true ∧ w = ⟨true, some e, true⟩ := by
  cases lease with
  | none => rfl
  | some =>
    exact Follows.bind (Follows.perform trivial (fun _ _ => rfl) fun _ _ => ⟨rfl, rfl⟩)

end Parts

lemma accounted_tryCatch {text key : String}
    {after : ReportDeliveryResult → ReportScript τ ε ClaimAndSendResult}
    {handler : ε → ReportScript τ ε ClaimAndSendResult}
    (hbooks : ∀ out, (after (.ok out)).Follows monitor ⟨true, none, false⟩
      (fun _ w => Accounted LeadsBack w) fun e w => w = ⟨true, some e, false⟩)
    (hafter : ∀ result, (after result).Uses NotSend) (hhandler : ∀ e, (handler e).Uses NotSend)
    (hfail : ∀ e, Accounts LeadsBack ⟨true, some e, false⟩ (handler e)) :
    Accounts LeadsBack start (Script.tryCatch
      (do
        let result ← perform (.sendReport text key)
        after result) handler) := by
  have hquiet : ∀ result, (after result).Follows monitor start
      (fun _ w => Accounted LeadsBack w) fun e w => Accounts LeadsBack w (handler e) := by
    intro result
    refine ((hafter result).follows (fun _ _ => trivial)
      fun c ans hc => note_start ans hc).imp ?_ ?_
    · rintro _ _ rfl
      exact accounted_start
    · rintro e _ rfl
      exact accounted_of_uses (hhandler e) LeadsBack
  refine Follows.tryCatch (Follows.bind (Follows.perform trivial ?_ ?_))
  · intro result _
    cases result with
    | ok out =>
      refine (hbooks out).imp (fun _ _ h => h) ?_
      rintro e _ rfl
      exact hfail e
    | rateLimited => exact hquiet .rateLimited
    | refused reason => exact hquiet (.refused reason)
  · intro e _
    exact accounted_of_uses (hhandler e) LeadsBack

lemma accounted_bind {α β : Type} {x : ReportScript τ ε α} {f : α → ReportScript τ ε β}
    (hx : x.Uses NotSend) (hf : ∀ a, Accounts LeadsBack start (f a)) :
    Accounts LeadsBack start (x >>= f) := by
  refine Follows.bind ((hx.follows (fun _ _ => trivial)
    fun c ans hc => note_start ans hc).imp ?_ ?_)
  · rintro a _ rfl
    exact hf a
  · rintro _ _ rfl
    exact accounted_start

/-! ## The service of Discord and Zalo -/

section Shared

open ReportOrchestration

variable {cfg : ReportOrchestration.Config ε} {mapping : ReportMapping}
  {opts : ReportOrchestration.Options ε} {lease : Option τ}

lemma uses_queueRetry {msg : String} {cause : Option ReportRetryCause} :
    (queueRetry cfg mapping opts msg cause : ReportScript τ ε ClaimAndSendResult).Uses NotSend :=
  (Uses.perform trivial).bind fun _ => trivial

lemma uses_alreadySent : (alreadySent cfg mapping opts : ReportScript τ ε Bool).Uses
    NotSend := by
  refine (Uses.perform trivial).bind fun sent => ?_
  split
  · exact (uses_markOutbox fun _ => trivial).bind fun _ => trivial
  · split
    · split
      · trivial
      · exact Uses.perform trivial
    · trivial

lemma uses_afterSend (result : ReportDeliveryResult) :
    (afterSend cfg mapping opts lease result).Uses NotSend := by
  cases result with
  | ok =>
    refine (uses_markClaim fun _ => trivial).bind fun _ => ?_
    exact (uses_markOutbox fun _ => trivial).bind fun _ => trivial
  | rateLimited => exact (uses_markClaim fun _ => trivial).bind fun _ => trivial
  | refused =>
    refine (uses_releaseClaim fun _ => trivial).bind fun _ => ?_
    split
    · exact uses_queueRetry
    · split <;> trivial

lemma uses_onSendError (error : ε) : (onSendError cfg mapping opts lease error).Uses NotSend := by
  refine (uses_releaseClaim fun _ => trivial).bind fun _ => ?_
  dsimp only
  split
  · exact uses_queueRetry
  · trivial

lemma uses_onGenerateError (error : ε) :
    (onGenerateError cfg mapping opts lease error).Uses NotSend := by
  refine (uses_releaseClaim fun _ => trivial).bind fun _ => ?_
  dsimp only
  split
  · exact uses_queueRetry
  · trivial

lemma accounted_onSendError (hlease : lease.isSome = opts.skipAlreadySentToday) (e : ε) :
    Accounts (fun e => (Call.shared cfg mapping opts).LeadsBack e) ⟨true, some e, false⟩
      (onSendError cfg mapping opts lease e) := by
  refine Follows.bind (follows_releaseClaim.imp ?_ ?_)
  · rintro _ _ rfl
    cases hskip : lease.isSome with
    | true => exact accounted_of_undone _ (.inl (hlease.symm.trans hskip))
    | false =>
      have hnoclaim : opts.skipAlreadySentToday = false := hlease.symm.trans hskip
      dsimp only
      split
      next hretry =>
        refine Follows.bind (Follows.perform trivial ?_ ?_)
        · intro _ _
          exact accounted_of_undone _ (.inr hretry)
        · intro _ _
          exact accounted_undone (.inr hretry)
      next hretry =>
        refine accounted_failed ?_
        rintro (hclaim | hagain)
        · rw [hnoclaim] at hclaim
          cases hclaim
        · exact hretry hagain
  · rintro _ _ ⟨hskip, rfl⟩
    exact accounted_undone (.inl (hlease.symm.trans hskip))

lemma accounted_generateAndSend (hlease : lease.isSome = opts.skipAlreadySentToday) :
    Accounts (fun e => (Call.shared cfg mapping opts).LeadsBack e) start
      (generateAndSend cfg mapping opts lease) := by
  have hsend : ∀ text, Accounts (fun e => (Call.shared cfg mapping opts).LeadsBack e)
      start (send cfg mapping opts lease text) :=
    fun text => accounted_tryCatch (fun _ => follows_books) uses_afterSend uses_onSendError
      (accounted_onSendError hlease)
  unfold generateAndSend
  split
  · refine ⟨trivial, fun ans _ => ?_⟩
    cases ans with
    | ok text => exact hsend text
    | error error => exact accounted_of_uses (uses_onGenerateError error) _
  · exact hsend opts.reportText

lemma accounted_shared :
    Accounts (fun e => (Call.shared cfg mapping opts).LeadsBack e) start
      (claimAndSend cfg mapping opts : ReportScript τ ε ClaimAndSendResult) := by
  unfold claimAndSend
  split
  next hskip =>
    split
    · exact accounted_start
    refine accounted_bind uses_alreadySent fun sent => ?_
    split
    · exact accounted_start
    refine accounted_bind (Uses.perform trivial) fun claim => ?_
    cases claim with
    | none => exact accounted_start
    | some =>
      dsimp only
      split
      · exact accounted_generateAndSend hskip.symm
      · exact accounted_bind (uses_markClaim fun _ => trivial) fun _ => accounted_start
  next hskip =>
    exact accounted_generateAndSend (Bool.not_eq_true _ ▸ hskip).symm

end Shared

/-! ## The service of Messenger -/

section Messenger

open MessengerReportOrchestration

variable {cfg : MessengerReportOrchestration.Config ε} {mapping : ReportMapping}
  {opts : MessengerReportOrchestration.Options} {lease : Option τ}

lemma uses_messengerAfterSend (result : ReportDeliveryResult) :
    (afterSend mapping opts lease result : ReportScript τ ε ClaimAndSendResult).Uses NotSend := by
  cases result with
  | ok =>
    refine (uses_markClaim fun _ => trivial).bind fun _ => ?_
    exact (uses_markOutbox fun _ => trivial).bind fun _ => trivial
  | rateLimited => exact (uses_markClaim fun _ => trivial).bind fun _ => trivial
  | refused => exact (uses_releaseClaim fun _ => trivial).bind fun _ => trivial

lemma uses_burn {P : ReportCall τ → Prop} (hP : ∀ c, Marks c → P c) {out : Option DeliveryOutcome} :
    (burn mapping opts lease out : ReportScript τ ε ClaimAndSendResult).Uses P := by
  refine (uses_markClaim fun _ => hP _ trivial).bind fun _ => ?_
  exact (uses_markOutbox fun _ => hP _ trivial).bind fun _ => trivial

lemma uses_giveUp (error : ε) : (giveUp cfg mapping opts lease error).Uses NotSend := by
  refine (uses_releaseClaim fun _ => trivial).bind fun _ => ?_
  split
  · dsimp only
    split
    · split
      · trivial
      · exact (Uses.perform trivial).bind fun _ => trivial
    · trivial
  · split <;> trivial

lemma notSend_of_marks (c : ReportCall τ) (hc : Marks c) : NotSend c := by
  cases c with
  | sendReport => exact hc.elim
  | _ => trivial

lemma uses_messengerOnSendError (error : ε) :
    (onSendError cfg mapping opts lease error).Uses NotSend := by
  unfold onSendError
  split
  · exact uses_burn notSend_of_marks
  · split
    · exact uses_burn notSend_of_marks
    · exact uses_giveUp error

lemma accounted_giveUp (hlease : lease.isSome = opts.skipAlreadySentToday) {e : ε}
    (hpart : cfg.isPartialSend e = false)
    (hamb : ¬ (cfg.isAmbiguous e = true ∧ lease.isSome = true)) :
    Accounts (fun e => (Call.messenger cfg mapping opts).LeadsBack e) ⟨true, some e, false⟩
      (giveUp cfg mapping opts lease e) := by
  rw [hlease] at hamb
  refine Follows.bind (follows_releaseClaim.imp ?_ ?_)
  · rintro _ _ rfl
    cases hskip : lease.isSome with
    | true =>
      have hclaim : opts.skipAlreadySentToday = true := hlease.symm.trans hskip
      exact accounted_of_undone _ ⟨hpart, hamb, .inl hclaim⟩
    | false =>
      have hnoclaim : opts.skipAlreadySentToday = false := hlease.symm.trans hskip
      -- without a claim only a queued retry undoes the delivery
      have hnever : ¬ (cfg.isRetryable e = true ∧ isFalsy opts.examDateForOutbox = false) →
          ¬ (Call.messenger cfg mapping opts).LeadsBack e := by
        rintro hretry ⟨-, -, hclaim | hagain⟩
        · rw [hnoclaim] at hclaim
          cases hclaim
        · exact hretry hagain
      split
      next hretryable =>
        dsimp only
        split
        next _ hdate =>
          split
          next hempty =>
            refine accounted_failed (hnever ?_)
            simp [hdate, hempty, isFalsy]
          next hfull =>
            have hleads : (Call.messenger cfg mapping opts).LeadsBack e :=
              ⟨hpart, hamb, .inr ⟨hretryable, by simp [hdate, hfull, isFalsy]⟩⟩
            refine Follows.bind (Follows.perform trivial ?_ ?_)
            · intro _ _
              exact accounted_undone hleads
            · intro _ _
              exact accounted_undone hleads
        next hdate =>
          refine accounted_failed (hnever ?_)
          simp [hdate, isFalsy]
      next hretryable =>
        split <;> exact accounted_failed (hnever fun hagain => hretryable hagain.1)
  · rintro _ _ ⟨hskip, rfl⟩
    have hclaim : opts.skipAlreadySentToday = true := hlease.symm.trans hskip
    exact accounted_undone ⟨hpart, hamb, .inl hclaim⟩

lemma accounted_messengerOnSendError (hlease : lease.isSome = opts.skipAlreadySentToday) (e : ε) :
    Accounts (fun e => (Call.messenger cfg mapping opts).LeadsBack e) ⟨true, some e, false⟩
      (onSendError cfg mapping opts lease e) := by
  unfold onSendError
  split
  next hpart =>
    refine accounted_of_marks (uses_burn fun _ hc => hc) ?_
    rintro ⟨hnot, -⟩
    rw [hpart] at hnot
    cases hnot
  next hpart =>
    split
    next hamb =>
      refine accounted_of_marks (uses_burn fun _ hc => hc) ?_
      rintro ⟨-, hnot, -⟩
      rw [hlease] at hamb
      exact hnot hamb
    next hamb =>
      exact accounted_giveUp hlease (Bool.not_eq_true _ ▸ hpart) hamb

lemma accounted_messenger :
    Accounts (fun e => (Call.messenger cfg mapping opts).LeadsBack e) start
      (claimAndSend cfg mapping opts : ReportScript τ ε ClaimAndSendResult) := by
  have hsend : ∀ lease : Option τ, lease.isSome = opts.skipAlreadySentToday →
      Accounts (fun e => (Call.messenger cfg mapping opts).LeadsBack e) start
        (send cfg mapping opts lease) :=
    fun lease hlease => accounted_tryCatch (fun _ => follows_books) uses_messengerAfterSend
      uses_messengerOnSendError (accounted_messengerOnSendError hlease)
  unfold claimAndSend
  split
  · exact accounted_start
  split
  next hskip =>
    split
    · exact accounted_start
    refine accounted_bind (Uses.perform trivial) fun sent => ?_
    split
    · exact accounted_bind (uses_markOutbox fun _ => trivial) fun _ => accounted_start
    refine accounted_bind (Uses.perform trivial) fun claim => ?_
    cases claim with
    | none => exact accounted_start
    | some =>
      dsimp only
      split
      · exact hsend _ hskip.symm
      · exact accounted_bind (uses_markClaim fun _ => trivial) fun _ => accounted_start
  next hskip =>
    exact hsend none (Bool.not_eq_true _ ▸ hskip).symm

end Messenger

/-! ## The record of a call -/

def watch (record : List (Entry (ReportCall τ) ReportCall.Answer ε)) : Watch ε :=
  monitor.watch start record

/-- For every pattern of answers and exceptions: the claim is given back or a retry is queued after
a delivery exactly if the first repository exception after it leads back. -/
theorem undone_iff (call : Call ε) {record : List (Entry (ReportCall τ) ReportCall.Answer ε)}
    {result : Except ε ClaimAndSendResult} (hends : call.script.Ends record result) :
    (watch record).undone = true ↔ ∃ e, (watch record).failure = some e ∧ call.LeadsBack e := by
  have hfol : Accounts (fun e => call.LeadsBack e) start
      (call.script : ReportScript τ ε ClaimAndSendResult) := by
    cases call with
    | shared => exact accounted_shared
    | messenger => exact accounted_messenger
  obtain ⟨hok, herror⟩ := hfol.of_ends (fun _ _ => trivial) hends
  cases result with
  | ok a => exact hok a rfl
  | error e => exact herror e rfl

/-- A scheduled report of learner 7 on Discord; errors are texts. -/
def discordCall : Call String :=
  .shared ⟨true, ⟨3, 15⟩, fun error => error⟩ ⟨.discord, "d-7", some 7⟩
    { reportDate := "2026-08-07"
      skipAlreadySentToday := true
      reportText := "report"
      examDateForOutbox := none
      classifyError := none
      generates := false
      allowUserIdLess := false }

def discordClaim : ReportClaimParams :=
  ⟨.discord, "d-7", some 7, "2026-08-07"⟩

def deliveredRecord (marked : Except String Bool) :
    List (Entry (ReportCall ℕ) ReportCall.Answer String) :=
  [⟨.hasSentScheduledReportOn discordClaim, .ok false⟩,
    ⟨.hasAnyPlatformSentReportOn 7 "2026-08-07", .ok false⟩,
    ⟨.tryClaimScheduledReport discordClaim, .ok (some ⟨0, none, none⟩)⟩,
    ⟨.sendReport "report" "discord-report:d-7:2026-08-07", .ok (.ok none)⟩,
    ⟨.markScheduledReportClaimSent discordClaim 0 (some "sent")
      (some "discord-report:d-7:2026-08-07") (some .sent), marked⟩]

/-- A report without a claim, whose errors are no reason for a retry. -/
def unclaimedCall : Call String :=
  .shared ⟨true, ⟨3, 15⟩, fun error => error⟩ ⟨.discord, "d-7", some 7⟩
    { reportDate := "2026-08-07"
      skipAlreadySentToday := false
      reportText := "report"
      examDateForOutbox := some "2026-09-01"
      classifyError := none
      generates := false
      allowUserIdLess := false }

def unmarkedRecord : List (Entry (ReportCall ℕ) ReportCall.Answer String) :=
  [⟨.sendReport "report" "discord-report:d-7:2026-08-07", .ok (.ok none)⟩,
    ⟨.markSentByExternalUserExamDate .discord "d-7" "2026-09-01", .error "connection lost"⟩]

/-- A claim is marked and nothing is undone; the row of the outbox is not marked, and nothing is
undone either. -/
theorem undone_iff_marked :
    (discordCall.script.Ends (deliveredRecord (.ok true)) (.ok { sent := 1 }) ∧
      (watch (deliveredRecord (.ok true))).undone = false) ∧
    unclaimedCall.script.Ends unmarkedRecord (.ok { failures := [("d-7", "connection lost")] }) ∧
      (watch unmarkedRecord).failure = some "connection lost" ∧
      (watch unmarkedRecord).undone = false := by
  have hmarked : discordCall.script.Ends (deliveredRecord (.ok true)) (.ok { sent := 1 }) :=
    ⟨_, _, rfl, _, _, rfl, _, _, rfl, _, _, rfl, _, _, rfl, rfl, rfl⟩
  have hunmarked : unclaimedCall.script.Ends unmarkedRecord
      (.ok { failures := [("d-7", "connection lost")] }) :=
    ⟨_, _, rfl, _, _, rfl, rfl, rfl⟩
  refine ⟨⟨hmarked, ?_⟩, hunmarked, rfl, ?_⟩
  · refine eq_false_of_ne_true fun h => ?_
    obtain ⟨_, ⟨⟩, -⟩ := (undone_iff discordCall hmarked).mp h
  · refine eq_false_of_ne_true fun h => ?_
    obtain ⟨_, -, hback⟩ := (undone_iff unclaimedCall hunmarked).mp h
    rcases hback with hskip | ⟨⟨⟩, -⟩
    exact absurd hskip Bool.false_ne_true

/-- The mark of the claim throws after a successful delivery: the claim is given back. -/
theorem delivery_undone :
    discordCall.script.Ends (deliveredRecord (.error "connection lost") ++
        [⟨.releaseScheduledReportClaim discordClaim 0, .ok true⟩])
      (.ok { failures := [("d-7", "connection lost")] }) ∧
    (watch (deliveredRecord (.error "connection lost") ++
      [⟨.releaseScheduledReportClaim discordClaim 0, .ok true⟩])).delivered = true ∧
    (watch (deliveredRecord (.error "connection lost") ++
      [⟨.releaseScheduledReportClaim discordClaim 0, .ok true⟩])).undone = true :=
  ⟨⟨_, _, rfl, _, _, rfl, _, _, rfl, _, _, rfl, _, _, rfl, _, _, rfl, rfl, rfl⟩, rfl, rfl⟩

end ReportErrors

end WispaceBot
