import WispaceBot.AccountLink.LinkSystem

/-!
# Intents are not lost

A callback and the passes after it remove an intent only for a reason: the mapping is there, a
conflict was reported, or the state of the link blocks it; a pass also drops what is too old.

Two things go wrong.  `findUserId` tests a state that it has not selected, so that a link out of use
counts as committed (`relink_lost`); and the generation of an intent starts from 1 again once its
row was deleted.  Where neither happens intents are not lost (`intents_not_lost`).  The scripts are
watched by a monitor, which keeps what a worker can know.
-/

namespace WispaceBot

open List Option Function Transition Script OwnershipTx Table LinkScript

/-- What a record is kept under. -/
abbrev VerifyIntentRecord.intent (record : VerifyIntentRecord) : VerifyIntentIdentity :=
  record.toVerifyIntentIdentity

namespace LinkSystem

/-! ## What a worker knows -/

/-- What is known of an intent: its time, and whether there is doubt or a reason to remove it. -/
structure Entry where
  verifiedAt : Option ℤ
  (unsure cleared : Bool)

/-- What a worker can know from the answers it has got. -/
structure Knowledge where
  known : VerifyIntentIdentity → Option Entry
  now : ℤ

namespace Knowledge

def change (p : Knowledge) (externalUserId : String) (userId : ℤ) (f : Entry → Entry) : Knowledge :=
  { p with known := fun intent =>
      if intent.externalUserId = externalUserId ∧ intent.userId = userId then
        (p.known intent).map f else p.known intent }

def Clears (p : Knowledge) (intent : VerifyIntentIdentity) : Prop :=
  ∃ entry, p.known intent = some entry ∧ entry.cleared = true

def Expires (p : Knowledge) (maxRecordAgeMs : Option ℤ) (intent : VerifyIntentIdentity) : Prop :=
  ∃ entry age verifiedAt, p.known intent = some entry ∧ maxRecordAgeMs = some age ∧
    entry.verifiedAt = some verifiedAt ∧ age ≤ p.now - verifiedAt

def Knows (p : Knowledge) (records : List VerifyIntentRecord) : Prop :=
  ∀ record ∈ records, ∃ entry, p.known record.toVerifyIntentIdentity = some entry ∧
    entry.verifiedAt = some record.verifiedAt

end Knowledge

def Entry.clear (entry : Entry) : Entry :=
  { entry with cleared := true }

def Entry.judge (state : Option LinkStateSnapshot) (entry : Entry) : Entry :=
  match entry.verifiedAt with
  | none => entry
  | some verifiedAt =>
    match verdict verifiedAt state with
    | .free => { entry with unsure := false }
    | .blocked => entry.clear
    | .unsure => { entry with unsure := true }

def Knowledge.after (p : Knowledge) : (c : LinkCall) → Except LinkError c.Answer → Knowledge
  | .recordVerify externalUserId userId _, .ok intentGeneration =>
    { p with
      known := update p.known ⟨externalUserId, userId, intentGeneration⟩
        (some ⟨none, false, false⟩) }
  | .listStaleRecords _, .ok records =>
    { p with
      known := fun intent =>
        match records.find? fun record => decide (record.toVerifyIntentIdentity = intent) with
        | some record => some ⟨some record.verifiedAt, false, false⟩
        | none => p.known intent }
  | .findUserId externalUserId, .ok (some userId) => p.change externalUserId userId Entry.clear
  | .upsertLink userId externalUserId _, .ok _ => p.change externalUserId userId Entry.clear
  | .upsertLink userId externalUserId _, .error .ownershipConflict =>
    p.change externalUserId userId Entry.clear
  | .getLinkState externalUserId, .ok state =>
    { p with
      known := fun intent =>
        if intent.externalUserId = externalUserId then (p.known intent).map (Entry.judge state)
        else p.known intent }
  | .isFreshRelink externalUserId userId, .ok false =>
    p.change externalUserId userId fun entry => if entry.unsure then entry.clear else entry
  | .consumeRecord intent, _ => { p with known := update p.known intent none }
  | .readClock, .ok now => { p with now := now }
  | _, _ => p

/-- The monitor: intents are removed for a reason, or because they are too old. -/
def monitor (maxRecordAgeMs : Option ℤ) :
    Monitor LinkCall LinkCall.Answer LinkError Knowledge where
  allowed p
    | .consumeRecord intent => p.Clears intent ∨ p.Expires maxRecordAgeMs intent
    | _ => True
  possible
    | .sleep _, answer => answer = .ok ()
    | .readClock, answer => ∃ now, answer = .ok now
    | .listStaleRecords _, .ok records => (records.map (·.toVerifyIntentIdentity)).Nodup
    | _, _ => True
  after := Knowledge.after

/-! ## The scripts follow the monitor -/

section Scripts

variable {α : Type} {age : Option ℤ} {p : Knowledge} {intent : VerifyIntentIdentity}

/-- Calls that neither record nor list nor remove intents. -/
def Gentle : LinkCall → Prop
  | .recordVerify _ _ _ => False
  | .listStaleRecords _ => False
  | .consumeRecord _ => False
  | _ => True

def Entry.Keeps (entry entry' : Entry) : Prop :=
  entry'.verifiedAt = entry.verifiedAt ∧ (entry.cleared = true → entry'.cleared = true)

lemma known_after {c : LinkCall} (hc : Gentle c) (ans : Except LinkError c.Answer)
    {entry : Entry} (h : p.known intent = some entry) :
    ∃ entry', (p.after c ans).known intent = some entry' ∧ entry.Keeps entry' := by
  have hchange : ∀ (condition : Prop) [Decidable condition] (f : Entry → Entry),
      (∀ e : Entry, e.Keeps (f e)) →
      ∃ entry', (if condition then (p.known intent).map f else p.known intent) = some entry' ∧
        entry.Keeps entry' := by
    intro _ _ f hf
    split
    · exact ⟨f entry, by rw [h]; rfl, hf entry⟩
    · exact ⟨entry, h, rfl, id⟩
  have hsame : ∃ entry', p.known intent = some entry' ∧ entry.Keeps entry' := ⟨entry, h, rfl, id⟩
  have hclear : ∀ e : Entry, e.Keeps e.clear := fun _ => ⟨rfl, fun _ => rfl⟩
  unfold Knowledge.after
  split
  · exact hc.elim
  · exact hc.elim
  · exact hchange _ _ hclear
  · exact hchange _ _ hclear
  · exact hchange _ _ hclear
  next state =>
    refine hchange _ (Entry.judge state) fun e => ?_
    unfold Entry.judge
    split
    · exact ⟨rfl, id⟩
    · split
      · exact ⟨rfl, id⟩
      · exact ⟨rfl, fun _ => rfl⟩
      · exact ⟨rfl, id⟩
  · refine hchange _ (fun e => if e.unsure then e.clear else e) fun e => ?_
    split
    · exact ⟨rfl, fun _ => rfl⟩
    · exact ⟨rfl, id⟩
  · exact hc.elim
  · exact hsame
  · exact hsame

variable {recs : List VerifyIntentRecord}

lemma Knowledge.Knows.after (h : p.Knows recs) (c : LinkCall) (hc : Gentle c)
    (ans : Except LinkError c.Answer) : (p.after c ans).Knows recs := by
  intro rec hrec
  obtain ⟨_, hentry, hver⟩ := h rec hrec
  obtain ⟨entry', hentry', hkeeps⟩ := known_after hc ans hentry
  exact ⟨entry', hentry', hkeeps.1.trans hver⟩

lemma clears_change {f : Entry → Entry} {entry : Entry} (h : p.known intent = some entry)
    (hf : (f entry).cleared = true) :
    (p.change intent.externalUserId intent.userId f).Clears intent :=
  ⟨f entry, by simp [Knowledge.change, h], hf⟩

lemma allowed_of_gentle {c : LinkCall} (hc : Gentle c) : (monitor age).allowed p c := by
  cases c with
  | consumeRecord => cases hc
  | _ => trivial

variable {x : LinkScript α}

lemma follows_quiet (hx : x.Uses Gentle) :
    x.Follows (monitor age) p (fun _ _ => True) fun _ _ => True :=
  hx.keeps (I := fun _ => True) trivial (fun _ _ _ hc => allowed_of_gentle hc)
    fun _ _ _ _ _ _ => trivial

lemma follows_of_gentle (intent : VerifyIntentIdentity) (hx : x.Uses Gentle)
    (hknows : p.Knows recs) :
    x.Follows (monitor age) p
      (fun _ q => (p.Clears intent → q.Clears intent) ∧ q.Knows recs)
      fun _ q => (p.Clears intent → q.Clears intent) ∧ q.Knows recs := by
  refine hx.keeps
    (I := fun q : Knowledge => (p.Clears intent → q.Clears intent) ∧ q.Knows recs)
    ⟨id, hknows⟩ (fun _ _ _ hc => allowed_of_gentle hc) ?_
  · rintro _ c ans ⟨hclears, hknows⟩ hc -
    refine ⟨fun h => ?_, hknows.after c hc ans⟩
    obtain ⟨_, hentry, hcleared⟩ := hclears h
    obtain ⟨entry', hentry', hkeeps⟩ := known_after hc ans hentry
    exact ⟨entry', hentry', hkeeps.2 hcleared⟩

lemma follows_consumeRecord (hreason : p.Clears intent ∨ p.Expires age intent)
    (hknows : p.Knows recs) (hother : ∀ rec ∈ recs, rec.intent ≠ intent) :
    (consumeRecord intent).Follows (monitor age) p
      (fun _ q => q.Knows recs) fun _ q => q.Knows recs := by
  have hafter : ∀ ans, (p.after (.consumeRecord intent) ans).Knows recs := by
    intro _ rec hrec
    obtain ⟨entry, hentry, hver⟩ := hknows rec hrec
    refine ⟨entry, ?_, hver⟩
    exact (update_of_ne (hother rec hrec) _ _).trans hentry
  exact Follows.bind (Follows.perform hreason (fun deleted _ => hafter (.ok deleted))
    fun error _ => hafter (.error error))

variable {R : LinkError → Knowledge → Prop}

lemma follows_bestEffort {K : Knowledge → Prop}
    (hx : x.Follows (monitor age) p (fun _ q => K q) fun _ q => K q) :
    (LinkScript.bestEffort x).Follows (monitor age) p (fun _ q => K q) R := by
  refine Follows.tryCatch (Follows.bind ?_)
  exact hx.imp (fun _ _ h => h) fun _ _ h => h

variable {opts : RetryOptions}

lemma follows_retry {op : LinkScript α} {I : Knowledge → Prop} {Q : α → Knowledge → Prop}
    (hop : ∀ q, I q → op.Follows (monitor age) q Q
      fun error r => R error r ∧ (error.shouldRetry = true → I r)) (hp : I p) :
    (LinkScript.retry op opts).Follows (monitor age) p Q R := by
  have hfrom : ∀ left att q, I q →
      (retryFrom op (max 0 opts.baseDelayMs) att left).Follows (monitor age) q Q R := by
    intro left
    induction left with
    | zero => exact fun att q hq => (hop q hq).imp (fun _ _ h => h) fun _ _ h => h.1
    | succ _ ih =>
      intro _ q hq
      refine Follows.tryCatch ((hop q hq).imp (fun _ _ h => h) fun error r hr => ?_)
      split
      next hretry =>
        refine Follows.bind (Follows.perform trivial (fun _ _ => ?_) fun _ h => nomatch h)
        exact ih _ _ (hr.2 hretry)
      · exact hr.1
  exact hfrom _ _ p hp

lemma follows_upsertLink {obs : LinkMappingObservation}
    (hintent : ∃ entry, p.known intent = some entry) (hknows : p.Knows recs) :
    (LinkScript.retry (LinkScript.perform
        (.upsertLink intent.userId intent.externalUserId obs)) opts).Follows
      (monitor age) p (fun _ q => q.Clears intent ∧ q.Knows recs)
      fun error q => (error.isOwnershipConflict = true → q.Clears intent) ∧ q.Knows recs := by
  refine follows_retry (I := fun q => (∃ entry, q.known intent = some entry) ∧ q.Knows recs)
    ?_ ⟨hintent, hknows⟩
  rintro _ ⟨⟨_, hentry⟩, hknows⟩
  have hcleared := clears_change (f := Entry.clear) hentry rfl
  have hgentle : Gentle (.upsertLink intent.userId intent.externalUserId obs) := trivial
  have hafter := hknows.after _ hgentle
  refine Follows.perform trivial (fun _ _ => ⟨hcleared, hafter (.ok ())⟩) fun error _ => ?_
  refine ⟨⟨fun hconf => ?_, hafter (.error error)⟩, fun hretry => ⟨?_, hafter (.error error)⟩⟩
  · cases error with
    | ownershipConflict => exact hcleared
    | _ => cases hconf
  · obtain ⟨entry', hentry', -⟩ := known_after hgentle (.error error) hentry
    exact ⟨entry', hentry'⟩

variable {op : LinkScript Unit}

lemma follows_onlyIf {condition : Bool} {Q : Knowledge → Prop}
    (hdone : condition = true → op.Follows (monitor age) p (fun _ q => Q q) R)
    (hskipped : condition = false → Q p) :
    (onlyIf condition op).Follows (monitor age) p (fun _ q => Q q) R := by
  cases condition with
  | true => exact hdone rfl
  | false => exact hskipped rfl

lemma knows_nil : p.Knows [] := fun _ h => nomatch h

lemma follows_clears {condition : Prop} (hx : x.Uses Gentle) (hclears : condition → p.Clears intent)
    (hR : ∀ error q, (condition → Knowledge.Clears q intent) → R error q) :
    x.Follows (monitor age) p (fun _ q => condition → q.Clears intent) R :=
  (follows_of_gentle intent hx knows_nil).imp (fun _ _ h hc => h.1 (hclears hc))
    fun error q h => hR error q fun hc => h.1 (hclears hc)

lemma follows_afterUpsert {consume : Bool} (hclears : p.Clears intent) :
    (afterUpsert consume intent).Follows (monitor none) p (fun _ _ => True) fun _ _ => True := by
  have hcons : ∀ q : Knowledge, q.Clears intent →
      (LinkScript.bestEffort (consumeRecord intent)).Follows (monitor none) q
        (fun _ _ => True) fun _ _ => True := by
    intro q hq
    refine follows_bestEffort ((follows_consumeRecord (.inl hq) knows_nil
      fun _ h => nomatch h).imp (fun _ _ _ => trivial) fun _ _ _ => trivial)
  -- the reason is needed only if the intent is consumed at the end
  refine Follows.andThen (follows_onlyIf (Q := fun q => consume = true → q.Clears intent)
    (fun hnow => ?_) fun _ _ => hclears) fun _ q hq => ?_
  · refine (hcons p hclears).imp (fun _ _ _ hlater => ?_) fun _ _ h => h
    rw [hlater] at hnow
    cases hnow
  refine Follows.andThen (follows_clears (uses_bestEffort (Uses.perform trivial)) hq
    fun _ _ _ => trivial) fun _ q hq => ?_
  refine Follows.andThen (follows_clears (Uses.tryCatch (Uses.bind (Uses.perform trivial)
    fun _ => trivial) fun _ => trivial) hq fun _ _ _ => trivial) fun result q hq => ?_
  refine Follows.andThen (follows_onlyIf (Q := fun _ => True) (fun hlater => ?_)
    fun _ => trivial) fun _ _ _ => trivial
  exact hcons q (hq (Bool.and_eq_true_iff.mp hlater).1)

lemma complete_follows (consume : Bool) :
    (complete consume).Follows (monitor none) p (fun _ _ => True) fun _ _ => True := by
  refine Follows.andThen (follows_quiet (Uses.perform trivial)) fun user q _ => ?_
  refine Follows.andThen (follows_quiet (Uses.bind (Uses.perform trivial) fun link => ?_))
    fun obs q _ => ?_
  · cases link with
    | some => trivial
    | none => exact Uses.bind (Uses.perform trivial) fun _ => trivial
  refine Follows.andThen (follows_quiet (Uses.perform trivial)) fun verification q _ => ?_
  cases verification with
  | none => trivial
  | some uid =>
    refine Follows.andThen (Q := fun intentGeneration q => ∃ entry,
      q.known ⟨user, uid, intentGeneration⟩ = some entry) ?_
      fun intentGeneration q hintent => ?_
    · refine Follows.tryCatch (follows_retry (I := fun _ => True) (fun q _ => ?_) trivial)
      refine Follows.perform trivial (fun intentGeneration _ => ?_) fun _ _ =>
        ⟨trivial, fun _ => trivial⟩
      exact ⟨_, update_self ..⟩
    · refine Follows.andThen (Q := fun _ q => q.Clears ⟨user, uid, intentGeneration⟩)
        (Follows.tryCatch ?_) fun _ q hclears => follows_afterUpsert hclears
      refine (follows_upsertLink hintent knows_nil).imp (fun _ _ h => h.1) fun error q h => ?_
      unfold LinkScript.onUpsertError
      split
      · trivial
      next hconf =>
        have hclears := h.1 (by simpa using hconf)
        refine Follows.andThen (follows_bestEffort (follows_consumeRecord (.inl hclears)
          knows_nil fun _ h => nomatch h)) fun _ _ _ => trivial

variable {opts : ReconcileOptions} {rec : VerifyIntentRecord}

lemma follows_finish (hop : op.Uses Gentle) (hclears : p.Clears rec.intent) (hknows : p.Knows recs)
    (hother : ∀ other ∈ recs, other.intent ≠ rec.intent) :
    (finish opts rec op).Follows
      (monitor (some opts.maxRecordAgeMs)) p (fun _ q => q.Knows recs)
      fun _ q => q.Knows recs := by
  have hclarification : (LinkScript.bestEffort (LinkScript.perform
      (.clearClarification rec.externalUserId))).Uses Gentle :=
    uses_bestEffort (Uses.perform trivial)
  refine Follows.andThen (Q := fun _ q => q.Clears rec.intent ∧
    q.Knows recs) ((follows_of_gentle _ hclarification hknows).imp
      (fun _ _ h => ⟨h.1 hclears, h.2⟩) fun _ _ h => h.2) fun _ q hq => ?_
  have hcons : ∀ q : Knowledge, q.Clears rec.intent → q.Knows recs →
      (consumeRecord rec.intent).Follows
        (monitor (some opts.maxRecordAgeMs)) q (fun _ q => q.Knows recs)
        fun _ q => q.Knows recs :=
    fun q hclears hknows => follows_consumeRecord (.inl hclears) hknows hother
  unfold sideEffect
  cases opts.consumeVerifyIntentAfterReconciled with
  | false =>
    refine Follows.andThen (hcons q hq.1 hq.2) fun _ q hq => ?_
    refine Follows.andThen (Follows.tryCatch ?_) fun _ q hq => hq
    exact (follows_of_gentle rec.intent hop hq).imp (fun _ _ h => h.2) fun _ _ h => h.2
  | true =>
    refine Follows.bind (Follows.andThen (Q := fun _ q =>
      q.Clears rec.intent ∧ q.Knows recs) (Follows.tryCatch ?_)
      fun _ q hq => hcons q hq.1 hq.2)
    exact (follows_of_gentle _ hop hq.2).imp (fun _ _ h => ⟨h.1 hq.1, h.2⟩) fun _ _ h => h.2

lemma follows_reconcileRecord (hknows : p.Knows (rec :: recs))
    (hother : ∀ other ∈ recs, other.intent ≠ rec.intent) :
    (reconcileRecord opts rec).Follows
      (monitor (some opts.maxRecordAgeMs)) p (fun _ q => q.Knows recs)
      fun _ q => q.Knows recs := by
  have htail : ∀ q : Knowledge, q.Knows (rec :: recs) → q.Knows recs :=
    fun q h other hmem => h other (mem_cons_of_mem _ hmem)
  have hdrop : ∀ q : Knowledge, (q.Clears rec.intent ∨
        q.Expires (some opts.maxRecordAgeMs) rec.intent) →
      q.Knows recs → (dropRecord rec).Follows
        (monitor (some opts.maxRecordAgeMs)) q (fun _ q => q.Knows recs)
        fun _ q => q.Knows recs := by
    intro q hreason hknows
    exact Follows.andThen (follows_consumeRecord hreason hknows hother) fun _ _ h => h
  -- `findUserId`: the user of the record is a reason
  refine Follows.andThen (Q := fun old q => q.Knows (rec :: recs) ∧
    (old = some rec.userId → q.Clears rec.intent)) ?_
    fun old q hq => ?_
  · have hafter := hknows.after (.findUserId rec.externalUserId) trivial
    refine Follows.perform trivial (fun old _ => ⟨hafter (.ok old), ?_⟩)
      fun error _ => htail _ (hafter (.error error))
    rintro rfl
    obtain ⟨entry, hentry, -⟩ := hknows rec (mem_cons_self ..)
    exact clears_change hentry rfl
  split
  next hex =>
    refine Follows.andThen (follows_finish (Uses.bind (Uses.perform trivial) fun _ =>
      Uses.perform trivial) (hq.2 hex) (htail q hq.1) hother) fun _ _ h => h
  -- the clock: the age of the record may be one
  refine Follows.andThen (Q := fun now q => q.Knows (rec :: recs) ∧ q.now = now) ?_
    fun now q hq => ?_
  · refine Follows.perform trivial (fun now _ => ⟨hq.1.after .readClock trivial (.ok now), rfl⟩)
      ?_
    rintro _ ⟨_, ⟨⟩⟩
  split
  next hold =>
    refine hdrop q (.inr ?_) (htail q hq.1)
    obtain ⟨entry, hentry, hver⟩ := hq.1 rec (mem_cons_self ..)
    exact ⟨entry, _, _, hentry, rfl, hver, by rw [hq.2]; exact hold⟩
  -- the state of the link
  refine Follows.andThen (Q := fun state q => q.Knows (rec :: recs) ∧
    ∃ entry, q.known rec.intent = some entry ∧
      (verdict rec.verifiedAt state = .blocked → entry.cleared = true) ∧
      (verdict rec.verifiedAt state = .unsure → entry.unsure = true)) ?_
    fun state q hq => ?_
  · have hafter := hq.1.after (.getLinkState rec.externalUserId) trivial
    refine Follows.perform trivial (fun state _ => ⟨hafter (.ok state), ?_⟩)
      fun error _ => htail _ (hafter (.error error))
    obtain ⟨entry, hentry, hver⟩ := hq.1 rec (mem_cons_self ..)
    refine ⟨entry.judge state, ?_, ?_, ?_⟩
    · simp [monitor, Knowledge.after, hentry]
    · intro hblocked
      simp [Entry.judge, hver, hblocked, Entry.clear]
    · intro hunsure
      simp [Entry.judge, hver, hunsure]
  refine Follows.andThen (Q := fun blocked q => q.Knows (rec :: recs) ∧
    (blocked = true → q.Clears rec.intent)) ?_ fun blocked q hq => ?_
  · obtain ⟨hknows, entry, hentry, hblocked, hunsure⟩ := hq
    unfold isBlocked
    split
    · exact ⟨hknows, fun h => nomatch h⟩
    next hverd =>
      exact ⟨hknows, fun _ => ⟨entry, hentry, hblocked hverd⟩⟩
    next hverd =>
      refine Follows.andThen (Q := fun fresh q => q.Knows (rec :: recs) ∧
        (fresh = false → q.Clears rec.intent)) ?_ fun fresh q hq => ?_
      · have hafter := hknows.after (.isFreshRelink rec.externalUserId rec.userId) trivial
        refine Follows.perform trivial (fun fresh _ => ⟨hafter (.ok fresh), ?_⟩)
          fun error _ => htail _ (hafter (.error error))
        rintro rfl
        exact clears_change hentry (by simp [hunsure hverd, Entry.clear])
      · exact ⟨hq.1, fun h => hq.2 (by simpa using h)⟩
  split
  next hblocked =>
    exact hdrop q (.inl (hq.2 hblocked)) (htail q hq.1)
  -- the mapping is written
  obtain ⟨entry, hentry, -⟩ := hq.1 rec (mem_cons_self ..)
  refine Follows.andThen (Q := fun written q => q.Knows recs ∧
    (written = true → q.Clears rec.intent)) (Follows.tryCatch ?_)
    fun written q hq => ?_
  · refine Follows.bind ((follows_upsertLink ⟨entry, hentry⟩ (htail q hq.1)).imp
      (fun _ _ h => ⟨h.2, fun _ => h.1⟩) fun error r h => ?_)
    unfold onReconcileError
    split
    · exact h.2
    next hconf =>
      have hclears := h.1 (by simpa using hconf)
      exact Follows.andThen (follows_consumeRecord (.inl hclears) h.2 hother) fun _ _ h =>
        ⟨h, fun hno => nomatch hno⟩
  split
  next hwrote =>
    exact Follows.andThen (follows_finish (Uses.perform trivial) (hq.2 hwrote) hq.1 hother)
      fun _ _ h => h
  · exact hq.1

lemma runBatch_follows (opts : ReconcileOptions) :
    (runBatch opts).Follows (monitor (some opts.maxRecordAgeMs)) p
      (fun _ _ => True) fun _ _ => True := by
  have hloop : ∀ (recs : List VerifyIntentRecord) (result) (q : Knowledge),
      (recs.map (·.intent)).Nodup → q.Knows recs →
      (reconcileRecords opts recs result).Follows
        (monitor (some opts.maxRecordAgeMs)) q (fun _ _ => True) fun _ _ => True := by
    intro recs
    induction recs with
    | nil => exact fun _ _ _ _ => trivial
    | cons rec recs ih =>
      intro _ q hnodup hknows
      obtain ⟨hnew, hrest⟩ := nodup_cons.mp hnodup
      have hother : ∀ other ∈ recs,
          other.intent ≠ rec.intent :=
        fun other hmem hsame => hnew (mem_map.mpr ⟨other, hmem, hsame⟩)
      refine Follows.andThen (Q := fun _ q => q.Knows recs) (Follows.tryCatch
        (follows_reconcileRecord hknows hother)) fun out q hq => ?_
      exact ih _ q hrest hq
  refine Follows.andThen (Q := fun listed q => (listed.map
    (·.intent)).Nodup ∧ q.Knows listed) ?_ fun listed q hq => ?_
  · refine Follows.perform trivial (fun listed hnodup => ⟨hnodup, fun rec hrec => ?_⟩)
      fun _ _ => trivial
    obtain ⟨found, hfound⟩ : ∃ found, listed.find? (fun other =>
        decide (other.intent = rec.intent)) = some found :=
      isSome_iff_exists.mp (find?_isSome.mpr ⟨rec, hrec, by simp⟩)
    refine ⟨⟨some found.verifiedAt, false, false⟩, ?_, ?_⟩
    · change (match listed.find? _ with
        | some rec => some (Entry.mk (some rec.verifiedAt) false false)
        | none => _) = _
      rw [hfound]
    · have hident : found.intent = rec.intent := by
        simpa using find?_some hfound
      rw [inj_on_of_nodup_map hnodup (mem_of_find?_eq_some hfound) hrec hident]
  · refine hloop _ _ q ?_ fun rec hrec => hq.2 rec (mem_of_mem_take hrec)
    rw [map_take]
    exact hq.1.sublist (take_sublist _ _)

lemma Worker.follows (w : Worker) :
    w.script.Follows (monitor w.maxRecordAgeMs) p (fun _ _ => True) fun _ _ => True := by
  cases w with
  | complete consume =>
    exact Follows.andThen (f := fun _ => pure ()) (complete_follows consume) fun _ _ _ => trivial
  | runBatch opts =>
    exact Follows.andThen (f := fun _ => pure ()) (runBatch_follows opts) fun _ _ _ => trivial

end Scripts

/-! ## What workers hold is what they know -/

section Tie

variable {ι : Type}

/-- The holding is of this row, and as the worker knows it. -/
structure Backs (row : StoredIntent) (entry : Entry) (holding : Holding) : Prop where
  serial : row.serial = holding.serial
  verifiedAt : holding.verifiedAt = entry.verifiedAt
  time : ∀ verifiedAt, entry.verifiedAt = some verifiedAt → row.verifiedAt = verifiedAt
  unsure : entry.unsure = true → holding.unsure = true
  reason : entry.cleared = true → holding.reason.isSome = true

/-- All intents a worker knows it holds, and those that are still in the table are backed. -/
def Backed (intents : List StoredIntent) (known : VerifyIntentIdentity → Option Entry)
    (hand : Hand) : Prop :=
  ∀ intent entry, known intent = some entry → ∃ holding, hand intent = some holding ∧
    ∀ row ∈ intents, row.intent = intent → Backs row entry holding

variable {row : StoredIntent}

section

variable {entry : Entry} {holding : Holding} (h : Backs row entry holding)
include h

lemma Backs.settle (reason : Reason) : Backs row entry.clear (holding.settle reason) :=
  ⟨h.serial, h.verifiedAt, h.time, h.unsure, fun _ => rfl⟩

lemma Backs.judge (state : Option LinkStateSnapshot) :
    Backs row (entry.judge state) (holding.judge state) := by
  cases htime : entry.verifiedAt with
  | none =>
    simp only [Entry.judge, Holding.judge, h.verifiedAt, htime]
    exact h
  | some verifiedAt =>
    simp only [Entry.judge, Holding.judge, h.verifiedAt, htime]
    cases verdict verifiedAt state with
    | free =>
      exact ⟨h.serial, rfl, fun v hv => h.time v (htime.trans hv),
        fun hno => absurd hno Bool.false_ne_true, h.reason⟩
    | blocked => exact h.settle .blocked
    | unsure =>
      exact ⟨h.serial, rfl, fun v hv => h.time v (htime.trans hv), fun _ => rfl, h.reason⟩

end

variable {intents : List StoredIntent} {p : Knowledge} {hand : Hand}

variable {known : VerifyIntentIdentity → Option Entry}

lemma Backed.mono {intents' : List StoredIntent} (h : Backed intents known hand)
    (hsub : ∀ row ∈ intents', row ∈ intents) : Backed intents' known hand := by
  intro intent entry hentry
  obtain ⟨holding, hhold, hrows⟩ := h intent entry hentry
  exact ⟨holding, hhold, fun row hrow => hrows row (hsub row hrow)⟩

lemma Backed.map {C : VerifyIntentIdentity → Prop} [DecidablePred C] {f : Entry → Entry}
    {g : Holding → Holding} (h : Backed intents p.known hand)
    (hfg : ∀ row ∈ intents, C row.intent → ∀ entry holding,
      Backs row entry holding → Backs row (f entry) (g holding)) :
    Backed intents (fun intent => if C intent then (p.known intent).map f else p.known intent)
      fun intent => if C intent then (hand intent).map g else hand intent := by
  intro intent entry hentry
  simp only at hentry ⊢
  by_cases hC : C intent
  · rw [if_pos hC] at hentry
    obtain ⟨old, hold, rfl⟩ := map_eq_some_iff.mp hentry
    obtain ⟨holding, hhold, hrows⟩ := h intent old hold
    refine ⟨g holding, by simp only [if_pos hC, hhold, map_some], ?_⟩
    rintro row hrow rfl
    exact hfg row hrow hC old holding (hrows row hrow rfl)
  · rw [if_neg hC] at hentry
    obtain ⟨holding, hhold, hrows⟩ := h intent entry hentry
    exact ⟨holding, by simp only [if_neg hC, hhold], hrows⟩

/-! ## Calls on the table -/

variable {platform : LinkPlatform} {s : Store ι} {input : Input} {c : LinkCall}

variable {observation : LinkMappingObservation} {user : String} {userId : ℤ}

lemma mem_recordVerify (h : row ∈ (s.recordVerify user userId observation).intents) :
    row = s.recorded user userId observation ∨ row ∈ s.intents ∧ row.externalUserId ≠ user := by
  rcases mem_insertOnConflict h with ⟨hnew, -⟩ | ⟨_, -, -, -, hset⟩ | ⟨hold, hguard⟩
  · exact .inl hnew
  · exact .inl hset.symm
  · exact .inr ⟨hold, fun hsame => nomatch hguard hsame⟩

lemma intents_answer (s : Store ι) (platform : LinkPlatform) (input : Input) (c : LinkCall) :
    (s.answer platform input c).2.intents = s.intents ∨
      (∃ user userId observation, c = .recordVerify user userId observation ∧
        (s.answer platform input c).2.intents = (s.recordVerify user userId observation).intents) ∨
      ∃ intent, c = .consumeRecord intent ∧
        (s.answer platform input c).2.intents = (s.consumeRecord intent).intents := by
  rcases answer_store s platform input c with hdone | hsame
  · rw [hdone]
    cases c with
    | recordVerify => exact .inr (.inl ⟨_, _, _, rfl, rfl⟩)
    | consumeRecord => exact .inr (.inr ⟨_, rfl, rfl⟩)
    | upsertLink =>
      left
      simp only [Store.carryOut, Store.upsertLink]
      split <;> rfl
    | _ => exact .inl rfl
  · exact .inl (congrArg Store.intents hsame)

lemma clock_answer : (s.answer platform input c).2.clock = s.clock := by
  rcases answer_store s platform input c with hdone | hsame
  · rw [hdone]
    cases c with
    | upsertLink =>
      simp only [Store.carryOut, Store.upsertLink]
      split <;> rfl
    | _ => rfl
  · rw [hsame]

lemma mem_answer (h : row ∈ (s.answer platform input c).2.intents) :
    row ∈ s.intents ∨ ∃ user userId observation, c = .recordVerify user userId observation ∧
        row = s.recorded user userId observation := by
  rcases intents_answer s platform input c with hsame | ⟨_, _, _, rfl, hrec⟩ | ⟨intent, rfl, hcons⟩
  · rw [hsame] at h
    exact .inl h
  · rw [hrec] at h
    rcases mem_recordVerify h with hnew | ⟨hold, -⟩
    · exact .inr ⟨_, _, _, rfl, hnew⟩
    · exact .inl hold
  · rw [hcons] at h
    exact .inl (mem_deleteWhere.mp h).1

lemma unique_answer (h : UniqueOn (fun row => row.externalUserId) s.intents) :
    UniqueOn (fun row => row.externalUserId) (s.answer platform input c).2.intents := by
  rcases intents_answer s platform input c with hsame | ⟨_, _, _, rfl, hrec⟩ | ⟨intent, rfl, hcons⟩
  · rw [hsame]
    exact h
  · rw [hrec]
    exact h.insertOnConflict (fun _ hsame => hsame.symm) id
  · rw [hcons]
    exact h.deleteWhere

lemma linked_upsertLink {found : Rows} {u : Unit}
    (h : (s.upsertLink platform found userId user observation).1 = .ok u) :
    (s.upsertLink platform found userId user observation).2.linked platform user userId = true := by
  unfold Store.upsertLink at h ⊢
  split at h
  next _ halone =>
    obtain ⟨_, hlink⟩ := linked_of_upsertLink halone
    simp only [Store.linked, Store.link, hlink]
    simp
  · cases h

/-! ## The condition -/

/-- A new intent is told apart from those that are held, and a link that is not active does not
belong to the user of the stored intent. -/
def Sound (platform : LinkPlatform) (s : Store ι) (work : ι → Bool) : LinkCall → Prop
  | .recordVerify externalUserId userId _ => ∀ j, work j = true →
    s.held j ⟨externalUserId, userId, nextIntentGeneration s.intents externalUserId⟩ = none
  | .findUserId externalUserId => ∀ link, s.link platform externalUserId = some link →
    link.linkState ≠ .active →
    ∀ row ∈ s.intents, row.externalUserId = externalUserId → row.userId ≠ link.userId
  | _ => True

instance [Fintype ι] (platform : LinkPlatform) (s : Store ι) (work : ι → Bool) (c : LinkCall) :
    Decidable (Sound platform s work c) := by
  unfold Sound
  split <;> infer_instance

/-! ## Calls and what is held -/

lemma Backed.answer (h : Backed s.intents known hand) (hfresh : ∀ user userId observation,
      c = .recordVerify user userId observation →
      known ⟨user, userId, nextIntentGeneration s.intents user⟩ = none) :
    Backed (s.answer platform input c).2.intents known hand := by
  intro intent entry hentry
  obtain ⟨holding, hhold, hrows⟩ := h intent entry hentry
  refine ⟨holding, hhold, fun row hrow hident => ?_⟩
  rcases mem_answer hrow with hold | ⟨user, userId, observation, hc, rfl⟩
  · exact hrows row hold hident
  · have hnone : known (s.recorded user userId observation).intent =
        none := hfresh _ _ _ hc
    rw [hident, hentry] at hnone
    cases hnone

lemma Backed.record (h : Backed s.intents p.known hand) :
    Backed (s.recordVerify user userId observation).intents (update p.known
        ⟨user, userId, nextIntentGeneration s.intents user⟩ (some ⟨none, false, false⟩))
      (update hand ⟨user, userId, nextIntentGeneration s.intents user⟩
        (some ⟨s.nextSerial, none, false, none⟩)) := by
  intro intent entry hentry
  by_cases hsame : intent = ⟨user, userId, nextIntentGeneration s.intents user⟩
  · subst hsame
    rw [update_self] at hentry
    obtain ⟨⟩ := hentry
    refine ⟨_, update_self .., fun row hrow hident => ?_⟩
    rcases mem_recordVerify hrow with rfl | ⟨-, hother⟩
    · exact ⟨rfl, rfl, fun _ hno => (nomatch hno), fun hno => (nomatch hno),
        fun hno => (nomatch hno)⟩
    · exact absurd (congrArg VerifyIntentIdentity.externalUserId hident) hother
  · rw [update_of_ne hsame] at hentry
    obtain ⟨holding, hhold, hrows⟩ := h intent entry hentry
    refine ⟨holding, by rw [update_of_ne hsame, hhold], fun row hrow hident => ?_⟩
    rcases mem_recordVerify hrow with rfl | ⟨hold, -⟩
    · exact absurd hident.symm hsame
    · exact hrows row hold hident

lemma Backed.list (h : Backed s.intents p.known hand)
    (huniq : UniqueOn (fun row => row.externalUserId) s.intents) (olderThanMs : ℤ) :
    Backed s.intents
      (p.after (.listStaleRecords olderThanMs) (.ok (s.listStaleRecords olderThanMs))).known
      (hand.note platform s s (.listStaleRecords olderThanMs)
        (.ok (s.listStaleRecords olderThanMs))) := by
  intro intent entry hentry
  simp only [Knowledge.after] at hentry
  simp only [Hand.note]
  split at hentry
  next rec hfind =>
    have hrec : rec.intent = intent := by simpa using find?_some hfind
    have hmem := mem_of_find?_eq_some hfind
    obtain ⟨row, hrow, rfl⟩ := mem_map.mp hmem
    have hsto : row ∈ s.intents := by
      have hsort := mem_mergeSort.mp (mem_of_mem_take hrow)
      exact (mem_filter.mp hsort).1
    -- an identity tells the account, and the account tells the row
    have honly : ∀ other ∈ s.intents, other.intent = intent → other = row := by
      intro other hother hident
      refine huniq.eq_of_key_eq hother hsto ?_
      exact congrArg VerifyIntentIdentity.externalUserId (hident.trans hrec.symm)
    have hfound : s.intents.find? (fun other => other.is intent) = some row :=
      find?_eq_some_of_only hsto (by simpa [StoredIntent.is] using hrec)
        fun other hother hsame => honly other hother (by simpa [StoredIntent.is] using hsame)
    have hlist : (s.listStaleRecords olderThanMs).any
        (fun rec => decide (rec.intent = intent)) = true :=
      any_eq_true.mpr ⟨_, hmem, by simpa using hrec⟩
    obtain ⟨⟩ := hentry
    refine ⟨_, by rw [if_pos hlist, hfound]; rfl, fun other hother hident => ?_⟩
    obtain rfl := honly other hother hident
    exact ⟨rfl, rfl, fun _ htime => Option.some.inj htime, fun hno => (nomatch hno),
      fun hno => (nomatch hno)⟩
  next hnone =>
    have hlist : ¬ (s.listStaleRecords olderThanMs).any
        (fun rec => decide (rec.intent = intent)) = true := by
      simpa using find?_eq_none.mp hnone
    rw [if_neg hlist]
    exact h intent entry hentry

lemma Backed.forget (h : Backed intents p.known hand) (intent : VerifyIntentIdentity) :
    Backed intents (update p.known intent none) (update hand intent none) := by
  intro other entry hentry
  by_cases hsame : other = intent
  · subst hsame
    simp at hentry
  · rw [update_of_ne hsame] at hentry ⊢
    exact h other entry hentry

lemma Backed.note_error (h : Backed intents p.known hand) (s t : Store ι) (c : LinkCall)
    (error : LinkError) :
    Backed intents (p.after c (.error error)).known (hand.note platform s t c (.error error)) := by
  cases c with
  | upsertLink =>
    cases error with
    | ownershipConflict => exact h.map fun row _ _ entry holding hbacks => hbacks.settle .conflict
    | _ => exact h
  | consumeRecord intent => exact h.forget intent
  | _ => exact h

variable {work : ι → Bool}

/-- What is known and held agree after the answer of a call. -/
abbrev BackedAfter (platform : LinkPlatform) (s : Store ι) (p : Knowledge) (hand : Hand)
    (c : LinkCall) (result : Except LinkError c.Answer × Store ι) : Prop :=
  Backed result.2.intents (p.after c result.1).known (hand.note platform s result.2 c result.1)

section Note

variable (h : Backed s.intents p.known hand)
  (huniq : UniqueOn (fun row => row.externalUserId) s.intents) (hsound : Sound platform s work c)
include h huniq hsound

lemma Backed.note_carryOut (hkeep : Backed (s.carryOut platform input c).2.intents p.known hand) :
    BackedAfter platform s p hand c (s.carryOut platform input c) := by
  unfold BackedAfter
  cases c with
  | recordVerify => exact h.record
  | listStaleRecords olderThanMs => exact h.list huniq olderThanMs
  | consumeRecord intent => exact hkeep.forget intent
  | getLinkState =>
    exact h.map fun row _ _ entry holding hbacks => hbacks.judge input.linkState
  | isFreshRelink =>
    simp only [Store.carryOut]
    cases input.fresh with
    | true => exact h
    | false =>
      refine h.map fun row _ _ entry holding hbacks => ?_
      split
      next hunsure =>
        rw [if_pos (hbacks.unsure hunsure)]
        exact hbacks.settle .blocked
      · split
        · exact ⟨hbacks.serial, hbacks.verifiedAt, hbacks.time, hbacks.unsure, fun _ => rfl⟩
        · exact hbacks
  | findUserId user =>
    simp only [Store.carryOut]
    cases hlink : s.link platform user with
    | none => exact h
    | some link =>
      simp only [map_some, Hand.note]
      split
      · exact h.map fun row _ _ entry holding hbacks => hbacks.settle .committed
      next hlinked =>
        -- the link is out of use, so that no row is of its account and user
        have hinactive : link.linkState ≠ .active := by
          simpa [Store.linked, hlink] using hlinked
        have hnone := hsound link hlink hinactive
        have hmap := h.map (C := fun intent => intent.externalUserId = user ∧
          intent.userId = link.userId) (f := Entry.clear) (g := id) fun row hrow hsame => by
            exact absurd hsame.2 (hnone row hrow hsame.1)
        simp only [Option.map_id_fun, id_eq, ite_self] at hmap
        exact hmap
  | upsertLink userId user observation =>
    simp only [Store.carryOut] at hkeep ⊢
    cases hans : (s.upsertLink platform input.found userId user observation).1 with
    | error error =>
      exact hkeep.note_error s _ (.upsertLink userId user observation) error
    | ok =>
      simp only [Hand.note, linked_upsertLink hans]
      exact hkeep.map fun row _ _ entry holding hbacks => hbacks.settle .committed
  | _ => exact h

lemma Backed.note (hkeep : Backed (s.answer platform input c).2.intents p.known hand) :
    BackedAfter platform s p hand c (s.answer platform input c) := by
  rcases answer_cases s platform input c with hdone | ⟨-, error, hfail | hfail⟩
  · rw [hdone] at hkeep ⊢
    exact h.note_carryOut huniq hsound hkeep
  · rw [hfail] at hkeep ⊢
    exact hkeep.note_error s _ c error
  · rw [hfail] at hkeep ⊢
    exact hkeep.note_error s _ c error

end Note

/-! ## Whole runs -/

variable {maxRecordAgeMs : Option ℤ}

lemma possible_answer (huniq : UniqueOn (fun row => row.externalUserId) s.intents) :
    (monitor maxRecordAgeMs).possible c (s.answer platform input c).1 := by
  cases c with
  | sleep => exact rfl
  | readClock => exact ⟨_, rfl⟩
  | listStaleRecords olderThanMs =>
    rcases answer_cases s platform input (.listStaleRecords olderThanMs) with
      hdone | ⟨-, error, hfail | hfail⟩
    · rw [hdone]
      refine List.Nodup.of_map VerifyIntentIdentity.externalUserId ?_
      simp only [Store.listStaleRecords, List.map_map]
      rw [map_take]
      have hsort := (mergeSort_perm (s.intents.filter fun row =>
        decide (row.verifiedAt < s.clock - olderThanMs))
        fun a b => decide (a.verifiedAt ≤ b.verifiedAt)).map
          (VerifyIntentIdentity.externalUserId ∘ (fun x => x.intent) ∘
            StoredIntent.toVerifyIntentRecord)
      refine List.Nodup.sublist (take_sublist _ _) (hsort.nodup_iff.mpr ?_)
      exact (List.Sublist.map _ filter_sublist).nodup huniq
    · rw [hfail]
      trivial
    · rw [hfail]
      trivial
  | _ => trivial

lemma now_answer (h : p.now ≤ s.clock) :
    (p.after c (s.answer platform input c).1).now ≤ s.clock := by
  by_cases hclock : c = .readClock
  · subst hclock
    exact le_refl s.clock
  · have hsame : (p.after c (s.answer platform input c).1).now = p.now := by
      unfold Knowledge.after
      split <;> first | rfl | exact absurd rfl hclock
    rw [hsame]
    exact h

/-- The tie between the store and what the workers know. -/
structure Tied (s : Store ι) (phase : ι → Knowledge) (work : ι → Bool) : Prop where
  unique : UniqueOn (fun row => row.externalUserId) s.intents
  now : ∀ i, (phase i).now ≤ s.clock
  backed : ∀ i, work i = true → Backed s.intents (phase i).known (s.held i)

lemma obeys_init {rows : OwnershipKey → Option OwnershipRow} {intents : List StoredIntent}
    {clock : ℤ} {nextSerial : ℕ} {workers : ι → Worker}
    (huniq : UniqueOn (fun row => row.externalUserId) intents) :
    (init rows intents clock nextSerial workers).Obeys
      (fun i => monitor (workers i).maxRecordAgeMs) Tied := by
  refine ⟨fun _ => ⟨fun _ => none, clock⟩, ?_, huniq, fun _ => le_refl clock, ?_⟩
  · intro i _ hscr
    obtain ⟨⟩ := hscr
    exact (workers i).follows
  · intro _ _ _ _ hentry
    cases hentry

variable [DecidableEq ι]

lemma Tied.serve {s t : Store ι} {ph : ι → Knowledge} {i : ι} {c : LinkCall} {input : Input}
    {ans : Except LinkError c.Answer} (h : Tied s ph work) (hwork : work i = true)
    (hsound : Sound platform s work c)
    (hserve : LinkSystem.serve platform i c input s = some (ans, t)) (b : Bool) :
    Tied t (update ph i ((ph i).after c ans)) (update work i b) := by
  simp only [LinkSystem.serve] at hserve
  split at hserve
  case isTrue => cases hserve
  case isFalse hclock =>
    obtain ⟨⟩ := hserve
    let before : Store ι := { s with clock := input.now }
    have hlater : s.clock ≤ before.clock := not_lt.mp hclock
    have hafter : (before.answer platform input c).2.clock = before.clock := clock_answer
    have hkeep : ∀ j, work j = true →
        Backed (before.answer platform input c).2.intents (ph j).known (s.held j) := by
      intro j hj
      refine Backed.answer (s := before) (h.backed j hj) ?_
      rintro user userId _ rfl
      -- whoever knows the intent holds it, and nobody does
      have hnone := hsound j hj
      cases hknown : (ph j).known ⟨user, userId, nextIntentGeneration s.intents user⟩ with
      | none => rfl
      | some entry =>
        obtain ⟨_, hhold, -⟩ := h.backed j hj _ entry hknown
        rw [hnone] at hhold
        cases hhold
    have hsound' : Sound platform before work c := by
      cases c with
      | recordVerify | findUserId => exact hsound
      | _ => trivial
    refine ⟨unique_answer (s := before) h.unique, fun j => ?_, fun j hj => ?_⟩
    · change _ ≤ (before.answer platform input c).2.clock
      rw [hafter]
      by_cases hji : j = i
      · subst hji
        rw [update_self]
        exact now_answer (s := before) ((h.now j).trans hlater)
      · rw [update_of_ne hji]
        exact (h.now j).trans hlater
    · by_cases hji : j = i
      · subst hji
        simp only [update_self]
        exact Backed.note (s := before) (h.backed j hwork) h.unique hsound' (hkeep j hwork)
      · rw [update_of_ne hji] at hj
        simp only [update_of_ne hji]
        exact hkeep j hj

lemma tied_kept (platform : LinkPlatform) (workers : ι → Worker) :
    Crew.KeptWhile (fun i => monitor (workers i).maxRecordAgeMs) (serve platform) happen
      (fun s work _ c _ => Sound platform s work c) (fun _ _ _ => True) (Tied (ι := ι)) where
  possible := by
    intro s phase work i _ input _ t htied hserve
    simp only [serve] at hserve
    split at hserve
    · cases hserve
    · obtain ⟨⟩ := hserve
      exact possible_answer (s := { s with clock := input.now }) htied.unique
  call := fun _ _ _ _ _ _ _ _ htied hwork _ hsound hserve b => htied.serve hwork hsound hserve b
  stop := by
    intro s phase work i htied
    refine ⟨htied.unique, htied.now, fun j hj => htied.backed j ?_⟩
    by_cases hji : j = i
    · subst hji
      simp at hj
    · rwa [update_of_ne hji] at hj
  other := by
    intro _ _ _ event _ htied _ hhappen
    cases event with
    | request =>
      rw [happen] at hhappen
      obtain ⟨_, -, rfl⟩ := map_eq_some_iff.mp hhappen
      exact ⟨htied.unique, htied.now, htied.backed⟩
    | erase =>
      obtain ⟨⟩ := hhappen
      refine ⟨htied.unique.deleteWhere, htied.now, fun i hi => ?_⟩
      exact (htied.backed i hi).mono fun row hrow => (mem_deleteWhere.mp hrow).1

/-- A newer one is recorded; or a holder of this very row removes it with a reason or for its age;
or it is erased. -/
def Leaves (workers : ι → Worker) (s t : State ι) (row : StoredIntent) : Event ι → Prop
  | .call i _ =>
    match s.calling i with
    | some (.recordVerify externalUserId _ _) => row.externalUserId = externalUserId
    | some (.consumeRecord intent) => row.intent = intent ∧
      ∃ holding, s.shared.held i intent = some holding ∧ holding.serial = row.serial ∧
        (holding.reason.isSome = true ∨ ∃ maxRecordAgeMs,
          (workers i).maxRecordAgeMs = some maxRecordAgeMs ∧
            maxRecordAgeMs ≤ t.shared.clock - row.verifiedAt)
    | _ => False
  | .other (.erase externalUserId) => row.externalUserId = externalUserId
  | .other (.request _) => False
  | .stop _ => False

lemma Backed.removed {now : ℤ} (h : Backed intents known hand) (hrow : row ∈ intents)
    (hallow : Knowledge.Clears ⟨known, now⟩ row.intent ∨
      Knowledge.Expires ⟨known, now⟩ maxRecordAgeMs row.intent) :
    ∃ holding, hand row.intent = some holding ∧ holding.serial = row.serial ∧
      (holding.reason.isSome = true ∨
        ∃ age, maxRecordAgeMs = some age ∧ age ≤ now - row.verifiedAt) := by
  rcases hallow with ⟨entry, hentry, hcleared⟩ | ⟨entry, age, verifiedAt, hentry, hage, htime, hold⟩
  · obtain ⟨holding, hhold, hrows⟩ := h _ entry hentry
    have hbacks := hrows row hrow rfl
    exact ⟨holding, hhold, hbacks.serial.symm, .inl (hbacks.reason hcleared)⟩
  · obtain ⟨holding, hhold, hrows⟩ := h _ entry hentry
    have hbacks := hrows row hrow rfl
    refine ⟨holding, hhold, hbacks.serial.symm, .inr ⟨age, hage, ?_⟩⟩
    rw [hbacks.time verifiedAt htime]
    exact hold

/-- In every run whose calls are sound, a row of an intent disappears only in one of the ways of
`Leaves`. -/
theorem intents_not_lost {platform : LinkPlatform} {rows : OwnershipKey → Option OwnershipRow}
    {intents : List StoredIntent} {clock : ℤ} {nextSerial : ℕ} {workers : ι → Worker}
    {events : List (Event ι)} {s t : State ι} {event : Event ι} {row : StoredIntent}
    (hunique : UniqueOn (fun row => row.externalUserId) intents)
    (hsound : Along (step platform)
      (Crew.MeetsWhile (fun s work _ c _ => Sound platform s work c) fun _ _ _ => True)
      (init rows intents clock nextSerial workers) events)
    (hrun : run (step platform) (init rows intents clock nextSerial workers) events = some s)
    (hstep : step platform s event = some t) (hrow : row ∈ s.shared.intents)
    (hgone : row ∉ t.shared.intents) : Leaves workers s t row event := by
  obtain ⟨phase, hfol, htied⟩ :=
    (obeys_init hunique).run_while (tied_kept platform workers) hsound hrun
  cases event with
  | call i input =>
    simp only [step, Crew.step] at hstep
    split at hstep
    case h_2 => cases hstep
    case h_1 c next hscr =>
      obtain ⟨⟨_, u⟩, hserve, rfl⟩ := map_eq_some_iff.mp hstep
      simp only [serve] at hserve
      split at hserve
      case isTrue => cases hserve
      case isFalse hclock =>
        obtain ⟨⟩ := hserve
        let before : Store ι := { s.shared with clock := input.now }
        have hcalling : s.calling i = some c := by simp [Crew.calling, hscr]
        have hnow : (before.answer platform input c).2.clock = input.now :=
          clock_answer (s := before)
        have hbacked := htied.backed i (by simp [Crew.working, hscr])
        simp only [Leaves, hcalling]
        rcases intents_answer before platform input c with hsame | ⟨_, _,
          observation, rfl, hrec⟩ | ⟨intent, rfl, hcons⟩
        · exact absurd hrow (hsame ▸ hgone)
        · by_contra hother
          refine hgone (hrec ▸ mem_insertOnConflict_of_ne hrow ?_)
          exact hother
        · obtain rfl : row.intent = intent := by
            by_contra hother
            refine hgone (hcons ▸ mem_deleteWhere.mpr ⟨hrow, ?_⟩)
            simp [StoredIntent.is, hother]
          obtain ⟨holding, hhold, hserial, hreason⟩ :=
            hbacked.removed hrow (hfol i _ hscr).1
          refine ⟨rfl, holding, hhold, hserial, hreason.imp_right ?_⟩
          rintro ⟨age, hage, _⟩
          have hknown : (phase i).now ≤ input.now := (htied.now i).trans (not_lt.mp hclock)
          refine ⟨age, hage, ?_⟩
          rw [hnow]
          omega
  | stop =>
    obtain ⟨_, -, rfl⟩ := map_eq_some_iff.mp hstep
    exact absurd hrow hgone
  | other event =>
    obtain ⟨_, hhappen, rfl⟩ := map_eq_some_iff.mp hstep
    cases event with
    | request =>
      rw [happen] at hhappen
      obtain ⟨_, -, rfl⟩ := map_eq_some_iff.mp hhappen
      exact absurd hrow hgone
    | erase =>
      obtain ⟨⟩ := hhappen
      by_contra hother
      refine hgone (mem_deleteWhere.mpr ⟨hrow, ?_⟩)
      simpa [Leaves] using hother

/-- A callback that meets nobody removes its intent once the mapping is committed. -/
theorem intents_not_lost_committed : ∃ (s t : State Unit) (row : StoredIntent),
    step .discord s (.call () (plainInput 1 "d" 1)) = some t ∧ row ∈ s.shared.intents ∧
      row ∉ t.shared.intents ∧
      Leaves (fun _ => .complete true) s t row (.call () (plainInput 1 "d" 1)) := by
  let event : Event Unit := .call () (plainInput 1 "d" 1)
  let start : State Unit := init (fun _ => none) [] 0 0 fun _ => .complete true
  let events := List.replicate 8 event
  let s := (run (step .discord) start events).get (by decide +kernel)
  let t := (step .discord s event).get (by decide +kernel)
  let row : StoredIntent := ⟨⟨⟨"d", 1, 1⟩, 1, .absent none⟩, 0⟩
  have hrow : row ∈ s.shared.intents := by decide +kernel
  have hgone : row ∉ t.shared.intents := by decide +kernel
  have hsound : Along (step .discord) (Crew.MeetsWhile
      (fun s work _ c _ => Sound .discord s work c) fun _ _ _ => True) start events := by
    decide +kernel
  refine ⟨s, t, row, (some_get _).symm, hrow, hgone, ?_⟩
  have huniq : UniqueOn (fun row : StoredIntent => row.externalUserId) [] := nodup_nil
  exact intents_not_lost huniq hsound (some_get _).symm (some_get _).symm hrow hgone

/-- User 1 links the account again and stops once the intent is recorded; the next pass takes the
old link for committed and removes the intent. -/
theorem relink_lost : ∃ s t : State Bool, run (step .discord)
      (init (fun key => if key = .link .discord "d" then
          some (.link ⟨1, .locallyUnlinked, 1⟩) else none) [] 0 0
        fun i => if i then .runBatch ⟨5, 1000, 10, false⟩ else .complete true)
      (List.replicate 4 (.call false (plainInput 10 "d" 1)) ++ [.stop false] ++
        List.replicate 3 (.call true (plainInput 20 "d" 1))) = some s ∧
      step .discord s (.call true (plainInput 20 "d" 1)) = some t ∧
      s.shared.intents = [⟨⟨⟨"d", 1, 1⟩, 10, .present 1⟩, 0⟩] ∧ t.shared.intents = [] ∧
      t.shared.link .discord "d" = some ⟨1, .locallyUnlinked, 1⟩ ∧
      s.shared.held true ⟨"d", 1, 1⟩ = some ⟨0, some 10, false, none⟩ := by
  simp only [exists_and_left]
  decide +kernel

end Tie

end LinkSystem

end WispaceBot
