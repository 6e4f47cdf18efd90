import WispaceBot.AccountLink.LinkSystem
import WispaceBot.AccountLink.OwnershipPeriods

/-!
# Privacy requests and links in flight

A callback writes a mapping only if it is still as observed.  Unlinking or deleting in between makes
that fail as long as the request has a link to work on: no link of the account is ever again in the
generation that was observed (`Account.Fenced`).  A request for an account that is unlinked already
leaves everything as it was (`unlinked_twice`).
-/

namespace WispaceBot

open Option Transition RowLocking Program

namespace OwnershipTx

/-! ## Fences -/

def Account.Fenced (generation : ℤ) (a : Account) : Prop :=
  generation ≤ (latest a.tombstones).getD 0 ∧
    ∀ link, a.link = some link → generation < link.mappingGeneration

lemma nextGeneration_eq (tombs : List Tombstone) :
    nextGeneration tombs = (latest tombs).getD 0 + 1 := by
  unfold nextGeneration
  cases latest tombs <;> rfl

def LinkMappingObservation.floor : LinkMappingObservation → ℤ
  | .present generation => generation
  | .absent generation => generation.getD 0 + 1

/-- What was observed is still so, or has been left behind. -/
def Account.Seen (observation : LinkMappingObservation) (a : Account) : Prop :=
  match observation with
  | .present generation => a.Reached generation
  | .absent generation => a.Fenced (generation.getD 0)

section Moves

variable {a b : Account} {gen : ℤ} {obs : LinkMappingObservation} {uid : ℤ}

lemma Account.Upserted.fenced (h : Account.Upserted uid obs a b)
    (hfenced : a.Fenced gen) : b.Fenced gen := by
  obtain ⟨htombs, -, -, hlink⟩ := h
  refine ⟨by rw [htombs]; exact hfenced.1, fun link hnew => ?_⟩
  cases hpre : a.link with
  | none =>
    rw [hpre] at hlink
    rw [hlink.2] at hnew
    obtain ⟨⟩ := hnew
    rw [nextGeneration_eq]
    exact Int.lt_add_one_of_le hfenced.1
  | some old =>
    rw [hpre] at hlink
    rw [hlink] at hnew
    obtain ⟨⟩ := hnew
    exact (hfenced.2 old hpre).trans (Int.lt_succ _)

lemma Account.Displaced.fenced (h : Account.Displaced uid a b) (hfenced : a.Fenced gen) :
    b.Fenced gen := by
  obtain ⟨htombs, hnone, -⟩ := h
  refine ⟨by rw [htombs]; exact hfenced.1, fun link hlink => ?_⟩
  rw [hnone] at hlink
  cases hlink

lemma Account.Unlinked.fenced {now : ℤ} (h : Account.Unlinked now a b) (hfenced : a.Fenced gen)
    (horder : ∀ tomb ∈ a.tombstones, tomb.createdAt ≤ now) : b.Fenced gen := by
  rw [Unlinked] at h
  cases hpre : a.link with
  | none =>
    rw [hpre] at h
    obtain ⟨hnone, htombs⟩ := h
    refine ⟨?_, fun link hlink => by rw [hnone] at hlink; cases hlink⟩
    rw [htombs, latest_append horder]
    have hlatest := hfenced.1
    cases hlast : latest a.tombstones with
    | none =>
      rw [hlast] at hlatest
      exact hlatest.trans zero_le_one
    | some =>
      rw [hlast] at hlatest
      exact hlatest
  | some link =>
    rw [hpre] at h
    obtain ⟨-, hlink, htombs⟩ := h
    have hless := (hfenced.2 link hpre).trans (Int.lt_succ link.mappingGeneration)
    refine ⟨?_, fun link' hlink' => ?_⟩
    · rw [htombs, latest_append horder]
      exact hless.le
    · rw [hlink] at hlink'
      obtain ⟨⟩ := hlink'
      exact hless

lemma Account.Deleted.fenced {now : ℤ} (h : Account.Deleted now a b) (hfenced : a.Fenced gen)
    (horder : ∀ tomb ∈ a.tombstones, tomb.createdAt ≤ now) : b.Fenced gen := by
  obtain ⟨link, _, hlink, hnone, htombs⟩ := h
  refine ⟨?_, fun link' hlink' => by rw [hnone] at hlink'; cases hlink'⟩
  rw [htombs, latest_append_replicate horder]
  exact (hfenced.2 link hlink).le

lemma Account.Observed.fenced {obs : PlatformLinkObservation}
    (h : Account.Observed obs a b) (hfenced : a.Fenced gen) : b.Fenced gen := by
  obtain ⟨htombs, link, hpre, hafter⟩ := h
  have hless := hfenced.2 link hpre
  refine ⟨by rw [htombs]; exact hfenced.1, fun link' hlink' => ?_⟩
  rcases hafter with hrev | ⟨-, hact | ⟨-, hunknown⟩⟩
  · rw [hrev] at hlink'
    obtain ⟨⟩ := hlink'
    exact hless.trans (Int.lt_succ _)
  · rw [hact] at hlink'
    obtain ⟨⟩ := hlink'
    exact hless
  · rw [hunknown] at hlink'
    obtain ⟨⟩ := hlink'
    exact hless

lemma Account.Fenced.not_upserted (hfenced : a.Fenced obs.floor) :
    ¬ Account.Upserted uid obs a b := by
  rintro ⟨-, -, hconf, hlink⟩
  cases hpre : a.link with
  | none =>
    rw [hpre] at hconf hlink
    obtain ⟨hstale, -⟩ := hlink
    have hlatest := hfenced.1
    rw [nextGeneration_eq] at hstale
    match obs with
    | .present gen => cases hconf
    | .absent none =>
      have hle := of_decide_eq_false hstale
      simp only [LinkMappingObservation.floor, getD_none] at hlatest
      omega
    | .absent (some gen) =>
      have hsame := not_not.mp (of_decide_eq_false hstale)
      simp only [LinkMappingObservation.floor, getD_some] at hlatest
      omega
  | some link =>
    rw [hpre] at hconf
    match obs with
    | .present gen =>
      have hsame := not_not.mp (of_decide_eq_false hconf)
      have hless := hfenced.2 link hpre
      rw [LinkMappingObservation.floor, hsame] at hless
      exact lt_irrefl _ hless
    | .absent _ => cases hconf

end Moves

/-! ## Requests -/

section Requests

variable {platform : LinkPlatform} {user : String}
  {rows rows' : OwnershipKey → Option OwnershipRow} {event : LinkEvent} {gen : ℤ}
  {observation : LinkMappingObservation}

lemma Account.Fenced.step (h : (accountIn rows platform user).Fenced gen)
    (htimely : Timely platform user rows event) (hstep : event.step rows = some rows') :
    (accountIn rows' platform user).Fenced gen := by
  rcases moves_step hstep platform user with hsame | hmove
  · rw [hsame]
    exact h
  cases hreq : event.request with
  | upsertLink =>
    rw [hreq] at hmove
    obtain ⟨-, hmove⟩ := hmove
    split at hmove
    · exact hmove.fenced h
    · exact hmove.fenced h
  | unlink =>
    rw [hreq] at hmove
    obtain ⟨⟩ := hmove.1
    exact hmove.2.fenced h (htimely.le (.inl hreq))
  | delete =>
    rw [hreq] at hmove
    exact hmove.2.fenced h (htimely.le (.inr ⟨_, _, hreq⟩))
  | applyObservation =>
    rw [hreq] at hmove
    exact hmove.2.fenced h

/-- Tombstones are written in the order of their times, and a link that was seen is not displaced.
-/
def Calm (platform : LinkPlatform) (externalUserId : String)
    (observation : LinkMappingObservation) (rows : OwnershipKey → Option OwnershipRow)
    (event : LinkEvent) : Prop :=
  Timely platform externalUserId rows event ∧
    match observation with
    | .present _ => Spares platform externalUserId rows event
    | .absent _ => True

lemma Account.Seen.step (h : (accountIn rows platform user).Seen observation)
    (hcalm : Calm platform user observation rows event) (hstep : event.step rows = some rows') :
    (accountIn rows' platform user).Seen observation := by
  cases observation with
  | absent =>
    exact Account.Fenced.step h hcalm.1 hstep
  | present gen =>
    have hreach : (accountIn rows platform user).Reached gen := h
    rcases (moves_step hstep platform user).cases_of_reached hcalm.2 hcalm.1
      hreach with hsame | hpast | ⟨_, _, hpre, hafter, -⟩
    · rw [hsame]
      exact h
    · exact hpast.reached
    · rw [Account.Reached, hpre] at hreach
      change Account.Reached gen _
      rw [Account.Reached, hafter]
      exact hreach

/-- The request unlinks the account, or deletes its link, and finds something to do. -/
def Closes (platform : LinkPlatform) (externalUserId : String)
    (rows : OwnershipKey → Option OwnershipRow) (event : LinkEvent) : Prop :=
  match event.request with
  | .unlink _ platform' externalUserId' expected =>
    (platform', externalUserId') = (platform, externalUserId) ∧
      matchesExpected (accountIn rows platform externalUserId).link expected = true ∧
      (accountIn rows platform externalUserId).link.any isTerminal = false ∧
      ((accountIn rows platform externalUserId).link = none →
        (accountIn rows platform externalUserId).tombstones = [])
  | .delete _ platform' externalUserId' expected =>
    (platform', externalUserId') = (platform, externalUserId) ∧
      matchesExpected (accountIn rows platform externalUserId).link expected = true ∧
      (accountIn rows platform externalUserId).link ≠ none
  | _ => False

instance : Decidable (Calm platform externalUserId observation rows event) := by
  unfold Calm
  split <;> infer_instance

instance : Decidable (Closes platform externalUserId rows event) :=
  match event with
  | ⟨.unlink .., _⟩ => inferInstanceAs (Decidable (_ ∧ _ ∧ _ ∧ (_ → _)))
  | ⟨.delete .., _⟩ => inferInstanceAs (Decidable (_ ∧ _ ∧ _))
  | ⟨.upsertLink .., _⟩ | ⟨.applyObservation .., _⟩ => isFalse id

lemma total_writeJobs (stmt : StudyReminderJob → Option (Option StudyReminderJob)) :
    (writeJobs stmt).Total := by
  intro _
  exact Total.forM fun id _ => fun row => trivial

lemma total_unlink (now : ℤ) (platform : LinkPlatform) (user : String)
    (expected : Option PrivacyExpectedMapping) : (unlink now platform user expected).Total := by
  refine Total.bind (fun _ => trivial) fun _ => ?_
  refine Total.bind (fun _ => trivial) fun _ => ?_
  refine Total.bind (fun _ => trivial) fun mapping => ?_
  split
  · trivial
  cases mapping with
  | none =>
    refine Total.bind (fun _ => trivial) fun _ => ?_
    exact Total.bind (fun _ => trivial) fun _ => total_writeJobs _
  | some =>
    simp only
    split
    · trivial
    refine Total.bind (fun _ => trivial) fun _ => ?_
    exact Total.bind (total_writeJobs _) fun _ _ => trivial

lemma total_removeLinks (platform : LinkPlatform) (uid : ℤ) (ids : List String) :
    (removeLinks platform uid ids).Total := by
  induction ids with
  | nil => trivial
  | cons _ _ ih =>
    refine Total.bind (fun _ => trivial) fun _ => ?_
    exact Total.bind ih fun _ => trivial

lemma total_deleteElsewhere (now : ℤ) (platform : LinkPlatform) (uid : ℤ) :
    (deleteElsewhere now platform uid).Total := by
  intro ans
  refine Total.bind (Total.forM fun id _ => ?_) fun _ ans => ?_
  · refine Total.bind (fun _ => trivial) fun mapping => ?_
    cases mapping with
    | none => trivial
    | some =>
      simp only
      split
      · refine Total.bind (fun _ => trivial) fun _ => ?_
        exact Total.bind (fun _ => trivial) fun _ => total_writeJobs _
      · trivial
  · exact Total.bind (total_removeLinks platform uid _) fun _ => trivial

lemma total_delete (now : ℤ) (platform : LinkPlatform) (user : String)
    (expected : Option PrivacyExpectedMapping) :
    (OwnershipTx.delete now platform user expected).Total := by
  refine Total.bind (fun _ => trivial) fun _ => ?_
  refine Total.bind (fun _ => trivial) fun _ => ?_
  refine Total.bind (fun _ => trivial) fun mapping => ?_
  split
  · trivial
  cases mapping with
  | none => exact total_writeJobs _
  | some link =>
    refine Total.bind (fun _ => trivial) fun _ => ?_
    refine Total.bind (total_writeJobs _) fun _ => ?_
    refine Total.bind (fun _ => trivial) fun _ => ?_
    split
    · exact Total.bind (total_deleteElsewhere now platform.other link.userId) fun _ =>
        total_writeJobs _
    · exact total_writeJobs _

lemma alone_of_step (htotal : event.request.program.Total) (hstep : event.step rows = some rows') :
    event.request.program.alone event.rows rows = some ((), rows') := by
  obtain ⟨⟨⟨⟩, left⟩, halone⟩ : ∃ r, event.request.program.alone event.rows rows = some r :=
    htotal.alone
  rw [LinkEvent.step, halone] at hstep
  obtain rfl : left = rows' := Option.some.inj hstep
  exact halone

lemma Account.Seen.floor_le {a : Account} (h : a.Seen observation) {link : AccountLink}
    (hlink : a.link = some link) : observation.floor ≤ link.mappingGeneration := by
  match observation with
  | .present gen =>
    have hreach : a.Reached gen := h
    rw [Account.Reached, hlink] at hreach
    exact hreach
  | .absent gen => exact Int.add_one_le_of_lt (h.2 link hlink)

lemma Account.Seen.closed {a b : Account} (h : a.Seen observation) {now : ℤ}
    (hunl : Account.Unlinked now a b) (horder : ∀ tomb ∈ a.tombstones, tomb.createdAt ≤ now)
    (hfirst : a.link = none → a.tombstones = []) : b.Fenced observation.floor := by
  rw [Account.Unlinked] at hunl
  cases hpre : a.link with
  | some =>
    rw [hpre] at hunl
    obtain ⟨-, hlink, htombs⟩ := hunl
    have hless := Int.lt_add_one_of_le (h.floor_le hpre)
    refine ⟨?_, fun link' hlink' => ?_⟩
    · rw [htombs, latest_append horder]
      exact hless.le
    · rw [hlink] at hlink'
      obtain ⟨⟩ := hlink'
      exact hless
  | none =>
    rw [hpre, hfirst hpre] at hunl
    obtain ⟨hnone, htombs⟩ := hunl
    refine ⟨?_, fun link hlink => by rw [hnone] at hlink; cases hlink⟩
    rw [htombs]
    cases observation with
    | present gen =>
      -- the link that was observed cannot have gone without a tombstone
      have hreach : a.Reached gen := h
      rw [Account.Reached, hpre, hfirst hpre] at hreach
      obtain ⟨_, hlast, -⟩ := hreach
      cases hlast
    | absent =>
      have hle := h.1
      rw [hfirst hpre] at hle
      exact add_le_add_left hle 1

lemma Account.Seen.fenced (h : (accountIn rows platform user).Seen observation)
    (hcloses : Closes platform user rows event) (htimely : Timely platform user rows event)
    (hstep : event.step rows = some rows') :
    (accountIn rows' platform user).Fenced observation.floor := by
  rw [Closes] at hcloses
  cases hreq : event.request with
  | upsertLink | applyObservation =>
    rw [hreq] at hcloses
    cases hcloses
  | unlink now p' user' expected =>
    rw [hreq] at hcloses
    obtain ⟨hsame, hexp, hopen, hfirst⟩ := hcloses
    obtain ⟨rfl, rfl⟩ := Prod.mk.inj hsame
    have halone := alone_of_step (hreq ▸ total_unlink now p' user' expected) hstep
    rw [hreq] at halone
    rcases unlink_cases halone with ⟨hnot, -⟩ | hunl
    · rcases hnot with hnot | hnot
      · rw [hexp] at hnot
        cases hnot
      · rw [hopen] at hnot
        cases hnot
    · have hacct := hunl p' user'
      beta_reduce at hacct
      rw [if_pos rfl] at hacct
      exact h.closed hacct (htimely.le (.inl hreq)) hfirst
  | delete now p' user' expected =>
    rw [hreq] at hcloses
    obtain ⟨hsame, hexp, hlink⟩ := hcloses
    obtain ⟨rfl, rfl⟩ := Prod.mk.inj hsame
    have halone := alone_of_step (hreq ▸ total_delete now p' user' expected) hstep
    rw [hreq] at halone
    rcases delete_cases halone with ⟨hnot, -⟩ | hdel
    · rcases hnot with hnot | hnot
      · rw [hexp] at hnot
        cases hnot
      · exact absurd hnot hlink
    · have hacct := hdel p' user'
      beta_reduce at hacct
      rw [if_pos rfl] at hacct
      obtain ⟨link, _, hpre, hnone, htombs⟩ := hacct
      refine ⟨?_, fun link hlink => by rw [hnone] at hlink; cases hlink⟩
      rw [htombs, latest_append_replicate (htimely.le (.inr ⟨_, _, hreq⟩))]
      exact h.floor_le hpre

end Requests

end OwnershipTx

namespace LinkSystem

open Script OwnershipTx

variable {ι : Type} [DecidableEq ι]

/-! ## Links in flight -/

/-- A link is there, or there is none and this is the generation of the last tombstone. -/
def observed (platform : LinkPlatform) (s : State ι) :
    Event ι → Option (String × LinkMappingObservation)
  | .call i input =>
    match s.scripts i with
    | some (.call (.findLink externalUserId) _) =>
      match serve platform i (.findLink externalUserId) input s.shared with
      | some (.ok (some generation), _) => some (externalUserId, .present generation)
      | _ => none
    | some (.call (.findTombstone externalUserId) _) =>
      match serve platform i (.findTombstone externalUserId) input s.shared with
      | some (.ok generation, _) => some (externalUserId, .absent generation)
      | _ => none
    | _ => none
  | _ => none

/-- A condition on the transactions on links that are carried out. -/
def On (C : (OwnershipKey → Option OwnershipRow) → LinkEvent → Prop) (platform : LinkPlatform)
    (s : State ι) (event : Event ι) : Prop :=
  match linkEvent platform s event with
  | some link => C s.shared.rows link
  | none => True

instance {C : (OwnershipKey → Option OwnershipRow) → LinkEvent → Prop}
    [∀ rows link, Decidable (C rows link)] (platform : LinkPlatform) (s : State ι)
    (event : Event ι) : Decidable (On C platform s event) := by
  unfold On
  split <;> infer_instance

section Flight

variable {p : LinkPlatform} {s t : State ι} {event : Event ι} {user : String}
  {obs : LinkMappingObservation}

omit [DecidableEq ι] in
lemma carryOut_of_answer {u : Store ι} {input : Input} {c : LinkCall} {a : c.Answer}
    (h : (u.answer p input c).1 = .ok a) : (u.carryOut p input c).1 = .ok a := by
  rcases answer_cases u p input c with hdone | ⟨-, _, hfail | hfail⟩
  · rw [hdone] at h
    exact h
  · rw [hfail] at h
    cases h
  · rw [hfail] at h
    cases h

lemma value_of_serve {i : ι} {c : LinkCall} {input : Input} {u v : Store ι}
    {ans : Except LinkError c.Answer} (h : serve p i c input u = some (ans, v)) :
    ({ u with clock := input.now }.answer p input c).1 = ans := by
  simp only [serve] at h
  split at h
  · cases h
  · exact (Prod.mk.inj (Option.some.inj h)).1

lemma links_induction {C : (OwnershipKey → Option OwnershipRow) → LinkEvent → Prop}
    {P : (OwnershipKey → Option OwnershipRow) → Prop}
    (hC : ∀ rows link rows', P rows → C rows link → link.step rows = some rows' → P rows')
    {events : List (Event ι)} (hs : P s.shared.rows) (halong : Along (step p) (On C p) s events)
    (hrun : run (step p) s events = some t) : P t.shared.rows := by
  refine run_induction (I := fun s => P s.shared.rows) ?_ hs halong hrun
  intro _ _ _ hP hon hstep
  rcases rows_step hstep with ⟨-, hsame⟩ | ⟨link, hlink, hrows⟩
  · rw [hsame]
    exact hP
  · rw [On, hlink] at hon
    exact hC _ link _ hP hon hrows

lemma seen_of_observed (hobs : observed p s event = some (user, obs))
    (habsent : ∀ gen, obs = .absent gen → s.shared.link p user = none)
    (hstep : step p s event = some t) : (accountIn t.shared.rows p user).Seen obs := by
  cases event with
  | stop => cases hobs
  | other => cases hobs
  | call =>
    simp only [observed] at hobs
    split at hobs
    next found next hscr =>
      split at hobs
      next gen u hserve =>
        obtain ⟨rfl, rfl⟩ := Prod.mk.inj (Option.some.inj hobs)
        have hrows := rows_eq_of_linkEvent (by simp only [linkEvent, hscr]) hstep
        have hcarryOut := carryOut_of_answer (value_of_serve hserve)
        obtain ⟨link, hlink, rfl⟩ := map_eq_some_iff.mp (Except.ok.inj hcarryOut)
        have hthere : (accountIn s.shared.rows p found).link = some link := hlink
        rw [hrows]
        change Account.Reached link.mappingGeneration _
        rw [Account.Reached, hthere]
      · cases hobs
    next found next hscr =>
      split at hobs
      next gen _ hserve =>
        obtain ⟨rfl, rfl⟩ := Prod.mk.inj (Option.some.inj hobs)
        have hrows := rows_eq_of_linkEvent (by simp only [linkEvent, hscr]) hstep
        have hcarryOut := carryOut_of_answer (value_of_serve hserve)
        have hlatest : latest (accountIn s.shared.rows p found).tombstones = gen :=
          Except.ok.inj hcarryOut
        rw [hrows]
        refine ⟨by rw [hlatest], fun link hlink => ?_⟩
        rw [show (accountIn s.shared.rows p found).link = none from
          habsent gen rfl] at hlink
        cases hlink
      · cases hobs
    · cases hobs

end Flight

/-- A mapping that was observed is not written after the account was unlinked, or its link deleted.
-/
theorem fence_holds {platform : LinkPlatform} {user : String}
    {observation : LinkMappingObservation} {s₀ s₁ s₂ s₃ s₄ s₅ : State ι} {taking : Event ι}
    {before after : List (Event ι)} {fence : LinkEvent} {j : ι} {input : Input} {userId : ℤ}
    (hobserved : observed platform s₀ taking = some (user, observation))
    (habsent : ∀ generation, observation = .absent generation → s₀.shared.link platform user = none)
    (htaken : step platform s₀ taking = some s₁)
    (hcalm : Along (step platform) (On (Calm platform user observation) platform) s₁ before)
    (hbefore : run (step platform) s₁ before = some s₂)
    (hcloses : Closes platform user s₂.shared.rows fence)
    (hintime : Timely platform user s₂.shared.rows fence)
    (hfence : step platform s₂ (.other (.request fence)) = some s₃)
    (htimely : Along (step platform) (On (Timely platform user) platform) s₃ after)
    (hafter : run (step platform) s₃ after = some s₄)
    (hupsert : s₄.calling j = some (.upsertLink userId user observation))
    (hstep : step platform s₄ (.call j input) = some s₅) :
    s₅.shared.link platform user = s₄.shared.link platform user := by
  have hseen : (accountIn s₂.shared.rows platform user).Seen observation :=
    links_induction (P := fun rows => (accountIn rows platform user).Seen observation)
      (fun _ _ _ hseen hcalm hstep => hseen.step hcalm hstep)
      (seen_of_observed hobserved habsent htaken) hcalm hbefore
  have hput : (accountIn s₃.shared.rows platform user).Fenced observation.floor := by
    rcases rows_step hfence with ⟨hnone, -⟩ | ⟨link, hlink, hrows⟩
    · cases hnone
    · obtain ⟨⟩ := hlink
      exact hseen.fenced hcloses hintime hrows
  have hstays : (accountIn s₄.shared.rows platform user).Fenced observation.floor :=
    links_induction
      (P := fun rows => (accountIn rows platform user).Fenced observation.floor)
      (fun _ _ _ hfenced htimely hstep => hfenced.step htimely hstep) hput htimely hafter
  rcases rows_step hstep with ⟨-, hsame⟩ | ⟨link, hlink, hrows⟩
  · simp [Store.link, hsame]
  · have hreq : link.request = .upsertLink platform userId user observation := by
      obtain ⟨_, hscr⟩ := Crew.scripts_of_calling hupsert
      simp only [linkEvent, hscr] at hlink
      obtain ⟨-, ⟨⟩⟩ := ite_none_right_eq_some.mp hlink
      rfl
    have hmoves := moves_step hrows platform user
    rw [hreq] at hmoves
    rcases hmoves with hsame | ⟨-, hmove⟩
    · exact congrArg Account.link hsame
    · rw [if_pos rfl] at hmove
      exact absurd hmove hstays.not_upserted

/-- An account of user 1 is unlinked while user 2 is linking it. -/
theorem fence_holds_unlinked : ∃ s₄ s₅ : State Unit,
    s₄.calling () = some (.upsertLink 2 "d" (.present 1)) ∧
      step .discord s₄ (.call () (plainInput 4 "d" 2)) = some s₅ ∧
      s₅.shared.link .discord "d" = s₄.shared.link .discord "d" := by
  let linked : OwnershipKey → Option OwnershipRow :=
    fun key => if key = .link .discord "d" then some (.link ⟨1, .active, 1⟩) else none
  let event : Event Unit := .call () (plainInput 1 "d" 2)
  let fence : LinkEvent := ⟨.unlink 3 .discord "d" none, ⟨[], []⟩⟩
  let s₀ := (step .discord (init linked [] 0 0 fun _ => .complete true) event).get
    (by decide +kernel)
  let s₁ := (step .discord s₀ event).get (by decide +kernel)
  let s₂ := (run (step .discord) s₁ [event, event]).get (by decide +kernel)
  let s₃ := (step .discord s₂ (.other (.request fence))).get (by decide +kernel)
  let s₅ := (step .discord s₃ (.call () (plainInput 4 "d" 2))).get (by decide +kernel)
  have hupsert : s₃.calling () = some (.upsertLink 2 "d" (.present 1)) := by decide +kernel
  refine ⟨s₃, s₅, hupsert, (some_get _).symm, ?_⟩
  have hobs : observed .discord s₀ event = some ("d", .present 1) := by decide +kernel
  have hcalm : Along (step .discord) (On (Calm .discord "d" (.present 1)) .discord) s₁
      [event, event] := by decide +kernel
  have hcloses : Closes .discord "d" s₂.shared.rows fence := by decide +kernel
  have hintime : Timely .discord "d" s₂.shared.rows fence := by decide +kernel
  have htimely : Along (step .discord) (On (Timely .discord "d") .discord) s₃ [] := trivial
  exact fence_holds hobs (fun _ h => nomatch h) (some_get _).symm hcalm
    (some_get _).symm hcloses hintime (some_get _).symm htimely rfl hupsert
    (some_get _).symm

/-- The second unlink of an account leaves a tombstone of the generation that the callback has
already seen, so the callback links the account again. -/
theorem unlinked_twice : ∃ (s₀ s₁ s₂ s₃ s₄ : State Unit) (taking : Event Unit),
    observed .discord s₀ taking = some ("d", .absent (some 1)) ∧
      s₀.shared.link .discord "d" = none ∧ step .discord s₀ taking = some s₁ ∧
      run (step .discord) s₁ [.call () (plainInput 1 "d" 2), .call () (plainInput 2 "d" 2)] =
        some s₂ ∧
      step .discord s₂ (.other (.request ⟨.unlink 3 .discord "d" none, ⟨[], []⟩⟩)) = some s₃ ∧
      s₃.calling () = some (.upsertLink 2 "d" (.absent (some 1))) ∧
      step .discord s₃ (.call () (plainInput 4 "d" 2)) = some s₄ ∧
      s₃.shared.link .discord "d" = none ∧ s₄.shared.link .discord "d" = some ⟨2, .active, 2⟩ := by
  let deleted : OwnershipKey → Option OwnershipRow :=
    fun key => if key = .audit .discord "d" then some (.audit [⟨0, 1⟩]) else none
  let event : Event Unit := .call () (plainInput 1 "d" 2)
  let s₀ := (run (step .discord) (init deleted [] 0 0 fun _ => .complete true)
    [event, event]).get (by decide +kernel)
  let s₁ := (step .discord s₀ event).get (by decide +kernel)
  let s₂ := (run (step .discord) s₁ [event, .call () (plainInput 2 "d" 2)]).get (by decide +kernel)
  let s₃ := (step .discord s₂
    (.other (.request ⟨.unlink 3 .discord "d" none, ⟨[], []⟩⟩))).get (by decide +kernel)
  let s₄ := (step .discord s₃ (.call () (plainInput 4 "d" 2))).get (by decide +kernel)
  exact ⟨s₀, s₁, s₂, s₃, s₄, event, by decide +kernel, by decide +kernel,
    (some_get _).symm, (some_get _).symm, (some_get _).symm,
    by decide +kernel, (some_get _).symm, by decide +kernel, by decide +kernel⟩

end LinkSystem

end WispaceBot
