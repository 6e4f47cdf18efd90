import WispaceBot.AccountLink.AccountMoves

/-!
# Generations of ownership

Unlinking, revoking and taking over a link count its generation up, and a deleted link leaves it in
a tombstone, from which the next link goes on.  There are gaps: a displaced link leaves no tombstone
(`generation_reused`), the last tombstone is found by the time at which its transaction began, and a
link in doubt that is found active again keeps its generation.  Where none of these happens, later
owners have larger generations (`generations_increase`).
-/

namespace WispaceBot

open List Transition

namespace OwnershipTx

/-! ## The last tombstone -/

variable {tombs : List Tombstone}

lemma mem_of_foldl_latest {start : Option Tombstone} {last : Tombstone}
    (h : tombs.foldl (fun last tomb => match last with
      | some found => if found.createdAt ≤ tomb.createdAt then some tomb else last
      | none => some tomb) start = some last) :
    last ∈ tombs ∨ start = some last := by
  induction tombs generalizing start with
  | nil => exact .inr h
  | cons _ _ ih =>
    rcases ih h with hmem | hstart
    · exact .inl (mem_cons_of_mem _ hmem)
    · cases start with
      | none =>
        obtain ⟨⟩ := hstart
        exact .inl (mem_cons_self ..)
      | some =>
        simp only at hstart
        split at hstart
        · obtain ⟨⟩ := hstart
          exact .inl (mem_cons_self ..)
        · exact .inr hstart

variable {now generation : ℤ}

section

variable (h : ∀ tombstone ∈ tombs, tombstone.createdAt ≤ now)
include h

lemma latest_append : latest (tombs ++ [⟨now, generation⟩]) = some generation := by
  rw [latest, foldl_append, foldl_cons, foldl_nil]
  split
  next found hfound =>
    rcases mem_of_foldl_latest hfound with hmem | hnone
    · simp [h found hmem]
    · cases hnone
  · rfl

lemma latest_append_replicate (copies : ℕ) :
    latest (tombs ++ List.replicate (copies + 1) ⟨now, generation⟩) = some generation := by
  have hsplit : tombs ++ List.replicate (copies + 1) (⟨now, generation⟩ : Tombstone) =
      (tombs ++ List.replicate copies ⟨now, generation⟩) ++ [⟨now, generation⟩] := by
    rw [replicate_succ', append_assoc]
  rw [hsplit]
  refine latest_append fun tomb hmem => ?_
  rcases mem_append.mp hmem with hold | hcopy
  · exact h tomb hold
  · rw [eq_of_mem_replicate hcopy]

end

/-! ## What a period leaves behind -/

/-- The generation is used up: the link is in a later one, or the next link will be. -/
def Account.Past (generation : ℤ) (a : Account) : Prop :=
  match a.link with
  | some link => generation < link.mappingGeneration
  | none => ∃ last, latest a.tombstones = some last ∧ generation ≤ last

section Conditions

variable (platform : LinkPlatform) (externalUserId : String)
  (rows : OwnershipKey → Option OwnershipRow) (event : LinkEvent)

/-- The request does not link another account to the user who owns this one. -/
def Spares : Prop :=
  match event.request with
  | .upsertLink platform' userId externalUserId' _ =>
    platform' = platform ∧ externalUserId' ≠ externalUserId →
      (accountIn rows platform externalUserId).link.all
        (fun link => decide (link.userId ≠ userId)) = true
  | _ => True

/-- The request does not leave a tombstone that is older than the last one. -/
def Timely : Prop :=
  match event.request with
  | .unlink now platform' externalUserId' _ =>
    platform' = platform ∧ externalUserId' = externalUserId →
      (accountIn rows platform externalUserId).tombstones.all
        (fun tombstone => decide (tombstone.createdAt ≤ now)) = true
  | .delete now _ _ _ => (accountIn rows platform externalUserId).tombstones.all
      (fun tombstone => decide (tombstone.createdAt ≤ now)) = true
  | _ => True

/-- The request does not put an active link into doubt. -/
def Trusts : Prop :=
  match event.request with
  | .applyObservation platform' externalUserId' .unknown _ =>
    platform' = platform ∧ externalUserId' = externalUserId →
      (accountIn rows platform externalUserId).link.all
        (fun link => decide (link.linkState ≠ .active)) = true
  | _ => True

/-- The three conditions under which no generation of the account is used again. -/
def Orderly : Prop :=
  Spares platform externalUserId rows event ∧ Timely platform externalUserId rows event ∧
    Trusts platform externalUserId rows event

instance : Decidable (Spares platform externalUserId rows event) := by
  unfold Spares
  split <;> infer_instance

instance : Decidable (Timely platform externalUserId rows event) := by
  unfold Timely
  split <;> infer_instance

instance : Decidable (Trusts platform externalUserId rows event) := by
  unfold Trusts
  split <;> infer_instance

instance : Decidable (Orderly platform externalUserId rows event) :=
  inferInstanceAs (Decidable (_ ∧ _ ∧ _))

end Conditions

section Steps

variable {p : LinkPlatform} {user : String} {a b : Account}
  {rows rows' : OwnershipKey → Option OwnershipRow} {event : LinkEvent} {generation : ℤ}

/-- The generation is not larger than the one of the link or of the last tombstone. -/
def Account.Reached (generation : ℤ) (a : Account) : Prop :=
  match a.link with
  | some link => generation ≤ link.mappingGeneration
  | none => ∃ last, latest a.tombstones = some last ∧ generation ≤ last

lemma Account.Past.reached (h : a.Past generation) : a.Reached generation := by
  unfold Past at h
  unfold Reached
  split
  next _ hlink =>
    rw [hlink] at h
    exact h.le
  next hnone =>
    rw [hnone] at h
    exact h

lemma Account.Upserted.past {uid : ℤ} {obs : LinkMappingObservation}
    (h : Account.Upserted uid obs a b) (hreach : a.Reached generation) : b.Past generation := by
  obtain ⟨-, -, -, hlink⟩ := h
  rw [Reached] at hreach
  cases hpre : a.link with
  | none =>
    rw [hpre] at hlink hreach
    obtain ⟨_, hlast, hle⟩ := hreach
    rw [Past, hlink.2, nextGeneration, hlast]
    exact Int.lt_add_one_of_le hle
  | some =>
    rw [hpre] at hlink hreach
    rw [Past, hlink]
    exact Int.lt_add_one_of_le hreach

variable {now : ℤ}

lemma Account.Unlinked.past (h : Account.Unlinked now a b) (hreach : a.Reached generation)
    (horder : ∀ tomb ∈ a.tombstones, tomb.createdAt ≤ now) : b.Past generation := by
  rw [Unlinked] at h
  rw [Reached] at hreach
  cases hpre : a.link with
  | none =>
    rw [hpre] at h hreach
    obtain ⟨last, hlast, hle⟩ := hreach
    obtain ⟨hlink, htombs⟩ := h
    rw [Past, hlink, htombs]
    exact ⟨last, by rw [latest_append horder, hlast]; rfl, hle⟩
  | some =>
    rw [hpre] at h hreach
    obtain ⟨-, hlink, -⟩ := h
    rw [Past, hlink]
    exact Int.lt_add_one_of_le hreach

lemma Account.Deleted.past (h : Account.Deleted now a b) (hreach : a.Reached generation)
    (horder : ∀ tomb ∈ a.tombstones, tomb.createdAt ≤ now) : b.Past generation := by
  obtain ⟨link, copies, hpre, hlink, htombs⟩ := h
  rw [Reached, hpre] at hreach
  rw [Past, hlink, htombs]
  exact ⟨link.mappingGeneration, latest_append_replicate horder copies, hreach⟩

lemma Timely.le (h : Timely p user rows event) {expected : Option PrivacyExpectedMapping}
    (hreq : event.request = .unlink now p user expected ∨
      ∃ p' user', event.request = .delete now p' user' expected) :
    ∀ tomb ∈ (accountIn rows p user).tombstones, tomb.createdAt ≤ now := by
  intro tomb hmem
  rcases hreq with hunlink | ⟨_, _, hdel⟩
  · rw [Timely, hunlink] at h
    exact of_decide_eq_true (all_eq_true.mp (h ⟨rfl, rfl⟩) tomb hmem)
  · rw [Timely, hdel] at h
    exact of_decide_eq_true (all_eq_true.mp h tomb hmem)

lemma Account.Moves.cases_of_reached
    (h : Account.Moves p user event.request
      (accountIn rows p user) b) (hspare : Spares p user rows event)
    (htimely : Timely p user rows event) (hreach : (accountIn rows p user).Reached generation) :
    b = accountIn rows p user ∨ b.Past generation ∨
      ∃ link state, (accountIn rows p user).link = some link ∧
        b.link = some { link with linkState := state } ∧
        (Trusts p user rows event → state = .active ∨ link.linkState ≠ .active) := by
  rcases h with hsame | hmove
  · exact .inl hsame
  refine .inr ?_
  cases hreq : event.request with
  | upsertLink =>
    rw [hreq] at hmove
    obtain ⟨rfl, hmove⟩ := hmove
    split at hmove
    · exact .inl (hmove.past hreach)
    next hother =>
      obtain ⟨-, -, link, hlink, huser⟩ := hmove
      rw [Spares, hreq] at hspare
      have hall := hspare ⟨rfl, hother⟩
      rw [hlink] at hall
      exact absurd huser (of_decide_eq_true hall)
  | unlink =>
    rw [hreq] at hmove
    obtain ⟨⟩ := hmove.1
    exact .inl (hmove.2.past hreach (htimely.le (.inl hreq)))
  | delete =>
    rw [hreq] at hmove
    exact .inl (hmove.2.past hreach (htimely.le (.inr ⟨_, _, hreq⟩)))
  | applyObservation =>
    rw [hreq] at hmove
    obtain ⟨hsame, -, link, hlink, hobs⟩ := hmove
    obtain ⟨⟩ := hsame
    rcases hobs with hrev | ⟨-, hact | ⟨rfl, hunknown⟩⟩
    · rw [Reached, hlink] at hreach
      left
      rw [Past, hrev]
      exact Int.lt_add_one_of_le hreach
    · exact .inr ⟨link, .active, hlink, hact, fun _ => .inl rfl⟩
    · refine .inr ⟨link, .temporarilyUnknown, hlink, hunknown, fun htrusts => .inr ?_⟩
      rw [Trusts, hreq] at htrusts
      have hall := htrusts ⟨rfl, rfl⟩
      rw [hlink] at hall
      exact of_decide_eq_true hall

lemma Account.Past.step (h : (accountIn rows p user).Past generation)
    (horderly : Orderly p user rows event) (hstep : event.step rows = some rows') :
    (accountIn rows' p user).Past generation := by
  rcases (moves_step hstep p user).cases_of_reached horderly.1 horderly.2.1
    h.reached with hsame | hpast | ⟨_, _, hpre, hafter, -⟩
  · rw [hsame]
    exact h
  · exact hpast
  · rw [Past, hpre] at h
    rw [Past, hafter]
    exact h

lemma period_step {uid : ℤ} (h : (accountIn rows p user).link = some ⟨uid, .active, generation⟩)
    (horderly : Orderly p user rows event) (hstep : event.step rows = some rows') :
    (accountIn rows' p user).link = some ⟨uid, .active, generation⟩ ∨
      (accountIn rows' p user).Past generation := by
  have hreach : (accountIn rows p user).Reached generation := by
    rw [Account.Reached, h]
  rcases (moves_step hstep p user).cases_of_reached horderly.1 horderly.2.1
    hreach with hsame | hpast | ⟨_, _, hpre, hafter, hstate⟩
  · rw [hsame]
    exact .inl h
  · exact .inr hpast
  · rw [h] at hpre
    obtain ⟨⟩ := hpre
    rcases hstate horderly.2.2 with rfl | hinactive
    · exact .inl hafter
    · exact absurd rfl hinactive

end Steps

open LinkEvent

/-- If an account has an owner at two times, the generation is larger at the later one, or the
account has had this owner in this generation all the time in between. -/
theorem generations_increase {platform : LinkPlatform} {user : String}
    {rows later : OwnershipKey → Option OwnershipRow} {events : List LinkEvent}
    {first second first' second' : ℤ} (horderly : Along step (Orderly platform user) rows events)
    (hrun : run step rows events = some later)
    (hfirst : (accountIn rows platform user).link = some ⟨first, .active, first'⟩)
    (hsecond : (accountIn later platform user).link = some ⟨second, .active, second'⟩) :
    first' < second' ∨ first = second ∧ first' = second' ∧
      ∀ before mid, before <+: events → run step rows before = some mid →
        (accountIn mid platform user).link = some ⟨first, .active, first'⟩ := by
  -- by induction on the run: it stays in the period, or leaves it for good
  induction events generalizing rows with
  | nil =>
    obtain ⟨⟩ := hrun
    rw [hfirst] at hsecond
    obtain ⟨rfl, -, rfl⟩ := AccountLink.mk.inj (Option.some.inj hsecond)
    refine .inr ⟨rfl, rfl, fun before mid hpre hmid => ?_⟩
    obtain rfl := prefix_nil.mp hpre
    obtain ⟨⟩ := hmid
    exact hfirst
  | cons _ _ ih =>
    obtain ⟨next, hnext, hrest⟩ := run_cons_eq_some.mp hrun
    have hthen := horderly.2 next hnext
    rcases period_step hfirst horderly.1 hnext with hsame | hpast
    · rcases ih hthen hrest hsame with hless | ⟨hsameUser, hsameGeneration, hprefixes⟩
      · exact .inl hless
      refine .inr ⟨hsameUser, hsameGeneration, fun before mid hpre hmid => ?_⟩
      cases before with
      | nil =>
        obtain ⟨⟩ := hmid
        exact hfirst
      | cons _ before =>
        obtain ⟨rfl, htail⟩ := cons_prefix_cons.mp hpre
        obtain ⟨_, hnext', hmid⟩ := run_cons_eq_some.mp hmid
        obtain ⟨⟩ := (hnext.symm.trans hnext')
        exact hprefixes before mid htail hmid
    · have hlater : (accountIn later platform user).Past first' :=
        run_induction (I := fun rows => (accountIn rows platform user).Past first')
          (fun _ _ _ hpast horderly hstep => hpast.step horderly hstep) hpast hthen hrest
      rw [Account.Past, hsecond] at hlater
      exact .inl hlater

/-- After a deletion the next owner gets the next generation. -/
theorem generations_increase_deleted :
    ∃ rows later events, (accountIn rows .discord "d").link = some ⟨1, .active, 1⟩ ∧
      (accountIn later .discord "d").link = some ⟨2, .active, 2⟩ ∧
      run step rows events = some later ∧ (1 : ℤ) < 2 := by
  let linked : OwnershipKey → Option OwnershipRow :=
    fun key => if key = .link .discord "d" then some (.link ⟨1, .active, 1⟩) else none
  let events : List LinkEvent :=
    [⟨.delete 5 .discord "d" none, ⟨[], []⟩⟩,
      ⟨.upsertLink .discord 2 "d" (.absent (some 1)), ⟨[], []⟩⟩]
  have horderly : Along step (Orderly .discord "d") linked events := by
    decide +kernel
  have hlinks : (run step linked events).map
      (fun rows => (accountIn rows .discord "d").link) = some (some ⟨2, .active, 2⟩) := by
    decide +kernel
  obtain ⟨later, hrun, hlater⟩ := Option.map_eq_some_iff.mp hlinks
  refine ⟨linked, later, events, rfl, hlater, hrun, ?_⟩
  rcases generations_increase horderly hrun rfl hlater with hless | ⟨huser, -, -⟩
  · exact hless
  · exact absurd huser (by decide)

/-- User 1 moves from account `A` to `B`; nothing is left of the link of `A`, and its next owner
gets generation 1 again. -/
theorem generation_reused :
    ∃ before after rows later, run step (fun _ => none) before = some rows ∧
      run step rows after = some later ∧
      (accountIn rows .discord "A").link = some ⟨1, .active, 1⟩ ∧
      (accountIn later .discord "A").link = some ⟨2, .active, 1⟩ := by
  refine ⟨[⟨.upsertLink .discord 1 "A" (.absent none), ⟨[], []⟩⟩],
    [⟨.upsertLink .discord 1 "B" (.absent none), ⟨[], ["A"]⟩⟩,
      ⟨.upsertLink .discord 2 "A" (.absent none), ⟨[], []⟩⟩], _, _, rfl, rfl, ?_⟩
  decide +kernel

end OwnershipTx

end WispaceBot
