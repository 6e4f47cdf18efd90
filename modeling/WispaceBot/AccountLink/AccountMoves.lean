import WispaceBot.AccountLink.OwnershipTransactions

/-!
# What a transaction does to one account

A transaction on links may touch several accounts.  Seen from one account, its link and its
tombstones, there are few moves (`Account.Moves`), and every transaction that runs alone makes one
of them on every account (`moves_step`).
-/

namespace WispaceBot

open List Option Function RowLocking Program

namespace OwnershipTx

/-- The transactions of the Discord and the Zalo bot.  `delete` of the Messenger bot, which also
removes links of these platforms, is not among them. -/
inductive LinkRequest
  | upsertLink (platform : LinkPlatform) (userId : ℤ) (externalUserId : String)
      (observation : LinkMappingObservation)
  | unlink (now : ℤ) (platform : LinkPlatform) (externalUserId : String)
      (expected : Option PrivacyExpectedMapping)
  | delete (now : ℤ) (platform : LinkPlatform) (externalUserId : String)
      (expected : Option PrivacyExpectedMapping)
  | applyObservation (platform : LinkPlatform) (externalUserId : String)
      (observation : PlatformLinkObservation) (expectedGeneration : Option ℤ)

def LinkRequest.program : LinkRequest → OwnershipTx Unit
  | .upsertLink platform userId externalUserId observation =>
    OwnershipTx.upsertLink platform userId externalUserId observation
  | .unlink now platform externalUserId expected =>
    OwnershipTx.unlink now platform externalUserId expected
  | .delete now platform externalUserId expected =>
    OwnershipTx.delete now platform externalUserId expected
  | .applyObservation platform externalUserId observation expectedGeneration =>
    OwnershipTx.applyObservation platform externalUserId observation expectedGeneration

/-- A transaction, and the rows its statements look at. -/
structure LinkEvent where
  request : LinkRequest
  rows : Rows

def LinkEvent.step (rows : OwnershipKey → Option OwnershipRow) (event : LinkEvent) :
    Option (OwnershipKey → Option OwnershipRow) :=
  some (((event.request.program.alone event.rows rows).map Prod.snd).getD rows)

/-! ## Accounts -/

/-- The link of an account and the tombstones of its earlier ones. -/
structure Account where
  link : Option AccountLink
  tombstones : List Tombstone

def accountIn (rows : OwnershipKey → Option OwnershipRow) (platform : LinkPlatform)
    (externalUserId : String) : Account where
  link := linkOf (rows (.link platform externalUserId))
  tombstones := tombstonesOf (rows (.audit platform externalUserId))

def nextGeneration (tombstones : List Tombstone) : ℤ :=
  match latest tombstones with
  | some generation => generation + 1
  | none => 1

namespace Account

/-- The link is made, or taken over, by a user who has observed it as it is. -/
def Upserted (userId : ℤ) (observation : LinkMappingObservation) (a b : Account) : Prop :=
  b.tombstones = a.tombstones ∧ alreadyCommitted userId a.link = false ∧
    conflicts a.link observation = false ∧
    match a.link with
    | none => staleAbsence (nextGeneration a.tombstones) observation = false ∧
        b.link = some ⟨userId, .active, nextGeneration a.tombstones⟩
    | some link => b.link = some ⟨userId, .active, link.mappingGeneration + 1⟩

def Displaced (userId : ℤ) (a b : Account) : Prop :=
  b.tombstones = a.tombstones ∧ b.link = none ∧ ∃ link, a.link = some link ∧ link.userId = userId

/-- The next generation and a tombstone; where there is no link, the last tombstone again. -/
def Unlinked (now : ℤ) (a b : Account) : Prop :=
  match a.link with
  | none => b.link = none ∧
      b.tombstones = a.tombstones ++ [⟨now, (latest a.tombstones).getD 1⟩]
  | some link => isTerminal link = false ∧
      b.link = some ⟨link.userId, .locallyUnlinked, link.mappingGeneration + 1⟩ ∧
      b.tombstones = a.tombstones ++ [⟨now, link.mappingGeneration + 1⟩]

def Deleted (now : ℤ) (a b : Account) : Prop :=
  ∃ link copies, a.link = some link ∧ b.link = none ∧
    b.tombstones = a.tombstones ++ List.replicate (copies + 1) ⟨now, link.mappingGeneration⟩

/-- The state of the link is set, or the link is revoked. -/
def Observed (observation : PlatformLinkObservation) (a b : Account) : Prop :=
  b.tombstones = a.tombstones ∧ ∃ link, a.link = some link ∧
    (b.link = some ⟨link.userId, .confirmedRevoked, link.mappingGeneration + 1⟩ ∨
      (link.linkState = .active ∨ link.linkState = .temporarilyUnknown) ∧
      (b.link = some { link with linkState := .active } ∨
        observation = .unknown ∧ b.link = some { link with linkState := .temporarilyUnknown }))

/-- What a request may do to the account of a platform and an external user. -/
def Moves (platform : LinkPlatform) (externalUserId : String) (request : LinkRequest)
    (a b : Account) : Prop :=
  b = a ∨ match request with
    | .upsertLink platform' userId externalUserId' observation =>
      platform' = platform ∧ (if externalUserId' = externalUserId then
        Upserted userId observation a b else Displaced userId a b)
    | .unlink now platform' externalUserId' _ =>
      (platform', externalUserId') = (platform, externalUserId) ∧ Unlinked now a b
    | .delete now platform' externalUserId' _ =>
      ((platform', externalUserId') = (platform, externalUserId) ∨ platform'.other = platform) ∧
        Deleted now a b
    | .applyObservation platform' externalUserId' observation _ =>
      (platform', externalUserId') = (platform, externalUserId) ∧ Observed observation a b

end Account

def Change (rows rows' : OwnershipKey → Option OwnershipRow)
    (P : LinkPlatform → String → Account → Account → Prop) : Prop :=
  ∀ platform user, P platform user (accountIn rows platform user) (accountIn rows' platform user)

/-! ## Frames -/

section Frames

variable {platform : LinkPlatform} {user : String} {ans : Rows}
  {rows rows' : OwnershipKey → Option OwnershipRow} {α : Type}

def IsJob : OwnershipKey → Prop
  | .job _ => True
  | _ => False

lemma writes_writeJobs (stmt : StudyReminderJob → Option (Option StudyReminderJob)) :
    (writeJobs stmt).Writes IsJob := by
  intro _
  refine Writes.forM fun id _ => ?_
  have hwrite : (writeJob stmt id).Writes IsJob := ⟨.inl trivial, fun _ => trivial⟩
  exact hwrite.bind fun _ => trivial

lemma accountIn_of_writes_jobs {x : OwnershipTx α} {a : α} (hx : x.Writes IsJob)
    (halone : x.alone ans rows = some (a, rows')) (platform : LinkPlatform) (user : String) :
    accountIn rows' platform user = accountIn rows platform user := by
  have hlink := hx.spares halone (k := .link platform user) id
  have haudit := hx.spares halone (k := .audit platform user) id
  rw [accountIn, accountIn, hlink, haudit]

lemma alone_writeJobs_bind {stmt : StudyReminderJob → Option (Option StudyReminderJob)}
    {next : Unit → OwnershipTx α} {a : α}
    (halone : (writeJobs stmt >>= next).alone ans rows = some (a, rows')) :
    ∃ mid, (next ()).alone ans mid = some (a, rows') ∧
      ∀ platform user, accountIn mid platform user = accountIn rows platform user := by
  rw [alone_bind] at halone
  obtain ⟨⟨⟨⟩, mid⟩, hjobs, hnext⟩ := bind_eq_some_iff.mp halone
  exact ⟨mid, hnext, accountIn_of_writes_jobs (writes_writeJobs stmt) hjobs⟩

lemma alone_done {rows rows' : OwnershipKey → Option OwnershipRow} {a b : α}
    (halone : (pure a : OwnershipTx α).alone ans rows = some (b, rows')) : rows = rows' :=
  (Prod.mk.inj (Option.some.inj halone)).2

lemma alone_lock_bind (key : OwnershipKey) (next : Unit → OwnershipTx α) :
    (lock key >>= next).alone ans rows = (next ()).alone ans rows := by
  rfl

lemma alone_lockLink_bind (next : Option AccountLink → OwnershipTx α) :
    (lockLink platform user >>= next).alone ans rows =
      (next (linkOf (rows (.link platform user)))).alone ans rows := by
  rw [alone_bind]
  simp only [lockLink, alone]
  cases linkOf (rows (.link platform user)) <;> rfl

lemma alone_readLink_bind (next : Option AccountLink → OwnershipTx α) :
    (readLink platform user >>= next).alone ans rows =
      (next (linkOf (rows (.link platform user)))).alone ans rows := by
  rfl

lemma alone_findLink_bind (next : Option AccountLink → OwnershipTx α) :
    (findLink platform user >>= next).alone ans rows =
      (next (linkOf (rows (.link platform user)))).alone ans rows := by
  have hfind : (findLink platform user).alone ans rows =
      some (linkOf (rows (.link platform user)), rows) := by
    rw [findLink, alone_readLink_bind]
    cases hlink : linkOf (rows (.link platform user)) with
    | none => rfl
    | some =>
      dsimp only
      rw [lockOwnership, alone_lock_bind]
      simp only [lockLink, alone, hlink]
      rfl
  rw [alone_bind, hfind]
  rfl

lemma alone_writeLocalUnlinkAudit_bind {now gen : ℤ} (next : Unit → OwnershipTx α) :
    (writeLocalUnlinkAudit now platform user gen >>= next).alone ans rows =
      (next ()).alone ans (update rows (.audit platform user)
        (some (.audit (tombstonesOf (rows (.audit platform user)) ++ [⟨now, gen⟩])))) := by
  rfl

def afterWrite (rows : OwnershipKey → Option OwnershipRow) (platform : LinkPlatform)
    (externalUserId : String) (statement : Option AccountLink → Option (Option AccountLink)) :
    OwnershipKey → Option OwnershipRow :=
  match statement (linkOf (rows (.link platform externalUserId))) with
  | some link => update rows (.link platform externalUserId) (link.map .link)
  | none => rows

lemma alone_writeLink_bind {stmt : Option AccountLink → Option (Option AccountLink)}
    (next : Option (Option AccountLink) → OwnershipTx α) :
    (writeLink platform user stmt >>= next).alone ans rows =
      (next (stmt (linkOf (rows (.link platform user))))).alone ans
        (afterWrite rows platform user stmt) := by
  rw [alone_bind]
  simp only [writeLink, alone, afterWrite]
  cases stmt (linkOf (rows (.link platform user))) <;> rfl

lemma accountIn_afterWrite (rows : OwnershipKey → Option OwnershipRow) (platform : LinkPlatform)
    (user : String) (stmt : Option AccountLink → Option (Option AccountLink))
    (p' : LinkPlatform) (user' : String) :
    accountIn (afterWrite rows platform user stmt) p' user' =
      if (platform, user) = (p', user') then
        { accountIn rows p' user' with
          link := (stmt (accountIn rows p' user').link).getD (accountIn rows p' user').link }
      else accountIn rows p' user' := by
  split
  next hsame =>
    obtain ⟨⟩ := hsame
    simp only [accountIn, afterWrite]
    cases hrow : stmt (linkOf (rows (.link platform user))) with
    | none => rfl
    | some link => cases link <;> simp [linkOf]
  next hother =>
    have hne : OwnershipKey.link p' user' ≠ .link platform user := by
      rintro ⟨⟩
      exact hother rfl
    simp only [accountIn, afterWrite]
    cases stmt (linkOf (rows (.link platform user))) with
    | none => rfl
    | some => simp [update_of_ne hne]

lemma accountIn_audit (tomb : Tombstone) (p' : LinkPlatform) (user' : String) :
    accountIn (update rows (.audit platform user)
        (some (.audit (tombstonesOf (rows (.audit platform user)) ++ [tomb]))))
        p' user' =
      if (platform, user) = (p', user') then
        { accountIn rows p' user' with
          tombstones := (accountIn rows p' user').tombstones ++ [tomb] }
      else accountIn rows p' user' := by
  split
  next hsame =>
    obtain ⟨⟩ := hsame
    simp [accountIn, tombstonesOf]
  next hother =>
    have hne : OwnershipKey.audit p' user' ≠ .audit platform user := by
      rintro ⟨⟩
      exact hother rfl
    simp [accountIn, update_of_ne hne]

end Frames

/-! ## The parts that touch several accounts -/

section Several

variable {p : LinkPlatform} {ans : Rows} {now userId : ℤ}
  {rows rows' : OwnershipKey → Option OwnershipRow}

def Account.OwnedBy (userId : ℤ) (a : Account) : Prop :=
  ∃ link, a.link = some link ∧ link.userId = userId

lemma removeOwnedBy_getD {link : Option AccountLink}
    (h : ¬ ∃ l, link = some l ∧ l.userId = userId) :
    (removeOwnedBy userId link).getD link = link := by
  cases link with
  | none => rfl
  | some l =>
    have hother : l.userId ≠ userId := fun hsame => h ⟨l, rfl, hsame⟩
    simp [removeOwnedBy, hother]

lemma accountIn_removeLinks {ids displaced : List String}
    (halone : (removeLinks p userId ids).alone ans rows = some (displaced, rows')) :
    Change rows rows' fun p' user' a b =>
      (p' = p ∧ user' ∈ ids ∧ a.OwnedBy userId ∧ b = { a with link := none }) ∨
        ¬ (p' = p ∧ user' ∈ ids ∧ a.OwnedBy userId) ∧ b = a := by
  intro p' user'
  induction ids generalizing rows displaced with
  | nil =>
    obtain rfl := alone_done halone
    exact .inr ⟨fun h => (nomatch h.2.1), rfl⟩
  | cons id _ ih =>
    rw [removeLinks, alone_writeLink_bind, alone_bind] at halone
    obtain ⟨⟨others, _⟩, hrest, hdone⟩ := bind_eq_some_iff.mp halone
    obtain ⟨⟩ := hdone
    have hfirst := accountIn_afterWrite rows p id (removeOwnedBy userId) p' user'
    by_cases hsame : (p, id) = (p', user')
    · rw [if_pos hsame] at hfirst
      obtain ⟨rfl, rfl⟩ := Prod.mk.inj hsame
      by_cases howned : (accountIn rows p id).OwnedBy userId
      · -- the first statement takes the link away, and the others find none
        obtain ⟨link, hlink, huser⟩ := howned
        have hnone : accountIn (afterWrite rows p id (removeOwnedBy userId)) p id =
            { accountIn rows p id with link := none } := by
          rw [hfirst, hlink]
          simp [removeOwnedBy, huser]
        refine .inl ⟨rfl, mem_cons_self .., ⟨link, hlink, huser⟩, ?_⟩
        rcases ih hrest with ⟨-, -, ⟨_, hother, -⟩, -⟩ | ⟨-, hkept⟩
        · rw [hnone] at hother
          cases hother
        · rw [hkept, hnone]
      · rw [removeOwnedBy_getD howned] at hfirst
        rcases ih hrest with ⟨-, -, hlater, -⟩ | ⟨-, hkept⟩
        · rw [hfirst] at hlater
          exact absurd hlater howned
        · exact .inr ⟨fun h => howned h.2.2, hkept.trans hfirst⟩
    · rw [if_neg hsame] at hfirst
      rcases ih hrest with ⟨hplat, hmem, howned, hlost⟩ | ⟨hnot, hkept⟩
      · rw [hfirst] at howned hlost
        exact .inl ⟨hplat, mem_cons_of_mem _ hmem, howned, hlost⟩
      · rw [hfirst] at hnot hkept
        refine .inr ⟨?_, hkept⟩
        rintro ⟨rfl, hmem, howned⟩
        rcases mem_cons.mp hmem with rfl | hmem
        · exact hsame rfl
        · exact hnot ⟨rfl, hmem, howned⟩

lemma alone_locks_bind {α : Type} (ids : List String) (next : Unit → OwnershipTx α) :
    (ids.forM (lockOwnership p) >>= next).alone ans rows = (next ()).alone ans rows := by
  induction ids with
  | nil => rfl
  | cons id ids ih =>
    have hcons : ((id :: ids).forM (lockOwnership p) >>= next).alone ans rows =
        (lockOwnership p id >>= fun _ =>
          ids.forM (lockOwnership p) >>= next).alone ans rows := by
      simp only [List.forM, alone_bind, bind_assoc]
    exact ih

lemma accountIn_displace {user : String}
    (halone : (displace p userId user).alone ans rows = some ((), rows')) :
    Change rows rows' fun p' user' a b =>
      b = a ∨ p' = p ∧ user' ≠ user ∧ a.Displaced userId b := by
  intro p' user'
  simp only [displace, alone] at halone
  rw [alone_locks_bind, alone_bind] at halone
  obtain ⟨⟨_, mid⟩, hrem, hjobs⟩ := bind_eq_some_iff.mp halone
  have hframe : accountIn rows' p' user' =
      accountIn mid p' user' := by
    refine accountIn_of_writes_jobs (Writes.forM fun other _ => ?_) hjobs _ _
    exact writes_writeJobs _
  rcases accountIn_removeLinks hrem p' user' with
    ⟨hplat, hmem, howned, hlost⟩ | ⟨-, hkept⟩
  · have hother := of_decide_eq_true (mem_filter.mp hmem).2
    refine .inr ⟨hplat, hother, ?_⟩
    rw [hframe, hlost]
    exact ⟨rfl, rfl, howned⟩
  · exact .inl (hframe.trans hkept)

lemma accountIn_fenceElsewhere {id : String}
    (halone : (fenceElsewhere now p userId id).alone ans rows = some ((), rows')) :
    Change rows rows' fun p' user' a b =>
      (b = a ∧ ¬ ((p, id) = (p', user') ∧ a.OwnedBy userId)) ∨
        (p, id) = (p', user') ∧ ∃ link, a.link = some link ∧ link.userId = userId ∧
          b = { a with tombstones := a.tombstones ++ [⟨now, link.mappingGeneration⟩] } := by
  intro p' user'
  rw [fenceElsewhere, alone_readLink_bind] at halone
  cases hlink : linkOf (rows (.link p id)) with
  | none =>
    rw [hlink] at halone
    obtain rfl := alone_done halone
    refine .inl ⟨rfl, ?_⟩
    rintro ⟨hsame, link, howned, -⟩
    obtain ⟨⟩ := hsame
    have hnone : (accountIn rows p id).link = none := hlink
    rw [hnone] at howned
    cases howned
  | some link =>
    simp only [hlink] at halone
    by_cases huser : link.userId = userId
    · rw [if_pos huser, lockOwnership, alone_lock_bind, alone_writeLocalUnlinkAudit_bind]
        at halone
      have hframe := accountIn_of_writes_jobs (writes_writeJobs _) halone p' user'
      rw [accountIn_audit] at hframe
      by_cases hsame : (p, id) = (p', user')
      · rw [if_pos hsame] at hframe
        obtain ⟨⟩ := hsame
        exact .inr ⟨rfl, link, hlink, huser, hframe⟩
      · rw [if_neg hsame] at hframe
        exact .inl ⟨hframe, fun h => hsame h.1⟩
    · rw [if_neg huser] at halone
      obtain rfl := alone_done halone
      refine .inl ⟨rfl, ?_⟩
      rintro ⟨hsame, _, hother, howner⟩
      obtain ⟨⟩ := hsame
      have hthis : (accountIn rows p id).link = some link := hlink
      rw [hthis] at hother
      obtain ⟨⟩ := hother
      exact huser howner

lemma accountIn_fences {ids : List String}
    (halone : (ids.forM (fenceElsewhere now p userId)).alone ans rows = some ((), rows')) :
    Change rows rows' fun p' user' a b =>
      (b = a ∧ ¬ (p' = p ∧ user' ∈ ids ∧ a.OwnedBy userId)) ∨
        (p' = p ∧ user' ∈ ids) ∧
          ∃ link copies, a.link = some link ∧ link.userId = userId ∧
            b = { a with tombstones := a.tombstones ++
              List.replicate (copies + 1) ⟨now, link.mappingGeneration⟩ } := by
  intro p' user'
  induction ids generalizing rows with
  | nil =>
    obtain rfl := alone_done halone
    exact .inl ⟨rfl, fun h => (nomatch h.2.1)⟩
  | cons id ids ih =>
    change (fenceElsewhere now p userId id >>= fun _ =>
      ids.forM (fenceElsewhere now p userId)).alone ans rows = _ at halone
    rw [alone_bind] at halone
    obtain ⟨⟨⟨⟩, _⟩, hfirst, hrest⟩ := bind_eq_some_iff.mp halone
    rcases accountIn_fenceElsewhere hfirst p' user' with
      ⟨hkept, hnot⟩ | ⟨hsame, link, hlink, huser, hfenced⟩
    · rcases ih hrest with ⟨hlater, hnotLater⟩ | ⟨hlist, link, copies, hlink, huser, hlater⟩
      · rw [hkept] at hnotLater hlater
        refine .inl ⟨hlater, ?_⟩
        rintro ⟨rfl, hmem, howned⟩
        rcases mem_cons.mp hmem with rfl | hmem
        · exact hnot ⟨rfl, howned⟩
        · exact hnotLater ⟨rfl, hmem, howned⟩
      · rw [hkept] at hlink hlater
        exact .inr ⟨⟨hlist.1, mem_cons_of_mem _ hlist.2⟩, link, copies, hlink, huser, hlater⟩
    · obtain ⟨rfl, rfl⟩ := Prod.mk.inj hsame
      have hlist : p = p ∧ id ∈ id :: ids := ⟨rfl, mem_cons_self ..⟩
      rcases ih hrest with ⟨hlater, -⟩ | ⟨-, other, copies, hother, -, hlater⟩
      · exact .inr ⟨hlist, link, 0, hlink, huser, hlater.trans hfenced⟩
      · rw [hfenced] at hother hlater
        obtain rfl : link = other := Option.some.inj (hlink.symm.trans hother)
        refine .inr ⟨hlist, link, copies + 1, hlink, huser, ?_⟩
        rw [hlater]
        simp [replicate_succ]

lemma accountIn_deleteElsewhere
    (halone : (deleteElsewhere now p userId).alone ans rows = some ((), rows')) :
    Change rows rows' fun p' _ a b => b = a ∨ p' = p ∧ a.Deleted now b := by
  intro p' user'
  simp only [deleteElsewhere, alone] at halone
  rw [alone_bind] at halone
  obtain ⟨⟨⟨⟩, _⟩, hfences, hrest⟩ := bind_eq_some_iff.mp halone
  simp only [alone] at hrest
  rw [alone_bind] at hrest
  obtain ⟨⟨_, _⟩, hrem, hdone⟩ := bind_eq_some_iff.mp hrest
  obtain ⟨⟩ := hdone
  have hrem' := accountIn_removeLinks hrem p' user'
  rcases accountIn_fences hfences p' user' with
    ⟨hkept, hnot⟩ | ⟨hlist, link, copies, hlink, huser, hfenced⟩
  · rw [hkept] at hrem'
    rcases hrem' with ⟨hplat, hmem, howned, -⟩ | ⟨-, hsame⟩
    · exact absurd ⟨hplat, hmem, howned⟩ hnot
    · exact .inl hsame
  · rcases hrem' with ⟨hplat, -, -, hlost⟩ | ⟨hnot, _⟩
    · refine .inr ⟨hplat, link, copies, hlink, ?_, ?_⟩
      · rw [hlost]
      · rw [hlost, hfenced]
    · refine absurd ⟨hlist.1, hlist.2, link, ?_, huser⟩ hnot
      rw [hfenced]
      exact hlink

end Several

/-! ## The transactions -/

section Transactions

variable {p : LinkPlatform} {user : String} {ans : Rows} {now : ℤ}
  {rows rows' : OwnershipKey → Option OwnershipRow}

lemma alone_insertGenerationFor_bind {α : Type} (old : Option AccountLink)
    (next : ℤ → OwnershipTx α) :
    (insertGenerationFor p user old >>= next).alone ans rows =
      (next (if old.isSome then 1 else
        nextGeneration (accountIn rows p user).tombstones)).alone ans rows := by
  cases old with
  | some => rfl
  | none => rfl

variable {obs : LinkMappingObservation} {uid : ℤ}

section

variable
  (halone : (upsertLink p uid user obs).alone ans rows = some ((), rows'))
include halone

lemma upsertLink_cases :
    alreadyCommitted uid (accountIn rows p user).link = true ∧ rows' = rows ∨
      Change rows rows' fun p' user' a b =>
        if (p, user) = (p', user') then a.Upserted uid obs b
        else b = a ∨ p' = p ∧ user ≠ user' ∧ a.Displaced uid b := by
  rw [upsertLink, lockMutation, alone_lock_bind, alone_findLink_bind] at halone
  have hlink : linkOf (rows (.link p user)) = (accountIn rows p user).link := rfl
  rw [hlink] at halone
  split at halone
  next hcomm =>
    obtain rfl := alone_done halone
    exact .inl ⟨hcomm, rfl⟩
  rename_i hcomm
  split at halone
  · cases halone
  rename_i hconf
  rw [alone_insertGenerationFor_bind] at halone
  generalize hgen : (if (accountIn rows p user).link.isSome then (1 : ℤ)
    else nextGeneration (accountIn rows p user).tombstones) = gen at halone
  split at halone
  · cases halone
  rename_i hstale
  rw [alone_bind] at halone
  obtain ⟨⟨⟨⟩, mid⟩, hdisplace, hwrite⟩ := bind_eq_some_iff.mp halone
  rw [alone_writeLink_bind] at hwrite
  -- the account itself is not displaced
  have hself : accountIn mid p user = accountIn rows p user := by
    rcases accountIn_displace hdisplace p user with h | ⟨-, hne, -⟩
    · exact h
    · exact absurd rfl hne
  have hmid : linkOf (mid (.link p user)) =
      (accountIn rows p user).link := congrArg Account.link hself
  rw [hmid] at hwrite
  split at hwrite
  next _ hrow =>
    right
    intro p' user'
    have hframe := accountIn_of_writes_jobs (writes_writeJobs _) hwrite p' user'
    rw [accountIn_afterWrite] at hframe
    by_cases hsame : (p, user) = (p', user')
    · obtain ⟨⟩ := hsame
      rw [if_pos rfl, hself, hrow] at hframe
      rw [if_pos rfl, hframe]
      refine ⟨rfl, by simpa using hcomm, by simpa using hconf, ?_⟩
      cases hex : (accountIn rows p user).link with
      | none =>
        rw [hex] at hrow hstale hgen
        obtain rfl : nextGeneration (accountIn rows p user).tombstones = gen := hgen
        obtain ⟨⟩ := (Option.some.inj hrow)
        exact ⟨by simpa using hstale, rfl⟩
      | some old =>
        rw [hex] at hrow hcomm
        cases obs with
        | absent => cases hrow
        | present =>
          obtain ⟨-, hwrote⟩ := ite_none_right_eq_some.mp hrow
          obtain ⟨⟩ := (Option.some.inj hwrote)
          have hchg : old.linkState ≠ .active ∨ old.userId ≠ uid := by
            by_contra hsame
            obtain ⟨hact, huser⟩ := not_or.mp hsame
            exact hcomm (decide_eq_true ⟨not_not.mp huser, not_not.mp hact⟩)
          simp [if_pos hchg]
    · rw [if_neg hsame] at hframe
      rw [if_neg hsame, hframe]
      rcases accountIn_displace hdisplace p' user' with h | ⟨rfl, hne, hlost⟩
      · exact .inl h
      · exact .inr ⟨rfl, hne.symm, hlost⟩
  · cases hwrite

lemma moves_upsertLink :
    Change rows rows' fun p' user' =>
      Account.Moves p' user' (.upsertLink p uid user obs) := by
  intro p' user'
  rcases upsertLink_cases halone with ⟨-, rfl⟩ | hupserted
  · exact .inl rfl
  have hacct := hupserted p' user'
  beta_reduce at hacct
  split at hacct
  next hsame =>
    obtain ⟨⟩ := hsame
    refine .inr ⟨rfl, ?_⟩
    rw [if_pos rfl]
    exact hacct
  · rcases hacct with hkept | ⟨rfl, hne, hdisplaced⟩
    · exact .inl hkept
    · refine .inr ⟨rfl, ?_⟩
      rw [if_neg hne]
      exact hdisplaced

lemma linked_of_upsertLink : ∃ gen, (accountIn rows' p user).link = some ⟨uid, .active, gen⟩ := by
  rcases upsertLink_cases halone with ⟨hcomm, rfl⟩ | hupserted
  · unfold alreadyCommitted at hcomm
    split at hcomm
    next link hlink =>
      obtain ⟨rfl, hact⟩ := of_decide_eq_true hcomm
      refine ⟨link.mappingGeneration, ?_⟩
      rw [hlink, ← hact]
    · cases hcomm
  · have hacct := hupserted p user
    beta_reduce at hacct
    rw [if_pos rfl] at hacct
    obtain ⟨-, -, -, hlink⟩ := hacct
    split at hlink
    · exact ⟨_, hlink.2⟩
    · exact ⟨_, hlink⟩

end

variable {expected : Option PrivacyExpectedMapping}

section

variable (halone : (unlink now p user expected).alone ans rows = some ((), rows'))
include halone

lemma unlink_cases :
    (matchesExpected (accountIn rows p user).link expected = false ∨
        (accountIn rows p user).link.any isTerminal = true) ∧ rows' = rows ∨
      Change rows rows' fun p' user' a b =>
        if (p, user) = (p', user') then a.Unlinked now b else b = a := by
  rw [unlink, lockMutation, lockOwnership, alone_lock_bind, alone_lock_bind,
    alone_lockLink_bind] at halone
  split at halone
  next hexp =>
    obtain rfl := alone_done halone
    exact .inl ⟨.inl ((Bool.not_eq_true' _).mp hexp), rfl⟩
  cases hlink : linkOf (rows (.link p user)) with
  | none =>
    have hnone : (accountIn rows p user).link = none := hlink
    simp only [hlink] at halone
    right
    intro p' user'
    have hframe := accountIn_of_writes_jobs (writes_writeJobs _) halone p' user'
    rw [accountIn_audit] at hframe
    by_cases hsame : (p, user) = (p', user')
    · obtain ⟨⟩ := hsame
      rw [if_pos rfl] at hframe
      rw [if_pos rfl, Account.Unlinked, hnone, hframe]
      exact ⟨hnone, rfl⟩
    · rw [if_neg hsame] at hframe
      rw [if_neg hsame]
      exact hframe
  | some link =>
    have hsome : (accountIn rows p user).link = some link := hlink
    simp only [hlink] at halone
    split at halone
    next hterm =>
      obtain rfl := alone_done halone
      exact .inl ⟨.inr (by rw [hsome]; exact hterm), rfl⟩
    rename_i hterm
    obtain ⟨_, hwrite, hmid⟩ := alone_writeJobs_bind halone
    rw [alone_writeLink_bind] at hwrite
    obtain ⟨⟩ := hwrite
    right
    intro p' user'
    rw [accountIn_afterWrite, hmid, accountIn_audit]
    by_cases hsame : (p, user) = (p', user')
    · obtain ⟨⟩ := hsame
      rw [if_pos rfl, Account.Unlinked, hsome]
      refine ⟨by simpa using hterm, ?_, ?_⟩
      · simp [hsome, unlinkRow]
      · simp
    · rw [if_neg hsame, if_neg hsame, if_neg hsame]

lemma moves_unlink :
    Change rows rows' fun p' user' =>
      Account.Moves p' user' (.unlink now p user expected) := by
  intro p' user'
  rcases unlink_cases halone with ⟨-, rfl⟩ | hunl
  · exact .inl rfl
  have hacct := hunl p' user'
  beta_reduce at hacct
  split at hacct
  next hsame =>
    exact .inr ⟨hsame, hacct⟩
  · exact .inl hacct

end

section

variable
  (halone : (OwnershipTx.delete now p user expected).alone ans rows = some ((), rows'))
include halone

lemma delete_cases :
    (matchesExpected (accountIn rows p user).link expected = false ∨
        (accountIn rows p user).link = none) ∧ (Change rows rows' fun _ _ a b => b = a) ∨
      Change rows rows' fun p' user' a b =>
        if (p, user) = (p', user') then a.Deleted now b
        else b = a ∨ p' = p.other ∧ a.Deleted now b := by
  rw [OwnershipTx.delete, lockMutation, lockOwnership, alone_lock_bind, alone_lock_bind,
    alone_lockLink_bind] at halone
  split at halone
  next hexp =>
    obtain rfl := alone_done halone
    exact .inl ⟨.inl ((Bool.not_eq_true' _).mp hexp), fun _ _ => rfl⟩
  cases hlink : linkOf (rows (.link p user)) with
  | none =>
    simp only [hlink] at halone
    exact .inl ⟨.inr hlink, accountIn_of_writes_jobs (writes_writeJobs _) halone⟩
  | some link =>
    have hsome : (accountIn rows p user).link = some link := hlink
    simp only [hlink] at halone
    obtain ⟨mid, hwrite, hmid⟩ := alone_writeJobs_bind halone
    rw [alone_writeLink_bind] at hwrite
    right
    intro p' user'
    have hrem := accountIn_afterWrite mid p user (fun _ => some none) p' user'
    rw [hmid, accountIn_audit] at hrem
    -- what happens elsewhere
    have helsewhere : accountIn rows' p' user' =
          accountIn (afterWrite mid p user fun _ => some none) p'
            user' ∨
        p' = p.other ∧ Account.Deleted now
          (accountIn (afterWrite mid p user fun _ => some none) p'
            user') (accountIn rows' p' user') := by
      split at hwrite
      · rw [alone_bind] at hwrite
        obtain ⟨⟨⟨⟩, _⟩, hdel, hjobs⟩ := bind_eq_some_iff.mp hwrite
        rw [accountIn_of_writes_jobs (writes_writeJobs _) hjobs p' user']
        exact accountIn_deleteElsewhere hdel p' user'
      · exact .inl (accountIn_of_writes_jobs (writes_writeJobs _) hwrite p' user')
    by_cases hsame : (p, user) = (p', user')
    · obtain ⟨⟩ := hsame
      rw [if_pos rfl, if_pos rfl] at hrem
      rw [if_pos rfl]
      refine ⟨link, 0, hsome, ?_⟩
      rcases helsewhere with hkept | ⟨hother, -⟩
      · rw [hkept, hrem]
        exact ⟨rfl, rfl⟩
      · cases p <;> cases hother
    · rw [if_neg hsame, if_neg hsame] at hrem
      rw [hrem] at helsewhere
      rw [if_neg hsame]
      exact helsewhere

lemma moves_delete :
    Change rows rows' fun p' user' =>
      Account.Moves p' user' (.delete now p user expected) := by
  intro p' user'
  rcases delete_cases halone with ⟨-, hsame⟩ | hdel
  · exact .inl (hsame p' user')
  have hacct := hdel p' user'
  beta_reduce at hacct
  split at hacct
  next hsame =>
    exact .inr ⟨.inl hsame, hacct⟩
  · rcases hacct with hkept | ⟨rfl, hgone⟩
    · exact .inl hkept
    · exact .inr ⟨.inr rfl, hgone⟩

end

section Observing

variable {obs : PlatformLinkObservation} {gen : Option ℤ} {link : AccountLink}

lemma moves_revoke (hlink : (accountIn rows p user).link = some link)
    (halone : (revoke p user).alone ans rows = some ((), rows')) :
    Change rows rows' fun p' user' => Account.Moves p' user'
      (.applyObservation p user obs gen) := by
  intro p' user'
  rw [revoke, alone_writeLink_bind] at halone
  have hframe := accountIn_of_writes_jobs (writes_writeJobs _) halone p' user'
  rw [accountIn_afterWrite] at hframe
  by_cases hsame : (p, user) = (p', user')
  · obtain ⟨⟩ := hsame
    rw [if_pos rfl, hlink] at hframe
    refine .inr ⟨rfl, ?_⟩
    rw [hframe]
    exact ⟨rfl, link, hlink, .inl rfl⟩
  · rw [if_neg hsame] at hframe
    exact .inl hframe

lemma moves_setState {state : PlatformLinkState} (hlink : (accountIn rows p user).link = some link)
    (hstate : state = .active ∨ obs = .unknown ∧ state = .temporarilyUnknown)
    (hunl : link.linkState ≠ .locallyUnlinked) (hrev : link.linkState ≠ .confirmedRevoked)
    (halone : (do let _ ← writeLink p user (setState state) : OwnershipTx Unit).alone ans
      rows = some ((), rows')) :
    Change rows rows' fun p' user' => Account.Moves p' user'
      (.applyObservation p user obs gen) := by
  intro p' user'
  have hopen : link.linkState = .active ∨ link.linkState = .temporarilyUnknown := by
    cases hold : link.linkState <;> simp_all
  rw [alone_writeLink_bind] at halone
  obtain rfl := alone_done halone
  rw [accountIn_afterWrite]
  by_cases hsame : (p, user) = (p', user')
  · obtain ⟨⟩ := hsame
    rw [if_pos rfl, hlink]
    refine .inr ⟨rfl, rfl, link, hlink, .inr ⟨hopen, ?_⟩⟩
    rcases hstate with rfl | ⟨hunknown, rfl⟩
    · exact .inl rfl
    · exact .inr ⟨hunknown, rfl⟩
  · rw [if_neg hsame]
    exact .inl rfl

lemma moves_applyObservation
    (halone : (applyObservation p user obs gen).alone ans rows = some ((), rows')) :
    Change rows rows' fun p' user' => Account.Moves p' user'
      (.applyObservation p user obs gen) := by
  have hnothing : ∀ {x}, x = (pure () : OwnershipTx Unit) → x.alone ans rows = some ((), rows') →
      Change rows rows' fun p' user' => Account.Moves p' user'
        (.applyObservation p user obs gen) := by
    rintro _ rfl hdone
    obtain rfl := alone_done hdone
    exact fun _ _ => .inl rfl
  rw [applyObservation, lockOwnership, alone_lock_bind, alone_lockLink_bind] at halone
  cases hlink : linkOf (rows (.link p user)) with
  | none =>
    rw [hlink] at halone
    exact hnothing rfl halone
  | some =>
    simp only [hlink] at halone
    split at halone
    · exact hnothing rfl halone
    split at halone
    · exact hnothing rfl halone
    rename_i hunl
    cases obs with
    | active =>
      simp only at halone
      split at halone
      · exact moves_revoke hlink halone
      split at halone
      · exact hnothing rfl halone
      next hrev =>
        exact moves_setState hlink (.inl rfl) hunl hrev halone
    | unknown =>
      simp only at halone
      split at halone
      · exact hnothing rfl halone
      next hrev =>
        exact moves_setState hlink (.inr ⟨rfl, rfl⟩) hunl hrev halone
    | revoked =>
      simp only at halone
      split at halone
      · exact hnothing rfl halone
      · exact moves_revoke hlink halone

end Observing

end Transactions

lemma moves_step {rows rows' : OwnershipKey → Option OwnershipRow} {event : LinkEvent}
    (hstep : event.step rows = some rows') :
    Change rows rows' fun p user => Account.Moves p user event.request := by
  obtain ⟨⟩ := hstep
  cases halone : event.request.program.alone event.rows rows with
  | none => exact fun _ _ => .inl rfl
  | some =>
    cases hreq : event.request with
    | upsertLink =>
      rw [hreq] at halone
      exact moves_upsertLink halone
    | unlink =>
      rw [hreq] at halone
      exact moves_unlink halone
    | delete =>
      rw [hreq] at halone
      exact moves_delete halone
    | applyObservation =>
      rw [hreq] at halone
      exact moves_applyObservation halone

end OwnershipTx

end WispaceBot
