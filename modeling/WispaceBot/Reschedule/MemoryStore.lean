import WispaceBot.Foundation.InsertionMap
import WispaceBot.Reschedule.System

/-!
# The store in memory and the store in the database

One learner calls the methods of `MemoryRescheduleStore` and `TypeormRescheduleStore` at the same
times, and both draw the same random identifiers.  They differ in columns a record leaves out, in
values that a column does not take as they are, in bindings to an empty text, in expired requests,
and in the cancellation of a claimed request under another nonce (`cancelled_apart`).  Where none of
these occurs all answers agree (`same_answers`).
-/

namespace WispaceBot

open Transition

structure MemoryEntry where
  record : PendingRescheduleRecord
  claimed : Bool

/-- `pendingByExternalId`. -/
abbrev MemoryRescheduleStore := List (String × MemoryEntry)

namespace MemoryRescheduleStore

def pendingTtlMs : ℤ := 10 * 60 * 1000

def maxPending : ℕ := 10000

@[simp] def delete (key : String) (store : MemoryRescheduleStore) : MemoryRescheduleStore :=
  store.filter fun entry => entry.1 ≠ key

@[simp] def prune (now : ℤ) (store : MemoryRescheduleStore) : MemoryRescheduleStore :=
  store.filter fun entry => entry.2.claimed || decide (now < entry.2.record.expiresAt)

@[simp] def save (now : ℤ) (pending : PendingRescheduleRecord) (store : MemoryRescheduleStore) :
    MemoryRescheduleStore × Bool :=
  let add := InsertionMap.set pending.externalId ⟨pending, false⟩
  match store.lookup pending.externalId with
  | some entry => if entry.claimed then (store, false) else (add store, true)
  | none =>
    let pruned := prune now store
    if maxPending ≤ pruned.length then
      match pruned.find? fun entry => !entry.2.claimed with
      | none => (pruned, false)
      | some oldest => (add (delete oldest.1 pruned), true)
    else (add pruned, true)

def differs (bound recorded : Option String) : Bool :=
  !isFalsy bound && recorded != bound

/-- A call without a binding binds nothing. -/
def mismatch (binding : RescheduleApprovalBinding) (record : PendingRescheduleRecord) : Bool :=
  differs binding.platform record.platform ||
    differs binding.mappingVersion record.mappingVersion ||
    differs binding.intentHash record.intentHash || differs binding.argsHash record.argsHash ||
    differs binding.nonce record.nonce

@[simp] def takeValid (now : ℤ) (uuid externalId : String) (userId : Option ℤ)
    (binding : RescheduleApprovalBinding) (store : MemoryRescheduleStore) :
    MemoryRescheduleStore × Option PendingRescheduleRecord :=
  match store.lookup externalId with
  | none => (store, none)
  | some entry =>
    if entry.claimed then (store, none)
    else if entry.record.expiresAt ≤ now then (delete externalId store, none)
    else if userId ≠ none ∧ some entry.record.userId ≠ userId then (store, none)
    else if mismatch binding entry.record then (store, none)
    else
      let record := { entry.record with leaseToken := some uuid }
      (InsertionMap.set externalId ⟨record, true⟩ store, some record)

@[simp] def heldBy (leaseToken : String) (entry : MemoryEntry) : Bool :=
  entry.claimed && decide (entry.record.leaseToken = some leaseToken)

@[simp] def revertToPending (now : ℤ) (externalId leaseToken : String)
    (store : MemoryRescheduleStore) :
    MemoryRescheduleStore :=
  match store.lookup externalId with
  | none => store
  | some entry =>
    if heldBy leaseToken entry then
      InsertionMap.set externalId
        ⟨{ entry.record with expiresAt := now + pendingTtlMs }, false⟩ store
    else store

@[simp] def cancelPending (now : ℤ) (externalId : String) (nonce : Option String)
    (store : MemoryRescheduleStore) : MemoryRescheduleStore × RescheduleCancellationOutcome :=
  match store.lookup externalId with
  | none => (store, .none)
  | some entry =>
    if entry.claimed then (store, .processing)
    else if nonce ≠ none ∧ entry.record.nonce ≠ nonce then (store, .none)
    else if entry.record.expiresAt ≤ now then (delete externalId store, .none)
    else (delete externalId store, .cancelled)

@[simp] def cancelClaimed (externalId leaseToken : String) (store : MemoryRescheduleStore) :
    MemoryRescheduleStore :=
  match store.lookup externalId with
  | none => store
  | some entry => if heldBy leaseToken entry then delete externalId store else store

@[simp] def getPendingState (now : ℤ) (externalId : String) (store : MemoryRescheduleStore) :
    MemoryRescheduleStore × ReschedulePendingState :=
  match store.lookup externalId with
  | none => (store, .none)
  | some entry =>
    if entry.claimed then (store, .processing)
    else if entry.record.expiresAt ≤ now then (delete externalId store, .expired)
    else (store, .pending)

end MemoryRescheduleStore

/-! ## One learner and two stores -/

/-- The calls that both stores have. -/
inductive StoreRequest
  | save (pending : PendingRescheduleRecord)
  | takeValid (userId : Option ℤ) (binding : RescheduleApprovalBinding)
  | revertToPending (leaseToken : String)
  | cancelPending (nonce : Option String)
  | cancelClaimed (leaseToken : String)
  | getPendingState
  | hasPending

/-- A request with the time at which it is made and the random identifier that it may use. -/
structure StoreCall where
  request : StoreRequest
  now : ℤ
  uuid : String

inductive StoreAnswer
  | saved (written : Bool)
  | taken (record : Option PendingRescheduleRecord)
  | cancelled (outcome : RescheduleCancellationOutcome)
  | state (state : ReschedulePendingState)
  | pending (pending : Bool)
  | nothing
  deriving DecidableEq

/-- Both stores, with the answers they have given. -/
structure TwinStores where
  memory : MemoryRescheduleStore
  db : RescheduleDb
  answers : List (StoreAnswer × StoreAnswer)

namespace TwinStores

variable {platform : Platform} {learner : String} {s t : TwinStores} {c : StoreCall}

def init : TwinStores := ⟨[], .empty, []⟩

@[simp] def callMemory (learner : String) (c : StoreCall) (store : MemoryRescheduleStore) :
    MemoryRescheduleStore × StoreAnswer :=
  match c.request with
  | .save pending => (store.save c.now { pending with externalId := learner }).map id .saved
  | .takeValid userId binding =>
    (store.takeValid c.now c.uuid learner userId binding).map id .taken
  | .revertToPending leaseToken => (store.revertToPending c.now learner leaseToken, .nothing)
  | .cancelPending nonce => (store.cancelPending c.now learner nonce).map id .cancelled
  | .cancelClaimed leaseToken => (store.cancelClaimed learner leaseToken, .nothing)
  | .getPendingState => (store.getPendingState c.now learner).map id .state
  | .hasPending => (store.getPendingState c.now learner).map id (.pending <| · == .pending)

open TypeormRescheduleStore in
@[simp] def callTypeorm (platform : Platform) (learner : String) (c : StoreCall)
    (db : RescheduleDb) :
    RescheduleDb × StoreAnswer :=
  match c.request with
  | .save pending => (save platform c.uuid { pending with externalId := learner } db).map id .saved
  | .takeValid userId binding =>
    (takeValid platform c.now c.uuid learner userId binding db).map id .taken
  | .revertToPending leaseToken => (revertToPending platform c.now learner leaseToken db, .nothing)
  | .cancelPending nonce => (cancelPending platform learner nonce db).map id .cancelled
  | .cancelClaimed leaseToken => (cancelClaimed platform learner leaseToken db, .nothing)
  | .getPendingState => (getPendingState platform c.now c.now learner db).map id .state
  | .hasPending =>
    (getPendingState platform c.now c.now learner db).map id (.pending <| · == .pending)

def step (platform : Platform) (learner : String) (s : TwinStores) (c : StoreCall) :
    Option TwinStores :=
  let memory := callMemory learner c s.memory
  let typeorm := callTypeorm platform learner c s.db
  some ⟨memory.1, typeorm.1, s.answers ++ [(memory.2, typeorm.2)]⟩

/-! ## The calls on which they agree -/

/-- A text that is compared with a `varchar` column. -/
def IsText (text : String) : Prop :=
  '\x00' ∉ text.toList
  deriving Decidable

/-- A text that a `varchar` column of the length takes. -/
def FitsVarchar (length : ℕ) (text : String) : Prop :=
  text.length ≤ length ∧ IsText text
  deriving Decidable

/-- A number that an `int` column takes. -/
def FitsInt (n : ℤ) : Prop :=
  -2 ^ 31 ≤ n ∧ n < 2 ^ 31
  deriving Decidable

/-- A `uuid` in the form in which its column gives it back. -/
def IsUuid (text : String) : Prop :=
  text.toList.map (fun c => if c.isDigit || ('a' ≤ c && c ≤ 'f') then '0' else c) =
    "00000000-0000-0000-0000-000000000000".toList
  deriving Decidable

/-- A record that leaves out no column, with values that the columns take; it expires before the
year 10000. -/
def Storable (record : PendingRescheduleRecord) : Prop :=
  (∃ text ∈ record.toolName, FitsVarchar 64 text) ∧
    (∃ text ∈ record.platform, FitsVarchar 16 text) ∧
    (∃ text ∈ record.mappingVersion, FitsVarchar 255 text) ∧
    (∃ text ∈ record.intentHash, FitsVarchar 64 text) ∧
    (∃ text ∈ record.argsHash, FitsVarchar 64 text) ∧ (∃ text ∈ record.nonce, IsUuid text) ∧
    FitsInt record.userId ∧ FitsInt record.calendarId ∧
    (∀ text ∈ record.newLocalDate, FitsVarchar 20 text) ∧
    (∀ text ∈ record.newTime, FitsVarchar 10 text) ∧ FitsVarchar 255 record.sessionLabel ∧
    0 ≤ record.expiresAt ∧ record.expiresAt < 253402300800000
  deriving Decidable

/-- A binding to texts that are not empty. -/
def Bindable (binding : RescheduleApprovalBinding) : Prop :=
  (∀ text ∈ binding.platform, text ≠ "" ∧ IsText text) ∧
    (∀ text ∈ binding.mappingVersion, text ≠ "" ∧ IsText text) ∧
    (∀ text ∈ binding.intentHash, text ≠ "" ∧ IsText text) ∧
    (∀ text ∈ binding.argsHash, text ≠ "" ∧ IsText text) ∧ ∀ text ∈ binding.nonce, IsUuid text
  deriving Decidable

/-- A pending request of the learner has not expired. -/
def Timely (learner : String) (s : TwinStores) (now : ℤ) : Prop :=
  ∀ entry ∈ s.memory.lookup learner, entry.claimed = false → now < entry.record.expiresAt

/-- The calls on which the stores agree.  The key of the learner has a prefix of at most ten
characters. -/
def Plain (learner : String) (s : TwinStores) (c : StoreCall) : Prop :=
  FitsVarchar 118 learner ∧
    match c.request with
    | .save pending => Storable pending
    | .takeValid userId binding =>
      Timely learner s c.now ∧ Bindable binding ∧ IsUuid c.uuid ∧ ∀ id ∈ userId, FitsInt id
    | .revertToPending leaseToken => IsUuid leaseToken
    | .cancelClaimed leaseToken => IsUuid leaseToken
    | .cancelPending nonce =>
      Timely learner s c.now ∧ (∀ n ∈ nonce, IsUuid n) ∧
        ∀ entry ∈ s.memory.lookup learner, entry.claimed = true →
          ∀ n ∈ nonce, entry.record.nonce = some n
    | _ => True

instance (learner : String) (s : TwinStores) (c : StoreCall) : Decidable (Plain learner s c) := by
  unfold Plain Timely
  refine @instDecidableAnd _ _ _ ?_
  split <;> infer_instance

/-- The entry and the row of one request. -/
structure Mirrors (platform : Platform) (learner : String) (entry : MemoryEntry)
    (row : RescheduleConfirmationEntity) : Prop where
  key : row.externalId = TypeormRescheduleStore.key platform learner
  status : row.status = if entry.claimed then .processing else .pending
  lease : entry.claimed = true → row.leaseToken = entry.record.leaseToken
  record : entry.record =
    { TypeormRescheduleStore.mapRow platform row with leaseToken := entry.record.leaseToken }

/-- Both stores hold the same request, or none. -/
inductive Twins (platform : Platform) (learner : String) :
    MemoryRescheduleStore → RescheduleDb → Prop
  | empty {attempts : List RescheduleConfirmationAttemptEntity} {nextId : ℕ} :
      Twins platform learner [] ⟨[], attempts, nextId⟩
  | request {entry : MemoryEntry} {row : RescheduleConfirmationEntity}
      {attempts : List RescheduleConfirmationAttemptEntity} {nextId : ℕ}
      (h : Mirrors platform learner entry row) :
      Twins platform learner [(learner, entry)] ⟨[row], attempts, nextId⟩

/-- The stores give the same answer and hold the same request afterwards. -/
@[simp] def Agree (platform : Platform) (learner : String) (c : StoreCall)
    (memory : MemoryRescheduleStore)
    (db : RescheduleDb) : Prop :=
  (callMemory learner c memory).2 = (callTypeorm platform learner c db).2 ∧
    Twins platform learner (callMemory learner c memory).1 (callTypeorm platform learner c db).1

open MemoryRescheduleStore (differs mismatch maxPending pendingTtlMs)
open TypeormRescheduleStore Table

variable {entry : MemoryEntry} {row : RescheduleConfirmationEntity}
  {attempts : List RescheduleConfirmationAttemptEntity} {nextId : ℕ} {now : ℤ} {uuid : String}
  {answers : List (StoreAnswer × StoreAnswer)}

lemma mirrors_saved {pending : PendingRescheduleRecord}
    (hplain : Plain learner s ⟨.save pending, now, uuid⟩) (row : RescheduleConfirmationEntity)
    (hkey : row.externalId = key platform learner) (id : ℕ) :
    Mirrors platform learner ⟨{ pending with externalId := learner }, false⟩
      (overwrite (pendingRow platform uuid { pending with externalId := learner } id) row) := by
  obtain ⟨⟨_, htool, -⟩, ⟨_, hplat, -⟩, ⟨_, hver, -⟩, ⟨_, hintent, -⟩, ⟨_, hargs, -⟩,
    ⟨_, hnonce, -⟩, -⟩ := hplain.2
  rw [Option.mem_def] at htool hplat hver hintent hargs hnonce
  refine ⟨hkey, rfl, by simp, ?_⟩
  simp [mapRow, overwrite, pendingRow, htool, hplat, hver, hintent, hargs, hnonce, hkey,
    stripKeyPrefix_key]

lemma unbound_iff {α : Type} [DecidableEq α] {bound : Option α} {value : α} :
    (bound ≠ none ∧ some value ≠ bound) ↔ bound.all (· == value) = false := by
  cases bound with
  | none => simp
  | some => simp [ne_comm]

lemma IsUuid.ne_empty {text : String} (h : IsUuid text) : text ≠ "" := by
  rintro rfl
  exact absurd h (by decide)

lemma differs_some {bound : Option String} (h : ∀ text ∈ bound, text ≠ "") (value : String) :
    differs bound (some value) = !bound.all (· == value) := by
  cases bound with
  | none => rfl
  | some bound =>
    have hbound : bound ≠ "" := h bound rfl
    have hsymm : (value == bound) = (bound == value) := Bool.beq_comm
    simp [differs, isFalsy, hbound, bne, hsymm]

lemma agree_empty (hplain : Plain learner ⟨[], ⟨[], attempts, nextId⟩, answers⟩ c) :
    Agree platform learner c [] ⟨[], attempts, nextId⟩ := by
  obtain ⟨req, _, uuid⟩ := c
  have hnone : Twins platform learner [] ⟨[], attempts, nextId⟩ := .empty
  cases req with
  | save pending =>
    simp [maxPending, InsertionMap.set, save, insertOnConflict]
    let new := pendingRow platform uuid { pending with externalId := learner } nextId
    exact .request (mirrors_saved hplain new rfl nextId)
  | takeValid | revertToPending | cancelPending | cancelClaimed | getPendingState | hasPending =>
    simpa [takeValid, revertToPending, cancelPending, cancelClaimed, getPendingState,
      updateReturning, updateWhere, deleteWhere] using hnone

section Request

variable (h : Mirrors platform learner entry row)
  (hplain : Plain learner ⟨[(learner, entry)], ⟨[row], attempts, nextId⟩, answers⟩ c)
include h hplain

lemma agree_claimed (hcl : entry.claimed = true) :
    Agree platform learner c [(learner, entry)] ⟨[row], attempts, nextId⟩ := by
  obtain ⟨req, _, _⟩ := c
  have hkey := h.key
  have hstat : row.status = .processing := by simp [h.status, hcl]
  have hlease := h.lease hcl
  have hsame {id} : Twins platform learner [(learner, entry)] ⟨[row], attempts, id⟩ := .request h
  have hnone : Twins platform learner [] ⟨[], attempts, nextId⟩ := .empty
  cases req with
  | save | takeValid | getPendingState | hasPending =>
    simpa [save, takeValid, getPendingState, claimable, pendingRow, insertOnConflict,
      updateReturning, updateWhere, hkey, hcl, hstat] using hsame
  | revertToPending tok =>
    by_cases hheld : entry.record.leaseToken = some tok
    · simp [revertToPending, heldBy, updateWhere, hcl, hstat, hkey, hlease, hheld,
        InsertionMap.set]
      refine .request ⟨hkey, rfl, by simp, ?_⟩
      rw [h.record]
      rfl
    · simpa [revertToPending, heldBy, updateWhere, hcl, hlease, hheld] using hsame
  | cancelPending nonce =>
    have hnonce : nonce.all (· == row.nonce) = true := by
      rw [Option.all_eq_true]
      intro n hn
      have hrec := hplain.2.2.2 entry (by simp) hcl n hn
      rw [h.record] at hrec
      exact beq_iff_eq.mpr (Option.some.inj hrec).symm
    simpa [cancelPending, cancellable, hcl, hstat, hkey, hnonce] using hsame
  | cancelClaimed tok =>
    by_cases hheld : entry.record.leaseToken = some tok
    · simpa [cancelClaimed, heldBy, deleteWhere, hcl, hstat, hkey, hlease, hheld] using hnone
    · simpa [cancelClaimed, heldBy, deleteWhere, hcl, hlease, hheld] using hsame

lemma agree_pending (hcl : entry.claimed = false) :
    Agree platform learner c [(learner, entry)] ⟨[row], attempts, nextId⟩ := by
  obtain ⟨req, now, uuid⟩ := c
  have hkey := h.key
  have hstat : row.status = .pending := by simp [h.status, hcl]
  have hexp : entry.record.expiresAt = row.expiresAt := by rw [h.record]; rfl
  have hsame : Twins platform learner [(learner, entry)] ⟨[row], attempts, nextId⟩ := .request h
  have hnone : Twins platform learner [] ⟨[], attempts, nextId⟩ := .empty
  have hlookup : List.lookup learner [(learner, entry)] = some entry := by simp
  cases req with
  | save =>
    simp [save, insertOnConflict, updateWhere, pendingRow, hkey, hcl, hstat, InsertionMap.set]
    exact .request (mirrors_saved hplain row hkey nextId)
  | takeValid uid binding =>
    obtain ⟨-, htimely, ⟨hplat, hver, hintent, hargs, hnonce⟩, -⟩ := hplain
    have hnow : now < entry.record.expiresAt := htimely entry (by simp) hcl
    have hbinding : mismatch binding entry.record = !bindingHolds binding row := by
      rw [h.record]
      simp only [mismatch, mapRow, bindingHolds, differs_some fun t ht => (hplat t ht).1,
        differs_some fun t ht => (hver t ht).1, differs_some fun t ht => (hintent t ht).1,
        differs_some fun t ht => (hargs t ht).1, differs_some fun t ht => (hnonce t ht).ne_empty,
        Bool.not_and]
    have huser : (uid ≠ none ∧ some entry.record.userId ≠ uid) ↔
        uid.all (· == row.userId) = false := by
      rw [h.record]
      exact unbound_iff
    simp only [Agree, callMemory, callTypeorm, MemoryRescheduleStore.takeValid, hlookup, hcl,
      hnow.not_ge, huser, hbinding]
    cases hu : uid.all (· == row.userId) with
    | false => simpa [takeValid, claimable, updateReturning, updateWhere, hu] using hsame
    | true =>
      cases hb : bindingHolds binding row with
      | false => simpa [takeValid, claimable, updateReturning, updateWhere, hb] using hsame
      | true =>
        have hrec : { entry.record with leaseToken := some uuid } =
            mapRow platform (claimed now uuid row) := by
          rw [h.record]
          rfl
        simp [takeValid, claimable, updateReturning, updateWhere, hstat, hkey, hexp ▸ hnow,
          hu, hb, InsertionMap.set]
        exact ⟨hrec, .request ⟨hkey, rfl, fun _ => rfl, hrec⟩⟩
  | cancelPending nonce =>
    have hnow : now < entry.record.expiresAt := hplain.2.1 entry (by simp) hcl
    have hnonce : (nonce ≠ none ∧ entry.record.nonce ≠ nonce) ↔
        nonce.all (· == row.nonce) = false := by
      rw [h.record]
      exact unbound_iff
    simp only [Agree, callMemory, callTypeorm, MemoryRescheduleStore.cancelPending, hlookup,
      hcl, hnow.not_ge, hnonce]
    cases hn : nonce.all (· == row.nonce) with
    | true => simpa [cancelPending, cancellable, hstat, hkey, hn, deleteWhere] using hnone
    | false => simpa [cancelPending, cancellable, hstat, hkey, hn] using hsame
  | revertToPending | cancelClaimed =>
    simpa [revertToPending, cancelClaimed, heldBy, updateWhere, deleteWhere, hcl, hstat] using hsame
  | getPendingState | hasPending =>
    by_cases hexpired : row.expiresAt ≤ now
    · simpa [getPendingState, hcl, hstat, hkey, hexp, hexpired, lapsed, deleteWhere] using hnone
    · simpa [getPendingState, hcl, hstat, hkey, hexp, hexpired] using hsame

end Request

lemma agree {memory : MemoryRescheduleStore} {db : RescheduleDb}
    (h : Twins platform learner memory db) (hplain : Plain learner ⟨memory, db, answers⟩ c) :
    Agree platform learner c memory db := by
  cases h with
  | empty => exact agree_empty hplain
  | @request entry row _ _ h =>
    cases hcl : entry.claimed with
    | false => exact agree_pending h hplain hcl
    | true => exact agree_claimed h hplain hcl

/-- In every sequence of such calls the two stores give the same answers. -/
theorem same_answers (platform : Platform) (learner : String) {calls : List StoreCall}
    {s : TwinStores} (hplain : Along (step platform learner) (Plain learner) init calls)
    (hrun : run (step platform learner) init calls = some s) : ∀ p ∈ s.answers, p.1 = p.2 := by
  have hinit : Twins platform learner init.memory init.db ∧ ∀ p ∈ init.answers, p.1 = p.2 :=
    ⟨.empty, by simp [init]⟩
  refine (run_induction (I := fun s : TwinStores => Twins platform learner s.memory s.db ∧
    ∀ p ∈ s.answers, p.1 = p.2) ?_ hinit hplain hrun).2
  rintro _ _ _ ⟨htwins, hsame⟩ hc hstep
  obtain ⟨⟩ := hstep
  obtain ⟨hans, hnext⟩ := agree htwins hc
  refine ⟨hnext, fun p hp => ?_⟩
  rcases List.mem_append.mp hp with hold | hnew
  · exact hsame p hold
  · rw [List.mem_singleton.mp hnew]
    exact hans

def firstLease : String := "22222222-2222-4222-8222-222222222222"

def secondLease : String := "33333333-3333-4333-8333-333333333333"

/-- The request is claimed, put back after its time, and claimed again. -/
def claimedTwice : List StoreCall :=
  [⟨.save Sample.record, 0, ""⟩,
    ⟨.takeValid (some 42) ⟨none, none, none, none, none⟩, 1, firstLease⟩,
    ⟨.revertToPending firstLease, 700000, ""⟩, ⟨.hasPending, 700001, ""⟩,
    ⟨.takeValid none ⟨none, none, none, none, some Sample.nonce⟩, 700002, secondLease⟩,
    ⟨.cancelPending none, 700003, ""⟩]

/-- A request is claimed, set back and claimed again. -/
theorem same_answers_claimedTwice : ∃ s,
    run (step .messenger "psid-1") init claimedTwice = some s ∧
      s.answers.map Prod.fst = [.saved true,
        .taken (some { Sample.record with leaseToken := some firstLease }), .nothing, .pending true,
        .taken (some { Sample.record with leaseToken := some secondLease, expiresAt := 1300000 }),
        .cancelled .processing] ∧
      ∀ p ∈ s.answers, p.1 = p.2 := by
  have hplain : Along (step .messenger "psid-1") (Plain "psid-1") init claimedTwice := by
    decide +kernel
  exact ⟨_, rfl, by decide +kernel, same_answers .messenger "psid-1" hplain rfl⟩

/-- A cancel after the expiry answers `none` in memory and `cancelled` in the database. -/
theorem cancelled_apart : ∃ s,
    run (step .messenger "psid-1") init
        [⟨.save Sample.record, 0, ""⟩, ⟨.cancelPending none, 600000, ""⟩] = some s ∧
      s.answers = [(.saved true, .saved true), (.cancelled .none, .cancelled .cancelled)] :=
  ⟨_, rfl, by decide +kernel⟩

end TwinStores

end WispaceBot
