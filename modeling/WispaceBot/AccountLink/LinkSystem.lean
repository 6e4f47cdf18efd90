import Mathlib.Data.Fintype.Basic
import WispaceBot.AccountLink.AccountMoves
import WispaceBot.AccountLink.LinkFlow
import WispaceBot.Foundation.Table

/-!
# Callbacks and passes at work

Callbacks and passes of one platform run interleaved on its intents and links.  Each may crash, and
each call may fail, with or without its effect; privacy requests and observations come in between.
Intents have serial numbers, and workers keep the intents they hold, for the statements only.

A transaction is one call, and all read one clock, which does not run backwards.  The revocation of
a link, the identity, the token and the freshness of a link come from outside.
-/

namespace WispaceBot

open Script OwnershipTx

namespace LinkSystem

variable {ι : Type}

/-- A row of the table of intents; `serial` is not a column. -/
structure StoredIntent extends VerifyIntentRecord where
  serial : ℕ
  deriving DecidableEq

/-- Why a worker may remove an intent. -/
inductive Reason
  | committed
  /-- `upsertLink` reported an ownership conflict. -/
  | conflict
  | blocked
  deriving DecidableEq

/-- Which recording, its time if known, whether the link left it unsure, and the reason to remove
it. -/
structure Holding where
  serial : ℕ
  verifiedAt : Option ℤ
  unsure : Bool
  reason : Option Reason
  deriving DecidableEq

abbrev Hand := VerifyIntentIdentity → Option Holding

/-- The links, the intents, the clock; the next serial number, and what every worker holds. -/
structure Store (ι : Type) where
  rows : OwnershipKey → Option OwnershipRow
  intents : List StoredIntent
  clock : ℤ
  nextSerial : ℕ
  held : ι → Hand

/-- The time, the rows a transaction finds, answers from outside, and an error of the call itself.
-/
structure Input where
  now : ℤ
  found : Rows
  externalUserId : String
  verification : Option ℤ
  nextAction : Bool
  linkState : Option LinkStateSnapshot
  fresh : Bool
  failure : Option (LinkError × Bool)

/-! ## The table of intents -/

/-- The generation `recordVerify` gives. -/
def nextIntentGeneration (intents : List StoredIntent) (externalUserId : String) : ℤ :=
  match Table.lookup (fun row => row.externalUserId) externalUserId intents with
  | some row => row.intentGeneration + 1
  | none => 1

section

variable (s : Store ι) (externalUserId : String) (userId : ℤ)
  (mappingObservation : LinkMappingObservation)

/-- The row `recordVerify` leaves. -/
def Store.recorded : StoredIntent where
  externalUserId := externalUserId
  userId := userId
  intentGeneration := nextIntentGeneration s.intents externalUserId
  verifiedAt := s.clock
  mappingObservation := mappingObservation
  serial := s.nextSerial

/-- `recordVerify`: `INSERT … ON CONFLICT … DO UPDATE`. -/
def Store.recordVerify : Store ι :=
  let row := s.recorded externalUserId userId mappingObservation
  { s with
    intents := (Table.insertOnConflict (fun row => row.externalUserId) (fun _ => true)
      (fun _ => row) row s.intents).1
    nextSerial := s.nextSerial + 1 }

end

def StoredIntent.is (row : StoredIntent) (intent : VerifyIntentIdentity) : Bool :=
  decide (row.toVerifyIntentIdentity = intent)

def Store.consumeRecord (s : Store ι) (intent : VerifyIntentIdentity) : Store ι :=
  { s with intents := Table.deleteWhere (fun row => row.is intent) s.intents }

def Store.listStaleRecords (s : Store ι) (olderThanMs : ℤ) : List VerifyIntentRecord :=
  (((s.intents.filter fun row => decide (row.verifiedAt < s.clock - olderThanMs)).mergeSort
    fun a b => decide (a.verifiedAt ≤ b.verifiedAt)).take 100).map StoredIntent.toVerifyIntentRecord

/-! ## Calls -/

section

variable (s : Store ι) (platform : LinkPlatform)

def Store.link (externalUserId : String) : Option AccountLink :=
  (accountIn s.rows platform externalUserId).link

def Store.linked (externalUserId : String) (userId : ℤ) : Bool :=
  (s.link platform externalUserId).any fun link =>
    decide (link.userId = userId ∧ link.linkState = .active)

/-- The transaction of `upsertLink`; it throws an ownership conflict only. -/
def Store.upsertLink (found : Rows) (userId : ℤ) (externalUserId : String)
    (mappingObservation : LinkMappingObservation) : Except LinkError Unit × Store ι :=
  match (OwnershipTx.upsertLink platform userId externalUserId mappingObservation).alone found
      s.rows with
  | some (_, rows) => (.ok (), { s with rows := rows })
  | none => (.error .ownershipConflict, s)

def Store.carryOut (input : Input) :
    (c : LinkCall) → Except LinkError c.Answer × Store ι
  | .exchange => (.ok input.externalUserId, s)
  | .findLink externalUserId =>
    (.ok ((s.link platform externalUserId).map fun link => link.mappingGeneration), s)
  | .findTombstone externalUserId =>
    (.ok (latest (accountIn s.rows platform externalUserId).tombstones), s)
  | .verifyToken _ => (.ok input.verification, s)
  | .recordVerify externalUserId userId mappingObservation =>
    (.ok (nextIntentGeneration s.intents externalUserId),
      s.recordVerify externalUserId userId mappingObservation)
  | .upsertLink userId externalUserId mappingObservation =>
    s.upsertLink platform input.found userId externalUserId mappingObservation
  | .consumeRecord intent =>
    (.ok (s.intents.any fun row => row.is intent), s.consumeRecord intent)
  | .clearClarification _ => (.ok (), s)
  | .afterCommit _ _ => (.ok input.nextAction, s)
  | .sleep _ => (.ok (), s)
  | .readClock => (.ok s.clock, s)
  | .listStaleRecords olderThanMs => (.ok (s.listStaleRecords olderThanMs), s)
  -- `findUserIdByDiscordId` and `findUserIdByZaloId` select the user alone, so that the state they
  -- test afterwards is never there
  | .findUserId externalUserId =>
    (.ok ((s.link platform externalUserId).map fun link => link.userId), s)
  | .getLinkState _ => (.ok input.linkState, s)
  | .isFreshRelink _ _ => (.ok input.fresh, s)
  | .onReconciled _ _ => (.ok (), s)

end

def isLocal : LinkCall → Bool
  | .sleep _ => true
  | .readClock => true
  | _ => false

/-- The answer a worker gets, and the state that is left. -/
def Store.answer (s : Store ι) (platform : LinkPlatform) (input : Input) (c : LinkCall) :
    Except LinkError c.Answer × Store ι :=
  if isLocal c then s.carryOut platform input c
  else match input.failure with
    | none => s.carryOut platform input c
    | some (error, true) => (.error error, (s.carryOut platform input c).2)
    | some (error, false) => (.error error, s)

/-! ## What workers hold -/

def Holding.settle (reason : Reason) (holding : Holding) : Holding :=
  { holding with reason := some reason }

def Holding.judge (state : Option LinkStateSnapshot) (holding : Holding) : Holding :=
  match holding.verifiedAt with
  | none => holding
  | some verifiedAt =>
    match LinkScript.verdict verifiedAt state with
    | .free => { holding with unsure := false }
    | .blocked => holding.settle .blocked
    | .unsure => { holding with unsure := true }

def Hand.change (hand : Hand) (externalUserId : String) (userId : ℤ)
    (f : Holding → Holding) : Hand :=
  fun intent => if intent.externalUserId = externalUserId ∧ intent.userId = userId then
    (hand intent).map f else hand intent

/-- `s` is the state before the call, and `t` the one after it. -/
def Hand.note (hand : Hand) (platform : LinkPlatform) (s t : Store ι) :
    (c : LinkCall) → Except LinkError c.Answer → Hand
  | .recordVerify externalUserId userId _, .ok intentGeneration =>
    Function.update hand ⟨externalUserId, userId, intentGeneration⟩
      (some ⟨s.nextSerial, none, false, none⟩)
  | .listStaleRecords _, .ok records => fun intent =>
    if records.any (fun record => decide (record.toVerifyIntentIdentity = intent)) then
      (s.intents.find? fun row => row.is intent).map fun row =>
        ⟨row.serial, some row.verifiedAt, false, none⟩
    else hand intent
  | .findUserId externalUserId, .ok (some userId) =>
    if s.linked platform externalUserId userId then
      hand.change externalUserId userId (Holding.settle .committed)
    else hand
  | .upsertLink userId externalUserId _, .ok _ =>
    if t.linked platform externalUserId userId then
      hand.change externalUserId userId (Holding.settle .committed)
    else hand
  | .upsertLink userId externalUserId _, .error .ownershipConflict =>
    hand.change externalUserId userId (Holding.settle .conflict)
  | .getLinkState externalUserId, .ok state => fun intent =>
    if intent.externalUserId = externalUserId then (hand intent).map (Holding.judge state)
    else hand intent
  | .isFreshRelink externalUserId userId, .ok false =>
    hand.change externalUserId userId fun holding =>
      if holding.unsure then holding.settle .blocked else holding
  | .consumeRecord intent, _ => Function.update hand intent none
  | _, _ => hand

/-! ## The system -/

variable [DecidableEq ι]

def serve (platform : LinkPlatform) (i : ι) (c : LinkCall) (input : Input) (s : Store ι) :
    Option (Except LinkError c.Answer × Store ι) :=
  if input.now < s.clock then none
  else
    let before := { s with clock := input.now }
    let r := before.answer platform input c
    some (r.1, { r.2 with
      held := Function.update s.held i ((s.held i).note platform before r.2 c r.1) })

/-- What happens beside the workers: requests of other transactions, and erasures. -/
inductive Happening
  | request (event : LinkEvent)
  | erase (externalUserId : String)

def happen : Happening → Store ι → Option (Store ι)
  | .request event, s => (event.step s.rows).map fun rows => { s with rows := rows }
  | .erase externalUserId, s => some { s with
      intents := Table.deleteWhere (fun row => decide (row.externalUserId = externalUserId))
        s.intents }

/-- A callback, or a pass over stale intents. -/
inductive Worker
  | complete (consumeVerifyIntentAfterCommit : Bool)
  | runBatch (options : LinkScript.ReconcileOptions)

def Worker.script : Worker → LinkScript Unit
  | .complete consumeVerifyIntentAfterCommit => do
    let _ ← LinkScript.complete consumeVerifyIntentAfterCommit
  | .runBatch options => do
    let _ ← LinkScript.runBatch options

def Worker.maxRecordAgeMs : Worker → Option ℤ
  | .complete _ => none
  | .runBatch options => some options.maxRecordAgeMs

abbrev State (ι : Type) := Crew ι (Store ι) LinkCall LinkCall.Answer LinkError Unit

abbrev Event (ι : Type) := Crew.Event ι Input Happening

def step (platform : LinkPlatform) (s : State ι) (event : Event ι) : Option (State ι) :=
  Crew.step (serve platform) happen s event

def init (rows : OwnershipKey → Option OwnershipRow) (intents : List StoredIntent) (clock : ℤ)
    (nextSerial : ℕ) (workers : ι → Worker) : State ι where
  shared := ⟨rows, intents, clock, nextSerial, fun _ _ => none⟩
  scripts := fun i => some (workers i).script

/-- An input with the time, the answers to `exchange` and `verifyToken`, and no failure. -/
def plainInput (now : ℤ) (externalUserId : String) (userId : ℤ) : Input where
  now := now
  found := ⟨[], []⟩
  externalUserId := externalUserId
  verification := some userId
  nextAction := false
  linkState := none
  fresh := false
  failure := none

/-! ## What an event does to the links -/

/-- The transaction on the links that is carried out at an event. -/
def linkEvent (platform : LinkPlatform) (s : State ι) : Event ι → Option LinkEvent
  | .call i input =>
    match s.scripts i with
    | some (.call (.upsertLink userId externalUserId mappingObservation) _) =>
      if input.failure.all (·.2) then
        some ⟨.upsertLink platform userId externalUserId mappingObservation, input.found⟩
      else none
    | _ => none
  | .stop _ => none
  | .other (.request event) => some event
  | .other (.erase _) => none

omit [DecidableEq ι] in
lemma answer_cases (s : Store ι) (p : LinkPlatform) (input : Input) (c : LinkCall) :
    s.answer p input c = s.carryOut p input c ∨ isLocal c = false ∧ ∃ error,
        (s.answer p input c = (.error error, (s.carryOut p input c).2) ∨
          s.answer p input c = (.error error, s)) := by
  simp only [Store.answer]
  split
  · exact .inl rfl
  next hlocal =>
    split
    · exact .inl rfl
    · exact .inr ⟨by simpa using hlocal, _, .inl rfl⟩
    · exact .inr ⟨by simpa using hlocal, _, .inr rfl⟩

omit [DecidableEq ι] in
lemma answer_store (s : Store ι) (p : LinkPlatform) (input : Input) (c : LinkCall) :
    (s.answer p input c).2 = (s.carryOut p input c).2 ∨ (s.answer p input c).2 = s := by
  rcases answer_cases s p input c with hdone | ⟨-, _, hfail | hfail⟩
  · exact .inl (by rw [hdone])
  · exact .inl (by rw [hfail])
  · exact .inr (by rw [hfail])

variable {platform : LinkPlatform}

omit [DecidableEq ι] in
lemma rows_upsertLink {s : Store ι} {found : Rows} {uid : ℤ} {user : String}
    {mappingObservation : LinkMappingObservation} :
    LinkEvent.step s.rows ⟨.upsertLink platform uid user mappingObservation, found⟩ =
      some (s.upsertLink platform found uid user mappingObservation).2.rows := by
  simp only [LinkEvent.step, LinkRequest.program, Store.upsertLink]
  split
  next _ halone =>
    rw [halone]
    rfl
  next halone =>
    rw [halone]
    rfl

omit [DecidableEq ι] in
lemma rows_answer {s : Store ι} {input : Input} {c : LinkCall}
    (h : ∀ uid user mappingObservation, c ≠ .upsertLink uid user mappingObservation) :
    (s.answer platform input c).2.rows = s.rows := by
  rcases answer_store s platform input c with hdone | hsame
  · rw [hdone]
    cases c with
    | upsertLink => exact absurd rfl (h _ _ _)
    | _ => rfl
  · rw [hsame]

lemma rows_step {s t : State ι} {event : Event ι} (hstep : step platform s event = some t) :
    (linkEvent platform s event = none ∧ t.shared.rows = s.shared.rows) ∨
      ∃ link, linkEvent platform s event = some link ∧
        link.step s.shared.rows = some t.shared.rows := by
  cases event with
  | call _ input =>
    simp only [step, Crew.step] at hstep
    split at hstep
    case h_2 => cases hstep
    case h_1 c next hscr =>
      obtain ⟨⟨_, u⟩, hserve, rfl⟩ := Option.map_eq_some_iff.mp hstep
      simp only [serve] at hserve
      split at hserve
      case isTrue => cases hserve
      case isFalse =>
        obtain ⟨⟩ := hserve
        cases c with
        | upsertLink =>
          simp only [linkEvent, hscr, Store.answer, isLocal]
          cases input.failure with
          | none =>
            exact .inr ⟨_, rfl, rows_upsertLink (s := { s.shared with clock := input.now })⟩
          | some failure =>
            obtain ⟨_, effect⟩ := failure
            cases effect with
            | true =>
              exact .inr ⟨_, rfl, rows_upsertLink (s := { s.shared with clock := input.now })⟩
            | false => exact .inl ⟨rfl, rfl⟩
        | _ =>
          refine .inl ⟨by simp only [linkEvent, hscr], ?_⟩
          exact rows_answer (by intros; simp)
  | stop =>
    obtain ⟨_, -, rfl⟩ := Option.map_eq_some_iff.mp hstep
    exact .inl ⟨rfl, rfl⟩
  | other event =>
    obtain ⟨_, hhappen, rfl⟩ := Option.map_eq_some_iff.mp hstep
    cases event with
    | request event =>
      rw [happen] at hhappen
      obtain ⟨_, hrows, rfl⟩ := Option.map_eq_some_iff.mp hhappen
      exact .inr ⟨event, rfl, hrows⟩
    | erase =>
      obtain ⟨⟩ := hhappen
      exact .inl ⟨rfl, rfl⟩

lemma rows_eq_of_linkEvent {s t : State ι} {event : Event ι}
    (h : linkEvent platform s event = none) (hstep : step platform s event = some t) :
    t.shared.rows = s.shared.rows := by
  rcases rows_step hstep with ⟨-, hsame⟩ | ⟨_, hlink, -⟩
  · exact hsame
  · rw [h] at hlink
    cases hlink

end LinkSystem

end WispaceBot
