import WispaceBot.Clarification.CompareAndSet
import WispaceBot.Foundation.History

/-!
# Choices that are handed over again

A choice is handed over when its call has consumed the menu, and again when a redelivery finds the
tombstone with the mark of a failed delivery.  The mark may stem from an earlier event, and once the
tombstone is gone nothing remembers the event.  `rehanded_only_after_mark` says what excludes both.
-/

namespace WispaceBot

open List Option History VersionedCell Transition ClarificationCore

/-! ## Entries about one event -/

namespace ClarificationEntry

def acceptsChoice (eventId : String) : ClarificationEntry → Bool
  | .returned (some id) (.continue (some _)) true => id == eventId
  | _ => false

def handsChoice (eventId : String) : ClarificationEntry → Bool
  | .returned (some id) (.continue (some _)) _ => id == eventId
  | _ => false

/-- `markDeliveryFailed` was called for the event. -/
def marks (eventId : String) : ClarificationEntry → Bool
  | .marked id => id == eventId
  | _ => false

end ClarificationEntry

open ClarificationEntry

section

variable (eventId : String) (log : List ClarificationEntry)

def NeverAccepted : Prop :=
  ∀ x ∈ log, ¬ x.acceptsChoice eventId = true

def MarkedSince : Prop :=
  Settled (fun x => x.acceptsChoice eventId = true) (fun x => x.marks eventId = true) log

def HandedOnce : Prop :=
  Guarded (fun x => x.acceptsChoice eventId = true) (fun x => x.marks eventId = true)
    (fun x => x.handsChoice eventId = true) log

end

def AcceptNothing (entries : List ClarificationEntry) : Prop :=
  ∀ x ∈ entries, ∀ eventId, ¬ x.acceptsChoice eventId = true

variable {eventId : String} {x : ClarificationEntry}

lemma handsChoice_of_acceptsChoice (h : x.acceptsChoice eventId = true) :
    x.handsChoice eventId = true := by
  unfold acceptsChoice at h
  split at h
  · exact h
  · cases h

variable {result : CallResult}

lemma CallResult.Quiet.not_handsChoice (h : result.Quiet) (hx : x ∈ result.entries)
    (eventId : String) : ¬ x.handsChoice eventId = true := by
  obtain ⟨_, _, rfl, hturn⟩ := h x hx
  intro hhands
  unfold handsChoice at hhands
  split at hhands
  next heq =>
    cases heq
    exact hturn _ rfl
  · cases hhands

lemma CallResult.Quiet.acceptNothing (h : result.Quiet) :
    AcceptNothing result.entries := fun _ hx eventId haccepts =>
  h.not_handsChoice hx eventId (handsChoice_of_acceptsChoice haccepts)

lemma acceptNothing_swapped (known actual : Option ClarificationState) :
    AcceptNothing [.swapped known actual] := by
  intro _ hx _
  cases mem_singleton.mp hx
  simp [acceptsChoice]

variable {log : List ClarificationEntry}

lemma HandedOnce.swapped (h : HandedOnce eventId log) (known actual : Option ClarificationState) :
    HandedOnce eventId (log ++ [.swapped known actual]) := by
  refine h.append fun x hx => ?_
  cases mem_singleton.mp hx
  simp [handsChoice]

lemma HandedOnce.returned_of_ne (h : HandedOnce eventId log) {other : Option String}
    (hne : other ≠ some eventId) (turn : ClarificationTurn) (accepted : Bool) :
    HandedOnce eventId (log ++ [.returned other turn accepted]) := by
  refine h.append fun x hx hhands => ?_
  cases mem_singleton.mp hx
  unfold handsChoice at hhands
  split at hhands
  next heq =>
    cases heq
    exact hne (congrArg some (eq_of_beq hhands))
  · cases hhands

/-! ## What an inspection says about an event -/

def ClarificationState.remembers (state : ClarificationState) (eventId : String) : Bool :=
  state.lastEventId == some eventId || (state.recentEventIds.getD []).contains eventId

namespace ClarificationCore

variable {state : ClarificationState} {event : ClarificationEvent} {now : ℤ}

lemma inspect_eq_consumed {choice : ClarificationChoice}
    (h : inspect (some state) event now = .consumed (some choice)) :
    state.lastDeliveryFailed = some true ∧ event.eventId = state.lastEventId := by
  simp only [inspect] at h
  split at h
  · cases h
  · split at h
    · cases h
    · split at h
      · cases h
      · split at h
        · cases h
        · split at h
          · injection h with h
            split at h
            · assumption
            · cases h
          · cases h

lemma inspect_eq_proceed {eventId : String} (h : inspect (some state) event now = .proceed)
    (hevent : event.eventId = some eventId) (hne : eventId ≠ "")
    (hreply : isFalsy state.lastReplyText = false) (hrem : state.remembers eventId = true) :
    state.lastDeliveryFailed = some true ∧ state.lastEventId = some eventId := by
  have htruthy : isFalsy event.eventId = false := by simp [hevent, isFalsy, hne]
  simp only [inspect, htruthy, hreply, Bool.not_false, true_and, true_or, and_true] at h
  split at h
  · cases h
  · split at h
    · cases h
    · split at h
      · cases h
      next hreplayed =>
        split at h
        · cases h
        next hstale =>
          by_cases hlast : state.lastEventId = event.eventId
          · have hfail : state.lastDeliveryFailed = some true := by
              by_contra hfail
              exact hreplayed ⟨hlast, hfail⟩
            exact ⟨hfail, hlast.trans hevent⟩
          · -- the state remembers the event as an earlier one, so it was answered as stale
            refine absurd ⟨hlast, ?_⟩ hstale
            have hlast' : state.lastEventId ≠ some eventId := hevent ▸ hlast
            have hmem : eventId ∈ state.recentEventIds.getD [] := by
              simpa [ClarificationState.remembers, hlast'] using hrem
            exact any_eq_true.mpr ⟨eventId, hmem, by simp [hevent]⟩

end ClarificationCore

/-! ## The conditions -/

namespace ClarificationSystem

open RedisClarificationStateStore

def readsRemembered (q : ClarificationSystem) : ClarificationStep → Bool
  | .run index =>
    q.calls[index]?.all fun call =>
      match call with
      | .handle handle =>
        handle.operation != .read .attempt || isFalsy handle.request.eventId ||
          handle.request.eventId.all fun id =>
            !q.log.any (acceptsChoice id) || q.cell.all fun state => state.remembers id
      | .markDeliveryFailed _ => true
  | _ => true

def acceptsUnmarked (vocabulary : ClarificationVocabulary) (limits : ClarificationLimits ℕ)
    (q : ClarificationSystem) : ClarificationStep → Bool
  | .run index =>
    q.calls[index]?.all fun call =>
      match call with
      | .handle handle =>
        match handle.operation with
        | .write (.consumeChoice held choice) =>
          !succeeds q.cell (handle.command vocabulary limits (.consumeChoice held choice)) ||
            (held.lastDeliveryFailed != some true && q.calls.all fun other =>
              match other with
              | .markDeliveryFailed mark =>
                mark.held.isSome || handle.request.eventId != some mark.eventId
              | .handle _ => true)
        | _ => true
      | .markDeliveryFailed _ => true
  | _ => true

/-- The three conditions under which a choice is not handed over twice without a mark. -/
structure RedeliversSafely (vocabulary : ClarificationVocabulary) (limits : ClarificationLimits ℕ)
    (q : ClarificationSystem) (e : ClarificationStep) : Prop where
  beginsAlone : beginsAlone vocabulary limits q e = true
  readsRemembered : readsRemembered q e = true
  acceptsUnmarked : acceptsUnmarked vocabulary limits q e = true

instance decidableRedeliversSafely (vocabulary : ClarificationVocabulary)
    (limits : ClarificationLimits ℕ) (q : ClarificationSystem) (e : ClarificationStep) :
    Decidable (RedeliversSafely vocabulary limits q e) :=
  decidable_of_iff (_ ∧ _ ∧ _)
    ⟨fun ⟨h1, h2, h3⟩ => ⟨h1, h2, h3⟩, fun ⟨h1, h2, h3⟩ => ⟨h1, h2, h3⟩⟩

/-! ## The invariant -/

/-- The menu that a call is about to consume, with or without a choice. -/
def consumes (handle : HandleCall) : Option ClarificationState :=
  match handle.operation with
  | .write (.consumeChoice held _) => some held
  | .write (.supersede held) => some held
  | _ => none

/-- What the stored state says about the events in the log. -/
structure CellSound (cell : Option ClarificationState) (log : List ClarificationEntry) : Prop where
  reply : ∀ state, cell = some state → isFalsy state.lastReplyText = false
  failed : ∀ state eventId, cell = some state → state.lastDeliveryFailed = some true →
    state.lastEventId = some eventId → MarkedSince eventId log

/-- What a call in flight may do with the stored state. -/
structure CallSound (cell : Option ClarificationState) (log : List ClarificationEntry)
    (call : ClarificationCall) : Prop where
  /-- A menu that is still stored is consumed for an event of which no choice was accepted, or
  whose own delivery failed. -/
  consuming : ∀ handle held, call = .handle handle → consumes handle = some held →
    cell = some held → ∀ eventId, handle.request.eventId = some eventId → eventId ≠ "" →
      NeverAccepted eventId log ∨
        held.lastDeliveryFailed = some true ∧ held.lastEventId = some eventId
  tombstone : ∀ handle held choice, call = .handle handle →
    handle.operation = .write (.clearConsumed held (some choice)) →
      held.lastDeliveryFailed = some true ∧ handle.request.eventId = held.lastEventId
  unread : ∀ mark, call = .markDeliveryFailed mark → mark.held = none → MarkedSince mark.eventId log
  /-- A report that holds a state is about the event of that state, and it was made after the last
  choice was accepted if the state is still stored. -/
  holding : ∀ mark held, call = .markDeliveryFailed mark → mark.held = some held →
    held.lastEventId = some mark.eventId ∧ (cell = some held → MarkedSince mark.eventId log)

variable {vocabulary : ClarificationVocabulary} {limits : ClarificationLimits ℕ}
  {q t : ClarificationSystem} {call : ClarificationCall} {index : ℕ}
  {cell : Option ClarificationState} {log entries : List ClarificationEntry}
  {handle : HandleCall} {held : ClarificationState}

def MayConsume (log : List ClarificationEntry) (handle : HandleCall) (held : ClarificationState) :
    Prop :=
  ∀ eventId, handle.request.eventId = some eventId → eventId ≠ "" → NeverAccepted eventId log ∨
    held.lastDeliveryFailed = some true ∧ held.lastEventId = some eventId

lemma known_of_consumes (h : consumes handle = some held) :
    (ClarificationCall.handle handle).known = some held := by
  obtain ⟨_, _, _, _ | write⟩ := handle
  · cases h
  · cases write with
    | consumeChoice | supersede => exact h
    | _ => cases h

lemma CellSound.append (h : CellSound cell log) (hents : AcceptNothing entries) :
    CellSound cell (log ++ entries) :=
  ⟨h.reply, fun state eventId hcell hfail hlast =>
    (h.failed state eventId hcell hfail hlast).append fun x hx => hents x hx eventId⟩

lemma cellSound_none : CellSound none log := by
  refine ⟨?_, ?_⟩
  · rintro _ ⟨⟩
  · rintro _ _ ⟨⟩

lemma CallSound.append (h : CallSound cell log call) (hents : AcceptNothing entries) :
    CallSound cell (log ++ entries) call where
  consuming := by
    intro handle held hcall hcons hcell eventId hevent hne
    rcases h.consuming handle held hcall hcons hcell eventId hevent hne with hnever | hfail
    · refine .inl fun x hx => ?_
      rcases mem_append.mp hx with hold | hnew
      · exact hnever x hold
      · exact hents x hnew eventId
    · exact .inr hfail
  tombstone := h.tombstone
  unread := by
    intro mark hcall hheld
    exact (h.unread mark hcall hheld).append fun x hx => hents x hx mark.eventId
  holding := by
    intro mark held hcall hheld
    obtain ⟨hlast, hmark⟩ := h.holding mark held hcall hheld
    exact ⟨hlast, fun hcell => (hmark hcell).append fun x hx => hents x hx mark.eventId⟩

variable {later : List ClarificationEntry}

lemma CallSound.outrun (h : CallSound cell log call) {next : Option ClarificationState}
    (hnext : ∀ held, call.known = some held → next ≠ some held)
    (hunread : ∀ mark, call = .markDeliveryFailed mark → mark.held = none →
      MarkedSince mark.eventId later) : CallSound next later call where
  consuming := by
    rintro _ held rfl hcons hcell
    exact absurd hcell (hnext held (known_of_consumes hcons))
  tombstone := h.tombstone
  unread := hunread
  holding := by
    rintro mark held rfl hheld
    obtain ⟨hlast, -⟩ := h.holding mark held rfl hheld
    exact ⟨hlast, fun hcell => absurd hcell (hnext held hheld)⟩

lemma callSound_handle
    (hcons : ∀ held, consumes handle = some held → cell = some held → MayConsume log handle held)
    (htombstone : ∀ held choice, handle.operation = .write (.clearConsumed held (some choice)) →
      held.lastDeliveryFailed = some true ∧ handle.request.eventId = held.lastEventId) :
    CallSound cell log (.handle handle) where
  consuming := by
    rintro _ held ⟨⟩
    exact hcons held
  tombstone := by
    rintro _ held choice ⟨⟩
    exact htombstone held choice
  unread := by
    rintro _ ⟨⟩
  holding := by
    rintro _ _ ⟨⟩

lemma callSound_of_known_none (h : (ClarificationCall.handle handle).known = none) :
    CallSound cell log (.handle handle) := by
  refine callSound_handle ?_ ?_
  · intro held hcons
    rw [known_of_consumes hcons] at h
    cases h
  · intro _ _ hop
    simp [ClarificationCall.known, hop, PendingWrite.known] at h

/-- The invariant of the runs: what is stored, held and logged fits together, and no choice was
handed over again without a mark. -/
structure Sound (q : ClarificationSystem) : Prop where
  coherent : Coherent q
  cell : CellSound q.cell q.log
  calls : ∀ call ∈ q.calls, CallSound q.cell q.log call
  handedOnce : ∀ eventId, eventId ≠ "" → HandedOnce eventId q.log

lemma sound_init (clock : ℤ) : Sound (init clock) where
  coherent := coherent_init clock
  cell := cellSound_none
  calls := by
    intro _ hcall
    cases hcall
  handedOnce := fun _ _ => guarded_nil

/-! ## Reads -/

lemma callSound_pend {op : PendingOperation}
    (hcons : ∀ held, cell = some held → MayConsume log handle held)
    (hop : ∀ held choice, op ≠ .write (.clearConsumed held (some choice))) :
    CallSound cell log (.handle { handle with operation := op }) :=
  callSound_handle (fun held _ => hcons held)
    fun held choice hclear => absurd hclear (hop held choice)

variable {next : ClarificationCall}

lemma callSound_answer {state : Option ClarificationState}
    (hcons : ∀ held, cell = some held → MayConsume log handle held)
    (h : (handle.answer vocabulary state).next = some next) : CallSound cell log next := by
  rcases ClarificationCall.answer_cases handle vocabulary state with
    ⟨_, heq, -, hop⟩ | ⟨_, heq, -⟩ <;>
    rw [heq] at h <;> cases h
  exact callSound_pend hcons fun held choice hclear => by
    injection hclear with hclear
    exact hop held (some choice) hclear

lemma callSound_inspected (hcell : CellSound cell log)
    (hremembered : ∀ eventId, handle.request.eventId = some eventId → eventId ≠ "" →
      NeverAccepted eventId log ∨ ∀ state, cell = some state → state.remembers eventId = true)
    (h : (handle.inspected vocabulary cell).next = some next) : CallSound cell log next := by
  cases cell with
  | none => exact callSound_answer (by simp) h
  | some state =>
    simp only [HandleCall.inspected] at h
    split at h
    · cases h
      refine callSound_handle ?_ ?_
      · rintro _ ⟨⟩
      · rintro _ _ ⟨⟩
    · cases h
    · cases h
    next hcons =>
      cases h
      refine callSound_handle ?_ ?_
      · rintro _ ⟨⟩
      · rintro _ _ ⟨⟩
        exact inspect_eq_consumed hcons
    next hproceed =>
      refine callSound_answer ?_ h
      rintro _ ⟨⟩ eventId hevent hne
      rcases hremembered eventId hevent hne with hnever | hrem
      · exact .inl hnever
      · exact .inr (inspect_eq_proceed hproceed hevent hne (hcell.reply state rfl) (hrem state rfl))

lemma remembered_of_readsRemembered (hcall : q.calls[index]? = some (.handle handle))
    (hread : handle.operation = .read .attempt) (h : readsRemembered q (.run index) = true)
    (eventId : String) (hevent : handle.request.eventId = some eventId) (hne : eventId ≠ "") :
    NeverAccepted eventId q.log ∨
      ∀ state, q.cell = some state → state.remembers eventId = true := by
  have htruthy : isFalsy (some eventId) = false := by simp [isFalsy, hne]
  simp only [readsRemembered, hcall, all_some, hread, bne_self_eq_false, hevent, htruthy,
    Bool.false_or, Bool.or_eq_true, Bool.not_eq_true', List.any_eq_false] at h
  rcases h with hnever | hrem
  · exact .inl hnever
  · refine .inr fun state hstate => ?_
    rw [hstate] at hrem
    exact hrem

lemma callSound_afterRead (hq : Sound q) (hcall : q.calls[index]? = some call)
    (hread : call.command vocabulary limits = none) (hrem : readsRemembered q (.run index) = true)
    (h : (call.afterRead vocabulary q.cell).next = some next) : CallSound q.cell q.log next := by
  have hsound := hq.calls call (mem_of_getElem? hcall)
  obtain ⟨_, _, _, (_ | _) | _⟩ | mark := call
  · exact callSound_inspected hq.cell (remembered_of_readsRemembered hcall rfl hrem) h
  · simp only [ClarificationCall.afterRead, HandleCall.afterRead,
      ClarificationCall.next_replayed] at h
    cases h
  · cases h
  · -- only a report that holds nothing reads
    have hunread : mark.held = none := by
      cases hheld : mark.held with
      | none => rfl
      | some held =>
        obtain ⟨hlast, -⟩ := hsound.holding mark held rfl hheld
        simp [ClarificationCall.command, MarkCall.command, MarkCall.failed, hheld,
          failDelivery, hlast] at hread
    have hmark := hsound.unread mark rfl hunread
    obtain ⟨_, hfail, hnext⟩ := bind_eq_some_iff.mp h
    cases hnext
    refine ⟨by rintro _ _ ⟨⟩, by rintro _ _ _ ⟨⟩, ?_, ?_⟩
    · rintro _ ⟨⟩ -
      exact hmark
    · rintro _ _ ⟨⟩ hheld
      simp only at hheld
      rw [hheld] at hfail
      exact ⟨(ClarificationCall.failDelivery_eq_some hfail).1, fun _ => hmark⟩

/-! ## Writes -/

lemma cellSound_consume {event : ClarificationEvent} {now : ℤ}
    {choice : Option ClarificationChoice} (hcell : CellSound (some held) log)
    (hmark : held.lastDeliveryFailed = some true → ∀ eventId, event.eventId = some eventId →
      eventId ≠ "" → MarkedSince eventId log) :
    CellSound (some (consume limits held event now choice)) log where
  reply := by
    rintro _ ⟨⟩
    exact hcell.reply held rfl
  failed := by
    rintro _ eventId ⟨⟩ hfail hlast
    simp only [consume] at hfail hlast
    split at hlast
    · exact hcell.failed held eventId rfl hfail hlast
    next hfalsy =>
      refine hmark hfail eventId hlast ?_
      rintro rfl
      simp [hlast, isFalsy] at hfalsy

lemma cellSound_shown {state : ClarificationState} (hreply : isFalsy state.lastReplyText = false)
    (hfail : state.lastDeliveryFailed = some false) : CellSound (some state) log where
  reply := by
    rintro _ ⟨⟩
    exact hreply
  failed := by
    rintro _ _ ⟨⟩ htrue
    rw [hfail] at htrue
    cases htrue

lemma cellSound_irrelevant {next : ClarificationState}
    (h : (handle.irrelevant vocabulary limits held).state = some next) :
    CellSound (some next) log := by
  unfold HandleCall.irrelevant recordIrrelevant at h
  split at h
  · cases h
    exact cellSound_shown (not_isFalsy_menuTextFor _) rfl
  · split at h
    · cases h
      exact cellSound_shown (not_isFalsy_menuTextFor _) rfl
    · cases h

lemma cellSound_handle {write : PendingWrite} (hop : handle.operation = .write write)
    (hcell : CellSound cell log) (hcall : CallSound cell log (.handle handle))
    (hhit : ∀ held, write.known = some held → cell = some held)
    (hwrite : ∀ held choice, write ≠ .consumeChoice held choice) :
    CellSound (written (handle.command vocabulary limits write)) log := by
  cases write with
  | consumeChoice held choice => exact absurd rfl (hwrite held choice)
  | supersede held =>
    have hheld : cell = some held := hhit held rfl
    have hcons : consumes handle = some held := by simp [consumes, hop]
    rw [hheld] at hcell
    refine cellSound_consume hcell fun hfail eventId hevent hne => ?_
    rcases hcall.consuming handle held rfl hcons hheld eventId hevent hne with
      hnever | ⟨-, hlast⟩
    · exact settled_of_forall_not hnever
    · exact hcell.failed held eventId rfl hfail hlast
  | recordIrrelevant held =>
    simp only [HandleCall.command]
    cases hnext : (handle.irrelevant vocabulary limits held).state with
    | none => exact cellSound_none
    | some => exact cellSound_irrelevant hnext
  | begin => exact cellSound_shown (not_isFalsy_menuTextFor _) rfl
  | _ => exact cellSound_none

variable {cmd : WriteCommand}

lemma cellSound_mark {mark : MarkCall} (hcell : CellSound cell log)
    (hcall : CallSound cell log (.markDeliveryFailed mark)) (hcmd : mark.command = some cmd)
    (hhit : cell = mark.held) : CellSound (written cmd) log := by
  unfold MarkCall.command at hcmd
  split at hcmd
  · cases hcmd
  next held hheld =>
    obtain ⟨_, hnext, rfl⟩ := map_eq_some_iff.mp hcmd
    obtain ⟨hlast, rfl⟩ := ClarificationCall.failDelivery_eq_some hnext
    rw [hheld] at hhit
    obtain ⟨-, hmark⟩ := hcall.holding mark held rfl hheld
    refine ⟨?_, ?_⟩
    · rintro _ ⟨⟩
      exact hcell.reply held hhit
    · rintro _ eventId ⟨⟩ - hevent
      obtain rfl : mark.eventId = eventId := Option.some.inj (hlast.symm.trans hevent)
      exact hmark hhit

/-! ## Steps -/

lemma sound_resume (hq : Sound q) {result : CallResult} (hquiet : result.Quiet)
    (hcoh : Coherent (q.resume index result))
    (hnext : ∀ c, result.next = some c → CallSound q.cell q.log c) :
    Sound (q.resume index result) where
  coherent := hcoh
  cell := hq.cell.append hquiet.acceptNothing
  calls := by
    intro c hc
    rcases mem_calls_resume.mp hc with hother | hself
    · exact (hq.calls c (mem_of_mem_eraseIdx hother)).append hquiet.acceptNothing
    · exact (hnext c hself).append hquiet.acceptNothing
  handedOnce := fun eventId hne =>
    (hq.handedOnce eventId hne).append fun _ hx => hquiet.not_handsChoice hx eventId

section Write

variable (hcmd : call.command vocabulary limits = some cmd) (hsucc : succeeds q.cell cmd = true)
include hcmd hsucc

lemma sound_write (hq : Sound q) (hcall : q.calls[index]? = some call)
    (halone : beginsAlone vocabulary limits q (.run index) = true)
    (hlater : later = q.log ++ [.swapped call.known q.cell] ++
      (call.afterSuccess vocabulary limits).entries) (hcell : CellSound (written cmd) later)
    (hunread : ∀ mark, .markDeliveryFailed mark ∈ q.calls → mark.held = none →
      MarkedSince mark.eventId later)
    (hhanded : ∀ eventId, eventId ≠ "" → HandedOnce eventId later) :
    Sound ((q.write call.known cmd).resume index (call.afterSuccess vocabulary limits)) := by
  subst hlater
  refine ⟨coherent_write hq.coherent hcall halone hcmd hsucc, hcell, ?_, hhanded⟩
  intro c hc
  rcases mem_calls_resume.mp hc with hother | hself
  · have hmem : c ∈ q.calls := mem_of_mem_eraseIdx hother
    refine (hq.calls c hmem).outrun ?_ ?_
    · intro held hheld
      exact (follows_written hq.coherent hcall halone hcmd hsucc hother hheld).2
    · rintro mark rfl hheld
      exact hunread mark hmem hheld
  · obtain ⟨_, rfl, hknown⟩ := ClarificationCall.next_afterSuccess hself
    exact callSound_of_known_none hknown

lemma cell_eq_some_of_known (hq : Coherent q) (hcall : call ∈ q.calls)
    (hheld : call.known = some held) : q.cell = some held := by
  rw [← hheld]
  refine hq.hits hcall hcmd hsucc ?_
  rintro rfl
  have hguard := (ClarificationCall.guards_of_command hcmd).clear none rfl
  rw [hheld] at hguard
  cases hguard

lemma cellSound_written (hq : Sound q) (hcall : call ∈ q.calls)
    (hquiet : (call.afterSuccess vocabulary limits).Quiet) : CellSound (written cmd) q.log := by
  have hsound := hq.calls call hcall
  have hhit : ∀ held, call.known = some held → q.cell = some held := fun held =>
    cell_eq_some_of_known hcmd hsucc hq.coherent hcall
  obtain ⟨_, _, _, _ | _⟩ | mark := call
  · cases hcmd
  · obtain ⟨⟩ := hcmd
    refine cellSound_handle rfl hq.cell hsound hhit ?_
    rintro held _ rfl
    obtain ⟨_, _, ⟨⟩, -⟩ := hquiet _ (mem_singleton_self _)
  · refine cellSound_mark hq.cell hsound hcmd ?_
    cases hheld : mark.held with
    | none =>
      simp [ClarificationCall.command, MarkCall.command, hheld] at hcmd
    | some held => exact hhit held hheld

lemma sound_write_quiet (hq : Sound q) (hcall : q.calls[index]? = some call)
    (halone : beginsAlone vocabulary limits q (.run index) = true)
    (hquiet : (call.afterSuccess vocabulary limits).Quiet) :
    Sound ((q.write call.known cmd).resume index (call.afterSuccess vocabulary limits)) := by
  have hmem : call ∈ q.calls := mem_of_getElem? hcall
  have hswapped := acceptNothing_swapped call.known q.cell
  refine sound_write hcmd hsucc hq hcall halone rfl ?_ ?_ ?_
  · exact ((cellSound_written hcmd hsucc hq hmem hquiet).append hswapped).append
      hquiet.acceptNothing
  · intro mark hmark hheld
    exact (((hq.calls _ hmark).append hswapped).append hquiet.acceptNothing).unread mark rfl hheld
  · intro eventId hne
    exact ((hq.handedOnce eventId hne).swapped _ _).append
      fun x hx => hquiet.not_handsChoice hx eventId

variable {choice : ClarificationChoice}

omit hcmd hsucc in
lemma unmarked_of_acceptsUnmarked (hcall : q.calls[index]? = some (.handle handle))
    (hop : handle.operation = .write (.consumeChoice held choice))
    (hsucc : succeeds q.cell (handle.command vocabulary limits (.consumeChoice held choice)) = true)
    (h : acceptsUnmarked vocabulary limits q (.run index) = true) :
    held.lastDeliveryFailed ≠ some true ∧ ∀ mark, .markDeliveryFailed mark ∈ q.calls →
      mark.held = none → handle.request.eventId ≠ some mark.eventId := by
  simp only [acceptsUnmarked, hcall, all_some, hop, hsucc, Bool.not_true,
    Bool.false_or, Bool.and_eq_true, bne_iff_ne, List.all_eq_true] at h
  refine ⟨h.1, fun mark hmark hheld => ?_⟩
  simpa [hheld] using h.2 _ hmark

lemma sound_accept (hq : Sound q) (hcall : q.calls[index]? = some call)
    (hhandle : call = .handle handle) (hop : handle.operation = .write (.consumeChoice held choice))
    (hsafe : RedeliversSafely vocabulary limits q (.run index))
    (hents : (call.afterSuccess vocabulary limits).entries =
      [.returned handle.request.eventId (.continue (some choice)) true]) :
    Sound ((q.write call.known cmd).resume index (call.afterSuccess vocabulary limits)) := by
  subst hhandle
  have hmem : .handle handle ∈ q.calls := mem_of_getElem? hcall
  have hconsumes : consumes handle = some held := by simp [consumes, hop]
  have hheld : q.cell = some held :=
    cell_eq_some_of_known hcmd hsucc hq.coherent hmem (known_of_consumes hconsumes)
  obtain rfl : handle.command vocabulary limits (.consumeChoice held choice) = cmd := by
    simpa [ClarificationCall.command, hop] using hcmd
  obtain ⟨hunmarked, hreports⟩ :=
    unmarked_of_acceptsUnmarked hcall hop hsucc hsafe.acceptsUnmarked
  refine sound_write hcmd hsucc hq hcall hsafe.beginsAlone rfl ?_ ?_ ?_
  · -- the menu has no mark, so the tombstone has none
    have hcell : CellSound (some held) q.log := hheld ▸ hq.cell
    have hcons : CellSound (some (consume limits held handle.request.event
        handle.now (some choice))) q.log :=
      cellSound_consume hcell fun hfail => absurd hfail hunmarked
    refine ⟨hcons.reply, ?_⟩
    rintro _ eventId ⟨⟩ hfail
    exact absurd hfail hunmarked
  · intro mark hmark hunread
    rw [hents]
    refine (((hq.calls _ hmark).append (acceptNothing_swapped _ _)).unread mark rfl
      hunread).append fun x hx haccepts => ?_
    cases mem_singleton.mp hx
    unfold acceptsChoice at haccepts
    split at haccepts
    next heq =>
      injection heq with hevent
      exact hreports mark hmark hunread (by rw [hevent, eq_of_beq haccepts])
    · cases haccepts
  · intro eventId hne
    rw [hents]
    by_cases hevent : handle.request.eventId = some eventId
    · refine ((hq.handedOnce eventId hne).swapped _ _).concat ?_ _
      rcases (hq.calls _ hmem).consuming handle held rfl hconsumes hheld eventId hevent hne with
        hnever | ⟨hfail, -⟩
      · exact (settled_of_forall_not hnever).append fun x hx =>
          acceptNothing_swapped _ _ x hx eventId
      · exact absurd hfail hunmarked
    · exact ((hq.handedOnce eventId hne).swapped _ _).returned_of_ne hevent _ _

lemma sound_rehand (hq : Sound q) (hcall : q.calls[index]? = some call)
    (hhandle : call = .handle handle)
    (hop : handle.operation = .write (.clearConsumed held (some choice)))
    (halone : beginsAlone vocabulary limits q (.run index) = true)
    (hents : (call.afterSuccess vocabulary limits).entries =
      [.returned handle.request.eventId (.continue (some choice)) false]) :
    Sound ((q.write call.known cmd).resume index (call.afterSuccess vocabulary limits)) := by
  subst hhandle
  have hmem : .handle handle ∈ q.calls := mem_of_getElem? hcall
  have hknown : (ClarificationCall.handle handle).known = some held := by
    simp [ClarificationCall.known, hop, PendingWrite.known]
  have hheld : q.cell = some held :=
    cell_eq_some_of_known hcmd hsucc hq.coherent hmem hknown
  obtain ⟨hfail, hevent⟩ := (hq.calls _ hmem).tombstone handle held choice rfl hop
  obtain rfl : .clear (some held.version) = cmd := by
    simpa [ClarificationCall.command, hop, HandleCall.command] using hcmd
  have haccepts : AcceptNothing
      [.returned handle.request.eventId (.continue (some choice)) false] := by
    intro x hx eventId
    cases mem_singleton.mp hx
    simp [acceptsChoice]
  refine sound_write hcmd hsucc hq hcall halone rfl cellSound_none ?_ ?_
  · intro mark hmark hunread
    rw [hents]
    exact (((hq.calls _ hmark).append (acceptNothing_swapped _ _)).append haccepts).unread mark rfl
      hunread
  · intro eventId hne
    rw [hents]
    by_cases hown : handle.request.eventId = some eventId
    · refine ((hq.handedOnce eventId hne).swapped _ _).concat ?_ _
      exact (hq.cell.failed held eventId hheld hfail (hevent.symm.trans hown)).append
        fun x hx => acceptNothing_swapped _ _ x hx eventId
    · exact ((hq.handedOnce eventId hne).swapped _ _).returned_of_ne hown _ _

end Write

lemma sound_perform (hq : Sound q) (hcall : q.calls[index]? = some call)
    (hsafe : RedeliversSafely vocabulary limits q (.run index)) :
    Sound (q.perform vocabulary limits get index call) := by
  have hcoh := coherent_perform hq.coherent hcall hsafe.beginsAlone
  rcases perform_cases q index call with
    hthrown | ⟨hread, hstate⟩ | ⟨cmd, hcmd, hsucc, hwrite⟩ | ⟨cmd, -, -, href⟩
  · rw [hthrown] at hcoh ⊢
    refine sound_resume hq (.thrown call) hcoh fun c hc => ?_
    rw [ClarificationCall.next_thrown] at hc
    cases hc
  · rw [hstate] at hcoh ⊢
    exact sound_resume hq (.afterRead call q.cell) hcoh fun c hc =>
      callSound_afterRead hq hcall hread hsafe.readsRemembered hc
  · rw [hwrite]
    rcases call.afterSuccess_cases vocabulary limits with
      hquiet | ⟨_, _, _, hhandle, hop, hents⟩ | ⟨_, _, _, hhandle, hop, hents⟩
    · exact sound_write_quiet hcmd hsucc hq hcall hsafe.beginsAlone hquiet
    · exact sound_accept hcmd hsucc hq hcall hhandle hop hsafe hents
    · exact sound_rehand hcmd hsucc hq hcall hhandle hop hsafe.beginsAlone hents
  · rw [href] at hcoh ⊢
    refine sound_resume hq (.afterRefusal call q.clock) hcoh fun c hc => ?_
    obtain ⟨_, rfl, hknown⟩ := ClarificationCall.next_afterRefusal hc
    exact callSound_of_known_none hknown

lemma sound_mark (hq : Sound q) (eventId : String)
    (hcoh : Coherent { q with
      calls := q.calls ++ [.markDeliveryFailed { eventId := eventId, held := none }]
      log := q.log ++ [.marked eventId] }) :
    Sound { q with
      calls := q.calls ++ [.markDeliveryFailed { eventId := eventId, held := none }]
      log := q.log ++ [.marked eventId] } where
  coherent := hcoh
  cell := hq.cell.append (by simp [AcceptNothing, acceptsChoice])
  calls := by
    intro c hc
    rcases mem_append.mp hc with hold | hnew
    · exact (hq.calls c hold).append (by simp [AcceptNothing, acceptsChoice])
    · obtain rfl := mem_singleton.mp hnew
      refine ⟨by rintro _ _ ⟨⟩, by rintro _ _ _ ⟨⟩, ?_, by rintro _ _ ⟨⟩ ⟨⟩⟩
      rintro _ ⟨⟩ -
      exact settled_concat (by simp [marks]) (by simp [acceptsChoice])
  handedOnce := fun id hne => (hq.handedOnce id hne).append (by simp [handsChoice])

lemma sound_step (hq : Sound q) {e : ClarificationStep}
    (hsafe : RedeliversSafely vocabulary limits q e)
    (h : step vocabulary limits q e = some t) : Sound t := by
  have hcoh := coherent_step hq.coherent hsafe.beginsAlone h
  cases e with
  | tick =>
    simp only [step, stepWith] at h
    split at h <;> cases h
    exact ⟨hcoh, hq.cell, hq.calls, hq.handedOnce⟩
  | expire =>
    simp only [step, stepWith] at h
    split at h <;> cases h
    refine ⟨hcoh, cellSound_none, fun c hc => ?_, hq.handedOnce⟩
    exact (hq.calls c hc).outrun (by simp) (hq.calls c hc).unread
  | handle =>
    cases h
    refine ⟨hcoh, hq.cell, fun c hc => ?_, hq.handedOnce⟩
    rcases mem_append.mp hc with hold | hnew
    · exact hq.calls c hold
    · obtain rfl := mem_singleton.mp hnew
      exact callSound_of_known_none rfl
  | markDeliveryFailed eventId =>
    cases eventId with
    | none =>
      cases h
      exact hq
    | some id =>
      simp only [step, stepWith] at h
      split at h <;> cases h
      · exact hq
      · exact sound_mark hq id hcoh
  | run =>
    obtain ⟨call, hcall, rfl⟩ := map_eq_some_iff.mp h
    exact sound_perform hq hcall hsafe
  | throw =>
    obtain ⟨call, -, rfl⟩ := map_eq_some_iff.mp h
    refine sound_resume hq (.thrown call) hcoh fun c hc => ?_
    rw [ClarificationCall.next_thrown] at hc
    cases hc

/-- In every run whose steps are safe, a choice that was accepted for an event is handed over again
only after `markDeliveryFailed` was called for that event in between. -/
theorem rehanded_only_after_mark (vocabulary : ClarificationVocabulary)
    (limits : ClarificationLimits ℕ) (clock : ℤ) (events : List ClarificationStep)
    (t : ClarificationSystem) (hrun : run (step vocabulary limits) (init clock) events = some t)
    (hsafe : Along (step vocabulary limits) (RedeliversSafely vocabulary limits) (init clock)
      events) (eventId : String) (hne : eventId ≠ "") (choice again : ClarificationChoice)
    (accepted : Bool) (past between later : List ClarificationEntry)
    (hlog : t.log = past ++ .returned (some eventId) (.continue (some choice)) true ::
      (between ++ .returned (some eventId) (.continue (some again)) accepted :: later)) :
    .marked eventId ∈ between := by
  have ht : Sound t :=
    run_induction (fun _ _ _ hq hC h => sound_step hq hC h) (sound_init clock) hsafe hrun
  have hset : MarkedSince eventId
      (past ++ .returned (some eventId) (.continue (some choice)) true :: between) := by
    refine ht.handedOnce eventId hne _
      (.returned (some eventId) (.continue (some again)) accepted) later ?_ ?_
    · simpa using hlog
    · simp [handsChoice]
  obtain ⟨x, hx, hmarks⟩ := hset past _ between rfl (by simp [acceptsChoice])
  cases x with
  | marked id =>
    obtain rfl : id = eventId := by simpa [marks] using hmarks
    exact hx
  | _ => cases hmarks

def failedAnswer : List ClarificationStep :=
  [message "e1" "lichh", .run 0, .run 0, message "e2" "2", .run 0, .run 0,
    .markDeliveryFailed (some "e2"), .run 0, .run 0, message "e2" "2", .run 0, .run 0]

/-- The choice is handed over again, after the report of the failed delivery. -/
theorem rehanded_only_after_mark_failedAnswer :
    ∃ t past between later,
      run (step shortVocabulary DEFAULT_CLARIFICATION_LIMITS) (init 0) failedAnswer = some t ∧
      t.log = past ++ .returned (some "e2") (.continue (some .schedule)) true ::
        (between ++ .returned (some "e2") (.continue (some .schedule)) false :: later) ∧
      .marked "e2" ∈ between := by
  have hrun : (run (step shortVocabulary DEFAULT_CLARIFICATION_LIMITS) (init 0) failedAnswer).map
      (fun t => decide (t.log = t.log.take 3 ++
        .returned (some "e2") (.continue (some .schedule)) true :: ((t.log.drop 4).take 3 ++
          .returned (some "e2") (.continue (some .schedule)) false :: []))) = some true := by
    rw [step_eq_stepWith]
    decide +kernel
  obtain ⟨t, ht, hshape⟩ := map_eq_some_iff.mp hrun
  have hlog := decide_eq_true_iff.mp hshape
  refine ⟨t, _, _, _, ht, hlog, rehanded_only_after_mark shortVocabulary
    DEFAULT_CLARIFICATION_LIMITS 0 failedAnswer t ht ?_ "e2" (by decide) .schedule .schedule false
    _ _ _ hlog⟩
  rw [step_eq_stepWith]
  decide +kernel

def failedMenu : List ClarificationStep :=
  [message "e1" "lichh", .run 0, .run 0, .markDeliveryFailed (some "e1"), .run 0, .run 0,
    message "e2" "2", .run 0, .run 0, message "e2" "2", .run 0, .run 0]

/-- The choice is handed over again although no delivery for its event was reported as failed. -/
theorem choice_rehanded_unmarked :
    ∃ t past between later,
      run (step shortVocabulary DEFAULT_CLARIFICATION_LIMITS) (init 0) failedMenu = some t ∧
      t.log = past ++ .returned (some "e2") (.continue (some .schedule)) true ::
        (between ++ .returned (some "e2") (.continue (some .schedule)) false :: later) ∧
      .marked "e2" ∉ t.log := by
  have hrun : (run (step shortVocabulary DEFAULT_CLARIFICATION_LIMITS) (init 0) failedMenu).map
      (fun t => decide (t.log = t.log.take 5 ++
        .returned (some "e2") (.continue (some .schedule)) true :: ((t.log.drop 6).take 1 ++
          .returned (some "e2") (.continue (some .schedule)) false :: []) ∧
        .marked "e2" ∉ t.log)) = some true := by
    rw [step_eq_stepWith]
    decide +kernel
  obtain ⟨t, ht, hshape⟩ := map_eq_some_iff.mp hrun
  obtain ⟨hlog, hunmarked⟩ := decide_eq_true_iff.mp hshape
  exact ⟨t, _, _, _, ht, hlog, hunmarked⟩

end ClarificationSystem

end WispaceBot
