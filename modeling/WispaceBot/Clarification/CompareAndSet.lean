import WispaceBot.Clarification.Responder

/-!
# Writes that hit what was read

Every write of the responder is guarded by the version that its call has read, except the `clear` of
a cancellation that found no menu.  Versions start again at one when the key was emptied, so a write
hits the state that was read as long as no menu is begun on an empty key while another call holds a
state (`swaps_exact`).
-/

namespace WispaceBot

open VersionedCell Transition ClarificationState List

/-! ## The commands of a call -/

namespace ClarificationCall

variable {vocabulary : ClarificationVocabulary} {limits : ClarificationLimits ℕ}
  {call : ClarificationCall}

/-- What the guard of a command says about the state that its call holds. -/
structure Guards (known : Option ClarificationState) (command : WriteCommand) : Prop where
  set : ∀ state expected, command = .set state expected →
    state.version = expected + 1 ∧ expected = (known.map version).getD 0
  clear : ∀ expected, command = .clear expected → expected = known.map version

lemma guards_set {known : Option ClarificationState} {state : ClarificationState} {expected : ℕ}
    (hstate : state.version = expected + 1) (hexp : expected = (known.map version).getD 0) :
    Guards known (.set state expected) := by
  refine ⟨?_, ?_⟩
  · rintro _ _ ⟨⟩
    exact ⟨hstate, hexp⟩
  · rintro _ ⟨⟩

lemma guards_clear (known : Option ClarificationState) :
    Guards known (.clear (known.map version)) := by
  refine ⟨?_, ?_⟩
  · rintro _ _ ⟨⟩
  · rintro _ ⟨⟩
    rfl

variable {state next : ClarificationState} {event : ClarificationEvent}

lemma version_recordIrrelevant {now : ℤ} {replyText : String}
    (h : (ClarificationCore.recordIrrelevant limits state event now replyText).state = some next) :
    next.version = state.version + 1 := by
  unfold ClarificationCore.recordIrrelevant at h
  split at h
  · cases h
    rfl
  · split at h
    · cases h
      rfl
    · cases h

lemma failDelivery_eq_some (h : ClarificationCore.failDelivery (some state) event = some next) :
    state.lastEventId = event.eventId ∧
      next = { state with version := state.version + 1, lastDeliveryFailed := some true } := by
  simp only [ClarificationCore.failDelivery] at h
  split at h
  · cases h
  next hne =>
    cases h
    exact ⟨not_not.mp hne, rfl⟩

lemma guards_handle (call : HandleCall) (write : PendingWrite) :
    Guards write.known (call.command vocabulary limits write) := by
  cases write with
  | clearStale held | clearConsumed held | clearStopped held => exact guards_clear (some held)
  | clearCancelled held => exact guards_clear held
  | consumeChoice | supersede | begin => exact guards_set rfl rfl
  | recordIrrelevant held =>
    simp only [HandleCall.command]
    cases hnext : (call.irrelevant vocabulary limits held).state with
    | none => exact guards_clear (some held)
    | some => exact guards_set (version_recordIrrelevant hnext) rfl

lemma guards_of_command {command : WriteCommand}
    (h : call.command vocabulary limits = some command) : Guards call.known command := by
  obtain ⟨_, _, _, _ | write⟩ | ⟨_, _ | _⟩ := call
  · cases h
  · obtain ⟨⟩ := h
    exact guards_handle _ write
  · cases h
  · obtain ⟨_, hnext, rfl⟩ := Option.map_eq_some_iff.mp h
    obtain ⟨-, rfl⟩ := failDelivery_eq_some hnext
    exact guards_set rfl rfl

variable {state : Option ClarificationState} {next : ClarificationCall}

/-- An answer is a write for the menu that was read or for none, or the turn is over. -/
lemma answer_cases (call : HandleCall) (vocabulary : ClarificationVocabulary)
    (state : Option ClarificationState) :
    (∃ write : PendingWrite, call.answer vocabulary state = call.pend (.write write) ∧
      (write.known = none ∨ write.known = state) ∧
      ∀ held choice, write ≠ .clearConsumed held choice) ∨
    ∃ turn, call.answer vocabulary state = call.finish turn ∧
      ∀ choice, turn ≠ .continue (some choice) := by
  unfold HandleCall.answer
  dsimp only
  split
  · exact .inl ⟨_, rfl, .inr rfl, by simp⟩
  · split
    · split
      · exact .inl ⟨_, rfl, .inr rfl, by simp⟩
      · split
        · exact .inl ⟨_, rfl, .inr rfl, by simp⟩
        · split <;> exact .inl ⟨_, rfl, .inr rfl, by simp⟩
    · split
      · exact .inr ⟨_, rfl, by simp [HandleCall.terminal]⟩
      · split
        · exact .inl ⟨_, rfl, .inl rfl, by simp⟩
        · exact .inr ⟨_, rfl, by simp⟩

lemma next_answer {call : HandleCall} (h : (call.answer vocabulary state).next = some next) :
    ∃ handle, next = .handle handle ∧ (next.known = none ∨ next.known = state) := by
  rcases answer_cases call vocabulary state with ⟨_, heq, hknown, -⟩ | ⟨_, heq, -⟩ <;>
    rw [heq] at h <;> cases h
  exact ⟨_, rfl, hknown⟩

lemma next_answer_none {call : HandleCall} (h : (call.answer vocabulary none).next = some next) :
    ∃ handle, next = .handle handle ∧ next.known = none := by
  obtain ⟨handle, hhandle, hknown⟩ := next_answer h
  exact ⟨handle, hhandle, hknown.elim id id⟩

lemma known_inspected {call : HandleCall} (h : (call.inspected vocabulary state).next = some next)
    : next.known = none ∨ next.known = state := by
  have hans : (call.answer vocabulary state).next = some next →
      next.known = none ∨ next.known = state := fun h => by
    obtain ⟨_, -, hknown⟩ := next_answer h
    exact hknown
  cases state with
  | none => exact hans h
  | some =>
    simp only [HandleCall.inspected] at h
    split at h
    · cases h
      exact .inr rfl
    · cases h
    · cases h
    · cases h
      exact .inr rfl
    · exact hans h

lemma next_replayed (call : HandleCall) (state : Option ClarificationState) :
    (call.replayed vocabulary state).next = none := by
  unfold HandleCall.replayed
  split
  · split <;> rfl
  · rfl

lemma known_afterRead (h : (call.afterRead vocabulary state).next = some next) :
    next.known = none ∨ next.known = state := by
  obtain ⟨_, _, _, (_ | _) | _⟩ | _ := call
  · exact known_inspected h
  · simp only [afterRead, HandleCall.afterRead, next_replayed] at h
    cases h
  · cases h
  · obtain ⟨_, -, hnext⟩ := Option.bind_eq_some_iff.mp h
    cases hnext
    exact .inr rfl

lemma next_afterSuccess (h : (call.afterSuccess vocabulary limits).next = some next) :
    ∃ handle, next = .handle handle ∧ next.known = none := by
  obtain ⟨_, _, _, _ | write⟩ | _ := call
  · cases h
  · cases write with
    | clearStale => exact next_answer_none h
    | clearConsumed _ choice =>
      cases choice with
      | none => exact next_answer_none h
      | some => cases h
    | _ => cases h
  · cases h

lemma next_afterRefusal {clock : ℤ}
    (h : (call.afterRefusal vocabulary limits clock).next = some next) :
    ∃ handle, next = .handle handle ∧ next.known = none := by
  obtain ⟨_, _, _, _ | write⟩ | _ := call
  · cases h
  · cases write with
    | clearConsumed | recordIrrelevant =>
      simp only [afterRefusal, HandleCall.afterRefusal] at h
      split at h <;> cases h
      exact ⟨_, rfl, rfl⟩
    | clearCancelled held => cases held <;> cases h
    | begin =>
      cases h
      exact ⟨_, rfl, rfl⟩
    | _ => cases h
  · cases h

lemma next_thrown (call : ClarificationCall) : (call.thrown vocabulary).next = none := by
  cases call <;> rfl

end ClarificationCall

/-! ## What a call logs -/

/-- The call hands over no choice. -/
def CallResult.Quiet (result : CallResult) : Prop :=
  ∀ x ∈ result.entries, ∃ eventId turn, x = .returned eventId turn false ∧
    ∀ choice, turn ≠ .continue (some choice)

namespace CallResult.Quiet

variable {vocabulary : ClarificationVocabulary} {limits : ClarificationLimits ℕ} {call : HandleCall}

lemma of_nil (next : Option ClarificationCall) : Quiet { next := next, entries := [] } := by
  intro _ hx
  cases hx

lemma finish {turn : ClarificationTurn} (h : ∀ choice, turn ≠ .continue (some choice)) :
    Quiet (call.finish turn) := by
  intro _ hx
  exact ⟨_, turn, mem_singleton.mp hx, h⟩

lemma conclude {decision : ClarificationTerminalDecision}
    (h : ∀ choice, decision ≠ .choice choice := by nofun) :
    Quiet (call.conclude vocabulary decision) := by
  refine finish fun choice hturn => ?_
  cases decision with
  | choice choice => exact h choice rfl
  | _ => cases hturn

lemma answer (state : Option ClarificationState) : Quiet (call.answer vocabulary state) := by
  rcases ClarificationCall.answer_cases call vocabulary state with ⟨_, heq, -⟩ | ⟨_, heq, hturn⟩
  · rw [heq]
    exact of_nil _
  · rw [heq]
    exact finish hturn

lemma afterRead (call : ClarificationCall) (state : Option ClarificationState) :
    Quiet (call.afterRead vocabulary state) := by
  obtain ⟨_, _, _, (_ | _) | _⟩ | _ := call
  · cases state with
    | none => exact answer none
    | some held =>
      simp only [ClarificationCall.afterRead, HandleCall.afterRead, HandleCall.inspected]
      split
      · exact of_nil _
      · exact conclude
      · exact conclude
      · exact of_nil _
      · exact answer (some held)
  · simp only [ClarificationCall.afterRead, HandleCall.afterRead, HandleCall.replayed]
    split
    · split <;> exact conclude
    · exact conclude
  · exact conclude
  · exact of_nil _

lemma afterRefusal (call : ClarificationCall) (clock : ℤ) :
    Quiet (call.afterRefusal vocabulary limits clock) := by
  obtain ⟨_, _, _, _ | write⟩ | _ := call
  · exact conclude
  · cases write with
    | clearConsumed =>
      simp only [ClarificationCall.afterRefusal, HandleCall.afterRefusal]
      split
      · exact of_nil _
      · exact conclude
    | recordIrrelevant =>
      simp only [ClarificationCall.afterRefusal, HandleCall.afterRefusal]
      split
      · exact conclude
      · exact of_nil _
    | clearCancelled held => cases held <;> exact conclude
    | begin => exact of_nil _
    | _ => exact conclude
  · exact of_nil _

lemma thrown (call : ClarificationCall) : Quiet (call.thrown vocabulary) := by
  cases call with
  | handle => exact conclude
  | markDeliveryFailed => exact of_nil _

end CallResult.Quiet

lemma ClarificationCall.afterSuccess_cases (vocabulary : ClarificationVocabulary)
    (limits : ClarificationLimits ℕ) (call : ClarificationCall) :
    (call.afterSuccess vocabulary limits).Quiet ∨ (∃ handle held choice, call = .handle handle ∧
      handle.operation = .write (.consumeChoice held choice) ∧
      (call.afterSuccess vocabulary limits).entries =
        [.returned handle.request.eventId (.continue (some choice)) true]) ∨
    ∃ handle held choice, call = .handle handle ∧
      handle.operation = .write (.clearConsumed held (some choice)) ∧
      (call.afterSuccess vocabulary limits).entries =
        [.returned handle.request.eventId (.continue (some choice)) false] := by
  obtain ⟨_, _, _, _ | write⟩ | _ := call
  · exact .inl .conclude
  · cases write with
    | clearStale => exact .inl (.answer none)
    | clearConsumed held choice =>
      cases choice with
      | none => exact .inl (.answer none)
      | some choice => exact .inr (.inr ⟨_, held, choice, rfl, rfl, rfl⟩)
    | consumeChoice held choice => exact .inr (.inl ⟨_, held, choice, rfl, rfl, rfl⟩)
    | recordIrrelevant =>
      refine .inl (.conclude fun choice hkind => ?_)
      unfold ClarificationIrrelevantResult.kind at hkind
      split at hkind <;> cases hkind
    | begin =>
      refine .inl (.conclude fun choice hkind => ?_)
      split at hkind <;> cases hkind
    | _ => exact .inl .conclude
  · exact .inl (.of_nil _)

/-! ## Steps -/

namespace ClarificationSystem

open RedisClarificationStateStore

variable {vocabulary : ClarificationVocabulary} {limits : ClarificationLimits ℕ}
  {q t : ClarificationSystem} {call : ClarificationCall} {index : ℕ}

lemma perform_cases (q : ClarificationSystem) (index : ℕ) (call : ClarificationCall) :
    (q.perform vocabulary limits get index call = q.resume index (call.thrown vocabulary)) ∨
    (call.command vocabulary limits = none ∧ q.perform vocabulary limits get index call =
        q.resume index (call.afterRead vocabulary q.cell)) ∨
    (∃ command, call.command vocabulary limits = some command ∧ succeeds q.cell command = true ∧
      q.perform vocabulary limits get index call =
        (q.write call.known command).resume index (call.afterSuccess vocabulary limits)) ∨
    (∃ command, call.command vocabulary limits = some command ∧ succeeds q.cell command = false ∧
      q.perform vocabulary limits get index call =
        q.resume index (call.afterRefusal vocabulary limits q.clock)) := by
  unfold perform
  cases hcmd : call.command vocabulary limits with
  | none =>
    cases hget : get q.cell with
    | error => exact .inl rfl
    | ok =>
      obtain rfl := get_eq_ok hget
      exact .inr (.inl ⟨rfl, rfl⟩)
  | some command =>
    cases hsucc : succeeds q.cell command with
    | true => exact .inr (.inr (.inl ⟨command, rfl, hsucc, if_pos hsucc⟩))
    | false =>
      refine .inr (.inr (.inr ⟨command, rfl, hsucc, if_neg ?_⟩))
      simp [hsucc]

variable {c : ClarificationCall} {result : CallResult}

lemma mem_calls_resume :
    c ∈ (q.resume index result).calls ↔ c ∈ q.calls.eraseIdx index ∨ result.next = some c := by
  simp [resume]

/-! ## The invariant -/

def holdNothing (calls : List ClarificationCall) : Bool :=
  calls.all fun call => call.known.isNone

section

variable (vocabulary : ClarificationVocabulary) (limits : ClarificationLimits ℕ)
  (q : ClarificationSystem)

/-- An empty key is filled only while no other call holds a state that it has read. -/
def beginsAlone : ClarificationStep → Bool
  | .run index =>
    q.calls[index]?.all fun call =>
      match call.command vocabulary limits with
      | some (.set state expected) => q.cell.isSome ||
          !succeeds q.cell (.set state expected) || holdNothing (q.calls.eraseIdx index)
      | _ => true
  | _ => true

/-- Nothing that is stored is cleared without a version. -/
def clearsVersioned : ClarificationStep → Bool
  | .run index =>
    q.calls[index]?.all fun call =>
      call.command vocabulary limits != some (.clear none) || q.cell.isNone
  | _ => true

end

/-- The key is empty or has kept up with what the calls in flight know. -/
structure Coherent (q : ClarificationSystem) : Prop where
  version_pos : ∀ state, q.cell = some state → 1 ≤ state.version
  follows : ∀ call ∈ q.calls, ∀ held, call.known = some held →
    1 ≤ held.version ∧ Follows version q.cell held

lemma coherent_init (clock : ℤ) : Coherent (init clock) := by
  refine ⟨?_, ?_⟩
  · rintro _ ⟨⟩
  · intro _ hcall
    cases hcall

variable {command : WriteCommand}

lemma Coherent.hits (hq : Coherent q) (hcall : call ∈ q.calls)
    (hcmd : call.command vocabulary limits = some command)
    (hsucc : succeeds q.cell command = true) (hversioned : command ≠ .clear none) :
    q.cell = call.known := by
  have hguards := ClarificationCall.guards_of_command hcmd
  -- with a state in hand, the version that is found is the version of that state
  have hfound : ∀ held, call.known = some held →
      hasVersion version q.cell held.version = true → q.cell = call.known := by
    intro held hheld hver
    rw [hheld, (hq.follows call hcall held hheld).2.eq_of_version hver]
  cases command with
  | set state expected =>
    obtain ⟨-, hexp⟩ := hguards.set state expected rfl
    rcases admits_eq_true hsucc with ⟨hnone, hzero⟩ | hver
    · cases hknown : call.known with
      | none => exact hnone
      | some held =>
        -- a state that was read has a positive version, which no empty key has
        obtain ⟨hpos, -⟩ := hq.follows call hcall held hknown
        obtain rfl : expected = held.version := by simpa [hknown] using hexp
        omega
    · cases hknown : call.known with
      | none =>
        -- version zero is expected, and no stored state has it
        obtain rfl : expected = 0 := by simpa [hknown] using hexp
        obtain ⟨now, hnow, _⟩ := hasVersion_eq_true hver
        have hpos := hq.version_pos now hnow
        omega
      | some held =>
        obtain rfl : expected = held.version := by simpa [hknown] using hexp
        rw [← hknown]
        exact hfound held hknown hver
  | clear expected =>
    have hexp := hguards.clear expected rfl
    cases hknown : call.known with
    | none =>
      rw [hknown] at hexp
      exact absurd (congrArg WriteCommand.clear hexp) hversioned
    | some held =>
      rw [hknown] at hexp
      subst hexp
      rw [← hknown]
      exact hfound held hknown hsucc

lemma coherent_resume (hpos : ∀ state, q.cell = some state → 1 ≤ state.version)
    (hothers : ∀ c ∈ q.calls.eraseIdx index, ∀ held, c.known = some held →
      1 ≤ held.version ∧ Follows version q.cell held)
    (hnext : ∀ c, result.next = some c → ∀ held, c.known = some held →
      1 ≤ held.version ∧ Follows version q.cell held) :
    Coherent (q.resume index result) := by
  refine ⟨hpos, fun c hc held hheld => ?_⟩
  rcases mem_calls_resume.mp hc with hother | hself
  · exact hothers c hother held hheld
  · exact hnext c hself held hheld

lemma follows_of_known_none {cell : Option ClarificationState} (h : c.known = none) :
    ∀ held, c.known = some held → 1 ≤ held.version ∧ Follows version cell held := by
  intro _ hheld
  rw [h] at hheld
  cases hheld

variable {calls : List ClarificationCall}

lemma known_of_holdNothing (h : holdNothing calls = true) (hc : c ∈ calls) : c.known = none :=
  Option.isNone_iff_eq_none.mp (all_eq_true.mp h c hc)

section

variable (hq : Coherent q) (hcall : q.calls[index]? = some call)
  (halone : beginsAlone vocabulary limits q (.run index) = true)
include hq hcall halone

lemma follows_written (hcmd : call.command vocabulary limits = some command)
    (hsucc : succeeds q.cell command = true) (hc : c ∈ q.calls.eraseIdx index)
    {held : ClarificationState} (hheld : c.known = some held) :
    Follows version (written command) held ∧ written command ≠ some held := by
  obtain ⟨-, hfol⟩ := hq.follows c (mem_of_mem_eraseIdx hc) held hheld
  cases command with
  | set state expected =>
    obtain ⟨_, -⟩ := (ClarificationCall.guards_of_command hcmd).set state expected rfl
    cases hcell : q.cell with
    | none =>
      rw [hcell] at hsucc
      have hnothing : holdNothing (q.calls.eraseIdx index) = true := by
        simpa [beginsAlone, hcall, hcmd, hcell, hsucc] using halone
      rw [known_of_holdNothing hnothing hc] at hheld
      cases hheld
    | some now =>
      rw [hcell] at hfol hsucc
      have hver : now.version = expected := beq_iff_eq.mp hsucc
      have hlt : now.version < state.version := by omega
      exact ⟨hfol.write hlt, hfol.ne_of_lt hlt⟩
  | clear => exact ⟨follows_none, nofun⟩

lemma coherent_write (hcmd : call.command vocabulary limits = some command)
    (hsucc : succeeds q.cell command = true) :
    Coherent ((q.write call.known command).resume index (call.afterSuccess vocabulary limits)) := by
  refine coherent_resume ?_ ?_ ?_
  · intro _ hstate
    cases command with
    | set next expected =>
      obtain ⟨_, -⟩ := (ClarificationCall.guards_of_command hcmd).set next expected rfl
      cases hstate
      omega
    | clear => cases hstate
  · intro c hc held hheld
    exact ⟨(hq.follows c (mem_of_mem_eraseIdx hc) held hheld).1,
      (follows_written hq hcall halone hcmd hsucc hc hheld).1⟩
  · intro _ hc
    obtain ⟨_, -, hknown⟩ := ClarificationCall.next_afterSuccess hc
    exact follows_of_known_none hknown

lemma coherent_perform : Coherent (q.perform vocabulary limits get index call) := by
  have hothers : ∀ c ∈ q.calls.eraseIdx index, ∀ held, c.known = some held →
      1 ≤ held.version ∧ Follows version q.cell held := fun c hc =>
    hq.follows c (mem_of_mem_eraseIdx hc)
  rcases perform_cases q index call with
    hthrown | ⟨-, hread⟩ | ⟨command, hcmd, hsucc, hwrite⟩ | ⟨command, -, -, href⟩
  · rw [hthrown]
    refine coherent_resume hq.version_pos hothers fun c hc => ?_
    rw [ClarificationCall.next_thrown] at hc
    cases hc
  · rw [hread]
    refine coherent_resume hq.version_pos hothers fun c hc held hheld => ?_
    rcases ClarificationCall.known_afterRead hc with hnone | hcell
    · exact follows_of_known_none hnone held hheld
    · rw [hheld] at hcell
      exact ⟨hq.version_pos held hcell.symm, hcell ▸ .refl held⟩
  · rw [hwrite]
    exact coherent_write hq hcall halone hcmd hsucc
  · rw [href]
    refine coherent_resume hq.version_pos hothers fun c hc => ?_
    obtain ⟨_, -, hknown⟩ := ClarificationCall.next_afterRefusal hc
    exact follows_of_known_none hknown

end

lemma coherent_calls (hq : Coherent q) (hnew : ∀ c ∈ calls, c.known = none)
    (log : List ClarificationEntry) :
    Coherent { q with calls := q.calls ++ calls, log := log } := by
  refine ⟨hq.version_pos, fun c hc => ?_⟩
  rcases mem_append.mp hc with hold | hc
  · exact hq.follows c hold
  · exact follows_of_known_none (hnew c hc)

variable {e : ClarificationStep}

lemma coherent_step (hq : Coherent q) (halone : beginsAlone vocabulary limits q e = true)
    (h : step vocabulary limits q e = some t) : Coherent t := by
  cases e with
  | tick =>
    simp only [step, stepWith] at h
    split at h
    · cases h
    · cases h
      exact ⟨hq.version_pos, hq.follows⟩
  | expire =>
    simp only [step, stepWith] at h
    split at h
    · cases h
      refine ⟨?_, fun c hc held hheld => ⟨(hq.follows c hc held hheld).1, follows_none⟩⟩
      rintro _ ⟨⟩
    · cases h
  | handle =>
    cases h
    refine coherent_calls hq (fun c hc => ?_) q.log
    obtain rfl := mem_singleton.mp hc
    rfl
  | markDeliveryFailed =>
    simp only [step, stepWith] at h
    split at h
    · cases h
      exact hq
    · cases h
      refine coherent_calls hq (fun c hc => ?_) _
      obtain ⟨_, -, rfl⟩ := mem_map.mp hc
      rfl
  | run =>
    obtain ⟨call, hcall, rfl⟩ := Option.map_eq_some_iff.mp h
    exact coherent_perform hq hcall halone
  | throw =>
    obtain ⟨_, -, rfl⟩ := Option.map_eq_some_iff.mp h
    refine coherent_resume hq.version_pos
      (fun c hc => hq.follows c (mem_of_mem_eraseIdx hc)) fun c hc => ?_
    rw [ClarificationCall.next_thrown] at hc
    cases hc

/-! ## Writes that took effect -/

/-- Every write that took effect found what its call had read. -/
def Exact (log : List ClarificationEntry) : Prop :=
  ∀ known actual, .swapped known actual ∈ log → known = actual

lemma Exact.append {log entries : List ClarificationEntry} (h : Exact log)
    (hents : ∀ known actual, .swapped known actual ∉ entries) : Exact (log ++ entries) := by
  intro known actual hmem
  rcases mem_append.mp hmem with hold | hnew
  · exact h known actual hold
  · exact absurd hnew (hents known actual)

lemma swapped_notMem_of_quiet (h : result.Quiet) (known actual : Option ClarificationState) :
    .swapped known actual ∉ result.entries := by
  intro hmem
  obtain ⟨_, _, ⟨⟩, -⟩ := h _ hmem

lemma swapped_notMem_afterSuccess (call : ClarificationCall)
    (known actual : Option ClarificationState) :
    .swapped known actual ∉ (call.afterSuccess vocabulary limits).entries := by
  rcases call.afterSuccess_cases vocabulary limits with
    hquiet | ⟨_, _, _, -, -, hents⟩ | ⟨_, _, _, -, -, hents⟩
  · exact swapped_notMem_of_quiet hquiet known actual
  · simp [hents]
  · simp [hents]

lemma Coherent.known_eq_cell (hq : Coherent q) (hcall : q.calls[index]? = some call)
    (hver : clearsVersioned vocabulary limits q (.run index) = true)
    (hcmd : call.command vocabulary limits = some command)
    (hsucc : succeeds q.cell command = true) : call.known = q.cell := by
  by_cases hclear : command = .clear none
  · subst hclear
    have hguard := (ClarificationCall.guards_of_command hcmd).clear none rfl
    have hcell : q.cell = none := by
      simpa [clearsVersioned, hcall, hcmd] using hver
    rw [hcell]
    exact Option.map_eq_none_iff.mp hguard.symm
  · exact (hq.hits (mem_of_getElem? hcall) hcmd hsucc hclear).symm

lemma exact_step (hq : Coherent q) (hlog : Exact q.log)
    (hver : clearsVersioned vocabulary limits q e = true)
    (h : step vocabulary limits q e = some t) : Exact t.log := by
  cases e with
  | tick | expire =>
    simp only [step, stepWith] at h
    split at h <;> cases h
    exact hlog
  | handle =>
    cases h
    exact hlog
  | markDeliveryFailed =>
    simp only [step, stepWith] at h
    split at h <;> cases h
    · exact hlog
    · exact hlog.append (by simp)
  | run i =>
    obtain ⟨call, hcall, rfl⟩ := Option.map_eq_some_iff.mp h
    rcases perform_cases q i call with
      hthrown | ⟨-, hread⟩ | ⟨command, hcmd, hsucc, hwrite⟩ | ⟨command, -, -, href⟩
    · rw [hthrown]
      exact hlog.append (swapped_notMem_of_quiet (.thrown call))
    · rw [hread]
      exact hlog.append (swapped_notMem_of_quiet (.afterRead call q.cell))
    · rw [hwrite]
      have hhit := hq.known_eq_cell hcall hver hcmd hsucc
      have hswap : Exact (q.log ++ [.swapped call.known q.cell]) := by
        intro known actual hmem
        rcases mem_append.mp hmem with hold | hnew
        · exact hlog known actual hold
        · cases mem_singleton.mp hnew
          exact hhit
      exact hswap.append (swapped_notMem_afterSuccess call)
    · rw [href]
      exact hlog.append (swapped_notMem_of_quiet (.afterRefusal call q.clock))
  | throw =>
    obtain ⟨call, -, rfl⟩ := Option.map_eq_some_iff.mp h
    exact hlog.append (swapped_notMem_of_quiet (.thrown call))

/-- Every write that takes effect replaces or deletes exactly what its call has read. -/
theorem swaps_exact (vocabulary : ClarificationVocabulary) (limits : ClarificationLimits ℕ)
    (clock : ℤ) (events : List ClarificationStep) (t : ClarificationSystem)
    (hrun : run (step vocabulary limits) (init clock) events = some t)
    (hsafe : Along (step vocabulary limits) (fun q e =>
      beginsAlone vocabulary limits q e = true ∧ clearsVersioned vocabulary limits q e = true)
      (init clock) events) :
    ∀ known actual, .swapped known actual ∈ t.log → known = actual := by
  have hstep : ∀ q e t, Coherent q ∧ Exact q.log →
      (beginsAlone vocabulary limits q e = true ∧ clearsVersioned vocabulary limits q e = true) →
      step vocabulary limits q e = some t → Coherent t ∧ Exact t.log := by
    rintro _ _ _ ⟨hq, hlog⟩ ⟨halone, hver⟩ h
    exact ⟨coherent_step hq halone h, exact_step hq hlog hver h⟩
  have hinit : Coherent (init clock) ∧ Exact (init clock).log :=
    ⟨coherent_init clock, fun _ _ hmem => by cases hmem⟩
  exact (run_induction hstep hinit hsafe hrun).2

/-! ## Fixed runs -/

/-- The classification of the texts of the runs below. -/
def shortVocabulary : ClarificationVocabulary where
  isCancel text := text == "huy"
  parseChoice text := if text == "2" then some .schedule else none
  isContradictory _ := false
  isObviouslyOffTopic _ := false
  isStopIntent text := text == "huy"
  isAmbiguousMessage text := text == "lichh"

def DEFAULT_CLARIFICATION_LIMITS : ClarificationLimits ℕ where
  ttlMs := CLARIFICATION_TTL_MS
  maxAttempts := MAX_CLARIFICATION_ATTEMPTS
  maxMenuResets := MAX_CLARIFICATION_MENU_RESETS

def message (eventId userText : String) : ClarificationStep :=
  .handle { userText := userText, userId := some 7, eventId := some eventId,
            resolveStopReply := none }

def racingCalls : List ClarificationStep :=
  [message "e1" "lichh", message "e2" "lichh", .run 0, .run 0, .run 0, .run 0, .run 0,
    .markDeliveryFailed (some "e1"), message "e3" "2", .run 0, .run 0, .run 1, .run 0]

lemma step_eq_stepWith : step vocabulary limits = stepWith vocabulary limits getReadable := by
  rw [← get_eq_getReadable]
  rfl

def isSwap : ClarificationEntry → Bool
  | .swapped _ _ => true
  | _ => false

/-- In this race one write begins the menu and one consumes it, and both hit what was read. -/
theorem swaps_exact_racingCalls :
    ∃ t, run (step shortVocabulary DEFAULT_CLARIFICATION_LIMITS) (init 0) racingCalls = some t ∧
      (∃ known actual, .swapped known actual ∈ t.log) ∧
      ∀ known actual, .swapped known actual ∈ t.log → known = actual := by
  have hrun : (run (step shortVocabulary DEFAULT_CLARIFICATION_LIMITS) (init 0) racingCalls).map
      (fun t => t.log.any isSwap) = some true := by
    rw [step_eq_stepWith]
    decide +kernel
  obtain ⟨t, ht, hany⟩ := Option.map_eq_some_iff.mp hrun
  refine ⟨t, ht, ?_, swaps_exact shortVocabulary DEFAULT_CLARIFICATION_LIMITS 0 racingCalls t ht ?_⟩
  · obtain ⟨x, hx, hswap⟩ := any_eq_true.mp hany
    cases x with
    | swapped known actual => exact ⟨known, actual, hx⟩
    | _ => cases hswap
  · rw [step_eq_stepWith]
    decide +kernel

def cancelledLate : List ClarificationStep :=
  [message "e1" "huy", .run 0, message "e2" "lichh", .run 1, .run 1, .run 0]

def chosenLate : List ClarificationStep :=
  [message "e1" "lichh", .run 0, .run 0, message "e2" "2", .run 0, message "e3" "huy", .run 1,
    .run 1, message "e4" "lichh", .run 1, .run 1, .run 0]

def deletesUnread : ClarificationEntry → Bool
  | .swapped none (some _) => true
  | _ => false

/-- A write of a call that has read the menu of an event took effect on the menu of another one. -/
def replacesOther (readId storedId : String) : ClarificationEntry → Bool
  | .swapped (some known) (some actual) =>
    decide (known.lastEventId = some readId ∧ actual.lastEventId = some storedId)
  | _ => false

/-- A cancellation that has read nothing deletes a menu, and a choice on one menu replaces a later
one that has the same version. -/
theorem unseen_menu_swapped :
    (∃ t actual, run (step shortVocabulary DEFAULT_CLARIFICATION_LIMITS) (init 0) cancelledLate =
        some t ∧ .swapped none (some actual) ∈ t.log) ∧
      ∃ t known actual, run (step shortVocabulary DEFAULT_CLARIFICATION_LIMITS) (init 0)
        chosenLate = some t ∧ .swapped (some known) (some actual) ∈ t.log ∧
          known.lastEventId = some "e1" ∧ actual.lastEventId = some "e4" := by
  have hcanc : (run (step shortVocabulary DEFAULT_CLARIFICATION_LIMITS) (init 0)
      cancelledLate).map (fun t => t.log.any deletesUnread) = some true := by
    rw [step_eq_stepWith]
    decide +kernel
  have hchosen : (run (step shortVocabulary DEFAULT_CLARIFICATION_LIMITS) (init 0)
      chosenLate).map (fun t => t.log.any (replacesOther "e1" "e4")) = some true := by
    rw [step_eq_stepWith]
    decide +kernel
  constructor
  · obtain ⟨t, ht, hany⟩ := Option.map_eq_some_iff.mp hcanc
    obtain ⟨x, hx, hswap⟩ := any_eq_true.mp hany
    unfold deletesUnread at hswap
    split at hswap
    · exact ⟨t, _, ht, hx⟩
    · cases hswap
  · obtain ⟨t, ht, hany⟩ := Option.map_eq_some_iff.mp hchosen
    obtain ⟨_, hx, hswap⟩ := any_eq_true.mp hany
    unfold replacesOther at hswap
    split at hswap
    · exact ⟨t, _, _, ht, hx, decide_eq_true_iff.mp hswap⟩
    · cases hswap

end ClarificationSystem

end WispaceBot
