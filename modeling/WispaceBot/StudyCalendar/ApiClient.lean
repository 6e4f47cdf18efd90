import WispaceBot.Foundation.Json
import WispaceBot.StudyCalendar.CommandService

/-!
# The calendar over HTTP

`UserCalendarApiClient`: the three calls of the calendar port as requests, each under `withRetry`.
A request may be applied although its response is an error.  `createCalendar` posts the same body
again after a server or network error, and nothing tells WISPACE that it is the same request.  A
refusal by the circuit breaker is a request that was not applied, with an error that is not retried.
-/

namespace WispaceBot

open List

/-! ## Retries -/

def isAbortError : CalendarError → Bool
  | .aborted => true
  | _ => false

/-- `isWispaceRetryable`, with `WispaceApiError.isRetryable`. -/
def isWispaceRetryable : CalendarError → Bool
  | .status code => decide (500 ≤ code ∧ code ≤ 599)
  | .network => true
  | .aborted => false
  | .other => false

section Retry

variable {σ α : Type}

/-- The loop of `withRetry` without a signal, for a number of retries left. -/
def retryLoop (shouldRetry : CalendarError → Bool) (fn : EStateM CalendarError σ α) :
    ℕ → EStateM CalendarError σ α
  | 0 => fn
  | retries + 1 => tryCatch fn fun error =>
    if isAbortError error || !shouldRetry error then throw error
    else retryLoop shouldRetry fn retries

/-- `withRetry`.  With a negative number of retries the loop body never runs. -/
def withRetry (maxRetries : ℤ) (shouldRetry : CalendarError → Bool)
    (fn : EStateM CalendarError σ α) : EStateM CalendarError σ α :=
  if maxRetries < 0 then throw .other
  else retryLoop shouldRetry fn maxRetries.toNat

lemma withRetry_triple {I : σ → Prop} {Q : α → σ → Prop} {fn : EStateM CalendarError σ α}
    (hfn : Triple I fn Q (fun _ => I)) (max : ℤ) (shouldRetry : CalendarError → Bool) :
    Triple I (withRetry max shouldRetry fn) Q (fun _ => I) := by
  have hloop : ∀ retries, Triple I (retryLoop shouldRetry fn retries) Q (fun _ => I) := by
    intro retries
    induction retries with
    | zero => exact hfn
    | succ _ ih =>
      refine Triple.tryCatch hfn fun error => ?_
      split
      · exact Triple.throw (E := fun _ => I) error
      · exact ih
  unfold withRetry
  split
  · exact Triple.throw (E := fun _ => I) _
  · exact hloop _

end Retry

/-! ## Reading the rows -/

/-- `Number(text)` for texts of an integer; other texts are taken as not a number. -/
def textNumber (text : String) : Option ℤ :=
  match (trim text).toList with
  | [] => some 0
  | '-' :: digits => if !digits.isEmpty && digits.all Char.isDigit then some (-digitsValue digits)
    else none
  | digits => if digits.all Char.isDigit then some (digitsValue digits) else none

/-- `Number(value)`; `none` is not a number. -/
def toNumber : Json → Option ℤ
  | .num n => some n
  | .str text => textNumber text
  | .bool b => some (if b then 1 else 0)
  | .null => some 0
  | _ => none

/-- `item.key ?? item.Key`. -/
def coalesce (key upperKey : String) (item : Json) : Option Json :=
  match item.property key with
  | none | some .null =>
    match item.property upperKey with
    | none | some .null => none
    | some value => some value
  | some value => some value

def stringifyCalendarField : Option Json → String
  | some (.str text) => trim text
  | some (.num n) => toString n
  | some (.bool b) => if b then "true" else "false"
  | _ => ""

/-- The first ten characters of a text that begins with `YYYY-MM-DDT`. -/
def isoDate (text : String) : Option String :=
  match (text.toList).drop 10 with
  | 'T' :: _ =>
    let date := String.ofList (text.toList.take 10)
    if isLocalDate date then some date else none
  | _ => none

def sliceDate (text : String) : String :=
  (isoDate text).getD text

def nonEmpty (text : String) : Option String :=
  if text = "" then none else some text

/-- `Number(item.id ?? item.Id)`, if it is an id. -/
def readId (item : Json) : Option ℤ :=
  match (coalesce "id" "Id" item).bind toNumber with
  | some id => if 0 < id then some id else none
  | none => none

def normalizeUserCalendarRecord (item : Json) : Option UserCalendarRecord := do
  let id ← readId item
  let eventDateRaw ← coalesce "eventDate" "EventDate" item
  let eventDate ← nonEmpty (stringifyCalendarField (some eventDateRaw))
  return {
    id := id
    userId := ((coalesce "userId" "UserId" item).bind toNumber).getD 0
    eventDate := sliceDate eventDate
    time := nonEmpty (stringifyCalendarField (coalesce "time" "Time" item))
    createdAt := nonEmpty (stringifyCalendarField (coalesce "createdAt" "CreatedAt" item)) }

lemma normalizeUserCalendarRecord_of_fields {item raw : Json} {id uid : ℤ} {date : String}
    {time createdAt : Option String} (hid : readId item = some id)
    (hraw : coalesce "eventDate" "EventDate" item = some raw)
    (hdate : nonEmpty (stringifyCalendarField (some raw)) = some date)
    (huser : (coalesce "userId" "UserId" item).bind toNumber = some uid)
    (htime : nonEmpty (stringifyCalendarField (coalesce "time" "Time" item)) = time)
    (hcreated : nonEmpty (stringifyCalendarField (coalesce "createdAt" "CreatedAt" item)) =
      createdAt) :
    normalizeUserCalendarRecord item = some ⟨id, uid, sliceDate date, time, createdAt⟩ := by
  simp [normalizeUserCalendarRecord, hid, hraw, hdate, huser, htime, hcreated]

/-- `normalizeUserCalendarRecords`: one row that cannot be read fails the whole list. -/
def normalizeUserCalendarRecords (rows : List Json) :
    Except CalendarError (List UserCalendarRecord) :=
  match rows.mapM normalizeUserCalendarRecord with
  | some records => .ok records
  | none => .error .other

def unwrapCalendarCreatePayload (payload : Json) : Json :=
  match coalesce "data" "Data" payload with
  | some (.obj fields) => .obj fields
  | _ => payload

section

variable (payload : Json) (input : ResolvedStudyCalendarSlot) (userId : ℤ)

/-- `normalizeCreatedCalendarRecord`: a row without a date is completed from the request. -/
def normalizeCreatedCalendarRecord : Option UserCalendarRecord :=
  let item := unwrapCalendarCreatePayload payload
  match normalizeUserCalendarRecord item with
  | some record => some record
  | none => do
    let id ← readId item
    let owner := match coalesce "userId" "UserId" item with
      | some value => (toNumber value).getD 0
      | none => userId
    return {
      id := id
      userId := owner
      eventDate := sliceDate (trim input.eventDate)
      time := some input.time
      createdAt := none }

/-- The record created, or the `ShapeValidationError` of a payload without an id. -/
def readCreated : Except CalendarError UserCalendarRecord :=
  match normalizeCreatedCalendarRecord payload input userId with
  | some created => .ok created
  | none => .error .other

end

def formatEventDateForApiWrite (eventDate : String) : Except CalendarError String :=
  let trimmed := trim eventDate
  if isLocalDate trimmed then .ok (trimmed ++ "T00:00:00Z")
  else if (isoDate trimmed).isSome then
    .ok (if trimmed.toList.getLast? = some 'Z' then trimmed else trimmed ++ "Z")
  else .error .other

/-! ## Requests -/

/-- A row of the calendar upstream.  The date is the posted timestamp. -/
structure CalendarRow where
  id : ℕ+
  userId : ℤ
  (eventDate time : String)

/-- The user of the token, and how a row is written as JSON. -/
structure WispaceApi where
  userId : ℤ
  showRow : CalendarRow → Json

/-- What a request ends with. -/
inductive HttpResponse
  | ok (payload : Json)
  | status (code : ℕ)
  | network
  | aborted
  | unreadable

/-- Whether a request is applied upstream, and how it ends for the client. -/
structure HttpReply where
  applied : Bool
  response : HttpResponse

def HttpResponse.error : HttpResponse → CalendarError
  | .status code => .status code
  | .network => .network
  | .aborted => .aborted
  | .ok _ | .unreadable => .other

/-- What the client makes of a response: the payload of one that is ok is read. -/
def HttpResponse.read {α : Type} (readPayload : Json → Except CalendarError α) :
    HttpResponse → Except CalendarError α
  | .ok payload => readPayload payload
  | response => .error response.error

lemma HttpResponse.read_eq_error {α : Type} {readPayload : Json → Except CalendarError α}
    (hread : ∀ payload error, readPayload payload = .error error → error = .other)
    {response : HttpResponse} {error : CalendarError}
    (h : response.read readPayload = .error error) : error = response.error := by
  cases response with
  | ok payload => exact hread payload error h
  | status | network | aborted | unreadable => exact (Except.error.inj h).symm

/-- The replies to the requests of one `rescheduleSession`, in the order of the requests. -/
structure HttpReplies where
  list : ℕ → HttpReply
  create : ℕ → HttpReply
  delete : ℕ → HttpReply

/-- The rows upstream, the ids handed out, and the requests made. -/
structure HttpSession where
  rows : List CalendarRow
  (lastId gets posts deletes : ℕ)

/-- The end of a request: what the client made of the response, and the state upstream. -/
def endRequest {α : Type} (r : Except CalendarError α) (s : HttpSession) :
    EStateM.Result CalendarError HttpSession α :=
  match r with
  | .ok value => .ok value s
  | .error error => .error error s

lemma endsIn_endRequest {α : Type} {Q : α → HttpSession → Prop}
    {E : CalendarError → HttpSession → Prop} {r : Except CalendarError α} {s : HttpSession}
    (hok : ∀ value, r = .ok value → Q value s) (herror : ∀ error, r = .error error → E error s) :
    EndsIn Q E (endRequest r s) := by
  cases r with
  | ok value => exact hok value rfl
  | error error => exact herror error rfl

section Client

variable (api : WispaceApi) (replies : HttpReplies)

def doListCalendars : EStateM CalendarError HttpSession (List UserCalendarRecord) := fun s =>
  endRequest
    ((replies.list s.gets).response.read fun _ =>
      normalizeUserCalendarRecords (s.rows.map api.showRow))
    { s with gets := s.gets + 1 }

def HttpSession.post (s : HttpSession) (applied : Bool) (userId : ℤ) (eventDate time : String) :
    HttpSession :=
  if applied then
    { s with
      rows := s.rows ++ [⟨s.lastId.succPNat, userId, eventDate, time⟩]
      lastId := s.lastId + 1
      posts := s.posts + 1 }
  else { s with posts := s.posts + 1 }

def doCreateCalendar (input : ResolvedStudyCalendarSlot) (userId : ℤ) :
    EStateM CalendarError HttpSession UserCalendarRecord := fun s =>
  match formatEventDateForApiWrite input.eventDate with
  | .error error => .error error s
  | .ok eventDate =>
    let reply := replies.create s.posts
    endRequest (reply.response.read fun payload => readCreated payload input userId)
      (s.post reply.applied api.userId eventDate input.time)

def HttpSession.delete (s : HttpSession) (applied : Bool) (calendarId : ℤ) : HttpSession :=
  if applied then
    { s with
      rows := s.rows.filter fun row => ((row.id : ℕ) : ℤ) ≠ calendarId
      deletes := s.deletes + 1 }
  else { s with deletes := s.deletes + 1 }

def doDeleteCalendar (calendarId : ℤ) : EStateM CalendarError HttpSession Unit := fun s =>
  let reply := replies.delete s.deletes
  endRequest (reply.response.read fun _ => .ok ()) (s.delete reply.applied calendarId)

/-- An operation under `guarded`, as the calendar port calls it.  The breaker's own time-out, which
may end a call whose requests go on, is taken not to fire. -/
def guarded {α : Type} (maxRetries : ℤ) (op : EStateM CalendarError HttpSession α) :
    EStateM RescheduleFailure HttpSession α :=
  EStateM.adaptExcept RescheduleFailure.calendar (withRetry maxRetries isWispaceRetryable op)

lemma guarded_triple {α : Type} {I : HttpSession → Prop} {Q : α → HttpSession → Prop}
    {op : EStateM CalendarError HttpSession α} (hop : Triple I op Q (fun _ => I)) (max : ℤ) :
    Triple I (guarded max op) Q (fun _ => I) :=
  Triple.adaptExcept (withRetry_triple hop max isWispaceRetryable)

/-- `UserCalendarApiClient`, as the calendar port of one user. -/
def userCalendarApiClient (maxRetries : ℤ) : StudyCalendarPort HttpSession where
  listCalendars := guarded maxRetries (doListCalendars api replies)
  createCalendar := fun input userId =>
    guarded maxRetries (doCreateCalendar api replies input userId)
  deleteCalendar := fun calendarId => guarded maxRetries (doDeleteCalendar replies calendarId)

end Client

/-! ## Attempts -/

/-- One attempt: its clock readings and the replies to its requests. -/
structure RescheduleAttempt where
  clock : RescheduleClock
  replies : HttpReplies

section Attempts

variable (api : WispaceApi) (maxRetries : ℤ) (config : CommandServiceConfig)
  (params : RescheduleParams)

def attemptReschedule (s : HttpSession) (attempt : RescheduleAttempt) : HttpSession :=
  endState (rescheduleSession (userCalendarApiClient api attempt.replies maxRetries) config
    attempt.clock params) { s with gets := 0, posts := 0, deletes := 0 }

/-- The attempts are made one after the other. -/
def attemptAll (attempts : List RescheduleAttempt) (s : HttpSession) : HttpSession :=
  attempts.foldl (attemptReschedule api maxRetries config params) s

end Attempts

def CalendarRow.isFor (userId : ℤ) (slot : ResolvedStudyCalendarSlot) (row : CalendarRow) : Bool :=
  row.userId == userId && row.eventDate == slot.eventDate ++ "T00:00:00Z" && row.time == slot.time

def countFor (userId : ℤ) (slot : ResolvedStudyCalendarSlot) (rows : List CalendarRow) : ℕ :=
  rows.countP (CalendarRow.isFor userId slot)

/-- WISPACE lists a row of the user at the slot with this owner, date and time. -/
def ListsBack (api : WispaceApi) (userId : ℤ) (slot : ResolvedStudyCalendarSlot) : Prop :=
  ∀ row : CalendarRow, row.isFor userId slot = true →
    ∃ record, normalizeUserCalendarRecord (api.showRow row) = some record ∧
      record.userId = userId ∧ record.at slot = true

/-- A create that was applied is not sent again. -/
def SendsOnce (maxRetries : ℤ) (replies : HttpReplies) : Prop :=
  ∀ n : ℕ, (n : ℤ) < maxRetries → (replies.create n).applied = true →
    isWispaceRetryable (replies.create n).response.error = false

/-! ## At most one replacement -/

lemma formatEventDateForApiWrite_of_isLocalDate {date : String} (h : isLocalDate date = true) :
    formatEventDateForApiWrite date = .ok (date ++ "T00:00:00Z") := by
  simp [formatEventDateForApiWrite, trim_of_isLocalDate h, h]

lemma mem_of_normalizeUserCalendarRecords {rows : List Json} {recs : List UserCalendarRecord}
    (h : normalizeUserCalendarRecords rows = .ok recs) {row : Json} (hrow : row ∈ rows)
    {rec : UserCalendarRecord} (hrec : normalizeUserCalendarRecord row = some rec) :
    rec ∈ recs := by
  have hmapM : ∀ {rows : List Json} {recs : List UserCalendarRecord},
      rows.mapM normalizeUserCalendarRecord = some recs → row ∈ rows → rec ∈ recs := by
    intro rows
    induction rows with
    | nil => exact fun _ hmem => absurd hmem not_mem_nil
    | cons _ _ ih =>
      intro _ hsome hmem
      rw [mapM_cons] at hsome
      obtain ⟨_, hfirst, hrest⟩ := Option.bind_eq_some_iff.mp hsome
      obtain ⟨_, hothers, hreturn⟩ := Option.bind_eq_some_iff.mp hrest
      cases hreturn
      rcases mem_cons.mp hmem with rfl | htail
      · exact mem_cons.mpr (.inl (Option.some.inj (hrec.symm.trans hfirst)))
      · exact mem_cons_of_mem _ (ih hothers htail)
  simp only [normalizeUserCalendarRecords] at h
  split at h
  next _ hlist =>
    exact Except.ok.inj h ▸ hmapM hlist hrow
  · cases h

section AtMostOne

variable {api : WispaceApi} {replies : HttpReplies} {maxRetries : ℤ} {userId : ℤ}
  {slot target : ResolvedStudyCalendarSlot}

lemma listCalendars_spec (I : List CalendarRow → Prop) :
    Triple (fun s => I s.rows ∧ s.posts = 0)
      (userCalendarApiClient api replies maxRetries).listCalendars
      (fun recs s => normalizeUserCalendarRecords (s.rows.map api.showRow) = .ok recs ∧
        I s.rows ∧ s.posts = 0) (fun _ s => I s.rows ∧ s.posts = 0) := by
  refine guarded_triple ⟨fun s hs => ?_⟩ maxRetries
  refine endsIn_endRequest ?_ (fun _ _ => hs)
  intro _ hread
  refine ⟨?_, hs⟩
  cases hresp : (replies.list s.gets).response with
  | ok =>
    rw [hresp] at hread
    exact hread
  | status | network | aborted | unreadable => rw [hresp] at hread; cases hread

lemma deleteCalendar_countFor (calendarId : ℤ) (bound : ℕ) :
    Triple (fun s => countFor userId slot s.rows ≤ bound)
      ((userCalendarApiClient api replies maxRetries).deleteCalendar calendarId)
      (fun _ s => countFor userId slot s.rows ≤ bound)
      (fun _ s => countFor userId slot s.rows ≤ bound) := by
  have hrows : ∀ (s : HttpSession) (applied : Bool), countFor userId slot s.rows ≤ bound →
      countFor userId slot (s.delete applied calendarId).rows ≤ bound := by
    intro s applied hs
    cases applied with
    | true => exact Nat.le_trans (Sublist.countP_le filter_sublist) hs
    | false => exact hs
  refine guarded_triple ⟨fun s hs => ?_⟩ maxRetries
  exact endsIn_endRequest (fun _ _ => hrows s _ hs) (fun _ _ => hrows s _ hs)

lemma countFor_post (s : HttpSession) (applied : Bool) (owner : ℤ) (date time : String) :
    countFor userId slot (s.post applied owner date time).rows = countFor userId slot s.rows +
        if applied && CalendarRow.isFor userId slot ⟨s.lastId.succPNat, owner, date, time⟩ then 1
        else 0 := by
  cases applied with
  | false => simp [HttpSession.post]
  | true => simp [HttpSession.post, countFor, countP_append, countP_singleton]

def afterPost (api : WispaceApi) (replies : HttpReplies) (target : ResolvedStudyCalendarSlot)
    (s : HttpSession) : HttpSession :=
  s.post (replies.create s.posts).applied api.userId (target.eventDate ++ "T00:00:00Z") target.time

lemma doCreateCalendar_triple {P : HttpSession → Prop} {Q : HttpSession → Prop}
    {E : CalendarError → HttpSession → Prop} (hdate : isLocalDate target.eventDate = true)
    (hok : ∀ s, P s → Q (afterPost api replies target s)) (herror : ∀ s, P s →
      E (replies.create s.posts).response.error (afterPost api replies target s)) :
    Triple P (doCreateCalendar api replies target userId) (fun _ => Q) E := by
  constructor
  intro s hs
  simp only [doCreateCalendar, formatEventDateForApiWrite_of_isLocalDate hdate]
  refine endsIn_endRequest (fun _ _ => hok s hs) fun error hread => ?_
  have hsame : error = (replies.create s.posts).response.error := by
    refine HttpResponse.read_eq_error ?_ hread
    intro _ _ hcreated
    simp only [readCreated] at hcreated
    split at hcreated
    · cases hcreated
    · exact (Except.error.inj hcreated).symm
  exact hsame ▸ herror s hs

lemma eq_of_isFor_posted {id : ℕ+} {owner : ℤ}
    (h : CalendarRow.isFor userId slot ⟨id, owner, target.eventDate ++ "T00:00:00Z", target.time⟩ =
      true) : target = slot := by
  simp only [CalendarRow.isFor, Bool.and_eq_true, beq_iff_eq] at h
  obtain ⟨⟨-, hdate⟩, htime⟩ := h
  have hsame : target.eventDate = slot.eventDate := by
    have hlist := congrArg String.toList hdate
    rw [String.toList_append, String.toList_append] at hlist
    exact String.toList_inj.mp (append_cancel_right hlist)
  cases target
  cases slot
  simp only at hsame htime
  rw [hsame, htime]

section

variable (hdate : isLocalDate target.eventDate = true)
include hdate

lemma createCalendar_other_countFor (hother : target ≠ slot) (bound : ℕ) :
    Triple (fun s => countFor userId slot s.rows ≤ bound)
      ((userCalendarApiClient api replies maxRetries).createCalendar target userId)
      (fun _ s => countFor userId slot s.rows ≤ bound)
      (fun _ s => countFor userId slot s.rows ≤ bound) := by
  have hrows : ∀ s : HttpSession, countFor userId slot s.rows ≤ bound →
      countFor userId slot (afterPost api replies target s).rows ≤ bound := by
    intro _ hs
    rw [afterPost, countFor_post, if_neg, Nat.add_zero]
    · exact hs
    · exact fun h => hother (eq_of_isFor_posted (Bool.and_eq_true_iff.mp h).2)
  exact guarded_triple (doCreateCalendar_triple hdate hrows hrows) maxRetries

lemma retryLoop_create_countFor (hsend : SendsOnce maxRetries replies) (retries posts : ℕ)
    (hleft : (posts : ℤ) + retries = maxRetries) :
    Triple (fun s => s.posts = posts ∧ countFor userId slot s.rows = 0)
      (retryLoop isWispaceRetryable (doCreateCalendar api replies target userId) retries)
      (fun _ s => countFor userId slot s.rows ≤ 1)
      (fun _ s => countFor userId slot s.rows ≤ 1) := by
  have hcount : ∀ s : HttpSession, countFor userId slot s.rows = 0 →
      countFor userId slot (afterPost api replies target s).rows ≤ 1 := by
    intro s hzero
    rw [afterPost, countFor_post, hzero, Nat.zero_add]
    split <;> decide
  induction retries generalizing posts with
  | zero =>
    exact doCreateCalendar_triple hdate (fun s hs => hcount s hs.2) (fun s hs => hcount s hs.2)
  | succ _ ih =>
    -- an error that is retried leaves the slot empty
    have htry : Triple (fun s => s.posts = posts ∧ countFor userId slot s.rows = 0)
        (doCreateCalendar api replies target userId)
        (fun _ s => countFor userId slot s.rows ≤ 1)
        (fun error s => countFor userId slot s.rows ≤ 1 ∧ (isWispaceRetryable error = true →
          s.posts = posts + 1 ∧ countFor userId slot s.rows = 0)) := by
      refine doCreateCalendar_triple hdate (fun s hs => hcount s hs.2) fun s hs => ?_
      obtain ⟨hposts, hzero⟩ := hs
      refine ⟨hcount s hzero, fun hretry => ?_⟩
      cases happ : (replies.create s.posts).applied with
      | true =>
        have hfinal := hsend s.posts (by omega) happ
        exact absurd (hfinal.symm.trans hretry) Bool.false_ne_true
      | false =>
        simp only [afterPost, happ, HttpSession.post, Bool.false_eq_true, if_false]
        exact ⟨congrArg (· + 1) hposts, hzero⟩
    refine Triple.tryCatch htry fun error => ?_
    split
    · exact (Triple.throw (E := fun _ s => countFor userId slot s.rows ≤ 1) error).imp
        (fun s hs => hs.1) (fun _ _ hs => hs) (fun _ _ hs => hs)
    next hretried =>
      simp only [Bool.or_eq_true, Bool.not_eq_true', not_or, Bool.not_eq_false] at hretried
      exact (ih (posts + 1) (by push_cast; omega)).imp (fun s hs => hs.2 hretried.2)
        (fun _ _ hs => hs) (fun _ _ hs => hs)

lemma createTargetIdempotent_countFor (hsend : SendsOnce maxRetries replies)
    (hlists : ListsBack api userId slot) (recs : List UserCalendarRecord) :
    Triple (fun s => normalizeUserCalendarRecords (s.rows.map api.showRow) = .ok recs ∧
        countFor userId slot s.rows ≤ 1 ∧ s.posts = 0)
      (createTargetIdempotent (userCalendarApiClient api replies maxRetries) recs target userId)
      (fun _ s => countFor userId slot s.rows ≤ 1)
      (fun _ s => countFor userId slot s.rows ≤ 1) := by
  refine Triple.bind (Triple.imp (Triple.ofExcept (P := fun s : HttpSession =>
      normalizeUserCalendarRecords (s.rows.map api.showRow) = .ok recs ∧
        countFor userId slot s.rows ≤ 1 ∧ s.posts = 0) _)
    (fun s hs => hs) (fun _ s hs => hs) (fun _ s hs => hs.2.1)) fun found => ?_
  refine Triple.of_fact fun hex => ?_
  cases found with
  | some => exact ⟨fun s hs => hs.2.1⟩
  | none =>
    by_cases hsame : target = slot
    · subst hsame
      refine Triple.adaptExcept ?_
      unfold withRetry
      split
      · exact (Triple.throw (E := fun _ s => countFor userId target s.rows ≤ 1) _).imp
          (fun s hs => hs.2.1) (fun _ _ hs => hs) (fun _ _ hs => hs)
      · refine (retryLoop_create_countFor hdate hsend maxRetries.toNat 0 (by omega)).imp ?_
          (fun _ _ hs => hs) (fun _ _ hs => hs)
        rintro s ⟨hlist, -, hposts⟩
        refine ⟨hposts, countP_eq_zero.mpr fun row hrow hfor => ?_⟩
        obtain ⟨rec, hrec, huser, hat⟩ := hlists row hfor
        have hmem := mem_of_normalizeUserCalendarRecords hlist (mem_map_of_mem hrow) hrec
        exact existingTarget_none hex rec hmem hat huser
    · exact (createCalendar_other_countFor hdate hsame 1).imp (fun s hs => hs.2.1)
        (fun _ _ hs => hs) (fun _ _ hs => hs)

end

lemma attemptReschedule_countFor {cfg : CommandServiceConfig} {par : RescheduleParams}
    (hlists : ListsBack api par.userId slot) {att : RescheduleAttempt}
    (hsend : SendsOnce maxRetries att.replies) {s : HttpSession}
    (hone : countFor par.userId slot s.rows ≤ 1) :
    countFor par.userId slot (attemptReschedule api maxRetries cfg par s att).rows ≤ 1 := by
  have hrule : Triple
      (fun s : HttpSession => countFor par.userId slot s.rows ≤ 1 ∧ s.posts = 0)
      (rescheduleSession (userCalendarApiClient api att.replies maxRetries) cfg att.clock par)
      (fun _ s => countFor par.userId slot s.rows ≤ 1)
      (fun _ s => countFor par.userId slot s.rows ≤ 1) := by
    refine rescheduleSession_triple (C := fun s => countFor par.userId slot s.rows ≤ 1) _
      ((listCalendars_spec (fun rows => countFor par.userId slot rows ≤ 1)).imp
        (fun s hs => hs) (fun _ s hs => hs) (fun _ s hs => hs.1))
      (fun _ s hs => hs.2.1) ?_ (deleteCalendar_countFor par.calendarId 1) (fun s hs => hs)
    intro recs _ _ hcheck
    have hdate := isLocalDate_of_resolveRescheduleSlot (checkRequest_ok hcheck).2.2
    exact (createTargetIdempotent_countFor hdate hsend hlists recs).imp (fun s hs => hs)
      (fun _ s hs => ⟨hs, fun _ => hs⟩) (fun _ s hs => hs)
  exact hrule.at_end ⟨hone, rfl⟩

/-- If no create that was applied is sent again and WISPACE lists the row it has made, any number of
attempts leaves at most one row of the user at the slot. -/
theorem at_most_one_replacement (api : WispaceApi) (maxRetries : ℤ) (config : CommandServiceConfig)
    (params : RescheduleParams) (slot : ResolvedStudyCalendarSlot)
    (hlists : ListsBack api params.userId slot) (attempts : List RescheduleAttempt)
    (hsend : ∀ attempt ∈ attempts, SendsOnce maxRetries attempt.replies) (s : HttpSession)
    (hnone : countFor params.userId slot s.rows = 0) :
    countFor params.userId slot (attemptAll api maxRetries config params attempts s).rows ≤ 1 := by
  have hone : ∀ (attempts : List RescheduleAttempt) (s : HttpSession),
      (∀ attempt ∈ attempts, SendsOnce maxRetries attempt.replies) →
      countFor params.userId slot s.rows ≤ 1 →
      countFor params.userId slot
        (attemptAll api maxRetries config params attempts s).rows ≤ 1 := by
    intro attempts
    induction attempts with
    | nil => exact fun _ _ hs => hs
    | cons attempt _ ih =>
      intro s hall hs
      have hfirst := hall attempt mem_cons_self
      exact ih (attemptReschedule api maxRetries config params s attempt)
        (fun other hmem => hall other (mem_cons_of_mem _ hmem))
        (attemptReschedule_countFor hlists hfirst hs)
  exact hone attempts s hsend (hnone ▸ Nat.zero_le 1)

/-- WISPACE as it answers user 42, with the rows under the names of their columns. -/
def wispaceFor42 : WispaceApi where
  userId := 42
  showRow := fun row => .obj [("id", .num (row.id : ℕ)), ("userId", .num row.userId),
    ("eventDate", .str row.eventDate), ("time", .str row.time)]

def nextDayRequest : RescheduleParams where
  userId := 42
  calendarId := 5
  schedulingMode := .explicit
  newLocalDate := some "2026-05-02"
  newTime := none

def onlyRow : HttpSession where
  rows := [⟨5, 42, "2026-05-01T00:00:00Z", "19:00"⟩]
  lastId := 5
  gets := 0
  posts := 0
  deletes := 0

def createdPayload : Json :=
  .obj [("id", .num 6)]

/-- An attempt whose requests are all applied, with the given replies to its posts. -/
def attemptWith (create : ℕ → HttpReply) : RescheduleAttempt where
  clock := ⟨0, 0, 0⟩
  replies :=
    { list := fun _ => ⟨true, .ok .null⟩
      create := create
      delete := fun _ => ⟨true, .ok .null⟩ }

lemma wispaceFor42_listsBack : ListsBack wispaceFor42 42 ⟨"2026-05-02", "19:00"⟩ := by
  rintro ⟨id, _, _, time⟩ hfor
  simp only [CalendarRow.isFor, Bool.and_eq_true, beq_iff_eq] at hfor
  obtain ⟨⟨howner, hdate⟩, htime⟩ := hfor
  subst howner hdate htime
  have hid : readId (wispaceFor42.showRow ⟨id, 42, "2026-05-02" ++ "T00:00:00Z", "19:00"⟩) =
      some ((id : ℕ) : ℤ) :=
    if_pos (Int.natCast_pos.mpr id.pos)
  have hraw : coalesce "eventDate" "EventDate"
      (wispaceFor42.showRow ⟨id, 42, "2026-05-02" ++ "T00:00:00Z", "19:00"⟩) =
        some (.str "2026-05-02T00:00:00Z") :=
    rfl
  have hdate : nonEmpty (stringifyCalendarField (some (.str "2026-05-02T00:00:00Z"))) =
      some "2026-05-02T00:00:00Z" :=
    rfl
  have huser : (coalesce "userId" "UserId"
      (wispaceFor42.showRow ⟨id, 42, "2026-05-02" ++ "T00:00:00Z", "19:00"⟩)).bind toNumber =
        some 42 :=
    rfl
  have htime : coalesce "time" "Time"
      (wispaceFor42.showRow ⟨id, 42, "2026-05-02" ++ "T00:00:00Z", "19:00"⟩) =
        some (.str "19:00") :=
    rfl
  have hshown : nonEmpty (stringifyCalendarField (some (.str "19:00"))) = some "19:00" := rfl
  refine ⟨_, normalizeUserCalendarRecord_of_fields hid hraw hdate huser (htime ▸ hshown) rfl, ?_⟩
  exact ⟨rfl, rfl⟩

def appliedThenTimedOut (n : ℕ) : HttpReply :=
  if n = 0 then ⟨false, .status 503⟩ else ⟨true, .aborted⟩

/-- The response to the create is lost, and the second attempt finds the row. -/
theorem at_most_one_replacement_lostResponse :
    countFor 42 ⟨"2026-05-02", "19:00"⟩ (attemptAll wispaceFor42 3 zaloService nextDayRequest
        [attemptWith appliedThenTimedOut, attemptWith fun _ => ⟨true, .ok createdPayload⟩]
        onlyRow).rows ≤ 1 := by
  refine at_most_one_replacement wispaceFor42 3 zaloService nextDayRequest
    ⟨"2026-05-02", "19:00"⟩ wispaceFor42_listsBack _ ?_ onlyRow (by decide)
  intro _ hmem n _ happ
  rcases mem_pair.mp hmem with rfl | rfl
  · change (appliedThenTimedOut n).applied = true at happ
    change isWispaceRetryable (appliedThenTimedOut n).response.error = false
    unfold appliedThenTimedOut at happ ⊢
    split at happ
    · cases happ
    next hlater =>
      rw [if_neg hlater]
      rfl
  · rfl

/-- The first create was applied and answered with 503, so it is sent again. -/
theorem two_replacements :
    countFor 42 ⟨"2026-05-02", "19:00"⟩ onlyRow.rows = 0 ∧ countFor 42 ⟨"2026-05-02", "19:00"⟩
        (attemptAll wispaceFor42 3 zaloService nextDayRequest
          [attemptWith fun n => if n = 0 then ⟨true, .status 503⟩ else ⟨true, .ok createdPayload⟩]
          onlyRow).rows = 2 := by
  decide +kernel

end AtMostOne

end WispaceBot
