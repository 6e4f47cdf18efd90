import WispaceBot.ScheduledReport.ClaimAndSend

/-!
# Reports on Discord

A report is sent in chunks, each with a nonce, and the provider drops a message whose nonce it has
seen.  The nonce is the delivery key without what is not a letter or a digit, cut to 25 characters:
what is left are the first twelve digits of the user (`nonce_eq_iff`).  So of a report of two chunks
only the first is shown (`chunk_dropped`).  `report_chunks_shown` says when nonces identify chunks.
-/

namespace WispaceBot

open List Transition

/-! ## Nonces -/

/-- A user id of Discord: a decimal number of 17 to 20 digits. -/
structure DiscordUserId where
  text : String
  digits : ∀ c ∈ text.toList, c.isDigit = true
  long : 17 ≤ text.toList.length
  short : text.toList.length ≤ 20

def DiscordUserId.mapping (user : DiscordUserId) (userId : Option ℤ) : ReportMapping where
  platform := .discord
  externalUserId := user.text
  userId := userId

/-- The nonce that `sendReport` makes of a delivery key. -/
def reportNonce (deliveryKey : String) : List Char :=
  (deliveryKey.toList.filter Char.isAlphanum).take 25

def DiscordUserId.nonce (user : DiscordUserId) (reportDate : String) : List Char :=
  reportNonce ((user.mapping none).deliveryKey reportDate)

def DiscordUserId.head (user : DiscordUserId) : List Char :=
  user.text.toList.take 12

lemma nonce_eq (user : DiscordUserId) (day : String) :
    user.nonce day =
      ['d', 'i', 's', 'c', 'o', 'r', 'd', 'r', 'e', 'p', 'o', 'r', 't'] ++ user.head := by
  have halnum : user.text.toList.filter Char.isAlphanum = user.text.toList := by
    rw [filter_eq_self]
    intro c hc
    simp [Char.isAlphanum, user.digits c hc]
  have hlen : 12 ≤ user.text.toList.length := by
    have := user.long
    omega
  have hwords : ("discord".toList ++ "-report:".toList).filter Char.isAlphanum =
      ['d', 'i', 's', 'c', 'o', 'r', 'd', 'r', 'e', 'p', 'o', 'r', 't'] := by decide
  simp only [DiscordUserId.nonce, reportNonce, ReportMapping.deliveryKey, DiscordUserId.mapping,
    Platform.name, String.toList_append, append_assoc]
  rw [← append_assoc, filter_append, hwords, filter_append, halnum,
    take_append, take_of_length_le (by decide)]
  exact congrArg _ (take_append_of_le_length hlen)

lemma nonce_eq_iff {user user' : DiscordUserId} {day reportDate' : String} :
    user.nonce day = user'.nonce reportDate' ↔ user.head = user'.head := by
  rw [nonce_eq, nonce_eq, append_cancel_left_eq]

/-! ## Chunks -/

abbrev CodeUnits := List ℕ

def discordMaxMessageLength : ℕ := 2000

/-- `text.lastIndexOf(unit, bound)`. -/
def lastIndexOf (unit bound : ℕ) (text : CodeUnits) : Option ℕ :=
  let window := (text.take (bound + 1)).reverse
  (window.findIdx? (· == unit)).map fun i => window.length - 1 - i

/-- Where a text that is too long is cut: at a line break if there is one after its start. -/
def splitIndex (text : CodeUnits) : ℕ :=
  match lastIndexOf 10 discordMaxMessageLength text with
  | some (index + 1) => index + 1
  | _ => discordMaxMessageLength

def trimStart (text : CodeUnits) : CodeUnits :=
  text.dropWhile fun unit => isTrimmed (Char.ofNat unit)

lemma splitIndex_pos (text : CodeUnits) : 0 < splitIndex text := by
  unfold splitIndex
  split
  · exact Nat.succ_pos _
  · decide

/-- The loop of `splitMessage`. -/
def splitLoop (remaining : CodeUnits) : List CodeUnits :=
  if remaining = [] then []
  else if remaining.length ≤ discordMaxMessageLength then [remaining]
  else
    remaining.take (splitIndex remaining) ::
      splitLoop (trimStart (remaining.drop (splitIndex remaining)))
termination_by remaining.length
decreasing_by
  have hcut := splitIndex_pos remaining
  calc (trimStart (remaining.drop (splitIndex remaining))).length
      ≤ (remaining.drop (splitIndex remaining)).length := (dropWhile_sublist _).length_le
    _ < remaining.length := by
      rw [length_drop]
      omega

def splitMessage (text : CodeUnits) : List CodeUnits :=
  if text.length ≤ discordMaxMessageLength then [text] else splitLoop text

/-! ## Attempts -/

/-- A message as the provider shows it, with what it is a chunk of. -/
structure ReportMessage where
  (user reportDate : String)
  index : ℕ
  nonce : List Char
  content : CodeUnits
  deriving DecidableEq

def receive (message : ReportMessage) (shown : List ReportMessage) : List ReportMessage :=
  if shown.any fun other => other.nonce == message.nonce then shown else shown ++ [message]

/-- What `findLinkStateByExternalUserId` finds. -/
structure DiscordLink where
  linkState : Option PlatformLinkState
  userId : ℤ

def linkStands (userId : Option ℤ) (link : Option DiscordLink) : Bool :=
  link.any fun link => link.linkState.all (· = .active) && userId.all (· = link.userId)

/-- How `sendText` ends for a chunk; of an error, whether the provider has got the message. -/
inductive ChunkAnswer
  | sent
  | rateLimited
  /-- A `DiscordDeliveryFailureError`. -/
  | deliveryFailure (ambiguous retryable received : Bool)
  | error (received : Bool)

def ChunkAnswer.received : ChunkAnswer → Bool
  | .sent => true
  | .rateLimited => false
  | .deliveryFailure _ _ received => received
  | .error received => received

/-- What comes from outside at a chunk: the link as it is read, or an error, and the answer. -/
structure ChunkInput where
  link : Option (Option DiscordLink)
  answer : ChunkAnswer

/-- A call of `sendReport`, with what comes from outside. -/
structure ReportAttempt where
  user : DiscordUserId
  userId : Option ℤ
  reportDate : String
  reportText : CodeUnits
  link : Option (Option DiscordLink)
  inputs : ℕ → ChunkInput

namespace ReportAttempt

def message (attempt : ReportAttempt) (index : ℕ) (chunk : CodeUnits) : ReportMessage where
  user := attempt.user.text
  reportDate := attempt.reportDate
  index := index
  nonce := reportNonce ((attempt.user.mapping attempt.userId).deliveryKey attempt.reportDate)
  content := chunk

/-- The loop of `sendReport`, from a chunk on. -/
def sendChunks (attempt : ReportAttempt) :
    ℕ → List CodeUnits → List ReportMessage → ReportDeliveryResult × List ReportMessage
  | _, [], shown => (.ok none, shown)
  | index, chunk :: chunks, shown =>
    match (attempt.inputs index).link with
    | none => (.refused (some .deliveryFailed), shown)
    | some link =>
      if linkStands attempt.userId link then
        let answer := (attempt.inputs index).answer
        let after := if answer.received then receive (attempt.message index chunk) shown else shown
        match answer with
        | .sent => attempt.sendChunks (index + 1) chunks after
        | .rateLimited => (.rateLimited, after)
        | .deliveryFailure ambiguous retryable _ =>
          if ambiguous then (.ok (some .ambiguous), after)
          else if retryable then (.refused (some .retryable), after)
          else (.refused (some .deliveryFailed), after)
        | .error _ => (.refused (some .deliveryFailed), after)
      else (.refused (some .notLinked), shown)

def sendReport (attempt : ReportAttempt) (shown : List ReportMessage) :
    ReportDeliveryResult × List ReportMessage :=
  match attempt.link with
  | none => (.refused (some .deliveryFailed), shown)
  | some link =>
    if linkStands attempt.userId link then
      attempt.sendChunks 0 (splitMessage attempt.reportText) shown
    else (.refused (some .notLinked), shown)

end ReportAttempt

/-- What the provider has shown, and the attempts with their results. -/
structure DiscordReports where
  shown : List ReportMessage
  attempts : List (ReportAttempt × ReportDeliveryResult)

namespace DiscordReports

def init : DiscordReports := ⟨[], []⟩

def step (s : DiscordReports) (attempt : ReportAttempt) : Option DiscordReports :=
  let sent := attempt.sendReport s.shown
  some ⟨sent.2, s.attempts ++ [(attempt, sent.1)]⟩

/-- The report of an attempt is one chunk, what the provider has shown to a user with the same first
digits is this report, and no send that is called ambiguous was lost. -/
def Identified (s : DiscordReports) (attempt : ReportAttempt) : Prop :=
  (splitMessage attempt.reportText).length = 1 ∧
    (∀ message ∈ s.shown, message.user.toList.take 12 = attempt.user.head →
      message.user = attempt.user.text ∧ message.reportDate = attempt.reportDate ∧
        splitMessage attempt.reportText = [message.content]) ∧
    ∀ retryable, (attempt.inputs 0).answer ≠ .deliveryFailure true retryable false

/-- The provider shows the chunk of the report that has the index. -/
def HasShown (shown : List ReportMessage) (attempt : ReportAttempt) (index : ℕ) : Prop :=
  ∃ message ∈ shown, message.user = attempt.user.text ∧
    message.reportDate = attempt.reportDate ∧ message.index = index ∧
    (splitMessage attempt.reportText)[index]? = some message.content

/-- Only first chunks are shown, each under its nonce and at most once. -/
structure Tied (s : DiscordReports) : Prop where
  first : ∀ message ∈ s.shown, message.index = 0 ∧ ∃ user : DiscordUserId,
    message.user = user.text ∧ message.nonce = user.nonce message.reportDate
  once : s.shown.Pairwise fun message message' => message.nonce ≠ message'.nonce
  delivered : ∀ p ∈ s.attempts, ∀ outcome, p.2 = .ok outcome →
    (splitMessage p.1.reportText).length = 1 ∧ HasShown s.shown p.1 0

variable {att : ReportAttempt}

lemma sendReport_single {chunk : CodeUnits} (hsingle : splitMessage att.reportText = [chunk])
    (hverd : ∀ retryable, (att.inputs 0).answer ≠ .deliveryFailure true retryable false)
    (shown : List ReportMessage) :
    ((att.sendReport shown).2 = shown ∧ ∀ out, (att.sendReport shown).1 ≠ .ok out) ∨
      (att.sendReport shown).2 = receive (att.message 0 chunk) shown := by
  have href : ∀ reason, ((.refused reason, shown) : ReportDeliveryResult × _).2 = shown ∧
      ∀ out, ((.refused reason, shown) : ReportDeliveryResult × List ReportMessage).1 ≠ .ok out :=
    fun reason => ⟨rfl, fun out h => ReportDeliveryResult.noConfusion h⟩
  rw [ReportAttempt.sendReport, hsingle]
  split
  · exact .inl (href _)
  · split
    · rw [ReportAttempt.sendChunks]
      split
      · exact .inl (href _)
      · split
        · cases hans : (att.inputs 0).answer with
          | sent => exact .inr rfl
          | rateLimited => exact .inl ⟨rfl, fun out h => ReportDeliveryResult.noConfusion h⟩
          | error received =>
            cases received with
            | true => exact .inr rfl
            | false => exact .inl (href _)
          | deliveryFailure ambiguous retryable received =>
            cases received with
            | true =>
              right
              dsimp only [ChunkAnswer.received]
              split
              · rfl
              · split <;> rfl
            | false =>
              cases ambiguous with
              | true => exact absurd hans (hverd retryable)
              | false => cases retryable <;> exact .inl (href _)
        · exact .inl (href _)
    · exact .inl (href _)

lemma Tied.receive {s : DiscordReports} (h : Tied s) {chunk : CodeUnits}
    (hsingle : splitMessage att.reportText = [chunk]) (hident : Identified s att) :
    HasShown (receive (att.message 0 chunk) s.shown) att 0 := by
  unfold WispaceBot.receive
  split
  next hseen =>
    obtain ⟨msg, hmem, hnonce⟩ := any_eq_true.mp hseen
    obtain ⟨hindex, user, huser, hnonce'⟩ := h.first msg hmem
    have hhead : user.head = att.user.head :=
      nonce_eq_iff.mp (hnonce'.symm.trans (eq_of_beq hnonce))
    -- a nonce that was seen is one of the same report
    obtain ⟨hsame, hdate, hchunk⟩ := hident.2.1 msg hmem (by rw [huser]; exact hhead)
    exact ⟨msg, hmem, hsame, hdate, hindex, by rw [hchunk]; rfl⟩
  · exact ⟨att.message 0 chunk, mem_append_right _ (mem_singleton_self _), rfl, rfl, rfl,
      by rw [hsingle]; rfl⟩

lemma mem_receive {msg message' : ReportMessage} {shown : List ReportMessage}
    (h : msg ∈ shown) : msg ∈ receive message' shown := by
  unfold WispaceBot.receive
  split
  · exact h
  · exact mem_append_left _ h

lemma Tied.shown_receive {s : DiscordReports} (h : Tied s) (att : ReportAttempt)
    (chunk : CodeUnits) :
    (∀ msg ∈ WispaceBot.receive (att.message 0 chunk) s.shown, msg.index = 0 ∧
        ∃ user : DiscordUserId, msg.user = user.text ∧ msg.nonce = user.nonce msg.reportDate) ∧
      (WispaceBot.receive (att.message 0 chunk) s.shown).Pairwise
        fun msg message' => msg.nonce ≠ message'.nonce := by
  unfold WispaceBot.receive
  split
  · exact ⟨h.first, h.once⟩
  next hnew =>
    constructor
    · intro msg hmem
      rcases mem_append.mp hmem with hold | hadded
      · exact h.first msg hold
      · obtain rfl := mem_singleton.mp hadded
        exact ⟨rfl, att.user, rfl, rfl⟩
    · refine pairwise_append.mpr ⟨h.once, pairwise_singleton _ _, ?_⟩
      intro msg hmem _ hadded hsame
      obtain rfl := mem_singleton.mp hadded
      exact hnew (any_eq_true.mpr ⟨msg, hmem, beq_of_eq hsame⟩)

lemma Tied.step {s t : DiscordReports} (h : Tied s) (hident : Identified s att)
    (hstep : DiscordReports.step s att = some t) : Tied t := by
  have ht : t = ⟨(att.sendReport s.shown).2,
      s.attempts ++ [(att, (att.sendReport s.shown).1)]⟩ := (Option.some.inj hstep).symm
  subst ht
  obtain ⟨chunk, hsingle⟩ := length_eq_one_iff.mp hident.1
  rcases sendReport_single hsingle hident.2.2 s.shown with ⟨hsame, hfail⟩ | hreceived
  · refine ⟨by rw [hsame]; exact h.first, by rw [hsame]; exact h.once, ?_⟩
    intro p hp out hok
    rcases mem_append.mp hp with hold | hadded
    · rw [hsame]
      exact h.delivered p hold out hok
    · obtain rfl := mem_singleton.mp hadded
      exact absurd hok (hfail out)
  · obtain ⟨hfirst, honce⟩ := h.shown_receive att chunk
    refine ⟨by rw [hreceived]; exact hfirst, by rw [hreceived]; exact honce, ?_⟩
    intro p hp out hok
    rw [hreceived]
    rcases mem_append.mp hp with hold | hadded
    · obtain ⟨hone, msg, hmem, hrest⟩ := h.delivered p hold out hok
      exact ⟨hone, msg, mem_receive hmem, hrest⟩
    · obtain rfl := mem_singleton.mp hadded
      exact ⟨hident.1, h.receive hsingle hident⟩

end DiscordReports

end WispaceBot
