import Mathlib
import WispaceBot.Foundation.Run
import WispaceBot.Foundation.Table

/-!
# The cache of WISPACE reads

Callers of `WispaceDataCache` that miss at the same time share one fetch through `inFlight`; it
writes its value into the cache and leaves the table a moment later.  `invalidateUser` deletes the
entries of a user, but a fetch on its way stays and still writes (`stale_after_invalidation`).
`read_your_writes`: reads see the writes before them as long as nobody invalidates data that is just
being fetched, for ids without the separator of keys.  A fetch is named by the event that started
it.
-/

namespace WispaceBot

open List Option Transition Table

/-! ## Keys -/

inductive WispaceCacheKind
  | goals
  | calendar
  | scores
  deriving DecidableEq

namespace WispaceCacheKind

def name : WispaceCacheKind → List Char
  | goals => ['g', 'o', 'a', 'l', 's']
  | calendar => ['c', 'a', 'l', 'e', 'n', 'd', 'a', 'r']
  | scores => ['s', 'c', 'o', 'r', 'e', 's']

/-- `WISPACE_CACHE_POLICY`, in milliseconds. -/
def policy : WispaceCacheKind → ℤ
  | goals => 60000
  | calendar => 15000
  | scores => 300000

def ofName (text : List Char) : Option WispaceCacheKind :=
  [goals, calendar, scores].find? fun kind => kind.name == text

end WispaceCacheKind

namespace DataCache

abbrev Key := List Char

def keyNs : List Char :=
  ['w', 'i', 's', 'p', 'a', 'c', 'e', '-', 'c', 'a', 'c', 'h', 'e', ':']

def keySep : Char :=
  Char.ofNat 0x1f

/-- `buildKey`, on the serialised arguments. -/
def buildKey (kind : WispaceCacheKind) (user args : List Char) : Key :=
  keyNs ++ (user ++ keySep :: (kind.name ++ keySep :: args))

/-- `parseKey`: the user and the text of the kind. -/
def parseKey (key : Key) : Option (List Char × List Char) :=
  if keyNs.isPrefixOf key then
    match (key.drop keyNs.length).splitOnP (· == keySep) with
    | user :: kind :: _ :: _ => some (user, kind)
    | _ => none
  else none

/-- `entryTtl`; there is none for a text that is no kind. -/
def entryTtl (key : Key) : Option ℤ :=
  match parseKey key with
  | some parsed => (WispaceCacheKind.ofName parsed.2).map WispaceCacheKind.policy
  | none => some 0

lemma keySep_not_mem_name (kind : WispaceCacheKind) : keySep ∉ kind.name := by
  cases kind <;> decide

lemma parseKey_buildKey {user : List Char} (huser : keySep ∉ user) (kind : WispaceCacheKind)
    (args : List Char) : parseKey (buildKey kind user args) = some (user, kind.name) := by
  have hprefix : keyNs.isPrefixOf (buildKey kind user args) = true :=
    isPrefixOf_iff_prefix.mpr (prefix_append _ _)
  have hplain : ∀ {text : List Char}, keySep ∉ text → ∀ c ∈ text, (c == keySep) = false := by
    intro _ htext _ hc
    exact beq_false_of_ne fun h => htext (h ▸ hc)
  have hdrop : (buildKey kind user args).drop keyNs.length =
      user ++ keySep :: (kind.name ++ keySep :: args) := drop_left
  unfold parseKey
  rw [if_pos hprefix, hdrop,
    splitOnP_append_cons_of_forall_mem (hplain huser) _ (beq_self_eq_true _),
    splitOnP_append_cons_of_forall_mem (hplain (keySep_not_mem_name kind)) _ (beq_self_eq_true _)]
  cases hargs : args.splitOnP (· == keySep) with
  | nil => exact absurd hargs (splitOnP_ne_nil _ _)
  | cons => rfl

/-! ## The cache -/

variable {V E : Type}

/-- `CacheEntry`, with its key. -/
structure CacheEntry (V : Type) where
  key : Key
  value : V
  fetchedAt : ℤ

/-- An entry of `inFlight`: the number of the call that started the fetch. -/
structure InFlight where
  key : Key
  fetch : ℕ

def CacheEntry.expired (now : ℤ) (entry : CacheEntry V) : Bool :=
  (entryTtl entry.key).any (· ≤ now - entry.fetchedAt)

/-- `evictIfNeeded`: the first expired entry goes, and the oldest if that was not enough. -/
def evictIfNeeded (maxEntries : ℕ) (now : ℤ) (cache : List (CacheEntry V)) : List (CacheEntry V) :=
  if cache.length < maxEntries then cache
  else
    let swept := cache.eraseP (CacheEntry.expired now)
    if maxEntries ≤ swept.length then swept.tail else swept

def store (maxEntries : ℕ) (key : Key) (value : V) (fetchedAt : ℤ) (cache : List (CacheEntry V)) :
    List (CacheEntry V) :=
  let new : CacheEntry V := ⟨key, value, fetchedAt⟩
  (insertOnConflict CacheEntry.key (fun _ => true) (fun _ => new) new
    (evictIfNeeded maxEntries fetchedAt cache)).1

variable {maxEntries : ℕ} {cache : List (CacheEntry V)} {entry : CacheEntry V}

lemma mem_of_mem_evictIfNeeded {now : ℤ} (h : entry ∈ evictIfNeeded maxEntries now cache) :
    entry ∈ cache := by
  unfold evictIfNeeded at h
  split at h
  · exact h
  · dsimp only at h
    split at h
    · exact mem_of_mem_eraseP (mem_of_mem_tail h)
    · exact mem_of_mem_eraseP h

variable {key : Key}

lemma mem_store {value : V} {fetchedAt : ℤ}
    (h : entry ∈ store maxEntries key value fetchedAt cache) :
    entry = ⟨key, value, fetchedAt⟩ ∨ entry ∈ cache := by
  rcases mem_insertOnConflict h with ⟨rfl, -⟩ | ⟨-, -, -, -, rfl⟩ | ⟨hold, -⟩
  · exact .inl rfl
  · exact .inl rfl
  · exact .inr (mem_of_mem_evictIfNeeded hold)

/-! ## Calls and fetches -/

/-- A fetch: its answer once the fetcher has given it, and whether its promise is settled. -/
structure Fetch (V E : Type) where
  number : ℕ
  key : Key
  fetchedAt : ℤ
  answer : Option (Except E V)
  settled : Bool

/-- What a call of `getOrFetch` returns: a value of the cache or the promise of a fetch. -/
inductive Returned (V : Type)
  | value (value : V)
  | promise (fetch : ℕ)

/-- A call of `getOrFetch`. -/
structure Read (V : Type) where
  number : ℕ
  kind : WispaceCacheKind
  (user args : List Char)
  returned : Returned V

/-- A call of `invalidateUser`. -/
structure Invalidation where
  number : ℕ
  user : List Char
  kinds : Option (List WispaceCacheKind)

/-- The two maps of the cache, with the fetches, reads and invalidations so far. -/
structure State (V E : Type) where
  cache : List (CacheEntry V)
  inFlight : List InFlight
  next : ℕ
  fetches : List (Fetch V E)
  reads : List (Read V)
  invalidations : List Invalidation

/-- The keys whose entries `invalidateUser` deletes. -/
def invalidates (user : List Char) (kinds : Option (List WispaceCacheKind)) (key : Key) : Bool :=
  (parseKey key).any fun parsed =>
    parsed.1 == user && kinds.all fun kinds => kinds.any fun kind => kind.name == parsed.2

/-- Calls of the cache, and answers of fetchers. -/
inductive Event (V E : Type)
  | getOrFetch (kind : WispaceCacheKind) (user args : List Char) (now fetchedAt : ℤ)
  | invalidateUser (user : List Char) (kinds : Option (List WispaceCacheKind))
  /-- A fetcher answers, and `fetchAndStore` ends. -/
  | answer (fetch : ℕ) (answer : Except E V)
  /-- The `finally` of a fetch; its promise is settled then. -/
  | settle (fetch : ℕ)

namespace State

section

variable (s : State V E)

def answerRead (kind : WispaceCacheKind) (user args : List Char) (returned : Returned V) :
    State V E :=
  { s with next := s.next + 1, reads := s.reads ++ [⟨s.next, kind, user, args, returned⟩] }

/-- `getOrFetch` up to its first suspension. -/
def getOrFetch (kind : WispaceCacheKind) (user args : List Char) (now fetchedAt : ℤ) : State V E :=
  let key := buildKey kind user args
  match (lookup CacheEntry.key key s.cache).filter fun hit => now - hit.fetchedAt < kind.policy with
  | some hit => s.answerRead kind user args (.value hit.value)
  | none =>
    match lookup InFlight.key key s.inFlight with
    | some pending => s.answerRead kind user args (.promise pending.fetch)
    | none =>
      { s.answerRead kind user args (.promise s.next) with
        inFlight := s.inFlight ++ [⟨key, s.next⟩]
        fetches := s.fetches ++ [⟨s.next, key, fetchedAt, none, false⟩] }

def invalidateUser (user : List Char) (kinds : Option (List WispaceCacheKind)) : State V E :=
  { s with
    cache := deleteWhere (fun entry => invalidates user kinds entry.key) s.cache
    next := s.next + 1
    invalidations := s.invalidations ++ [⟨s.next, user, kinds⟩] }

/-- The fetcher has answered, and a value is stored. -/
def answerFetch (maxEntries : ℕ) (fetch : Fetch V E) (answer : Except E V) : State V E :=
  { s with
    cache := match answer with
      | .ok value => store maxEntries fetch.key value fetch.fetchedAt s.cache
      | .error _ => s.cache
    next := s.next + 1
    fetches := updateWhere (fun f => f.number == fetch.number)
      (fun f => { f with answer := some answer }) s.fetches }

/-- The fetch leaves the table, and its promise is settled. -/
def settleFetch (fetch : Fetch V E) : State V E :=
  { s with
    inFlight := deleteWhere (fun pending => pending.key == fetch.key) s.inFlight
    next := s.next + 1
    fetches := updateWhere (fun f => f.number == fetch.number)
      (fun f => { f with settled := true }) s.fetches }

def outcome (read : Read V) : Option (Except E V) :=
  match read.returned with
  | .value value => some (.ok value)
  | .promise number =>
    (lookup Fetch.number number s.fetches).bind fun fetch =>
      if fetch.settled then fetch.answer else none

end

end State

def step (maxEntries : ℕ) (s : State V E) : Event V E → Option (State V E)
  | .getOrFetch kind user args now fetchedAt => some (s.getOrFetch kind user args now fetchedAt)
  | .invalidateUser user kinds => some (s.invalidateUser user kinds)
  | .answer number answer =>
    match lookup Fetch.number number s.fetches with
    | some fetch =>
      if fetch.answer.isNone then some (s.answerFetch maxEntries fetch answer) else none
    | none => none
  | .settle number =>
    match lookup Fetch.number number s.fetches with
    | some fetch =>
      if fetch.answer.isSome && !fetch.settled then some (s.settleFetch fetch) else none
    | none => none

def init : State V E :=
  ⟨[], [], 0, [], [], []⟩

/-! ## Reads and the writes before them -/

/-- Data that is being fetched is not invalidated, and the user can be read off keys. -/
def Quiet (s : State V E) : Event V E → Prop
  | .invalidateUser user kinds =>
    keySep ∉ user ∧ ∀ pending ∈ s.inFlight, invalidates user kinds pending.key = false
  | _ => True

instance (s : State V E) (event : Event V E) : Decidable (Quiet s event) := by
  unfold Quiet
  split <;> infer_instance

/-- The invalidation came before the read and concerns it. -/
def Invalidation.Precedes (invalidation : Invalidation) (read : Read V) : Prop :=
  invalidation.number < read.number ∧ invalidation.user = read.user ∧
    ∀ kinds, invalidation.kinds = some kinds → read.kind ∈ kinds

def Since (invalidations : List Invalidation) (key : Key) (number : ℕ) : Prop :=
  ∀ invalidation ∈ invalidations,
    invalidates invalidation.user invalidation.kinds key = true → invalidation.number < number

/-- The fetch has returned this value for the key. -/
def Fetch.Gave (fetch : Fetch V E) (key : Key) (value : V) : Prop :=
  fetch.key = key ∧ fetch.answer = some (.ok value)

/-- The fetch that a call depends on started after an event. -/
def Returned.After (fetches : List (Fetch V E)) (key : Key) (number : ℕ) : Returned V → Prop
  | .value found => ∃ fetch ∈ fetches, fetch.Gave key found ∧ number < fetch.number
  | .promise promised => ∃ fetch ∈ fetches, fetch.number = promised ∧ fetch.key = key ∧
      number < promised

/-- What is stored or pending was fetched after the last invalidation of its key. -/
structure Fresh (s : State V E) : Prop where
  entries : ∀ entry ∈ s.cache, ∃ fetch ∈ s.fetches, fetch.Gave entry.key entry.value ∧
    Since s.invalidations entry.key fetch.number
  pending : ∀ pending ∈ s.inFlight, Since s.invalidations pending.key pending.fetch ∧
    ∃ fetch ∈ s.fetches, fetch.number = pending.fetch ∧ fetch.key = pending.key
  running : ∀ fetch ∈ s.fetches, fetch.settled = false → ⟨fetch.key, fetch.number⟩ ∈ s.inFlight
  answered : ∀ fetch ∈ s.fetches, fetch.settled = true → fetch.answer.isSome = true
  single : UniqueOn InFlight.key s.inFlight
  numbered : UniqueOn Fetch.number s.fetches
  fetched : ∀ fetch ∈ s.fetches, fetch.number < s.next
  made : ∀ read ∈ s.reads, read.number < s.next
  invalidated : ∀ invalidation ∈ s.invalidations,
    invalidation.number < s.next ∧ keySep ∉ invalidation.user
  returned : ∀ read ∈ s.reads, ∀ invalidation ∈ s.invalidations,
    invalidation.number < read.number →
    invalidates invalidation.user invalidation.kinds (buildKey read.kind read.user read.args) =
      true →
    read.returned.After s.fetches (buildKey read.kind read.user read.args) invalidation.number

def Kept (old new : List (Fetch V E)) : Prop :=
  ∀ fetch ∈ old, ∃ fetch' ∈ new, fetch'.number = fetch.number ∧ fetch'.key = fetch.key ∧
    ∀ answer, fetch.answer = some answer → fetch'.answer = some answer

variable {old new : List (Fetch V E)}

lemma Kept.gave (h : Kept old new) {fetch : Fetch V E} (hfetch : fetch ∈ old) {value : V}
    (hgave : fetch.Gave key value) :
    ∃ fetch' ∈ new, fetch'.Gave key value ∧ fetch'.number = fetch.number := by
  obtain ⟨fetch', hmem, hnum, hkey, hans⟩ := h fetch hfetch
  exact ⟨fetch', hmem, ⟨hkey.trans hgave.1, hans _ hgave.2⟩, hnum⟩

lemma Kept.after (h : Kept old new) {number : ℕ} {returned : Returned V}
    (hafter : returned.After old key number) : returned.After new key number := by
  cases returned with
  | value =>
    obtain ⟨fetch, hfetch, hgave, hlt⟩ := hafter
    obtain ⟨fetch', hmem, hgave', hnum⟩ := h.gave hfetch hgave
    exact ⟨fetch', hmem, hgave', by rwa [hnum]⟩
  | promise =>
    obtain ⟨fetch, hfetch, hpromised, hkey, hlt⟩ := hafter
    obtain ⟨fetch', hmem, hnum, hkey', -⟩ := h fetch hfetch
    exact ⟨fetch', hmem, hnum.trans hpromised, hkey'.trans hkey, hlt⟩

lemma Kept.refl (fetches : List (Fetch V E)) : Kept fetches fetches :=
  fun fetch hfetch => ⟨fetch, hfetch, rfl, rfl, fun _ h => h⟩

lemma kept_append (fetches new : List (Fetch V E)) : Kept fetches (fetches ++ new) :=
  fun fetch hfetch => ⟨fetch, mem_append_left _ hfetch, rfl, rfl, fun _ h => h⟩

lemma kept_updateWhere {fetches : List (Fetch V E)} {p : Fetch V E → Bool}
    {f : Fetch V E → Fetch V E} (hnum : ∀ fetch, (f fetch).number = fetch.number)
    (hkey : ∀ fetch, (f fetch).key = fetch.key)
    (hans : ∀ fetch ∈ fetches, p fetch = true → ∀ ans, fetch.answer = some ans →
      (f fetch).answer = some ans) : Kept fetches (updateWhere p f fetches) := by
  intro fetch hfetch
  cases hp : p fetch with
  | true =>
    exact ⟨f fetch, mem_updateWhere.mpr (.inl ⟨fetch, hfetch, hp, rfl⟩), hnum fetch, hkey fetch,
      hans fetch hfetch hp⟩
  | false =>
    exact ⟨fetch, mem_updateWhere.mpr (.inr ⟨hfetch, hp⟩), rfl, rfl, fun _ h => h⟩

section Steps

variable {s : State V E}

variable {user args : List Char} {kind : WispaceCacheKind} {returned : Returned V}

lemma Fresh.answerRead (h : Fresh s) {fetches : List (Fetch V E)} (hkept : Kept s.fetches fetches)
    (hret : ∀ inv ∈ s.invalidations,
      invalidates inv.user inv.kinds (buildKey kind user args) = true →
      returned.After fetches (buildKey kind user args) inv.number) {read : Read V}
    (hread : read ∈ (s.answerRead kind user args returned).reads) :
    read.number < s.next + 1 ∧ ∀ inv ∈ s.invalidations, inv.number < read.number →
      invalidates inv.user inv.kinds (buildKey read.kind read.user read.args) =
        true → read.returned.After fetches (buildKey read.kind read.user read.args)
        inv.number := by
  rcases mem_append.mp hread with hold | hnew
  · exact ⟨(h.made read hold).trans (Nat.lt_succ_self _), fun inv hmem hlt hkey =>
      hkept.after (h.returned read hold inv hmem hlt hkey)⟩
  · obtain rfl := mem_singleton.mp hnew
    exact ⟨Nat.lt_succ_self _, fun inv hmem _ hkey => hret inv hmem hkey⟩

lemma Fresh.join (h : Fresh s)
    (hret : ∀ inv ∈ s.invalidations,
      invalidates inv.user inv.kinds (buildKey kind user args) = true →
      returned.After s.fetches (buildKey kind user args) inv.number) :
    Fresh (s.answerRead kind user args returned) where
  entries := h.entries
  pending := h.pending
  running := h.running
  answered := h.answered
  single := h.single
  numbered := h.numbered
  fetched := fun fetch hfetch => (h.fetched fetch hfetch).trans (Nat.lt_succ_self _)
  made := fun _ hread => (h.answerRead (Kept.refl _) hret hread).1
  invalidated := fun inv hmem =>
    ⟨(h.invalidated inv hmem).1.trans (Nat.lt_succ_self _), (h.invalidated inv hmem).2⟩
  returned := fun _ hread => (h.answerRead (Kept.refl _) hret hread).2

lemma Fresh.miss (h : Fresh s) {fetchedAt : ℤ}
    (hmiss : lookup InFlight.key (buildKey kind user args) s.inFlight = none) :
    Fresh { s.answerRead kind user args (.promise s.next) with
      inFlight := s.inFlight ++ [⟨buildKey kind user args, s.next⟩]
      fetches := s.fetches ++ [⟨s.next, buildKey kind user args, fetchedAt, none, false⟩] } := by
  set new : Fetch V E := ⟨s.next, buildKey kind user args, fetchedAt, none, false⟩
  have hkept : Kept s.fetches (s.fetches ++ [new]) := kept_append _ _
  have hnew : new ∈ s.fetches ++ [new] := mem_append_right _ (mem_singleton_self _)
  have hsince : Since s.invalidations (buildKey kind user args) s.next :=
    fun inv hmem _ => (h.invalidated inv hmem).1
  have hret : ∀ inv ∈ s.invalidations,
      invalidates inv.user inv.kinds (buildKey kind user args) = true →
      (Returned.promise s.next : Returned V).After (s.fetches ++ [new])
        (buildKey kind user args) inv.number :=
    fun inv hmem hkey => ⟨new, hnew, rfl, rfl, hsince inv hmem hkey⟩
  constructor
  case entries =>
    intro entry hentry
    obtain ⟨fetch, hfetch, hgave, hafter⟩ := h.entries entry hentry
    exact ⟨fetch, mem_append_left _ hfetch, hgave, hafter⟩
  case pending =>
    intro pending hpend
    rcases mem_append.mp hpend with hold | hadded
    · obtain ⟨hafter, fetch, hfetch, hnum, hkey⟩ := h.pending pending hold
      exact ⟨hafter, fetch, mem_append_left _ hfetch, hnum, hkey⟩
    · obtain rfl := mem_singleton.mp hadded
      exact ⟨hsince, new, hnew, rfl, rfl⟩
  case running =>
    intro fetch hfetch hset
    rcases mem_append.mp hfetch with hold | hadded
    · exact mem_append_left _ (h.running fetch hold hset)
    · obtain rfl := mem_singleton.mp hadded
      exact mem_append_right _ (mem_singleton_self _)
  case answered =>
    intro fetch hfetch hset
    rcases mem_append.mp hfetch with hold | hadded
    · exact h.answered fetch hold hset
    · obtain rfl := mem_singleton.mp hadded
      exact absurd hset Bool.false_ne_true
  case single => exact h.single.append_singleton (lookup_eq_none_iff.mp hmiss)
  case numbered =>
    exact h.numbered.append_singleton fun fetch hfetch => (h.fetched fetch hfetch).ne
  case fetched =>
    intro fetch hfetch
    rcases mem_append.mp hfetch with hold | hadded
    · exact (h.fetched fetch hold).trans (Nat.lt_succ_self _)
    · obtain rfl := mem_singleton.mp hadded
      exact Nat.lt_succ_self _
  case made => exact fun _ hread => (h.answerRead hkept hret hread).1
  case invalidated =>
    exact fun inv hmem =>
      ⟨(h.invalidated inv hmem).1.trans (Nat.lt_succ_self _), (h.invalidated inv hmem).2⟩
  case returned => exact fun _ hread => (h.answerRead hkept hret hread).2

lemma Fresh.getOrFetch (h : Fresh s) (kind : WispaceCacheKind) (user args : List Char)
    (now fetchedAt : ℤ) : Fresh (s.getOrFetch kind user args now fetchedAt) := by
  unfold State.getOrFetch
  dsimp only
  split
  next hit hhit =>
    obtain ⟨hfound, -⟩ := filter_eq_some_iff.mp hhit
    obtain ⟨fetch, hfetch, hgave, hafter⟩ := h.entries hit (mem_of_lookup hfound)
    rw [key_of_lookup hfound] at hgave hafter
    exact h.join fun inv hmem hkey =>
      ⟨fetch, hfetch, hgave, hafter inv hmem hkey⟩
  · split
    next pending hfound =>
      obtain ⟨hafter, fetch, hfetch, hnum, hkey⟩ := h.pending pending (mem_of_lookup hfound)
      rw [key_of_lookup hfound] at hafter hkey
      exact h.join fun inv hmem hinvalidates =>
        ⟨fetch, hfetch, hnum, hkey, hafter inv hmem hinvalidates⟩
    next hmiss =>
      exact h.miss hmiss

lemma Since.append {invalidations : List Invalidation} {key : Key} {number : ℕ}
    (h : Since invalidations key number) {new : Invalidation}
    (hnew : invalidates new.user new.kinds key = false) :
    Since (invalidations ++ [new]) key number := by
  intro inv hmem hkey
  rcases mem_append.mp hmem with hold | hadded
  · exact h inv hold hkey
  · obtain rfl := mem_singleton.mp hadded
    exact absurd (hnew.symm.trans hkey) Bool.false_ne_true

lemma Fresh.invalidateUser (h : Fresh s) {kinds : Option (List WispaceCacheKind)}
    (huser : keySep ∉ user)
    (hquiet : ∀ pending ∈ s.inFlight, invalidates user kinds pending.key = false) :
    Fresh (s.invalidateUser user kinds) where
  entries := by
    intro entry hentry
    obtain ⟨hold, hkey⟩ := mem_filter.mp hentry
    obtain ⟨fetch, hfetch, hgave, hafter⟩ := h.entries entry hold
    exact ⟨fetch, hfetch, hgave, hafter.append (by simpa using hkey)⟩
  pending := fun pending hpend =>
    ⟨(h.pending pending hpend).1.append (hquiet pending hpend), (h.pending pending hpend).2⟩
  running := h.running
  answered := h.answered
  single := h.single
  numbered := h.numbered
  fetched := fun fetch hfetch => (h.fetched fetch hfetch).trans (Nat.lt_succ_self _)
  made := fun read hread => (h.made read hread).trans (Nat.lt_succ_self _)
  invalidated := by
    intro inv hmem
    rcases mem_append.mp hmem with hold | hadded
    · exact ⟨(h.invalidated inv hold).1.trans (Nat.lt_succ_self _), (h.invalidated inv hold).2⟩
    · obtain rfl := mem_singleton.mp hadded
      exact ⟨Nat.lt_succ_self _, huser⟩
  returned := by
    intro read hread inv hmem hlt hkey
    rcases mem_append.mp hmem with hold | hadded
    · exact h.returned read hread inv hold hlt hkey
    · -- no call that was made so far comes after it
      obtain rfl := mem_singleton.mp hadded
      exact absurd hlt (h.made read hread).asymm

lemma Fresh.update (h : Fresh s) {cache : List (CacheEntry V)} {inFlight : List InFlight}
    {p : Fetch V E → Bool} {f : Fetch V E → Fetch V E}
    (hkept : Kept s.fetches (updateWhere p f s.fetches))
    (hnum : ∀ fetch, (f fetch).number = fetch.number)
    (hents : ∀ entry ∈ cache, entry ∈ s.cache ∨ ∃ fetch ∈ updateWhere p f s.fetches,
      fetch.Gave entry.key entry.value ∧ Since s.invalidations entry.key fetch.number)
    (hinFlight : inFlight.Sublist s.inFlight)
    (hrunning : ∀ fetch ∈ updateWhere p f s.fetches, fetch.settled = false →
      ⟨fetch.key, fetch.number⟩ ∈ inFlight)
    (hanswered : ∀ fetch ∈ updateWhere p f s.fetches, fetch.settled = true →
      fetch.answer.isSome = true) :
    Fresh { s with
      cache := cache, inFlight := inFlight, next := s.next + 1
      fetches := updateWhere p f s.fetches } where
  entries := by
    intro entry hentry
    rcases hents entry hentry with hold | hnew
    · obtain ⟨fetch, hfetch, hgave, hafter⟩ := h.entries entry hold
      obtain ⟨fetch', hmem, hgave', hsame⟩ := hkept.gave hfetch hgave
      exact ⟨fetch', hmem, hgave', by rwa [hsame]⟩
    · exact hnew
  pending := by
    intro pending hpend
    obtain ⟨hafter, fetch, hfetch, hpromised, hkey⟩ := h.pending pending (hinFlight.subset hpend)
    obtain ⟨fetch', hmem, hsame, hkey', -⟩ := hkept fetch hfetch
    exact ⟨hafter, fetch', hmem, hsame.trans hpromised, hkey'.trans hkey⟩
  running := hrunning
  answered := hanswered
  single := (hinFlight.map _).nodup h.single
  numbered := h.numbered.updateWhere hnum
  fetched := by
    intro fetch hfetch
    rcases mem_updateWhere.mp hfetch with ⟨old, hold, -, rfl⟩ | ⟨hold, -⟩
    · rw [hnum]
      exact (h.fetched old hold).trans (Nat.lt_succ_self _)
    · exact (h.fetched fetch hold).trans (Nat.lt_succ_self _)
  made := fun read hread => (h.made read hread).trans (Nat.lt_succ_self _)
  invalidated := fun inv hmem =>
    ⟨(h.invalidated inv hmem).1.trans (Nat.lt_succ_self _), (h.invalidated inv hmem).2⟩
  returned := fun read hread inv hmem hlt hkey =>
    hkept.after (h.returned read hread inv hmem hlt hkey)

lemma Fresh.answerFetch (h : Fresh s) {maxEntries : ℕ} {fetch : Fetch V E}
    {ans : Except E V} (hfetch : fetch ∈ s.fetches) (hnone : fetch.answer.isNone = true) :
    Fresh (s.answerFetch maxEntries fetch ans) := by
  have hsame : ∀ f ∈ s.fetches, (f.number == fetch.number) = true → f = fetch :=
    fun f hf heq => h.numbered.eq_of_key_eq hf hfetch (by simpa using heq)
  have hrunning : fetch.settled = false := by
    by_contra hset
    have hsome := h.answered fetch hfetch (by simpa using hset)
    simp_all
  have hpend := h.running fetch hfetch hrunning
  refine h.update (kept_updateWhere (fun _ => rfl) (fun _ => rfl) ?_) (fun _ => rfl) ?_
    (List.Sublist.refl _) ?_ ?_
  · intro f hf heq _ hgiven
    obtain rfl := hsame f hf heq
    simp [hgiven] at hnone
  · intro entry hentry
    cases ans with
    | error => exact .inl hentry
    | ok value =>
      refine (mem_store hentry).symm.imp_right ?_
      rintro rfl
      -- the new entry is the value of this fetch, which was in the table
      exact ⟨{ fetch with answer := some (.ok value) },
        mem_updateWhere.mpr (.inl ⟨fetch, hfetch, by simp, rfl⟩), ⟨rfl, rfl⟩,
        (h.pending _ hpend).1⟩
  · intro f hf hset
    rcases mem_updateWhere.mp hf with ⟨old, hold, -, rfl⟩ | ⟨hold, -⟩
    · exact h.running old hold hset
    · exact h.running f hold hset
  · intro f hf hset
    rcases mem_updateWhere.mp hf with ⟨_, hold, -, rfl⟩ | ⟨hold, -⟩
    · rfl
    · exact h.answered f hold hset

lemma Fresh.settleFetch (h : Fresh s) {fetch : Fetch V E} (hfetch : fetch ∈ s.fetches)
    (hsome : fetch.answer.isSome = true) (hunsettled : fetch.settled = false) :
    Fresh (s.settleFetch fetch) := by
  have hpend := h.running fetch hfetch hunsettled
  refine h.update (kept_updateWhere (fun _ => rfl) (fun _ => rfl) fun _ _ _ _ hgiven => hgiven)
    (fun _ => rfl) (fun _ hentry => .inl hentry) filter_sublist ?_ ?_
  · intro f hf hset
    rcases mem_updateWhere.mp hf with ⟨old, -, -, rfl⟩ | ⟨hold, _⟩
    · exact absurd hset Bool.true_eq_false.mp
    · -- another fetch in the table has another key
      have hmem := h.running f hold hset
      refine mem_filter.mpr ⟨hmem, ?_⟩
      have hne : f.key ≠ fetch.key := fun hkey => by
        have := h.single.eq_of_key_eq hmem hpend hkey
        simp_all
      simpa using hne
  · intro f hf hset
    rcases mem_updateWhere.mp hf with ⟨old, hold, hnum, rfl⟩ | ⟨hold, -⟩
    · obtain rfl : old = fetch := h.numbered.eq_of_key_eq hold hfetch (by simpa using hnum)
      exact hsome
    · exact h.answered f hold hset

end Steps

/-! ## Whole runs -/

lemma fresh_init : Fresh (init : State V E) := by
  constructor <;> simp [init, UniqueOn]

lemma Fresh.step {s t : State V E} {event : Event V E} (h : Fresh s) (hquiet : Quiet s event)
    (hstep : DataCache.step maxEntries s event = some t) : Fresh t := by
  cases event with
  | getOrFetch kind user args now fetchedAt =>
    obtain ⟨⟩ := hstep
    exact h.getOrFetch kind user args now fetchedAt
  | invalidateUser =>
    obtain ⟨⟩ := hstep
    exact h.invalidateUser hquiet.1 hquiet.2
  | answer =>
    simp only [DataCache.step] at hstep
    split at hstep
    next fetch hfound =>
      obtain ⟨hnone, ht⟩ := ite_none_right_eq_some.mp hstep
      obtain ⟨⟩ := ht
      exact h.answerFetch (mem_of_lookup hfound) hnone
    · cases hstep
  | settle =>
    simp only [DataCache.step] at hstep
    split at hstep
    next _ hfound =>
      obtain ⟨hanswered, ht⟩ := ite_none_right_eq_some.mp hstep
      obtain ⟨⟩ := ht
      obtain ⟨hsome, hunsettled⟩ := Bool.and_eq_true_iff.mp hanswered
      exact h.settleFetch (mem_of_lookup hfound) hsome (by simpa using hunsettled)
    · cases hstep

lemma Invalidation.Precedes.invalidates {inv : Invalidation} {read : Read V}
    (h : inv.Precedes read) (huser : keySep ∉ inv.user) :
    DataCache.invalidates inv.user inv.kinds (buildKey read.kind read.user read.args) = true := by
  obtain ⟨-, hsame, hkinds⟩ := h
  rw [hsame] at huser
  simp only [DataCache.invalidates, parseKey_buildKey huser, any_some, hsame,
    beq_self_eq_true, Bool.true_and]
  cases hgiven : inv.kinds with
  | none => rfl
  | some kinds =>
    exact any_eq_true.mpr ⟨read.kind, hkinds kinds hgiven, beq_self_eq_true _⟩

/-- A read after an invalidation of its data returns what a later fetch has given, if nothing is
invalidated while it is being fetched. -/
theorem read_your_writes {maxEntries : ℕ} {events : List (Event V E)} {s : State V E}
    (hquiet : Along (step maxEntries) Quiet init events)
    (hrun : run (step maxEntries) init events = some s) {read : Read V} (hread : read ∈ s.reads)
    {invalidation : Invalidation} (hinvalidation : invalidation ∈ s.invalidations)
    (hprecedes : invalidation.Precedes read) {value : V}
    (houtcome : s.outcome read = some (.ok value)) :
    ∃ fetch ∈ s.fetches, fetch.Gave (buildKey read.kind read.user read.args) value ∧
      invalidation.number < fetch.number := by
  have hfresh : Fresh s :=
    run_induction (fun _ _ _ h hq hstep => h.step hq hstep) fresh_init hquiet hrun
  have hafter := hfresh.returned read hread invalidation hinvalidation hprecedes.1
    (hprecedes.invalidates (hfresh.invalidated invalidation hinvalidation).2)
  unfold State.outcome at houtcome
  cases hret : read.returned with
  | value =>
    rw [hret] at houtcome hafter
    obtain rfl := Except.ok.inj (Option.some.inj houtcome)
    exact hafter
  | promise =>
    rw [hret] at houtcome hafter
    obtain ⟨fetch, hfound, hset⟩ := bind_eq_some_iff.mp houtcome
    obtain ⟨-, hans⟩ := ite_none_right_eq_some.mp hset
    obtain ⟨promised, hpromised, hnum, hkey, _⟩ := hafter
    -- the promise that the call waits for is the fetch that has answered
    obtain rfl := hfresh.numbered.eq_of_key_eq hpromised (mem_of_lookup hfound)
      (hnum.trans (key_of_lookup hfound).symm)
    exact ⟨promised, hpromised, ⟨hkey, hans⟩, by rwa [hnum]⟩

def askAt (now : ℤ) : Event ℕ Unit :=
  .getOrFetch .calendar ['u'] [] now now

/-- The calendar is read, changed and read again. -/
theorem read_your_writes_again : ∃ s : State ℕ Unit,
    run (step 10) init [askAt 0, .answer 0 (.ok 1), .settle 0, .invalidateUser ['u'] none, askAt 5,
        .answer 4 (.ok 2), .settle 4] = some s ∧ ∃ read ∈ s.reads, s.outcome read = some (.ok 2) ∧
        ∃ fetch ∈ s.fetches, fetch.Gave (buildKey read.kind read.user read.args) 2 ∧
          3 < fetch.number := by
  let read : Read ℕ := ⟨4, .calendar, ['u'], [], .promise 4⟩
  refine exists_end (A := fun s => read ∈ s.reads ∧ s.outcome read = some (.ok 2) ∧
    ⟨3, ['u'], none⟩ ∈ s.invalidations)
    ⟨_, rfl, mem_of_getElem? (i := 1) rfl, rfl, mem_cons_self⟩ ?_
  rintro _ hrun ⟨hread, hout, hinvalidated⟩
  exact ⟨read, hread, hout, read_your_writes (by decide +kernel) hrun hread hinvalidated
    ⟨by decide, rfl, by simp⟩ hout⟩

/-- A call after the invalidation joins the fetch from before it, and a later one hits its value. -/
theorem stale_after_invalidation : ∃ s : State ℕ Unit,
    run (step 10) init [askAt 0, .invalidateUser ['u'] none, askAt 2, .answer 0 (.ok 1), .settle 0,
        askAt 5] = some s ∧
      s.invalidations.map Invalidation.number = [1] ∧ s.fetches.map Fetch.number = [0] ∧
      s.reads.map (fun read => (read.number, s.outcome read)) =
        [(0, some (.ok 1)), (2, some (.ok 1)), (5, some (.ok 1))] :=
  ⟨_, rfl, rfl, rfl, rfl⟩

/-! ## The bound of the cache -/

lemma length_store_le {value : V} {fetchedAt : ℤ} (hmax : 1 ≤ maxEntries)
    (h : cache.length ≤ maxEntries) :
    (store maxEntries key value fetchedAt cache).length ≤ maxEntries := by
  have hroom : (evictIfNeeded maxEntries fetchedAt cache).length < maxEntries := by
    have hswept := (eraseP_sublist (p := CacheEntry.expired fetchedAt) (l := cache)).length_le
    grind [evictIfNeeded]
  grind [store, insertOnConflict, updateWhere]

/-- The cache has at most `maxEntries` entries, in whatever order the fetches end. -/
theorem cache_bounded (hmax : 1 ≤ maxEntries) {s : State V E}
    (hs : Reachable (step maxEntries) init s) : s.cache.length ≤ maxEntries := by
  refine hs.induction (I := fun s => s.cache.length ≤ maxEntries) (Nat.zero_le _) ?_
  intro s event t h hstep
  cases event with
  | getOrFetch => grind [step, State.getOrFetch, State.answerRead]
  | invalidateUser => grind [step, State.invalidateUser, deleteWhere]
  | answer _ ans => cases ans <;> grind [step, State.answerFetch, length_store_le]
  | settle => grind [step, State.settleFetch]

/-- Two answers for a cache with room for one. -/
theorem cache_bounded_one : ∃ s, run (step 1) init [askAt 0, .getOrFetch .goals [] [] 0 0,
    .answer 0 (.ok 1), .answer 1 (.ok 2)] = some s ∧ s.cache.length ≤ 1 :=
  exists_end (A := fun _ => True) ⟨_, rfl, trivial⟩ fun _ hrun _ => cache_bounded le_rfl ⟨_, hrun⟩

end DataCache

end WispaceBot
