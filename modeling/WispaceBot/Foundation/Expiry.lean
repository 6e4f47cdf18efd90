import Mathlib

/-!
# Keys that expire

A key of a key-value store holds a value and, if it is volatile, the last moment at which the value
is still there.  The commands below read and write one key at the moment `now`; a key that has
expired is treated as absent by every one of them, whether or not its entry has been removed.

`Lasts t` says that a key stays there up to the moment `t`, whatever time passes.
-/

namespace Expiry

variable {α : Type*}

/-- A stored value, with the last moment at which it is there unless it stays for good. -/
structure Entry (α : Type*) where
  value : α
  expiresAt : Option ℤ

def Entry.live (now : ℤ) (e : Entry α) : Bool :=
  e.expiresAt.all fun t => decide (now ≤ t)

def find (now : ℤ) : Option (Entry α) → Option (Entry α)
  | none => none
  | some e => if e.live now then some e else none

/-- `GET`. -/
def fetch (now : ℤ) (key : Option (Entry α)) : Option α :=
  (find now key).map Entry.value

/-- `SET`, which makes the key stay for good. -/
def put (v : α) : Option (Entry α) :=
  some ⟨v, none⟩

/-- `SET … PX ttl`. -/
def putPx (now ttl : ℤ) (v : α) : Option (Entry α) :=
  some ⟨v, some (now + ttl)⟩

/-- `PEXPIRE` with a positive time to live. -/
def pexpire (now ttl : ℤ) (key : Option (Entry α)) : Option (Entry α) :=
  (find now key).map fun e => { e with expiresAt := some (now + ttl) }

/-- `INCRBY`, which keeps the time to live; an absent key counts from zero and stays for good. -/
def incrBy (now : ℤ) (d : ℤ) (key : Option (Entry ℤ)) : Option (Entry ℤ) :=
  match find now key with
  | none => some ⟨d, none⟩
  | some e => some { e with value := e.value + d }

def count (now : ℤ) (key : Option (Entry ℤ)) : ℤ :=
  (fetch now key).getD 0

/-- The key is stored and does not expire before the moment `t` has passed. -/
def Lasts (t : ℤ) (key : Option (Entry α)) : Prop :=
  ∃ e, key = some e ∧ e.live t = true

/-! ## Commands -/

section Commands

variable {now ttl : ℤ}

lemma Entry.live_of_expiresAt {v : α} {t : ℤ} :
    (Entry.mk v (some t)).live now = true ↔ now ≤ t := by
  simp [Entry.live]

lemma find_of_live {e : Entry α} (h : e.live now = true) : find now (some e) = some e := by
  simp [find, h]

lemma find_eq_some {key : Option (Entry α)} {e : Entry α} (h : find now key = some e) :
    key = some e ∧ e.live now = true := by
  cases key with
  | none => simp [find] at h
  | some d =>
    by_cases hlive : d.live now = true
    · rw [find_of_live hlive] at h
      obtain ⟨⟩ := h
      exact ⟨rfl, hlive⟩
    · simp [find, hlive] at h

lemma find_incrBy (d : ℤ) (key : Option (Entry ℤ)) :
    find now (incrBy now d key) = incrBy now d key := by
  unfold incrBy
  cases hfind : find now key with
  | none => rfl
  | some e =>
    have hlive : (Entry.mk (e.value + d) e.expiresAt).live now = true := (find_eq_some hfind).2
    exact find_of_live hlive

lemma count_incrBy (d : ℤ) (key : Option (Entry ℤ)) :
    count now (incrBy now d key) = count now key + d := by
  rw [count, fetch, find_incrBy, count, fetch, incrBy]
  cases find now key with
  | none => simp
  | some => simp

lemma count_pexpire (httl : 0 ≤ ttl) (key : Option (Entry ℤ)) :
    count now (pexpire now ttl key) = count now key := by
  rw [count, count, fetch, fetch, pexpire]
  cases find now key with
  | none => rfl
  | some e =>
    have hlive : (Entry.mk e.value (some (now + ttl))).live now = true :=
      Entry.live_of_expiresAt.mpr (by omega)
    rw [Option.map_some, find_of_live hlive]
    rfl

lemma value_eq_count {key : Option (Entry ℤ)} {e : Entry ℤ} (hfind : find now key = some e) :
    e.value = count now key := by
  rw [count, fetch, hfind]
  rfl

end Commands

def Nonneg (key : Option (Entry ℤ)) : Prop :=
  ∀ e, key = some e → 0 ≤ e.value

variable {key : Option (Entry ℤ)}

lemma Nonneg.count (h : Nonneg key) (now : ℤ) : 0 ≤ Expiry.count now key := by
  cases hfind : find now key with
  | none => simp [Expiry.count, fetch, hfind]
  | some e =>
    rw [← value_eq_count hfind]
    exact h e (find_eq_some hfind).1

lemma nonneg_of_count {now : ℤ} (hfind : find now key = key) (hcount : 0 ≤ Expiry.count now key) :
    Nonneg key := by
  intro _ he
  rw [value_eq_count (hfind.trans he)]
  exact hcount

/-! ## Keys that last -/

section Lasts

variable {now t u ttl : ℤ} {key : Option (Entry α)}

lemma Lasts.mono (h : Lasts t key) (hle : u ≤ t) : Lasts u key := by
  obtain ⟨e, hkey, hlive⟩ := h
  refine ⟨e, hkey, ?_⟩
  cases hexp : e.expiresAt with
  | none => simp [Entry.live, hexp]
  | some =>
    simp only [Entry.live, hexp, Option.all_some, decide_eq_true_eq] at hlive ⊢
    omega

lemma Lasts.find_eq (h : Lasts t key) (hle : now ≤ t) : find now key = key := by
  obtain ⟨_, rfl, hlive⟩ := h.mono hle
  exact find_of_live hlive

lemma Lasts.fetch_eq (h : Lasts t key) (hnow : now ≤ t) (hu : u ≤ t) :
    fetch u key = fetch now key := by
  rw [fetch, fetch, h.find_eq hnow, h.find_eq hu]

lemma lasts_pexpire (hfind : find now key = key) (hsome : key.isSome = true) :
    Lasts (now + ttl) (pexpire now ttl key) := by
  obtain ⟨e, rfl⟩ := Option.isSome_iff_exists.mp hsome
  refine ⟨⟨e.value, some (now + ttl)⟩, ?_, Entry.live_of_expiresAt.mpr le_rfl⟩
  rw [pexpire, hfind]
  rfl

lemma Lasts.incrBy {key : Option (Entry ℤ)} (h : Lasts t key) (hle : now ≤ t) (d : ℤ) :
    Lasts t (incrBy now d key) := by
  obtain ⟨e, rfl, hlive⟩ := h
  refine ⟨⟨e.value + d, e.expiresAt⟩, ?_, hlive⟩
  have hfind : find now (some e) = some e := Lasts.find_eq ⟨e, rfl, hlive⟩ hle
  rw [Expiry.incrBy, hfind]

end Lasts

end Expiry
