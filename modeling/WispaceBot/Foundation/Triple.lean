import Mathlib.Logic.Basic

/-!
# Programs that return or throw

`Triple P x Q E` says that from every state with `P` the program `x` ends, either with a value and a
state related by `Q`, or with an error and a state related by `E`.  What was done before an error
stays done.
-/

variable {ε σ α β : Type}

lemma Except.bind_eq_ok {x : Except ε α} {f : α → Except ε β} {b : β}
    (h : (x >>= f) = .ok b) : ∃ a, x = .ok a ∧ f a = .ok b := by
  cases x with
  | ok a => exact ⟨a, rfl, h⟩
  | error => cases h

/-- The result is a value with `Q` or an error with `E`. -/
def EndsIn (Q : α → σ → Prop) (E : ε → σ → Prop) : EStateM.Result ε σ α → Prop
  | .ok a s => Q a s
  | .error e s => E e s

lemma EndsIn.imp {Q Q' : α → σ → Prop} {E E' : ε → σ → Prop} {r : EStateM.Result ε σ α}
    (h : EndsIn Q E r) (hok : ∀ a s, Q a s → Q' a s) (herror : ∀ e s, E e s → E' e s) :
    EndsIn Q' E' r := by
  cases r with
  | ok a s => exact hok a s h
  | error e s => exact herror e s h

/-- From every state with `P`, the program returns with `Q` or throws with `E`. -/
structure Triple (P : σ → Prop) (x : EStateM ε σ α) (Q : α → σ → Prop) (E : ε → σ → Prop) :
    Prop where
  ends : ∀ s, P s → EndsIn Q E (x s)

namespace Triple

variable {P P' : σ → Prop} {x : EStateM ε σ α} {Q Q' : α → σ → Prop} {E E' : ε → σ → Prop}

lemma imp (h : Triple P x Q E) (hpre : ∀ s, P' s → P s) (hok : ∀ a s, Q a s → Q' a s)
    (herror : ∀ e s, E e s → E' e s) : Triple P' x Q' E' where
  ends s hs := (h.ends s (hpre s hs)).imp hok herror

lemma pure (a : α) : Triple (fun s => Q a s) (Pure.pure a : EStateM ε σ α) Q E where
  ends _ hs := hs

lemma throw (e : ε) : Triple (fun s => E e s) (throw e : EStateM ε σ α) Q E where
  ends _ hs := hs

lemma bind {R : β → σ → Prop} {f : α → EStateM ε σ β} (hx : Triple P x Q E)
    (hf : ∀ a, Triple (Q a) (f a) R E) : Triple P (x >>= f) R E := by
  constructor
  intro s hs
  have hends := hx.ends s hs
  change EndsIn R E (EStateM.bind x f s)
  simp only [EStateM.bind]
  cases hrun : x s with
  | ok a s' =>
    rw [hrun] at hends
    exact (hf a).ends s' hends
  | error =>
    rw [hrun] at hends
    exact hends

lemma tryCatch {f : ε → EStateM ε σ α} (hx : Triple P x Q E')
    (hf : ∀ e, Triple (E' e) (f e) Q E) : Triple P (tryCatch x f) Q E := by
  constructor
  intro s hs
  have hends := hx.ends s hs
  change EndsIn Q E (EStateM.tryCatch x f s)
  delta EStateM.tryCatch
  dsimp only
  cases hrun : x s with
  | ok =>
    rw [hrun] at hends
    exact hends
  | error e s' =>
    rw [hrun] at hends
    exact (hf e).ends s' hends

lemma adaptExcept {ε' : Type} {E : ε' → σ → Prop} {f : ε → ε'}
    (hx : Triple P x Q (fun e => E (f e))) : Triple P (EStateM.adaptExcept f x) Q E := by
  constructor
  intro s hs
  have hends := hx.ends s hs
  simp only [EStateM.adaptExcept]
  cases hrun : x s with
  | ok | error =>
    rw [hrun] at hends
    exact hends

lemma ofExcept (r : Except ε α) :
    Triple P (ofExcept r : EStateM ε σ α) (fun a s => r = .ok a ∧ P s) (fun _ s => P s) := by
  constructor
  intro _ hs
  cases r with
  | ok => exact ⟨rfl, hs⟩
  | error => exact hs

lemma of_fact {p : Prop} (h : p → Triple P x Q E) : Triple (fun s => p ∧ P s) x Q E where
  ends s hs := (h hs.1).ends s hs.2

end Triple

/-- The state in which a program ends, however it ends. -/
def endState (x : EStateM ε σ α) (s : σ) : σ :=
  match x s with
  | .ok _ s' => s'
  | .error _ s' => s'

variable {x : EStateM ε σ α}

lemma Triple.at_end {P R : σ → Prop} (h : Triple P x (fun _ s => R s) (fun _ s => R s)) {s : σ}
    (hpre : P s) : R (endState x s) := by
  have hends := h.ends s hpre
  simp only [endState]
  cases hrun : x s with
  | ok | error =>
    rw [hrun] at hends
    exact hends

lemma endState_bind_of_ok {f : α → EStateM ε σ β} {s s' : σ} {a : α} (hrun : x s = .ok a s') :
    endState (x >>= f) s = endState (f a) s' := by
  change endState (EStateM.bind x f) s = endState (f a) s'
  simp [endState, EStateM.bind, hrun]

lemma ofExcept_apply_of_ok {r : Except ε α} {a : α} (h : r = .ok a) (s : σ) :
    (ofExcept r : EStateM ε σ α) s = .ok a s := by
  rw [h]
  rfl
