import WispaceBot.Foundation.Run

/-!
# Scripts of calls

A script makes calls to services one after the other; what it does next depends on the answer, a
value or an error that it may catch.  A monitor watches the calls: `Follows` says that a script
makes only allowed calls whatever is answered, and in which phases it may end.

`Follows.of_ends` is about one script and the record of its calls, `Crew.Obeys.run` about many
scripts whose calls are interleaved on a shared state.
-/

open Function

/-- A script with calls `C`, whose answers are of type `A c` or errors `ε`. -/
inductive Script (C : Type) (A : C → Type) (ε α : Type)
  | done (a : α)
  | throw (e : ε)
  | call (c : C) (next : Except ε (A c) → Script C A ε α)

namespace Script

variable {C : Type} {A : C → Type} {ε α β π : Type}

/-- One script after another; an error ends both. -/
protected def bind : Script C A ε α → (α → Script C A ε β) → Script C A ε β
  | .done a, f => f a
  | .throw e, _ => .throw e
  | .call c next, f => .call c fun answer => (next answer).bind f

instance : Monad (Script C A ε) where
  pure := .done
  bind := Script.bind

def tryCatch : Script C A ε α → (ε → Script C A ε α) → Script C A ε α
  | .done a, _ => .done a
  | .throw e, f => f e
  | .call c next, f => .call c fun answer => (next answer).tryCatch f

def perform (c : C) : Script C A ε (A c) :=
  .call c fun answer => match answer with
    | .ok a => .done a
    | .error e => .throw e

/-- `r` is what the call answers and leaves, and `s` the state before it. -/
def faulty {σ γ : Type} (failure : Option (ε × Bool)) (s : σ) (r : Except ε γ × σ) :
    Except ε γ × σ :=
  match failure with
  | none => r
  | some (e, true) => (.error e, r.2)
  | some (e, false) => (.error e, s)

/-! ## Records -/

abbrev Entry (C : Type) (A : C → Type) (ε : Type) := (c : C) × Except ε (A c)

/-- A run of the script to its end: the record of its calls, and how it ended. -/
def Ends : Script C A ε α → List (Entry C A ε) → Except ε α → Prop
  | .done a, record, result => record = [] ∧ result = .ok a
  | .throw e, record, result => record = [] ∧ result = .error e
  | .call c next, record, result => ∃ answer rest,
      record = ⟨c, answer⟩ :: rest ∧ (next answer).Ends rest result

/-! ## Monitors -/

/-- A monitor with phases `π`. -/
structure Monitor (C : Type) (A : C → Type) (ε π : Type) where
  allowed : π → C → Prop
  possible : (c : C) → Except ε (A c) → Prop
  after : π → (c : C) → Except ε (A c) → π

def Follows (M : Monitor C A ε π) :
    Script C A ε α → π → (α → π → Prop) → (ε → π → Prop) → Prop
  | .done a, p, Q, _ => Q a p
  | .throw e, p, _, R => R e p
  | .call c next, p, Q, R => M.allowed p c ∧
      ∀ answer, M.possible c answer → (next answer).Follows M (M.after p c answer) Q R

section Rules

variable {M : Monitor C A ε π} {x : Script C A ε α} {p : π} {Q Q' : α → π → Prop}
  {R R' : ε → π → Prop}

lemma Follows.imp (h : x.Follows M p Q R) (hok : ∀ a q, Q a q → Q' a q)
    (herror : ∀ e q, R e q → R' e q) : x.Follows M p Q' R' := by
  induction x generalizing p with
  | done a => exact hok a p h
  | throw e => exact herror e p h
  | call _ _ ih => exact ⟨h.1, fun ans hposs => ih ans (h.2 ans hposs)⟩

variable {f : α → Script C A ε β}

lemma Follows.bind {Q : β → π → Prop} (h : x.Follows M p (fun a q => (f a).Follows M q Q R) R) :
    (x >>= f).Follows M p Q R := by
  induction x generalizing p with
  | done => exact h
  | throw => exact h
  | call _ _ ih => exact ⟨h.1, fun ans hposs => ih ans (h.2 ans hposs)⟩

lemma Follows.andThen {Q : α → π → Prop} {Q' : β → π → Prop} (hx : x.Follows M p Q R)
    (hf : ∀ a q, Q a q → (f a).Follows M q Q' R) : (x >>= f).Follows M p Q' R :=
  Follows.bind (hx.imp hf fun _ _ h => h)

lemma Follows.tryCatch {f : ε → Script C A ε α}
    (h : x.Follows M p Q fun e q => (f e).Follows M q Q R) : (x.tryCatch f).Follows M p Q R := by
  induction x generalizing p with
  | done => exact h
  | throw => exact h
  | call _ _ ih => exact ⟨h.1, fun ans hposs => ih ans (h.2 ans hposs)⟩

lemma Follows.perform {c : C} {Q : A c → π → Prop} (hallow : M.allowed p c)
    (hok : ∀ a, M.possible c (.ok a) → Q a (M.after p c (.ok a)))
    (herror : ∀ e, M.possible c (.error e) → R e (M.after p c (.error e))) :
    (Script.perform c : Script C A ε (A c)).Follows M p Q R := by
  refine ⟨hallow, fun ans hposs => ?_⟩
  cases ans with
  | ok a => exact hok a hposs
  | error e => exact herror e hposs

def Uses (P : C → Prop) : Script C A ε α → Prop
  | .done _ => True
  | .throw _ => True
  | .call c next => P c ∧ ∀ answer, (next answer).Uses P

variable {P : C → Prop}

lemma Uses.perform {c : C} (hc : P c) : (Script.perform c : Script C A ε (A c)).Uses P := by
  refine ⟨hc, fun ans => ?_⟩
  cases ans <;> trivial

lemma Uses.bind (hx : x.Uses P) (hf : ∀ a, (f a).Uses P) : (x >>= f).Uses P := by
  induction x with
  | done a => exact hf a
  | throw => trivial
  | call _ _ ih => exact ⟨hx.1, fun ans => ih ans (hx.2 ans)⟩

lemma Uses.imp {P' : C → Prop} (hx : x.Uses P) (h : ∀ c, P c → P' c) : x.Uses P' := by
  induction x with
  | done => trivial
  | throw => trivial
  | call c _ ih => exact ⟨h c hx.1, fun ans => ih ans (hx.2 ans)⟩

lemma Uses.forM {γ : Type} {f : γ → Script C A ε PUnit} {l : List γ} (hf : ∀ c ∈ l, (f c).Uses P)
    : (l.forM f).Uses P := by
  induction l with
  | nil => trivial
  | cons c _ ih =>
    refine Uses.bind (hf c (List.mem_cons_self ..)) fun _ => ?_
    exact ih fun d hd => hf d (List.mem_cons_of_mem c hd)

lemma Uses.tryCatch {f : ε → Script C A ε α} (hx : x.Uses P) (hf : ∀ e, (f e).Uses P) :
    (x.tryCatch f).Uses P := by
  induction x with
  | done => trivial
  | throw e => exact hf e
  | call _ _ ih => exact ⟨hx.1, fun ans => ih ans (hx.2 ans)⟩

lemma Uses.keeps {I : π → Prop} (hx : x.Uses P) (hp : I p)
    (hallow : ∀ q c, I q → P c → M.allowed q c)
    (hafter : ∀ q c ans, I q → P c → M.possible c ans → I (M.after q c ans)) :
    x.Follows M p (fun _ q => I q) fun _ q => I q := by
  induction x generalizing p with
  | done => exact hp
  | throw => exact hp
  | call c _ ih =>
    refine ⟨hallow p c hp hx.1, fun ans hposs => ?_⟩
    exact ih ans (hx.2 ans) (hafter p c ans hp hx.1 hposs)

lemma Uses.follows (hx : x.Uses P) (hallow : ∀ c, P c → M.allowed p c)
    (hafter : ∀ c ans, P c → M.after p c ans = p) :
    x.Follows M p (fun _ q => q = p) fun _ q => q = p := by
  refine hx.keeps rfl ?_ ?_
  · rintro q c rfl hc
    exact hallow c hc
  · rintro _ c ans rfl hc -
    exact hafter c ans hc

def Monitor.watch (M : Monitor C A ε π) (p : π) (record : List (Entry C A ε)) : π :=
  record.foldl (fun q entry => M.after q entry.1 entry.2) p

lemma Follows.of_ends (h : x.Follows M p Q R) (hposs : ∀ c ans, M.possible c ans)
    {rec : List (Entry C A ε)} {result : Except ε α} (hends : x.Ends rec result) :
    (∀ a, result = .ok a → Q a (M.watch p rec)) ∧ ∀ e, result = .error e → R e (M.watch p rec) := by
  induction x generalizing p rec with
  | done =>
    obtain ⟨rfl, rfl⟩ := hends
    refine ⟨?_, ?_⟩
    · rintro _ ⟨⟩
      exact h
    · rintro _ ⟨⟩
  | throw =>
    obtain ⟨rfl, rfl⟩ := hends
    refine ⟨?_, ?_⟩
    · rintro _ ⟨⟩
    · rintro _ ⟨⟩
      exact h
  | call c _ ih =>
    obtain ⟨ans, _, rfl, hrest⟩ := hends
    exact ih ans (h.2 ans (hposs c ans)) hrest

end Rules

end Script

/-! ## Crews -/

/-- Scripts at work on a shared state; one that has stopped for good is `none`. -/
structure Crew (ι σ C : Type) (A : C → Type) (ε α : Type) where
  shared : σ
  scripts : ι → Option (Script C A ε α)

namespace Crew

variable {ι σ C : Type} {A : C → Type} {ε α π ω η : Type} [DecidableEq ι]

/-- A script makes its next call, stops for good, or something else happens. -/
inductive Event (ι ω η : Type)
  | call (i : ι) (input : ω)
  | stop (i : ι)
  | other (event : η)

abbrev Service (ι σ C : Type) (A : C → Type) (ε ω : Type) :=
  ι → (c : C) → ω → σ → Option (Except ε (A c) × σ)

def step (serve : Service ι σ C A ε ω) (happen : η → σ → Option σ) (s : Crew ι σ C A ε α) :
    Event ι ω η → Option (Crew ι σ C A ε α)
  | .call i input =>
    match s.scripts i with
    | some (.call c next) => (serve i c input s.shared).map fun r =>
        { shared := r.2, scripts := update s.scripts i (some (next r.1)) }
    | _ => none
  | .stop i => (s.scripts i).map fun _ => { s with scripts := update s.scripts i none }
  | .other event => (happen event s.shared).map fun t => { s with shared := t }

def working (s : Crew ι σ C A ε α) (i : ι) : Bool :=
  match s.scripts i with
  | some (.call _ _) => true
  | _ => false

def calling (s : Crew ι σ C A ε α) (i : ι) : Option C :=
  match s.scripts i with
  | some (.call c _) => some c
  | _ => none

omit [DecidableEq ι] in
lemma scripts_of_calling {s : Crew ι σ C A ε α} {i : ι} {c : C} (h : s.calling i = some c) :
    ∃ next, s.scripts i = some (.call c next) := by
  unfold calling at h
  split at h
  next _ next hscr =>
    obtain ⟨⟩ := h
    exact ⟨next, hscr⟩
  · cases h

def Obeys (M : ι → Script.Monitor C A ε π) (J : σ → (ι → π) → (ι → Bool) → Prop)
    (s : Crew ι σ C A ε α) : Prop :=
  ∃ phase : ι → π,
    (∀ i script, s.scripts i = some script →
      script.Follows (M i) (phase i) (fun _ _ => True) fun _ _ => True) ∧
    J s.shared phase s.working

lemma working_update (s : Crew ι σ C A ε α) (t : σ) (i : ι) (script : Option (Script C A ε α)) :
    ∃ b, (Crew.mk t (update s.scripts i script)).working = update s.working i b := by
  refine ⟨(Crew.mk t (update s.scripts i script)).working i, ?_⟩
  funext j
  by_cases hj : j = i
  · subst hj
    rw [update_self]
  · rw [update_of_ne hj]
    simp [working, update_of_ne hj]

lemma working_stop (s : Crew ι σ C A ε α) (i : ι) :
    ({ s with scripts := update s.scripts i none } : Crew ι σ C A ε α).working =
      update s.working i false := by
  funext j
  by_cases hj : j = i
  · subst hj
    simp [working]
  · rw [update_of_ne hj]
    simp [working, update_of_ne hj]

/-- What a tie must withstand: allowed calls that meet `E`, the loss of a worker, all else in `D`.
-/
structure Kept (M : ι → Script.Monitor C A ε π) (serve : Service ι σ C A ε ω)
    (happen : η → σ → Option σ) (E : σ → ι → C → ω → Prop) (D : σ → (ι → Bool) → η → Prop)
    (J : σ → (ι → π) → (ι → Bool) → Prop) : Prop where
  possible : ∀ i c input s answer t, serve i c input s = some (answer, t) → (M i).possible c answer
  call : ∀ s phase work i c input answer t, J s phase work → work i = true →
    (M i).allowed (phase i) c → E s i c input → serve i c input s = some (answer, t) →
    ∀ b, J t (update phase i ((M i).after (phase i) c answer)) (update work i b)
  stop : ∀ s phase work i, J s phase work → J s phase (update work i false)
  other : ∀ s phase work event t, J s phase work → D s work event → happen event s = some t →
    J t phase work

/-- Every step that meets the conditions keeps the tie of shared state and phases. -/
structure KeptWhile (M : ι → Script.Monitor C A ε π) (serve : Service ι σ C A ε ω)
    (happen : η → σ → Option σ) (E : σ → (ι → Bool) → ι → C → ω → Prop)
    (D : σ → (ι → Bool) → η → Prop) (J : σ → (ι → π) → (ι → Bool) → Prop) : Prop where
  possible : ∀ s phase work i c input answer t, J s phase work →
    serve i c input s = some (answer, t) → (M i).possible c answer
  call : ∀ s phase work i c input answer t, J s phase work → work i = true →
    (M i).allowed (phase i) c → E s work i c input → serve i c input s = some (answer, t) →
    ∀ b, J t (update phase i ((M i).after (phase i) c answer)) (update work i b)
  stop : ∀ s phase work i, J s phase work → J s phase (update work i false)
  other : ∀ s phase work event t, J s phase work → D s work event → happen event s = some t →
    J t phase work

/-- The condition on the call that is made, or on what else happens. -/
def Meets (E : σ → ι → C → ω → Prop) (D : σ → (ι → Bool) → η → Prop) (s : Crew ι σ C A ε α) :
    Event ι ω η → Prop
  | .call i input =>
    match s.scripts i with
    | some (.call c _) => E s.shared i c input
    | _ => True
  | .stop _ => True
  | .other event => D s.shared s.working event

/-- As `Meets`, for a condition that also looks at who is still at work. -/
def MeetsWhile (E : σ → (ι → Bool) → ι → C → ω → Prop) (D : σ → (ι → Bool) → η → Prop)
    (s : Crew ι σ C A ε α) (event : Event ι ω η) : Prop :=
  s.Meets (fun t => E t s.working) D event

instance {E : σ → ι → C → ω → Prop} {D : σ → (ι → Bool) → η → Prop}
    [∀ s i c input, Decidable (E s i c input)] [∀ s work event, Decidable (D s work event)]
    (s : Crew ι σ C A ε α) (event : Event ι ω η) : Decidable (s.Meets E D event) := by
  unfold Meets
  repeat' split
  all_goals infer_instance

instance {E : σ → (ι → Bool) → ι → C → ω → Prop} {D : σ → (ι → Bool) → η → Prop}
    [∀ s work i c input, Decidable (E s work i c input)]
    [∀ s work event, Decidable (D s work event)] (s : Crew ι σ C A ε α) (event : Event ι ω η) :
    Decidable (s.MeetsWhile E D event) :=
  inferInstanceAs (Decidable (s.Meets (fun t => E t s.working) D event))

section While

variable {M : ι → Script.Monitor C A ε π} {serve : Service ι σ C A ε ω}
  {happen : η → σ → Option σ} {E : σ → (ι → Bool) → ι → C → ω → Prop}
  {D : σ → (ι → Bool) → η → Prop} {J : σ → (ι → π) → (ι → Bool) → Prop} {s t : Crew ι σ C A ε α}

lemma Obeys.step_while (hkept : KeptWhile M serve happen E D J) {event : Event ι ω η}
    (h : s.Obeys M J) (hmeets : s.MeetsWhile E D event)
    (hstep : s.step serve happen event = some t) : t.Obeys M J := by
  obtain ⟨ph, hfol, hJ⟩ := h
  cases event with
  | call i input =>
    simp only [Crew.step] at hstep
    split at hstep
    case h_2 => cases hstep
    case h_1 c next hscr =>
      obtain ⟨⟨ans, u⟩, hserve, rfl⟩ := Option.map_eq_some_iff.mp hstep
      obtain ⟨hallow, hnext⟩ := hfol i _ hscr
      have hworking : s.working i = true := by simp [working, hscr]
      have hcall : E s.shared s.working i c input := by
        simpa [MeetsWhile, Meets, hscr] using hmeets
      obtain ⟨b, hb⟩ := working_update s u i (some (next ans))
      refine ⟨update ph i ((M i).after (ph i) c ans), ?_, ?_⟩
      · intro j script hj
        by_cases hji : j = i
        · subst hji
          obtain rfl : next ans = script := by simpa using hj
          rw [update_self]
          exact hnext ans (hkept.possible s.shared ph s.working j c input ans u hJ hserve)
        · rw [update_of_ne hji]
          exact hfol j script (by simpa [update_of_ne hji] using hj)
      · rw [hb]
        exact hkept.call s.shared ph s.working i c input ans u hJ hworking hallow hcall hserve b
  | stop i =>
    obtain ⟨_, -, rfl⟩ := Option.map_eq_some_iff.mp hstep
    refine ⟨ph, ?_, ?_⟩
    · intro j script hj
      by_cases hji : j = i
      · subst hji
        simp at hj
      · exact hfol j script (by simpa [update_of_ne hji] using hj)
    · rw [working_stop]
      exact hkept.stop s.shared ph s.working i hJ
  | other event =>
    obtain ⟨u, hhappen, rfl⟩ := Option.map_eq_some_iff.mp hstep
    exact ⟨ph, hfol, hkept.other s.shared ph s.working event u hJ hmeets hhappen⟩

lemma Obeys.run_while (hkept : KeptWhile M serve happen E D J) {events : List (Event ι ω η)}
    (h : s.Obeys M J) (hmeets : Transition.Along (Crew.step serve happen) (MeetsWhile E D) s events)
    (hrun : Transition.run (Crew.step serve happen) s events = some t) : t.Obeys M J :=
  Transition.run_induction
    (fun _ _ _ hs hmeets hstep => Obeys.step_while hkept hs hmeets hstep) h hmeets hrun

end While

section Plain

variable {M : ι → Script.Monitor C A ε π} {serve : Service ι σ C A ε ω}
  {happen : η → σ → Option σ} {E : σ → ι → C → ω → Prop} {D : σ → (ι → Bool) → η → Prop}
  {J : σ → (ι → π) → (ι → Bool) → Prop}

lemma Kept.kept_while (h : Kept M serve happen E D J) :
    KeptWhile M serve happen (fun s _ => E s) D J where
  possible := fun s _ _ i c input ans t _ hserve => h.possible i c input s ans t hserve
  call := h.call
  stop := h.stop
  other := h.other

lemma Obeys.run (hkept : Kept M serve happen E D J) {s t : Crew ι σ C A ε α}
    {events : List (Event ι ω η)} (h : s.Obeys M J)
    (hmeets : Transition.Along (Crew.step serve happen) (Meets E D) s events)
    (hrun : Transition.run (Crew.step serve happen) s events = some t) : t.Obeys M J :=
  h.run_while hkept.kept_while hmeets hrun

end Plain

end Crew
