import Mathlib.Data.List.Basic

/-!
# Runs of a partial transition function

The event `e` is enabled in the state `s` when `step s e` is not `none`.  `run` follows a list of
events, `Along` says that every event is taken in a state meeting a condition, and `run_induction`
is the invariant rule.
-/

namespace Transition

variable {σ ε : Type*}

def run (step : σ → ε → Option σ) : σ → List ε → Option σ
  | s, [] => some s
  | s, e :: es => (step s e).bind fun t => run step t es

/-- Every event of the run `es` from `s` is taken in a state that meets the condition `C`. -/
def Along (step : σ → ε → Option σ) (C : σ → ε → Prop) : σ → List ε → Prop
  | _, [] => True
  | s, e :: es => C s e ∧ ∀ t, step s e = some t → Along step C t es

/-- `s` is reached from `init` by some finite run. -/
def Reachable (step : σ → ε → Option σ) (init s : σ) : Prop :=
  ∃ es, run step init es = some s

/-- Whether a run meets a decidable condition can be computed by following it. -/
instance Along.decidable (step : σ → ε → Option σ) (C : σ → ε → Prop) [∀ s e, Decidable (C s e)] :
    ∀ (s : σ) (es : List ε), Decidable (Along step C s es)
  | _, [] => isTrue trivial
  | s, e :: es =>
    match h : step s e with
    | none => decidable_of_iff (C s e) (by simp [Along, h])
    | some t =>
      have := Along.decidable step C t es
      decidable_of_iff (C s e ∧ Along step C t es) (by simp [Along, h])

variable {step : σ → ε → Option σ}

@[simp] lemma run_nil (s : σ) : run step s [] = some s := rfl

variable {es : List ε}

lemma run_cons_eq_some {s t : σ} {e : ε} :
    run step s (e :: es) = some t ↔ ∃ u, step s e = some u ∧ run step u es = some t := by
  simp [run, Option.bind_eq_some_iff]

/-- Whether a run ends in a state with `P` can be computed by following it. -/
instance decidableExistsEnd {r : Option σ} {P : σ → Prop} [DecidablePred P] :
    Decidable (∃ t, r = some t ∧ P t) :=
  match r with
  | none => isFalse fun ⟨_, h, _⟩ => nomatch h
  | some t => decidable_of_iff (P t) (by simp)

lemma exists_end {r : Option σ} {A P : σ → Prop} (hends : ∃ t, r = some t ∧ A t)
    (h : ∀ t, r = some t → A t → P t) : ∃ t, r = some t ∧ P t := by
  obtain ⟨t, ht, hA⟩ := hends
  exact ⟨t, ht, h t ht hA⟩

variable {C D : σ → ε → Prop} {I : σ → Prop}

lemma run_induction (hstep : ∀ s e t, I s → C s e → step s e = some t → I t) {s t : σ} (hs : I s)
    (hC : Along step C s es) (hrun : run step s es = some t) : I t := by
  induction es generalizing s with
  | nil =>
    obtain rfl : s = t := by simpa using hrun
    exact hs
  | cons e _ ih =>
    obtain ⟨u, hu, hrest⟩ := run_cons_eq_some.mp hrun
    exact ih (hstep s e u hs hC.1 hu) (hC.2 u hu) hrest

variable {s : σ}

lemma Along.imp (hstep : ∀ s e t, I s → C s e → step s e = some t → I t)
    (himp : ∀ s e, I s → C s e → D s e) (hs : I s) (h : Along step C s es) : Along step D s es := by
  induction es generalizing s with
  | nil => trivial
  | cons e _ ih =>
    exact ⟨himp s e hs h.1, fun t ht => ih (hstep s e t hs h.1 ht) (h.2 t ht)⟩

lemma Along.and (hC : Along step C s es) (hD : Along step D s es) :
    Along step (fun s e => C s e ∧ D s e) s es := by
  induction es generalizing s with
  | nil => trivial
  | cons _ _ ih => exact ⟨⟨hC.1, hD.1⟩, fun t ht => ih (hC.2 t ht) (hD.2 t ht)⟩

lemma along_of_forall {C : ε → Prop} (h : ∀ e ∈ es, C e) : Along step (fun _ e => C e) s es := by
  induction es generalizing s with
  | nil => trivial
  | cons e _ ih =>
    exact ⟨h e List.mem_cons_self, fun t _ => ih fun e he => h e (List.mem_cons_of_mem _ he)⟩

lemma along_true (s : σ) (es : List ε) : Along step (fun _ _ => True) s es :=
  along_of_forall fun _ _ => trivial

lemma along_iff_forall_reached {P : σ → Prop}
    (hC : ∀ s e, P s → (C s e ↔ ∀ t, step s e = some t → P t)) (hs : P s) :
    Along step C s es ↔ ∀ pre t, pre <+: es → run step s pre = some t → P t := by
  induction es generalizing s with
  | nil =>
    refine iff_of_true trivial fun pre t hpre hrun => ?_
    obtain rfl := List.prefix_nil.mp hpre
    obtain ⟨⟩ := hrun
    exact hs
  | cons e es ih =>
    constructor
    · rintro ⟨hnow, hlater⟩ pre t hpre hrun
      cases pre with
      | nil =>
        obtain ⟨⟩ := hrun
        exact hs
      | cons e' pre =>
        obtain ⟨rfl, htail⟩ := List.cons_prefix_cons.mp hpre
        obtain ⟨u, hu, hrest⟩ := run_cons_eq_some.mp hrun
        exact (ih ((hC s e' hs).mp hnow u hu)).mp (hlater u hu) pre t htail hrest
    · intro h
      have hnext : ∀ u, step s e = some u → P u := fun u hu =>
        h [e] u (List.prefix_append [e] es) (run_cons_eq_some.mpr ⟨u, hu, rfl⟩)
      refine ⟨(hC s e hs).mpr hnext, fun u hu => (ih (hnext u hu)).mpr fun pre t hpre hrun => ?_⟩
      exact h (e :: pre) t (List.cons_prefix_cons.mpr ⟨rfl, hpre⟩)
        (run_cons_eq_some.mpr ⟨u, hu, hrun⟩)

lemma Reachable.tail {init s t : σ} {e : ε} (hs : Reachable step init s) (h : step s e = some t) :
    Reachable step init t := by
  obtain ⟨es, hes⟩ := hs
  refine ⟨es ++ [e], ?_⟩
  induction es generalizing init with
  | nil =>
    obtain ⟨⟩ := hes
    exact run_cons_eq_some.mpr ⟨t, h, rfl⟩
  | cons _ _ ih =>
    obtain ⟨u, hu, hrest⟩ := run_cons_eq_some.mp hes
    exact run_cons_eq_some.mpr ⟨u, hu, ih hrest⟩

lemma Reachable.induction {init s : σ} (hinit : I init)
    (hstep : ∀ s e t, I s → step s e = some t → I t) (hs : Reachable step init s) : I s := by
  obtain ⟨es, hes⟩ := hs
  exact run_induction (C := fun _ _ => True) (fun s e t hI _ h => hstep s e t hI h) hinit
    (along_true init es) hes

end Transition
