import WispaceBot.Foundation.Run

/-!
# Transactions with row locks

A transaction is a program whose statements read the row of a key and may hold it or write it, which
takes the lock of the key until the end.  What it has written becomes visible when it commits.
Transactions run interleaved, and any of them may be rolled back between two statements; in between
they may ask for what they do not lock (`ask`) and call out (`call`).

`Safe` is a rule for a single transaction: it may rely on the rows it holds.  `fenced`: at every
call of a safe transaction, among others that are safe, the rows it holds are as it has read them.
-/

namespace RowLocking

open Function Transition

/-- What a statement does with the row it has read. -/
inductive Access (ρ : Type)
  | skip
  /-- `SELECT … FOR UPDATE`, or an advisory lock. -/
  | hold
  | put (row : Option ρ)

/-- A transaction: it accesses rows, asks for data and calls to the outside. -/
inductive Program (κ ρ ω ℓ α : Type)
  | done (a : α)
  | fail
  | access (k : κ) (f : Option ρ → Access ρ) (next : Option ρ → Program κ ρ ω ℓ α)
  | ask (next : ω → Program κ ρ ω ℓ α)
  | call (label : ℓ) (next : ω → Program κ ρ ω ℓ α)

variable {κ ρ ω ℓ α β : Type}

namespace Program

/-- One program after another, in one transaction. -/
protected def bind : Program κ ρ ω ℓ α → (α → Program κ ρ ω ℓ β) → Program κ ρ ω ℓ β
  | .done a, g => g a
  | .fail, _ => .fail
  | .access k f next, g => .access k f fun row => (next row).bind g
  | .ask next, g => .ask fun answer => (next answer).bind g
  | .call label next, g => .call label fun answer => (next answer).bind g

instance : Monad (Program κ ρ ω ℓ) where
  pure := .done
  bind := Program.bind

/-- The transaction makes no call to the outside. -/
def Quiet : Program κ ρ ω ℓ α → Prop
  | .done _ => True
  | .fail => True
  | .access _ _ next => ∀ row, (next row).Quiet
  | .ask next => ∀ answer, (next answer).Quiet
  | .call _ _ => False

lemma Quiet.bind {x : Program κ ρ ω ℓ α} {g : α → Program κ ρ ω ℓ β} (hx : x.Quiet)
    (hg : ∀ a, (g a).Quiet) : (x >>= g).Quiet := by
  induction x with
  | done a => exact hg a
  | fail => trivial
  | access _ _ _ ih => exact fun row => ih row (hx row)
  | ask _ ih => exact fun ans => ih ans (hx ans)
  | call => exact hx.elim

lemma Quiet.forM {γ : Type} {g : γ → Program κ ρ ω ℓ PUnit} (hg : ∀ c, (g c).Quiet)
    (l : List γ) : (l.forM g).Quiet := by
  induction l with
  | nil => trivial
  | cons c _ ih => exact (hg c).bind fun _ => ih

/-! ## A transaction alone -/

section Alone

variable [DecidableEq κ]

/-- If nothing else runs; `none` if it is rolled back.  It is told the same wherever it asks. -/
def alone (answer : ω) : Program κ ρ ω ℓ α → (κ → Option ρ) → Option (α × (κ → Option ρ))
  | .done a, rows => some (a, rows)
  | .fail, _ => none
  | .access k f next, rows => match f (rows k) with
    | .skip => (next (rows k)).alone answer rows
    | .hold => (next (rows k)).alone answer rows
    | .put row => (next (rows k)).alone answer (update rows k row)
  | .ask next, rows => (next answer).alone answer rows
  | .call _ next, rows => (next answer).alone answer rows

variable {answer : ω} {rows rows' : κ → Option ρ}

lemma alone_bind (x : Program κ ρ ω ℓ α) (g : α → Program κ ρ ω ℓ β) :
    (x >>= g).alone answer rows = (x.alone answer rows).bind fun r => (g r.1).alone answer r.2 := by
  change (x.bind g).alone answer rows = _
  induction x generalizing rows with
  | done => rfl
  | fail => rfl
  | access k f _ ih =>
    simp only [Program.bind, alone]
    cases f (rows k) with
    | skip => exact ih _
    | hold => exact ih _
    | put => exact ih _
  | ask _ ih => exact ih answer
  | call _ _ ih => exact ih answer

/-- The program writes only under keys with `P`. -/
def Writes (P : κ → Prop) : Program κ ρ ω ℓ α → Prop
  | .done _ => True
  | .fail => True
  | .access k f next => (P k ∨ ∀ row written, f row ≠ .put written) ∧
      ∀ row, (next row).Writes P
  | .ask next => ∀ answer, (next answer).Writes P
  | .call _ next => ∀ answer, (next answer).Writes P

variable {x : Program κ ρ ω ℓ α} {g : α → Program κ ρ ω ℓ β} {P : κ → Prop}

omit [DecidableEq κ] in
lemma Writes.bind (hx : x.Writes P) (hg : ∀ a, (g a).Writes P) : (x >>= g).Writes P := by
  induction x with
  | done a => exact hg a
  | fail => trivial
  | access _ _ _ ih => exact ⟨hx.1, fun row => ih row (hx.2 row)⟩
  | ask _ ih | call _ _ ih => exact fun answer => ih answer (hx answer)

omit [DecidableEq κ] in
lemma Writes.forM {γ : Type} {g : γ → Program κ ρ ω ℓ PUnit} {l : List γ}
    (hg : ∀ c ∈ l, (g c).Writes P) : (l.forM g).Writes P := by
  induction l with
  | nil => trivial
  | cons c _ ih =>
    refine Writes.bind (hg c (List.mem_cons_self ..)) fun _ => ?_
    exact ih fun d hd => hg d (List.mem_cons_of_mem c hd)

def Total : Program κ ρ ω ℓ α → Prop
  | .done _ => True
  | .fail => False
  | .access _ _ next => ∀ row, (next row).Total
  | .ask next => ∀ answer, (next answer).Total
  | .call _ next => ∀ answer, (next answer).Total

omit [DecidableEq κ] in
lemma Total.bind (hx : x.Total) (hg : ∀ a, (g a).Total) : (x >>= g).Total := by
  induction x with
  | done a => exact hg a
  | fail => cases hx
  | access _ _ _ ih => exact fun row => ih row (hx row)
  | ask _ ih | call _ _ ih => exact fun answer => ih answer (hx answer)

omit [DecidableEq κ] in
lemma Total.forM {γ : Type} {g : γ → Program κ ρ ω ℓ PUnit} {l : List γ}
    (hg : ∀ c ∈ l, (g c).Total) : (l.forM g).Total := by
  induction l with
  | nil => trivial
  | cons c _ ih =>
    refine Total.bind (hg c (List.mem_cons_self ..)) fun _ => ?_
    exact ih fun d hd => hg d (List.mem_cons_of_mem c hd)

lemma Total.alone (hx : x.Total) : ∃ r, x.alone answer rows = some r := by
  induction x generalizing rows with
  | done => exact ⟨_, rfl⟩
  | fail => cases hx
  | access k f _ ih =>
    simp only [Program.alone]
    cases f (rows k) with
    | skip => exact ih _ (hx _)
    | hold => exact ih _ (hx _)
    | put => exact ih _ (hx _)
  | ask _ ih | call _ _ ih => exact ih answer (hx answer)

lemma Writes.spares {a : α} (hx : x.Writes P) (halone : x.alone answer rows = some (a, rows'))
    {k : κ} (hk : ¬ P k) : rows' k = rows k := by
  induction x generalizing rows with
  | done =>
    obtain ⟨⟩ := halone
    rfl
  | fail => cases halone
  | access k' f _ ih =>
    simp only [alone] at halone
    cases hf : f (rows k') with
    | skip | hold =>
      rw [hf] at halone
      exact ih _ (hx.2 _) halone
    | put row =>
      rw [hf] at halone
      have hne : k ≠ k' := by
        rintro rfl
        exact (hx.1.resolve_left hk) (rows k) row hf
      exact (ih _ (hx.2 _) halone).trans (update_of_ne hne _ _)
  | ask _ ih | call _ _ ih => exact ih answer (hx answer) halone

end Alone

end Program

/-! ## Interleavings -/

/-- A transaction in progress: what is left of it, and what it has written. -/
structure Process (κ ρ ω ℓ : Type) where
  program : Option (Program κ ρ ω ℓ Unit)
  writes : κ → Option (Option ρ)

/-- The committed rows, the owners of the locks, and the transactions. -/
structure Database (ι κ ρ ω ℓ : Type) where
  committed : κ → Option ρ
  owner : κ → Option ι
  procs : ι → Process κ ρ ω ℓ

/-- A process takes a step, or is aborted. -/
inductive Event (ι ω : Type)
  | run (i : ι) (answer : ω)
  | abort (i : ι)

namespace Database

variable {ι : Type} [DecidableEq ι] [DecidableEq κ]

section

variable (s : Database ι κ ρ ω ℓ) (i : ι)

def current (k : κ) : Option ρ :=
  ((s.procs i).writes k).getD (s.committed k)

def free (k : κ) : Bool :=
  (s.owner k).all fun j => decide (j = i)

def advance (program : Program κ ρ ω ℓ Unit) : Database ι κ ρ ω ℓ :=
  { s with procs := update s.procs i { s.procs i with program := some program } }

def take (k : κ) : Database ι κ ρ ω ℓ :=
  { s with owner := update s.owner k (some i) }

def write (k : κ) (row : Option ρ) : Database ι κ ρ ω ℓ :=
  let written := { s.procs i with writes := update (s.procs i).writes k (some row) }
  { s with procs := update s.procs i written }

def finish : Database ι κ ρ ω ℓ :=
  { s with
    owner := fun k => if s.owner k = some i then none else s.owner k
    procs := update s.procs i ⟨none, fun _ => none⟩ }

def commit : Database ι κ ρ ω ℓ :=
  { s.finish i with committed := s.current i }

def access (k : κ) (f : Option ρ → Access ρ) (next : Option ρ → Program κ ρ ω ℓ Unit) :
    Option (Database ι κ ρ ω ℓ) :=
  match f (s.current i k) with
  | .skip => some (s.advance i (next (s.current i k)))
  | .hold => if s.free i k then some ((s.take i k).advance i (next (s.current i k))) else none
  | .put row =>
    if s.free i k then some (((s.take i k).write i k row).advance i (next (s.current i k)))
    else none

end

def step (s : Database ι κ ρ ω ℓ) : Event ι ω → Option (Database ι κ ρ ω ℓ)
  | .run i answer =>
    match (s.procs i).program with
    | none => none
    | some (.done _) => some (s.commit i)
    | some .fail => some (s.finish i)
    | some (.access k f next) => s.access i k f next
    | some (.ask next) => some (s.advance i (next answer))
    | some (.call _ next) => some (s.advance i (next answer))
  | .abort i => (s.procs i).program.map fun _ => s.finish i

def calling (s : Database ι κ ρ ω ℓ) (i : ι) : Option ℓ :=
  match (s.procs i).program with
  | some (.call label _) => some label
  | _ => none

def init (committed : κ → Option ρ) (programs : ι → Program κ ρ ω ℓ Unit) :
    Database ι κ ρ ω ℓ where
  committed := committed
  owner := fun _ => none
  procs := fun i => ⟨some (programs i), fun _ => none⟩

end Database

/-! ## What a transaction may rely on -/

section Safe

variable [DecidableEq κ]

/-- The program meets `Φ` at each of its calls, by the committed rows it holds. -/
def Safe (Φ : ℓ → (κ → Option (Option ρ)) → Prop) :
    Program κ ρ ω ℓ α → (κ → Option (Option ρ)) → (κ → Option (Option ρ)) → Prop
  | .done _, _, _ => True
  | .fail, _, _ => True
  | .access k f next, view, writes => ∀ c : Option ρ, (∀ c', view k = some c' → c = c') →
      match f ((writes k).getD c) with
      | .skip => Safe Φ (next ((writes k).getD c)) view writes
      | .hold => Safe Φ (next ((writes k).getD c)) (update view k (some c)) writes
      | .put row => Safe Φ (next ((writes k).getD c)) (update view k (some c))
          (update writes k (some row))
  | .ask next, view, writes => ∀ answer, Safe Φ (next answer) view writes
  | .call label next, view, writes => Φ label view ∧ ∀ answer, Safe Φ (next answer) view writes

variable {Φ : ℓ → (κ → Option (Option ρ)) → Prop} {x : Program κ ρ ω ℓ α}

lemma Program.Quiet.safe (hx : x.Quiet) (view writes : κ → Option (Option ρ)) :
    Safe Φ x view writes := by
  induction x generalizing view writes with
  | done => trivial
  | fail => trivial
  | access _ _ _ ih =>
    intro _ _
    split
    · exact ih _ (hx _) _ _
    · exact ih _ (hx _) _ _
    · exact ih _ (hx _) _ _
  | ask _ ih => exact fun ans => ih ans (hx ans) view writes
  | call => exact hx.elim

lemma Safe.map {b : β} {view writes : κ → Option (Option ρ)} (hx : Safe Φ x view writes) :
    Safe Φ (x >>= fun _ => pure b) view writes := by
  induction x generalizing view writes with
  | done => trivial
  | fail => trivial
  | access _ _ _ ih =>
    intro c hc
    have hhere := hx c hc
    split at hhere
    · exact ih _ hhere
    · exact ih _ hhere
    · exact ih _ hhere
  | ask _ ih => exact fun ans => ih ans (hx ans)
  | call _ _ ih => exact ⟨hx.1, fun ans => ih ans (hx.2 ans)⟩

end Safe

/-! ## Fences -/

namespace Database

variable {ι : Type} [DecidableEq ι] [DecidableEq κ] {s t : Database ι κ ρ ω ℓ} {i j : ι} {k : κ}

/-- The transaction is safe by rows it holds, which are committed as it has seen them. -/
def Relies (Φ : ℓ → (κ → Option (Option ρ)) → Prop) (s : Database ι κ ρ ω ℓ) (i : ι)
    (program : Program κ ρ ω ℓ Unit) : Prop :=
  ∃ view : κ → Option (Option ρ),
    (∀ k c, view k = some c → s.owner k = some i ∧ s.committed k = c) ∧
      Safe Φ program view (s.procs i).writes

/-- Every transaction writes only what it has locked, and is safe. -/
structure Guarded (Φ : ℓ → (κ → Option (Option ρ)) → Prop) (s : Database ι κ ρ ω ℓ) : Prop where
  locked : ∀ i k row, (s.procs i).writes k = some row → s.owner k = some i
  safe : ∀ i program, (s.procs i).program = some program → s.Relies Φ i program

/-- A step of one process leaves the others and the rows they hold as they are. -/
structure Spares (i : ι) (s t : Database ι κ ρ ω ℓ) : Prop where
  procs : ∀ j, j ≠ i → t.procs j = s.procs j
  held : ∀ j k, j ≠ i → s.owner k = some j → t.owner k = some j ∧ t.committed k = s.committed k

lemma Guarded.of_spares {Φ : ℓ → (κ → Option (Option ρ)) → Prop} (h : Guarded Φ s)
    (hspare : Spares i s t)
    (hlocked : ∀ k row, (t.procs i).writes k = some row → t.owner k = some i)
    (hsafe : ∀ program, (t.procs i).program = some program → t.Relies Φ i program) :
    Guarded Φ t where
  locked := by
    intro j k row hrow
    by_cases hj : j = i
    · subst hj
      exact hlocked k row hrow
    · rw [hspare.procs j hj] at hrow
      exact (hspare.held j k hj (h.locked j k row hrow)).1
  safe := by
    intro j program hprog
    by_cases hj : j = i
    · subst hj
      exact hsafe program hprog
    · have hsame := hspare.procs j hj
      rw [hsame] at hprog
      obtain ⟨view, hview, _⟩ := h.safe j program hprog
      refine ⟨view, fun k c hc => ?_, by rwa [hsame]⟩
      obtain ⟨howner, hcomm⟩ := hview k c hc
      obtain ⟨hstill, hkept⟩ := hspare.held j k hj howner
      exact ⟨hstill, hkept.trans hcomm⟩

omit [DecidableEq κ] in
lemma spares_advance (s : Database ι κ ρ ω ℓ) (i : ι) (program : Program κ ρ ω ℓ Unit) :
    Spares i s (s.advance i program) where
  procs := fun _ hj => update_of_ne hj _ _
  held := fun _ _ _ howner => ⟨howner, rfl⟩

lemma spares_take (hfree : s.free i k = true) : Spares i s (s.take i k) where
  procs := fun _ _ => rfl
  held := by
    intro _ k' hj howner
    refine ⟨?_, rfl⟩
    have hne : k' ≠ k := by
      rintro rfl
      rw [free, howner] at hfree
      exact hj (of_decide_eq_true hfree)
    exact (update_of_ne hne _ _).trans howner

lemma spares_write (s : Database ι κ ρ ω ℓ) (i : ι) (k : κ) (row : Option ρ) :
    Spares i s (s.write i k row) where
  procs := fun _ hj => update_of_ne hj _ _
  held := fun _ _ _ howner => ⟨howner, rfl⟩

omit [DecidableEq κ] in
lemma spares_finish (s : Database ι κ ρ ω ℓ) (i : ι) : Spares i s (s.finish i) where
  procs := fun _ hj => update_of_ne hj _ _
  held := by
    intro _ k hj howner
    refine ⟨?_, rfl⟩
    have hother : s.owner k ≠ some i := by
      rw [howner]
      exact fun h => hj (Option.some.inj h)
    exact (if_neg hother).trans howner

omit [DecidableEq κ] in
lemma spares_commit (hlocked : ∀ k row, (s.procs i).writes k = some row → s.owner k = some i) :
    Spares i s (s.commit i) where
  procs := (spares_finish s i).procs
  held := by
    intro j k hj howner
    refine ⟨((spares_finish s i).held j k hj howner).1, ?_⟩
    have hunwr : (s.procs i).writes k = none := by
      by_contra hwrote
      obtain ⟨row, hrow⟩ := Option.ne_none_iff_exists'.mp hwrote
      have hmine := hlocked k row hrow
      rw [howner] at hmine
      exact hj (Option.some.inj hmine)
    change s.current i k = s.committed k
    rw [current, hunwr, Option.getD_none]

omit [DecidableEq ι] [DecidableEq κ] in
lemma Spares.trans {u : Database ι κ ρ ω ℓ} (h : Spares i s t) (h' : Spares i t u) :
    Spares i s u where
  procs := fun j hj => (h'.procs j hj).trans (h.procs j hj)
  held := by
    intro j k hj howner
    obtain ⟨hmid, hcomm⟩ := h.held j k hj howner
    obtain ⟨hend, hcomm'⟩ := h'.held j k hj hmid
    exact ⟨hend, hcomm'.trans hcomm⟩

variable {Φ : ℓ → (κ → Option (Option ρ)) → Prop}

lemma Guarded.advance (h : Guarded Φ s) {program : Program κ ρ ω ℓ Unit}
    (hsafe : s.Relies Φ i program) : Guarded Φ (s.advance i program) := by
  have hself : (s.advance i program).procs i = { s.procs i with program := some program } :=
    update_self i _ _
  refine h.of_spares (spares_advance s i program) ?_ ?_
  · intro k row hrow
    rw [hself] at hrow
    exact h.locked i k row hrow
  · intro _ hprog
    rw [hself] at hprog
    obtain ⟨⟩ := hprog
    obtain ⟨view, hview, hrest⟩ := hsafe
    refine ⟨view, hview, ?_⟩
    rw [hself]
    exact hrest

lemma Guarded.ended (h : Guarded Φ s) (hspare : Spares i s t)
    (hended : t.procs i = ⟨none, fun _ => none⟩) : Guarded Φ t := by
  refine h.of_spares hspare ?_ ?_
  · intro _ _ hrow
    rw [hended] at hrow
    cases hrow
  · intro _ hprog
    rw [hended] at hprog
    cases hprog

omit [DecidableEq ι] in
lemma view_take {view : κ → Option (Option ρ)}
    (hview : ∀ k c, view k = some c → s.owner k = some i ∧ s.committed k = c) :
    ∀ k' c, update view k (some (s.committed k)) k' = some c →
      (s.take i k).owner k' = some i ∧ (s.take i k).committed k' = c := by
  intro k' c hc
  by_cases hk : k' = k
  · subst hk
    rw [update_self] at hc
    exact ⟨update_self _ _ _, Option.some.inj hc⟩
  · rw [update_of_ne hk] at hc
    obtain ⟨howner, hcomm⟩ := hview k' c hc
    exact ⟨(update_of_ne hk _ _).trans howner, hcomm⟩

lemma Guarded.take (h : Guarded Φ s) (hfree : s.free i k = true) : Guarded Φ (s.take i k) := by
  have hkeeps : ∀ k', s.owner k' = some i → (s.take i k).owner k' = some i := by
    intro k' howner
    by_cases hk : k' = k
    · subst hk
      exact update_self _ _ _
    · exact (update_of_ne hk _ _).trans howner
  refine h.of_spares (spares_take hfree) ?_ ?_
  · exact fun k' row hrow => hkeeps k' (h.locked i k' row hrow)
  · intro program hprog
    obtain ⟨view, hview, hrest⟩ := h.safe i program hprog
    refine ⟨view, fun k' c hc => ?_, hrest⟩
    obtain ⟨howner, hcomm⟩ := hview k' c hc
    exact ⟨hkeeps k' howner, hcomm⟩

lemma Guarded.access (h : Guarded Φ s) {f : Option ρ → Access ρ}
    {next : Option ρ → Program κ ρ ω ℓ Unit} (hprog : (s.procs i).program = some (.access k f next))
    (hstep : s.access i k f next = some t) : Guarded Φ t := by
  obtain ⟨view, hview, hsafe⟩ := h.safe i _ hprog
  have hhere := hsafe (s.committed k) fun c hc => (hview k c hc).2
  unfold Database.access at hstep
  change match f (s.current i k) with
    | .skip => Safe Φ (next (s.current i k)) view (s.procs i).writes
    | .hold => Safe Φ (next (s.current i k)) (update view k (some (s.committed k)))
        (s.procs i).writes
    | .put row => Safe Φ (next (s.current i k)) (update view k (some (s.committed k)))
        (update (s.procs i).writes k (some row)) at hhere
  cases hf : f (s.current i k) with
  | skip =>
    simp only [hf] at hstep hhere
    cases hstep
    exact h.advance ⟨view, hview, hhere⟩
  | hold =>
    simp only [hf] at hstep hhere
    obtain ⟨hfree, ⟨⟩⟩ := Option.ite_none_right_eq_some.mp hstep
    exact (h.take hfree).advance ⟨_, view_take hview, hhere⟩
  | put row =>
    simp only [hf] at hstep hhere
    obtain ⟨hfree, ⟨⟩⟩ := Option.ite_none_right_eq_some.mp hstep
    have hspare := ((spares_take hfree).trans (spares_write _ i k row)).trans
      (spares_advance _ i (next (s.current i k)))
    have hself : (((s.take i k).write i k row).advance i (next (s.current i k))).procs i =
        ⟨some (next (s.current i k)), update (s.procs i).writes k (some row)⟩ := by
      simp [Database.advance, Database.write, Database.take]
    have hview' := view_take (k := k) hview
    refine h.of_spares hspare ?_ ?_
    · intro k' row' hrow
      rw [hself] at hrow
      by_cases hk : k' = k
      · subst hk
        exact update_self _ _ _
      · have hpre : (s.procs i).writes k' = some row' :=
          (update_of_ne hk _ _).symm.trans hrow
        exact (update_of_ne hk _ _).trans (h.locked i k' row' hpre)
    · intro _ hnext
      rw [hself] at hnext
      obtain ⟨⟩ := hnext
      refine ⟨_, hview', ?_⟩
      rw [hself]
      exact hhere

lemma Guarded.step (h : Guarded Φ s) {e : Event ι ω} (hstep : s.step e = some t) : Guarded Φ t := by
  cases e with
  | run i ans =>
    simp only [Database.step] at hstep
    split at hstep
    · cases hstep
    · cases hstep
      exact h.ended (spares_commit (h.locked i)) (update_self i _ _)
    · cases hstep
      exact h.ended (spares_finish s i) (update_self i _ _)
    next hprog =>
      exact h.access hprog hstep
    next hprog =>
      cases hstep
      obtain ⟨view, hview, hsafe⟩ := h.safe i _ hprog
      exact h.advance ⟨view, hview, hsafe ans⟩
    next hprog =>
      cases hstep
      obtain ⟨view, hview, hsafe⟩ := h.safe i _ hprog
      exact h.advance ⟨view, hview, hsafe.2 ans⟩
  | abort i =>
    obtain ⟨_, -, rfl⟩ := Option.map_eq_some_iff.mp hstep
    exact h.ended (spares_finish s i) (update_self i _ _)

variable {programs : ι → Program κ ρ ω ℓ Unit} {committed : κ → Option ρ}

section

variable (hsafe : ∀ i, Safe Φ (programs i) (fun _ => none) fun _ => none)
include hsafe

omit [DecidableEq ι] in
lemma guarded_init :
    Guarded Φ (init committed programs) where
  locked := by
    intro i _ _ hrow
    cases hrow
  safe := by
    intro i _ hprog
    obtain ⟨⟩ := hprog
    exact ⟨fun _ => none, by rintro _ _ ⟨⟩, hsafe i⟩

lemma fenced {events : List (Event ι ω)}
    (hrun : Transition.run Database.step (init committed programs) events = some s) {label : ℓ}
    (hcall : s.calling i = some label) :
    ∃ view, Φ label view ∧ ∀ k c, view k = some c → s.owner k = some i ∧ s.committed k = c := by
  have hreachable : Reachable Database.step (init committed programs) s := ⟨events, hrun⟩
  have hguarded : Guarded Φ s :=
    Reachable.induction (guarded_init hsafe) (fun _ _ _ h hstep => h.step hstep) hreachable
  unfold calling at hcall
  split at hcall
  next hprog =>
    obtain ⟨⟩ := hcall
    obtain ⟨view, hview, hrest⟩ := hguarded.safe i _ hprog
    exact ⟨view, hrest.1, hview⟩
  · cases hcall

end

end Database

end RowLocking
