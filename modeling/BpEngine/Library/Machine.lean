import Mathlib.Data.List.Basic

/-!
# Runs of a machine

A machine is a function that executes one operation on a state; an operation that fails leaves the
state as it was.  `run` executes a list of operations, `Along P` says that `P` holds of every
operation in the state it is executed in, `selected p` lists the operations `p` holds of in the
state they are executed in, and `run_invariant` is the induction over a run.
-/

namespace BpEngine.Machine

variable {σ ι : Type} (exec : σ → ι → σ)

/-- The state after a list of operations. -/
def run (s : σ) (ops : List ι) : σ := ops.foldl exec s

/-- `P` holds of every operation of the list in the state it is executed in. -/
def Along (P : σ → ι → Prop) : σ → List ι → Prop
  | _, [] => True
  | s, op :: ops => P s op ∧ Along P (exec s op) ops

instance decidableAlong (P : σ → ι → Prop) [∀ s i, Decidable (P s i)] :
    ∀ s ops, Decidable (Along exec P s ops)
  | _, [] => inferInstanceAs (Decidable True)
  | s, op :: ops =>
    let _ := decidableAlong P (exec s op) ops
    inferInstanceAs (Decidable (P s op ∧ Along exec P (exec s op) ops))

@[simp] theorem run_nil (s : σ) : run exec s [] = s := rfl

@[simp] theorem run_cons (s : σ) (op : ι) (ops : List ι) :
    run exec s (op :: ops) = run exec (exec s op) ops := rfl

theorem run_append (s : σ) (ops ops' : List ι) :
    run exec s (ops ++ ops') = run exec (run exec s ops) ops' := by
  simp [run]

theorem along_append {P : σ → ι → Prop} (s : σ) (ops ops' : List ι) :
    Along exec P s (ops ++ ops') ↔ Along exec P s ops ∧ Along exec P (run exec s ops) ops' := by
  induction ops generalizing s with
  | nil => simp [Along]
  | cons op ops ih => simp [Along, ih, and_assoc]

variable {exec} in
/-- What follows from `P` in every state holds along a run with `P`. -/
theorem Along.mono {P Q : σ → ι → Prop} {s : σ} {ops : List ι} (h : Along exec P s ops)
    (himp : ∀ s op, P s op → Q s op) : Along exec Q s ops := by
  induction ops generalizing s with
  | nil => exact trivial
  | cons op ops ih => exact ⟨himp s op h.1, ih h.2⟩

/-- What holds of every operation of a list holds along it. -/
theorem along_of_forall {P : ι → Prop} {ops : List ι} (h : ∀ op ∈ ops, P op) (s : σ) :
    Along exec (fun _ op => P op) s ops := by
  induction ops generalizing s with
  | nil => exact trivial
  | cons op ops ih =>
    exact ⟨h op List.mem_cons_self, ih (fun op' hop => h op' (List.mem_cons_of_mem op hop)) _⟩

variable {exec} in
/-- Two conditions that hold along a run hold together. -/
theorem Along.and {P Q : σ → ι → Prop} {s : σ} {ops : List ι} (hp : Along exec P s ops)
    (hq : Along exec Q s ops) : Along exec (fun s op => P s op ∧ Q s op) s ops := by
  induction ops generalizing s with
  | nil => exact trivial
  | cons op ops ih => exact ⟨⟨hp.1, hq.1⟩, ih hp.2 hq.2⟩

/-- The operations of a list that `p` holds of in the state they are executed in. -/
def selected (p : σ → ι → Bool) : σ → List ι → List ι
  | _, [] => []
  | s, op :: ops =>
    if p s op then op :: selected p (exec s op) ops else selected p (exec s op) ops

theorem selected_append (p : σ → ι → Bool) (s : σ) (ops ops' : List ι) :
    selected exec p s (ops ++ ops') =
      selected exec p s ops ++ selected exec p (run exec s ops) ops' := by
  induction ops generalizing s with
  | nil => rfl
  | cons op ops ih =>
    simp only [List.cons_append, selected, run_cons, ih]
    split_ifs <;> rfl

theorem selected_singleton (p : σ → ι → Bool) (s : σ) (op : ι) :
    selected exec p s [op] = if p s op then [op] else [] := rfl

/-- **The induction over a run.**  What holds at the start and is preserved by every operation
allowed by `P` holds after every run along `P`. -/
theorem run_invariant {J : σ → Prop} {P : σ → ι → Prop}
    (hstep : ∀ s op, J s → P s op → J (exec s op)) {s : σ} (hs : J s) {ops : List ι}
    (hops : Along exec P s ops) : J (run exec s ops) := by
  induction ops generalizing s with
  | nil => exact hs
  | cons op ops ih => exact ih (hstep s op hs hops.1) hops.2

/-- The induction over an unrestricted run. -/
theorem run_invariant' {J : σ → Prop} (hstep : ∀ s op, J s → J (exec s op)) {s : σ}
    (hs : J s) (ops : List ι) : J (run exec s ops) := by
  induction ops generalizing s with
  | nil => exact hs
  | cons op ops ih => exact ih (hstep s op hs)

/-- Operations that each decrease a measure are no more than it. -/
theorem length_le_measure {J : σ → Prop} {P : σ → ι → Prop} (measure : σ → ℕ)
    (hJ : ∀ s op, J s → P s op → J (exec s op))
    (hdecreases : ∀ s op, J s → P s op → measure (exec s op) < measure s) {s : σ} (hs : J s)
    {ops : List ι} (hops : Along exec P s ops) : ops.length ≤ measure s := by
  induction ops generalizing s with
  | nil => exact Nat.zero_le _
  | cons op ops ih =>
    have hrest := ih (hJ s op hs hops.1) hops.2
    have hfirst := hdecreases s op hs hops.1
    rw [List.length_cons]
    omega

/-- **The exact condition for a run.**  When one operation keeps `Q` exactly under `P`, every state
of a run has `Q` exactly when `P` holds of every operation. -/
theorem along_iff {J Q : σ → Prop} {P : σ → ι → Prop} (hJ : ∀ s op, J s → J (exec s op))
    (hstep : ∀ s op, J s → Q s → (Q (exec s op) ↔ P s op)) {s : σ} (hs : J s) (hq : Q s)
    (ops : List ι) : Along exec (fun s op => Q (exec s op)) s ops ↔ Along exec P s ops := by
  induction ops generalizing s with
  | nil => exact Iff.rfl
  | cons op ops ih =>
    constructor
    · rintro ⟨hkept, hrest⟩
      exact ⟨(hstep s op hs hq).mp hkept, (ih (hJ s op hs) hkept).mp hrest⟩
    · rintro ⟨hop, hrest⟩
      have hkept := (hstep s op hs hq).mpr hop
      exact ⟨hkept, (ih (hJ s op hs) hkept).mpr hrest⟩

end BpEngine.Machine
