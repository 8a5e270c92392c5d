/-
Runs of a deterministic labelled machine.

A machine is a total step function on states and labels; an action that is not
enabled leaves the state as it is. A run is a list of labels. The rules below
are the induction over runs, stated once: invariants, invariants under a
condition on the steps taken, relations that hold across every step, properties
of single steps, and simulation between two machines.
-/

import Mathlib.Data.List.Basic
import Mathlib.Data.List.Count
import Mathlib.Tactic.Common

namespace Relational

universe u v

variable {σ : Type u} {α : Type v} {τ : Type u} {β : Type v}

/-- The state reached by taking the actions in order. -/
def run (step : σ → α → σ) (s : σ) (as : List α) : σ := as.foldl step s

/-- The steps a run takes: each action with the state it is taken in. -/
def transitions (step : σ → α → σ) : σ → List α → List (σ × α)
  | _, [] => []
  | s, a :: as => (s, a) :: transitions step (step s a) as

variable {step : σ → α → σ} {s : σ} {as : List α}

@[simp] theorem run_nil : run step s [] = s := rfl

@[simp] theorem run_cons (a : α) : run step s (a :: as) = run step (step s a) as := rfl

theorem run_append (xs ys : List α) : run step s (xs ++ ys) = run step (run step s xs) ys :=
  List.foldl_append

theorem transitions_append (xs ys : List α) :
    transitions step s (xs ++ ys) = transitions step s xs ++ transitions step (run step s xs) ys := by
  induction xs generalizing s with
  | nil => rfl
  | cons a xs ih => simp [transitions, ih]

/-! ### Invariants -/

/-- What holds at the start and is kept by every step holds after every run. -/
theorem run_invariant {I : σ → Prop} (keeps : ∀ s a, I s → I (step s a)) (hs : I s) (as : List α) :
    I (run step s as) := by
  induction as generalizing s with
  | nil => exact hs
  | cons a as ih => exact ih (keeps s a hs)

/-- An invariant kept by the steps that meet a condition holds after every run
all of whose steps meet it. -/
theorem run_invariant_of {I : σ → Prop} {C : σ → α → Prop}
    (keeps : ∀ s a, I s → C s a → I (step s a)) (hs : I s)
    (met : ∀ t ∈ transitions step s as, C t.1 t.2) : I (run step s as) := by
  induction as generalizing s with
  | nil => exact hs
  | cons a as ih =>
      have hC : C s a := met (s, a) List.mem_cons_self
      exact ih (keeps s a hs hC) fun t ht => met t (List.mem_cons_of_mem _ ht)

/-- It then holds in every state of the run. -/
theorem states_invariant_of {I : σ → Prop} {C : σ → α → Prop}
    (keeps : ∀ s a, I s → C s a → I (step s a)) (hs : I s)
    (met : ∀ t ∈ transitions step s as, C t.1 t.2) {xs : List α} (prefix_ : xs <+: as) :
    I (run step s xs) := by
  obtain ⟨zs, rfl⟩ := prefix_
  rw [transitions_append] at met
  exact run_invariant_of keeps hs fun t ht => met t (List.mem_append_left _ ht)

/-- A reflexive and transitive relation that holds across every step holds
across every run. -/
theorem run_rel {I : σ → Prop} {R : σ → σ → Prop} (refl : ∀ s, R s s)
    (trans : ∀ {s₁ s₂ s₃}, R s₁ s₂ → R s₂ s₃ → R s₁ s₃) (keeps : ∀ s a, I s → I (step s a))
    (across : ∀ s a, I s → R s (step s a)) (hs : I s) (as : List α) : R s (run step s as) := by
  induction as generalizing s with
  | nil => exact refl s
  | cons a as ih => exact trans (across s a hs) (ih (keeps s a hs))

/-- The relation holds across a run when it holds across each of its steps. -/
theorem run_rel_of {R : σ → σ → Prop} (refl : ∀ s, R s s)
    (trans : ∀ {s₁ s₂ s₃}, R s₁ s₂ → R s₂ s₃ → R s₁ s₃)
    (across : ∀ t ∈ transitions step s as, R t.1 (step t.1 t.2)) : R s (run step s as) := by
  induction as generalizing s with
  | nil => exact refl s
  | cons a as ih =>
      have first : R s (step s a) := across (s, a) List.mem_cons_self
      exact trans first (ih fun t ht => across t (List.mem_cons_of_mem _ ht))

/-! ### Properties of single steps -/

/-- Every step of a run starts in a state that satisfies the invariant. -/
theorem transitions_invariant {I : σ → Prop} (keeps : ∀ s a, I s → I (step s a)) (hs : I s)
    (as : List α) : ∀ t ∈ transitions step s as, I t.1 := by
  induction as generalizing s with
  | nil => intro t ht; cases ht
  | cons a as ih =>
      intro t ht
      rcases List.mem_cons.mp ht with rfl | ht
      · exact hs
      · exact ih (keeps s a hs) t ht

/-- Two properties of a step that agree wherever the invariant holds agree over
whole runs. -/
theorem transitions_forall_iff {I : σ → Prop} {P C : σ → α → Prop}
    (keeps : ∀ s a, I s → I (step s a)) (iff : ∀ s a, I s → (P s a ↔ C s a)) (hs : I s)
    (as : List α) :
    (∀ t ∈ transitions step s as, P t.1 t.2) ↔ ∀ t ∈ transitions step s as, C t.1 t.2 :=
  forall₂_congr fun t ht => iff t.1 t.2 (transitions_invariant keeps hs as t ht)

/-- The steps of a run are the last actions of its prefixes. -/
theorem mem_transitions {t : σ × α} : t ∈ transitions step s as ↔
    ∃ xs, xs ++ [t.2] <+: as ∧ t.1 = run step s xs := by
  induction as generalizing s with
  | nil => simp [transitions]
  | cons a as ih =>
      rw [transitions, List.mem_cons, ih]
      constructor
      · rintro (rfl | ⟨xs, hxs, ht⟩)
        · exact ⟨[], ⟨as, rfl⟩, rfl⟩
        · exact ⟨a :: xs, List.cons_prefix_cons.mpr ⟨rfl, hxs⟩, ht⟩
      · rintro ⟨xs, hxs, ht⟩
        cases xs with
        | nil =>
            obtain ⟨rfl, -⟩ := List.cons_prefix_cons.mp hxs
            exact Or.inl (Prod.ext ht rfl)
        | cons x xs =>
            obtain ⟨rfl, hrest⟩ := List.cons_prefix_cons.mp hxs
            exact Or.inr ⟨xs, hrest, ht⟩

/-- Every step of a run whose steps meet a condition starts in a state that
satisfies the invariant they keep. -/
theorem transitions_invariant_of {I : σ → Prop} {C : σ → α → Prop}
    (keeps : ∀ s a, I s → C s a → I (step s a)) (hs : I s)
    (met : ∀ t ∈ transitions step s as, C t.1 t.2) : ∀ t ∈ transitions step s as, I t.1 := by
  intro t ht
  obtain ⟨xs, hxs, hstate⟩ := mem_transitions.mp ht
  rw [hstate]
  exact states_invariant_of keeps hs met ((List.prefix_append xs [t.2]).trans hxs)

/-- A step takes one of the run's actions. -/
theorem label_mem {t : σ × α} (ht : t ∈ transitions step s as) : t.2 ∈ as := by
  obtain ⟨xs, hxs, -⟩ := mem_transitions.mp ht
  exact hxs.subset (by simp)

/-- A reflexive and transitive relation that each step respects exactly when it
meets a condition holds between any two states of a run, the earlier and the
later, exactly when every step of the run meets it. -/
theorem run_rel_iff {I : σ → Prop} {R : σ → σ → Prop} {C : σ → α → Prop} (refl : ∀ s, R s s)
    (trans : ∀ {s₁ s₂ s₃}, R s₁ s₂ → R s₂ s₃ → R s₁ s₃) (keeps : ∀ s a, I s → I (step s a))
    (iff : ∀ s a, I s → (R s (step s a) ↔ C s a)) (hs : I s) (as : List α) :
    (∀ xs ys, xs ++ ys <+: as → R (run step s xs) (run step s (xs ++ ys))) ↔
      ∀ t ∈ transitions step s as, C t.1 t.2 := by
  constructor
  · intro between t ht
    have inv : I t.1 := transitions_invariant keeps hs as t ht
    obtain ⟨xs, hxs, hstate⟩ := mem_transitions.mp ht
    have across := between xs [t.2] hxs
    rw [run_append, ← hstate] at across
    exact (iff t.1 t.2 inv).mp across
  · intro met xs ys hprefix
    obtain ⟨zs, rfl⟩ := hprefix
    rw [run_append]
    apply run_rel_of refl trans
    intro t ht
    have mem : t ∈ transitions step s (xs ++ ys ++ zs) := by
      rw [transitions_append, transitions_append]
      exact List.mem_append_left _ (List.mem_append_right _ ht)
    exact (iff t.1 t.2 (transitions_invariant keeps hs _ t mem)).mpr (met t mem)

/-- A property of states that each step keeps exactly when it meets a condition
holds in every state of a run exactly when every step of the run meets it. -/
theorem states_forall_iff {I P : σ → Prop} {C : σ → α → Prop} (keeps : ∀ s a, I s → I (step s a))
    (iff : ∀ s a, I s → P s → (P (step s a) ↔ C s a)) (hs : I s) (hP : P s) (as : List α) :
    (∀ xs, xs <+: as → P (run step s xs)) ↔ ∀ t ∈ transitions step s as, C t.1 t.2 := by
  induction as generalizing s with
  | nil =>
      constructor
      · intro _ t ht; cases ht
      · intro _ xs hxs
        rw [List.prefix_nil.mp hxs]
        exact hP
  | cons a as ih =>
      constructor
      · intro all t ht
        have hstep : P (step s a) := all [a] ⟨as, rfl⟩
        rcases List.mem_cons.mp ht with rfl | ht
        · exact (iff s a hs hP).mp hstep
        · refine (ih (keeps s a hs) hstep).mp (fun xs hxs => ?_) t ht
          exact all (a :: xs) (List.cons_prefix_cons.mpr ⟨rfl, hxs⟩)
      · intro met xs hxs
        cases xs with
        | nil => exact hP
        | cons x xs =>
            obtain ⟨rfl, hrest⟩ := List.cons_prefix_cons.mp hxs
            have hstep : P (step s x) := (iff s x hs hP).mpr (met (s, x) List.mem_cons_self)
            refine (ih (keeps s x hs) hstep).mpr (fun t ht => ?_) xs hrest
            exact met t (List.mem_cons_of_mem _ ht)

section Once

variable {I N : σ → Prop} {E : σ × α → Bool} (keeps : ∀ s a, I s → I (step s a))
  (lasts : ∀ s a, I s → N s → N (step s a)) (ends : ∀ s a, N s → E (s, a) = false)
include keeps lasts ends

/-- Once an event has been ruled out for good, it does not happen. -/
theorem transitions_never (hs : I s) (hN : N s) (as : List α) :
    (transitions step s as).countP E = 0 := by
  induction as generalizing s with
  | nil => rfl
  | cons a as ih =>
      rw [transitions, List.countP_cons_of_neg (by simp [ends s a hN])]
      exact ih (keeps s a hs) (lasts s a hs hN)

/-- An event that rules itself out happens at most once. -/
theorem transitions_once (closes : ∀ s a, I s → E (s, a) = true → N (step s a)) (hs : I s)
    (as : List α) : (transitions step s as).countP E ≤ 1 := by
  induction as generalizing s with
  | nil => exact Nat.zero_le 1
  | cons a as ih =>
      rw [transitions]
      by_cases happens : E (s, a) = true
      · have never : (transitions step (step s a) as).countP E = 0 :=
          transitions_never keeps lasts ends (keeps s a hs) (closes s a hs happens) as
        exact Nat.le_of_eq (by rw [List.countP_cons_of_pos happens, never])
      · rw [List.countP_cons_of_neg happens]
        exact ih (keeps s a hs)

end Once

/-- A quantity that grows by one with every event counts the events. -/
theorem transitions_count {m : σ → Nat} {E : σ × α → Bool}
    (counts : ∀ s a, m (step s a) = m s + (if E (s, a) then 1 else 0)) (as : List α) :
    m (run step s as) = m s + (transitions step s as).countP E := by
  induction as generalizing s with
  | nil => rfl
  | cons a as ih =>
      rw [run_cons, ih, counts, transitions, List.countP_cons]
      omega

/-! ### Simulation -/

/-- A simulation of every step by a list of abstract steps lifts to runs: the
abstract machine follows with the concatenated abstract actions. -/
theorem run_simulation {R : σ → τ → Prop} {stepA : τ → β → τ} {answer : σ → α → List β}
    (sim : ∀ s t a, R s t → R (step s a) (run stepA t (answer s a))) {t : τ} (hst : R s t)
    (as : List α) :
    R (run step s as)
      (run stepA t ((transitions step s as).flatMap fun x => answer x.1 x.2)) := by
  induction as generalizing s t with
  | nil => exact hst
  | cons a as ih =>
      simp only [transitions, List.flatMap_cons, run_append, run_cons]
      exact ih (sim s t a hst)

end Relational
