/-
Transactions as error-returning state functions.

A transaction body maps the state it starts from to the state it would commit,
or to an error. `commit` gives the whole transaction: the new state when the
body succeeds, the old one when it throws. Bodies are written with `ensure` (a
guard) and `orThrow` (a read that must find something), whose inversion lemmas
turn a successful body into the list of facts it checked.

The last section has the rules for a loop over a list of statements: what every
iteration keeps, what the iterations compose to, and when no iteration throws.
-/

import Mathlib.Logic.Basic
import Mathlib.Tactic.Common

namespace Relational

universe u v w

variable {ε : Type u} {α β : Type v} {σ : Type v}

/-! ### Guards -/

/-- Throw `e` unless `c` holds. -/
def ensure (c : Prop) [Decidable c] (e : ε) : Except ε PUnit.{v + 1} :=
  if c then .ok ⟨⟩ else .error e

/-- Throw `e` when the read found nothing. -/
def orThrow (o : Option α) (e : ε) : Except ε α :=
  match o with
  | some a => .ok a
  | none => .error e

/-- Throw when the read found something it must not find. -/
def orReject (o : Option α) (e : α → ε) : Except ε PUnit.{v + 1} :=
  match o with
  | some a => .error (e a)
  | none => .ok ⟨⟩

@[simp] theorem bind_eq_ok {x : Except ε α} {f : α → Except ε β} {b : β} :
    x >>= f = .ok b ↔ ∃ a, x = .ok a ∧ f a = .ok b := by
  cases x <;> simp [bind, Except.bind]

@[simp] theorem bind_eq_error {x : Except ε α} {f : α → Except ε β} {e : ε} :
    x >>= f = .error e ↔ x = .error e ∨ ∃ a, x = .ok a ∧ f a = .error e := by
  cases x <;> simp [bind, Except.bind]

theorem ok_bind (a : α) (f : α → Except ε β) : (Except.ok a >>= f) = f a := rfl

theorem map_eq_ok {x : Except ε α} {f : α → β} {b : β} :
    x.map f = .ok b ↔ ∃ a, x = .ok a ∧ f a = b := by
  cases x <;> simp [Except.map]

@[simp] theorem mapError_eq_ok {ε' : Type w} {x : Except ε α} {f : ε → ε'} {a : α} :
    x.mapError f = .ok a ↔ x = .ok a := by
  cases x <;> simp [Except.mapError]

@[simp] theorem pure_eq_ok {a b : α} : (pure a : Except ε α) = .ok b ↔ a = b := by
  simp [pure, Except.pure]

@[simp] theorem pure_ne_error {a : α} {e : ε} : ¬ (pure a : Except ε α) = .error e := by
  simp [pure, Except.pure]

@[simp] theorem throw_ne_ok {e : ε} {a : α} : ¬ (throw e : Except ε α) = .ok a := by
  simp [throw, throwThe, MonadExceptOf.throw]

@[simp] theorem throw_eq_error {e e' : ε} : (throw e : Except ε α) = .error e' ↔ e = e' := by
  simp [throw, throwThe, MonadExceptOf.throw]

@[simp] theorem ensure_eq_ok {c : Prop} [Decidable c] {e : ε} {u : PUnit.{v + 1}} :
    ensure c e = .ok u ↔ c := by
  unfold ensure
  split <;> simp_all

/-- A guard that holds. -/
theorem ensure_of {c : Prop} [Decidable c] (h : c) (e : ε) :
    (ensure c e : Except ε PUnit.{v + 1}) = .ok ⟨⟩ :=
  if_pos h

@[simp] theorem ensure_eq_error {c : Prop} [Decidable c] {e e' : ε} :
    (ensure c e : Except ε PUnit.{v + 1}) = .error e' ↔ ¬ c ∧ e = e' := by
  unfold ensure
  split <;> simp_all

@[simp] theorem orThrow_eq_ok {o : Option α} {e : ε} {a : α} : orThrow o e = .ok a ↔ o = some a := by
  cases o <;> simp [orThrow]

@[simp] theorem orThrow_eq_error {o : Option α} {e e' : ε} :
    orThrow o e = .error e' ↔ o = none ∧ e = e' := by
  cases o <;> simp [orThrow]

@[simp] theorem orReject_eq_ok {o : Option α} {e : α → ε} {u : PUnit.{v + 1}} :
    orReject o e = .ok u ↔ o = none := by
  cases o <;> simp [orReject]

@[simp] theorem orReject_eq_error {o : Option α} {e : α → ε} {e' : ε} :
    (orReject o e : Except ε PUnit.{v + 1}) = .error e' ↔ ∃ a, o = some a ∧ e a = e' := by
  cases o <;> simp [orReject]

/-! ### Lists of checks and reads -/

section Lists

variable {γ : Type w}

theorem forM_eq_ok {f : γ → Except ε PUnit.{v + 1}} {l : List γ} {u : PUnit.{v + 1}} :
    forM l f = .ok u ↔ ∀ a ∈ l, f a = .ok ⟨⟩ := by
  induction l with
  | nil => simp
  | cons a l ih =>
      rw [List.forM_cons, bind_eq_ok, List.forall_mem_cons]
      constructor
      · rintro ⟨⟨⟩, first, rest⟩
        exact ⟨first, ih.mp rest⟩
      · rintro ⟨first, rest⟩
        exact ⟨⟨⟩, first, ih.mpr rest⟩

/-- A list of reads fails with the error of one of them. -/
theorem mapM_error {δ : Type v} {f : γ → Except ε δ} {l : List γ} {e : ε}
    (h : l.mapM f = .error e) : ∃ a ∈ l, f a = .error e := by
  induction l with
  | nil => simp at h
  | cons a l ih =>
      rw [List.mapM_cons, bind_eq_error] at h
      rcases h with first | ⟨_, -, h⟩
      · exact ⟨a, List.mem_cons_self, first⟩
      · simp only [bind_eq_error, pure_ne_error, and_false, exists_false, or_false] at h
        obtain ⟨b, mem, thrown⟩ := ih h
        exact ⟨b, List.mem_cons_of_mem _ mem, thrown⟩

/-- A list of reads succeeds when each of them does. -/
theorem mapM_ok {δ : Type v} {f : γ → Except ε δ} {l : List γ} {bs : List δ}
    (h : l.mapM f = .ok bs) : ∀ a ∈ l, ∃ b, f a = .ok b := by
  induction l generalizing bs with
  | nil => simp
  | cons a l ih =>
      simp only [List.mapM_cons, bind_eq_ok, pure_eq_ok] at h
      obtain ⟨b, first, rest, hrest, rfl⟩ := h
      exact List.forall_mem_cons.mpr ⟨⟨b, first⟩, ih hrest⟩

/-- The results of a list of reads stand at the positions of the reads. -/
theorem mapM_getElem? {δ : Type v} {f : γ → Except ε δ} {l : List γ} {bs : List δ}
    (h : l.mapM f = .ok bs) {i : Nat} {b : δ} (at_ : bs[i]? = some b) :
    ∃ a, l[i]? = some a ∧ f a = .ok b := by
  induction l generalizing bs i with
  | nil =>
      obtain rfl : [] = bs := pure_eq_ok.mp h
      cases at_
  | cons a l ih =>
      simp only [List.mapM_cons, bind_eq_ok, pure_eq_ok] at h
      obtain ⟨first, hfirst, rest, hrest, rfl⟩ := h
      cases i with
      | zero => exact ⟨a, rfl, Option.some.inj at_ ▸ hfirst⟩
      | succ i => exact ih hrest at_

/-- A list of reads results in the results of the reads. -/
theorem mapM_eq_ok {δ : Type v} {f : γ → Except ε δ} {l : List γ} {bs : List δ} :
    l.mapM f = .ok bs ↔ List.Forall₂ (fun a b => f a = .ok b) l bs := by
  induction l generalizing bs with
  | nil =>
      rw [List.mapM_nil, pure_eq_ok]
      constructor
      · rintro rfl
        exact .nil
      · rintro ⟨⟩
        rfl
  | cons a l ih =>
      simp only [List.mapM_cons, bind_eq_ok, pure_eq_ok, ih]
      constructor
      · rintro ⟨b, first, bs, rest, rfl⟩
        exact .cons first rest
      · rintro (_ | ⟨first, rest⟩)
        exact ⟨_, first, _, rest, rfl⟩

end Lists

/-! ### Commit and rollback -/

/-- The state after a transaction: what the body returned, or the state it
started from when the body threw. -/
def commit (tx : Except ε σ) (s : σ) : σ :=
  match tx with
  | .ok s' => s'
  | .error _ => s

@[simp] theorem commit_ok (s s' : σ) : commit (.ok s' : Except ε σ) s = s' := rfl

@[simp] theorem commit_error (e : ε) (s : σ) : commit (.error e) s = s := rfl

/-- A transaction keeps what its body keeps: a rollback changes nothing. -/
theorem commit_invariant {I : σ → Prop} {tx : Except ε σ} {s : σ} (hs : I s)
    (keeps : ∀ s', tx = .ok s' → I s') : I (commit tx s) := by
  cases h : tx with
  | ok s' => exact keeps s' h
  | error e => exact hs

/-- A relation that holds across a rollback and across every successful body
holds across the transaction. -/
theorem commit_rel {R : σ → σ → Prop} {tx : Except ε σ} {s : σ} (refl : R s s)
    (body : ∀ s', tx = .ok s' → R s s') : R s (commit tx s) :=
  commit_invariant (I := R s) refl body

/-- A transaction with one guard. -/
theorem commit_ensure (c : Prop) [Decidable c] (e : ε) (s s' : σ) :
    commit (ensure c e >>= fun _ => pure s') s = if c then s' else s := by
  by_cases h : c
  · rw [if_pos h, ensure_of h]
    rfl
  · rw [if_neg h, ensure, if_neg h]
    rfl

/-! ### Loops -/

section Loops

variable {γ : Type w} {f : σ → γ → Except ε σ}

/-- What every iteration keeps, the loop keeps. -/
theorem foldlM_invariant {I : σ → Prop} (step : ∀ s a s', I s → f s a = .ok s' → I s') :
    ∀ (l : List γ) {s s' : σ}, I s → l.foldlM f s = .ok s' → I s'
  | [], s, s', hs, h => by
      rw [List.foldlM_nil, pure_eq_ok] at h
      exact h ▸ hs
  | a :: l, s, s', hs, h => by
      rw [List.foldlM_cons, bind_eq_ok] at h
      obtain ⟨s₁, hstep, hrest⟩ := h
      exact foldlM_invariant step l (step s a s₁ hs hstep) hrest

/-- The effect of a loop from the effect of one iteration: `R l s s'` says what
running the items `l` from `s` does. -/
theorem foldlM_effect {R : List γ → σ → σ → Prop} (nil : ∀ s, R [] s s)
    (cons : ∀ a l s s₁ s', f s a = .ok s₁ → R l s₁ s' → R (a :: l) s s') :
    ∀ (l : List γ) {s s' : σ}, l.foldlM f s = .ok s' → R l s s'
  | [], s, s', h => by
      rw [List.foldlM_nil, pure_eq_ok] at h
      exact h ▸ nil s
  | a :: l, s, s', h => by
      rw [List.foldlM_cons, bind_eq_ok] at h
      obtain ⟨s₁, hstep, hrest⟩ := h
      exact cons a l s s₁ s' hstep (foldlM_effect nil cons l hrest)

/-- An error of a loop is the error of an iteration. -/
theorem foldlM_error {e : ε} :
    ∀ (l : List γ) {s : σ}, l.foldlM f s = .error e → ∃ a s, f s a = .error e
  | [], s, h => by simp at h
  | a :: l, s, h => by
      rw [List.foldlM_cons, bind_eq_error] at h
      rcases h with h | ⟨s₁, -, h⟩
      · exact ⟨a, s, h⟩
      · exact foldlM_error l h

/-- A loop does not throw when the invariant `J` on the remaining items lets
every iteration through. -/
theorem foldlM_progress {J : List γ → σ → Prop}
    (step : ∀ a l s, J (a :: l) s → ∃ s', f s a = .ok s' ∧ J l s') :
    ∀ (l : List γ) {s : σ}, J l s → ∃ s', l.foldlM f s = .ok s' ∧ J [] s'
  | [], s, hs => ⟨s, by simp, hs⟩
  | a :: l, s, hs => by
      obtain ⟨s₁, hstep, hs₁⟩ := step a l s hs
      obtain ⟨s', hrest, hs'⟩ := foldlM_progress step l hs₁
      refine ⟨s', ?_, hs'⟩
      rw [List.foldlM_cons, bind_eq_ok]
      exact ⟨s₁, hstep, hrest⟩

end Loops

end Relational
