/-
Keys in groups, and a role that one member of each group bears.

The view of a table says of each key whose group it is in and whether it bears
the role. Members join without the role, are appointed in place of whoever had
it, and leave after a successor was named; each move keeps the role with exactly
one member of every group that has members.
-/

import ColorfulLife.Relational.Table

namespace Relational

universe u v

/-- The group of a key, and whether the key bears the role. -/
abbrev RoleView (κ : Type u) (ω : Type v) := κ → Option (ω × Bool)

namespace RoleView

variable {κ : Type u} {ω : Type v}

/-- A group that has members has exactly one that bears the role. -/
def Sole (v : RoleView κ ω) (w : ω) : Prop :=
  (∃ k b, v k = some (w, b)) → ∃ k, v k = some (w, true) ∧ ∀ j, v j = some (w, true) → j = k

/-- Nobody of the group bears the role. -/
def clear [DecidableEq ω] (v : RoleView κ ω) (w : ω) : RoleView κ ω := fun k =>
  (v k).map fun e => if e.1 = w then (w, false) else e

/-- The entry of one key. -/
def set [DecidableEq κ] (v : RoleView κ ω) (k : κ) (e : Option (ω × Bool)) : RoleView κ ω :=
  fun j => if j = k then e else v j

theorem sole_of_empty {v : RoleView κ ω} {w : ω} (empty : ∀ k b, v k ≠ some (w, b)) : v.Sole w :=
  fun ⟨k, b, member⟩ => absurd member (empty k b)

section Clear

variable [DecidableEq ω] {v : RoleView κ ω} {w u : ω} {k : κ} {b : Bool}

theorem clear_eq_some_self (cleared : v.clear w k = some (w, b)) : b = false := by
  obtain ⟨⟨x, c⟩, -, h⟩ := Option.map_eq_some_iff.mp cleared
  by_cases own : x = w
  · rw [if_pos own] at h
    exact (Prod.mk.inj h).2.symm
  · rw [if_neg own] at h
    exact absurd (Prod.mk.inj h).1 own

theorem clear_eq_some_of_ne (other : u ≠ w) : v.clear w k = some (u, b) ↔ v k = some (u, b) := by
  unfold clear
  cases v k with
  | none => exact Iff.rfl
  | some e =>
      obtain ⟨x, c⟩ := e
      by_cases own : x = w
      · subst own
        simp [Ne.symm other]
      · simp [own]

/-- Another group is as it was. -/
theorem Sole.clear_of_ne (h : v.Sole u) (other : u ≠ w) : (v.clear w).Sole u := by
  rintro ⟨k, b, member⟩
  obtain ⟨j, bears, only⟩ := h ⟨k, b, (clear_eq_some_of_ne other).mp member⟩
  exact ⟨j, (clear_eq_some_of_ne other).mpr bears, fun i hi =>
    only i ((clear_eq_some_of_ne other).mp hi)⟩

end Clear

section Set

variable [DecidableEq κ] {v : RoleView κ ω} {w u : ω} {k : κ}

@[simp] theorem set_self (e : Option (ω × Bool)) : v.set k e k = e := if_pos rfl

theorem set_of_ne {j : κ} (other : j ≠ k) (e : Option (ω × Bool)) : v.set k e j = v j :=
  if_neg other

/-- Whatever happens to a key of one group, the others are as they were. -/
theorem Sole.set_of_ne {e : Option (ω × Bool)} (h : v.Sole u) (before : ∀ b, v k ≠ some (u, b))
    (after : ∀ b, e ≠ some (u, b)) : (v.set k e).Sole u := by
  have elsewhere : ∀ j b, v.set k e j = some (u, b) ↔ v j = some (u, b) := by
    intro j b
    by_cases own : j = k
    · subst own
      rw [set_self]
      exact ⟨fun bears => absurd bears (after b), fun bears => absurd bears (before b)⟩
    · rw [RoleView.set_of_ne own]
  rintro ⟨j, b, member⟩
  obtain ⟨i, bears, only⟩ := h ⟨j, b, (elsewhere j b).mp member⟩
  exact ⟨i, (elsewhere i true).mpr bears, fun l hl => only l ((elsewhere l true).mp hl)⟩

/-- A member joins a group that has one, or leaves it, without the role. -/
theorem Sole.set_false (h : v.Sole w) (before : v k ≠ some (w, true)) {e : Option (ω × Bool)}
    (after : e ≠ some (w, true)) (members : (∃ j b, v.set k e j = some (w, b)) →
      ∃ j b, v j = some (w, b)) : (v.set k e).Sole w := by
  intro some_member
  obtain ⟨i, bears, only⟩ := h (members some_member)
  have other : i ≠ k := fun same => before (same ▸ bears)
  refine ⟨i, (RoleView.set_of_ne other e).trans bears, fun l hl => ?_⟩
  by_cases own : l = k
  · subst own
    rw [set_self] at hl
    exact absurd hl after
  · exact only l ((RoleView.set_of_ne own e).symm.trans hl)

/-- Whoever is set to bear the role is the only one when nobody else does. -/
theorem sole_set_true (nobody : ∀ j, j ≠ k → v j ≠ some (w, true)) :
    (v.set k (some (w, true))).Sole w := by
  refine fun _ => ⟨k, set_self _, fun j hj => ?_⟩
  by_contra other
  rw [RoleView.set_of_ne other] at hj
  exact nobody j other hj

/-- A new or old member is appointed in place of whoever had the role. -/
theorem sole_appoint [DecidableEq ω] : ((v.clear w).set k (some (w, true))).Sole w :=
  sole_set_true fun _ _ bears => nomatch clear_eq_some_self bears

theorem set_eq_self {e : Option (ω × Bool)} (same : v k = e) : v.set k e = v := by
  funext j
  by_cases own : j = k
  · rw [own, set_self, same]
  · exact RoleView.set_of_ne own e

end Set

/-! ### Moves -/

section Moves

variable [DecidableEq κ] [DecidableEq ω] {v : RoleView κ ω} {w u : ω} {k p : κ} {b c flag : Bool}

/-- A new member joins, in place of whoever had the role when flagged. The first
of a group is flagged. -/
theorem Sole.join (h : v.Sole w) (new : v k = none)
    (first : flag = false → ∃ j b, v j = some (u, b)) :
    ((if flag then v.clear u else v).set k (some (u, flag))).Sole w := by
  by_cases own : w = u
  · subst own
    cases flag with
    | true => exact sole_appoint
    | false =>
        apply h.set_false (by simp [new]) (by simp)
        intro _
        exact first rfl
  · have others : (if flag then v.clear u else v).Sole w := by
      cases flag with
      | true => exact h.clear_of_ne own
      | false => exact h
    apply others.set_of_ne
    · intro b member
      cases flag with
      | true => simp [clear, new] at member
      | false => simp [new] at member
    · intro b same
      exact own (Prod.mk.inj (Option.some.inj same)).1.symm

/-- A member takes over the role when flagged, and keeps what it has otherwise. -/
theorem Sole.amend (h : v.Sole w) (member : v k = some (u, b)) :
    ((if flag then v.clear u else v).set k (some (u, flag || b))).Sole w := by
  cases flag with
  | false =>
      rw [if_neg Bool.false_ne_true, Bool.false_or, set_eq_self member]
      exact h
  | true =>
      rw [if_pos rfl, Bool.true_or]
      by_cases own : w = u
      · subst own
        exact sole_appoint
      · apply (h.clear_of_ne own).set_of_ne
        · intro c cleared
          rw [clear_eq_some_of_ne own, member] at cleared
          exact own (Prod.mk.inj (Option.some.inj cleared)).1.symm
        · intro c same
          exact own (Prod.mk.inj (Option.some.inj same)).1.symm

/-- A member leaves, and another one takes over the role if it had it. -/
theorem Sole.succeed (h : v.Sole w) (member : v k = some (u, b)) (other : p ≠ k)
    (successor : v p = some (u, c)) : ((v.set p (some (u, b || c))).set k none).Sole w := by
  by_cases own : w = u
  · subst own
    cases b with
    | false =>
        rw [Bool.false_or, set_eq_self successor]
        apply h.set_false (by simp [member]) (by simp)
        exact fun _ => ⟨k, false, member⟩
    | true =>
        rw [Bool.true_or]
        refine fun _ => ⟨p, ?_, fun j hj => ?_⟩
        · rw [RoleView.set_of_ne other, set_self]
        · by_contra elsewhere
          by_cases gone : j = k
          · rw [gone, set_self] at hj
            cases hj
          · rw [RoleView.set_of_ne gone, RoleView.set_of_ne elsewhere] at hj
            obtain ⟨i, -, only⟩ := h ⟨k, true, member⟩
            exact gone ((only j hj).trans (only k member).symm)
  · have foreign : ∀ c' b', (some (u, c') : Option (ω × Bool)) ≠ some (w, b') := by
      intro c' b' same
      exact own (Prod.mk.inj (Option.some.inj same)).1.symm
    apply Sole.set_of_ne
    · apply h.set_of_ne
      · exact fun b' bears => foreign c b' (successor ▸ bears)
      · exact foreign _
    · intro b' bears
      rw [RoleView.set_of_ne other.symm, member] at bears
      exact foreign b b' bears
    · simp

/-- The only member leaves. -/
theorem Sole.dissolve (h : v.Sole w) (member : v k = some (u, b))
    (last : ∀ j c, v j = some (u, c) → j = k) : (v.set k none).Sole w := by
  by_cases own : w = u
  · subst own
    apply sole_of_empty
    intro j c hj
    by_cases gone : j = k
    · rw [gone, set_self] at hj
      cases hj
    · rw [RoleView.set_of_ne gone] at hj
      exact gone (last j c hj)
  · apply h.set_of_ne
    · intro c hk
      rw [member] at hk
      exact own (Prod.mk.inj (Option.some.inj hk)).1.symm
    · simp

end Moves

end RoleView

/-! ### Tables -/

namespace Table

variable {ρ : Type u} {ω : Type v} {group : ρ → ω} {role : ρ → Bool} {t : Table ρ}

/-- The groups of a table's rows, and the rows that bear the role. -/
def roleView (group : ρ → ω) (role : ρ → Bool) (t : Table ρ) : RoleView Nat ω := fun k =>
  (t.get? k).map fun r => (group r, role r)

theorem roleView_eq_some {k : Nat} {w : ω} {b : Bool} : t.roleView group role k = some (w, b) ↔
    ∃ r, t.get? k = some r ∧ group r = w ∧ role r = b := by
  simp [roleView]

theorem roleView_insert (r : ρ) : (t.insert r).roleView group role =
    (t.roleView group role).set t.nextId (some (group r, role r)) := by
  funext k
  rw [roleView, get?_insert, RoleView.set]
  split <;> rfl

theorem roleView_update {k : Nat} {r : ρ} {f : ρ → ρ} (found : t.get? k = some r) :
    (t.update k f).roleView group role =
      (t.roleView group role).set k (some (group (f r), role (f r))) := by
  funext j
  rw [roleView, get?_update, RoleView.set]
  split
  · rename_i same
    rw [same, found]
    rfl
  · rfl

theorem roleView_erase (k : Nat) :
    (t.erase k).roleView group role = (t.roleView group role).set k none := by
  funext j
  rw [roleView, get?_erase, RoleView.set]
  split <;> rfl

/-- Rows of which there is one are found by one selection. -/
theorem select_eq_singleton {p : Nat → ρ → Bool} {k : Nat} {r : ρ} (found : t.get? k = some r)
    (passes : p k r = true) (only : ∀ j s, t.get? j = some s → p j s = true → j = k) :
    t.select p = [(k, r)] := by
  have nodup : (t.select p).Nodup := (List.Nodup.of_map _ t.nodup).filter _
  have all : ∀ e ∈ t.select p, e = (k, r) := by
    intro e he
    obtain ⟨there, passes'⟩ := mem_select.mp he
    have key : e.1 = k := only e.1 e.2 there passes'
    rw [key, found] at there
    exact Prod.ext key (Option.some.inj there).symm
  have mem : (k, r) ∈ t.select p := mem_select.mpr ⟨found, passes⟩
  rw [List.eq_replicate_of_mem all] at nodup mem ⊢
  obtain ⟨nonempty, -⟩ := List.mem_replicate.mp mem
  have one : (t.select p).length ≤ 1 := List.nodup_replicate.mp nodup
  rw [show (t.select p).length = 1 by omega, List.replicate_one]

/-- A group with members has one row that bears the role. -/
theorem length_select_of_sole [DecidableEq ω] {w : ω} (sole : (t.roleView group role).Sole w)
    {k : Nat} {r : ρ} (found : t.get? k = some r) (member : group r = w) :
    (t.select fun _ r => decide (group r = w ∧ role r = true)).length = 1 := by
  obtain ⟨i, bears, only⟩ := sole ⟨k, role r, roleView_eq_some.mpr ⟨r, found, member, rfl⟩⟩
  obtain ⟨s, there, own, hrole⟩ := roleView_eq_some.mp bears
  rw [select_eq_singleton there (decide_eq_true ⟨own, hrole⟩)]
  · rfl
  · intro j s' there' passes
    obtain ⟨own', hrole'⟩ := of_decide_eq_true passes
    exact only j (roleView_eq_some.mpr ⟨s', there', own', hrole'⟩)

end Table

end Relational
