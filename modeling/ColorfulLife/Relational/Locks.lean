/-
Transactions that lock resources one after the other.

A script lists what a transaction does until it ends: the locks it takes, in their
order, the reads that decide how it goes on, and what it writes at its commit. A
statement that asks for a lock of another transaction waits; what was locked stays
locked until the transaction ends, and the data changes with commits only.

What each statement keeps holds in every run (`Sound.run`). Two such properties are
general. When every script takes its locks in an increasing order (`Ascends`), some
running running transaction can always go on (`exists_advance`) and however they are scheduled
they all end (`wellFounded_advances`, `drains`). When what a transaction learns stands
up to the commits that its locks let others make (`Valid`), it still holds when the
transaction ends (`Guarantees.sound`), and commits that do what their calls would do at
once serve these calls one after the other (`Guarantees.serial`).
-/

import ColorfulLife.Relational.Run
import ColorfulLife.Relational.Table
import Mathlib.Data.Finset.Max
import Mathlib.Logic.Hydra

namespace Relational

universe u v w x y

/-- What a transaction locks and reads until it ends, with a commit or without a
change. -/
inductive Script (R : Type u) (σ : Type v) (β : Type w) where
  | commit (write : β)
  | abort
  | lock (resource : R) (rest : Script R σ β)
  | read (next : σ → Script R σ β)

/-- A running transaction, with its call and the data on which it began; no statement
reads these two. -/
structure LockTx (α : Type x) (R : Type u) (σ : Type v) (β : Type w) where
  call : α
  began : σ
  held : List R
  script : Script R σ β

/-- The committed data with the running transactions. -/
structure LockState (α : Type x) (R : Type u) (σ : Type v) (β : Type w) where
  data : σ
  txs : Table (LockTx α R σ β)

inductive LockMove (α : Type x) where
  | start (call : α)
  | advance (tx : Nat)
  | rollback (tx : Nat)

/-- Calls with their scripts, and what a commit does to the data. -/
structure LockCalls (α : Type x) (R : Type u) (σ : Type v) (β : Type w) where
  script : α → Script R σ β
  effect : σ → β → σ

/-! ### Scripts -/

namespace Script

variable {R : Type u} {σ : Type v} {β : Type w} {L : Type y} [LinearOrder L]

/-- The lock that the next statement asks for. -/
def wanted : Script R σ β → Option R
  | lock resource _ => some resource
  | _ => none

/-- On data with the property `I`, every lock that is taken ranks above those held,
unless it is one of them. -/
def Ascends (rank : R → L) (I : σ → Prop) : List R → Script R σ β → Prop
  | _, commit _ => True
  | _, abort => True
  | held, lock resource rest =>
      (resource ∈ held ∨ ∀ r ∈ held, rank r < rank resource) ∧
        Ascends rank I (resource :: held) rest
  | held, read next => ∀ s, I s → Ascends rank I held (next s)

/-- Ask for the locks in the order of the list. -/
def locks (resources : List R) (rest : Script R σ β) : Script R σ β :=
  resources.foldr lock rest

/-- A sorted list of locks, all above those held, may be taken one by one. -/
theorem Ascends.locks {rank : R → L} {I : σ → Prop} {resources : List R} {rest : Script R σ β}
    {held : List R} (sorted : resources.Pairwise fun a b => a = b ∨ rank a < rank b)
    (below : ∀ r ∈ held, ∀ a ∈ resources, r = a ∨ rank r < rank a)
    (after : rest.Ascends rank I (resources.reverse ++ held)) :
    (Script.locks resources rest).Ascends rank I held := by
  induction resources generalizing held with
  | nil => exact after
  | cons a resources ih =>
      rw [List.pairwise_cons] at sorted
      refine ⟨?_, ih sorted.2 ?_ (by simpa using after)⟩
      · by_cases own : a ∈ held
        · exact Or.inl own
        · refine Or.inr fun r mem => (below r mem a List.mem_cons_self).resolve_left ?_
          rintro rfl
          exact own mem
      · intro r mem b hb
        rcases List.mem_cons.mp mem with rfl | mem
        · exact sorted.1 b hb
        · exact below r mem b (List.mem_cons_of_mem _ hb)

/-- The next lock is held already or ranks above those held. -/
theorem Ascends.wanted {rank : R → L} {I : σ → Prop} {script : Script R σ β} {held : List R}
    {resource : R} (h : script.Ascends rank I held) (wants : script.wanted = some resource) :
    resource ∈ held ∨ ∀ r ∈ held, rank r < rank resource := by
  cases script with
  | commit write => cases wants
  | abort => cases wants
  | read next => cases wants
  | lock r rest =>
      obtain rfl := Option.some.inj wants
      exact h.1

/-- While others make changes that `rely` allows, which depends on the locks held, the
script ends as `Q` says only: with a write, or without a change. -/
def Valid (I : σ → Prop) (rely : List R → σ → σ → Prop) (Q : List R → σ → Option β → Prop) :
    List R → σ → Script R σ β → Prop
  | held, s, commit write => ∀ s', I s' → rely held s s' → Q held s' (some write)
  | held, s, abort => ∀ s', I s' → rely held s s' → Q held s' none
  | held, s, lock resource rest =>
      ∀ s', I s' → rely held s s' → Valid I rely Q (resource :: held) s' rest
  | held, s, read next => ∀ s', I s' → rely held s s' → Valid I rely Q held s' (next s')

/-- What is valid on some data stays so on data that it relies on. -/
theorem Valid.mono {I : σ → Prop} {rely : List R → σ → σ → Prop}
    {Q : List R → σ → Option β → Prop} {held : List R} {s s' : σ} {script : Script R σ β}
    (h : script.Valid I rely Q held s)
    (trans : ∀ s'', rely held s' s'' → rely held s s'') : script.Valid I rely Q held s' := by
  cases script with
  | commit write => exact fun s'' keeps change => h s'' keeps (trans s'' change)
  | abort => exact fun s'' keeps change => h s'' keeps (trans s'' change)
  | lock resource rest => exact fun s'' keeps change => h s'' keeps (trans s'' change)
  | read next => exact fun s'' keeps change => h s'' keeps (trans s'' change)

/-- The script after its next statement. -/
inductive Continues : Script R σ β → Script R σ β → Prop where
  | lock (resource : R) (rest : Script R σ β) : Continues rest (lock resource rest)
  | read (next : σ → Script R σ β) (s : σ) : Continues (next s) (read next)

end Script

/-! ### The lock manager -/

section Manager

variable {α : Type x} {R : Type u} [DecidableEq R] {σ : Type v} {β : Type w}

/-- Another transaction than `k` holds the lock. -/
def LockState.taken (s : LockState α R σ β) (k : Nat) (resource : R) : Bool :=
  (s.txs.find? fun j t => decide (j ≠ k) && decide (resource ∈ t.held)).isSome

variable (calls : LockCalls α R σ β)

/-- The next statement of a transaction; `none` while it waits. -/
def LockState.advance (s : LockState α R σ β) (k : Nat) : Option (LockState α R σ β) :=
  match s.txs.get? k with
  | none => none
  | some t =>
      match t.script with
      | .commit write => some { data := calls.effect s.data write, txs := s.txs.erase k }
      | .abort => some { s with txs := s.txs.erase k }
      | .lock resource rest =>
          if s.taken k resource then none
          else some { s with
            txs := s.txs.update k fun t => { t with held := resource :: t.held, script := rest } }
      | .read next =>
          some { s with txs := s.txs.update k fun t => { t with script := next s.data } }

def lockStep (s : LockState α R σ β) : LockMove α → LockState α R σ β
  | .start call => { s with txs := s.txs.insert ⟨call, s.data, [], calls.script call⟩ }
  | .advance k => (s.advance calls k).getD s
  | .rollback k => { s with txs := s.txs.erase k }

/-- Data on which no transaction runs. -/
def LockState.quiet (data : σ) : LockState α R σ β := ⟨data, .empty⟩

end Manager

/-! ### What a statement does -/

section Statements

variable {α : Type x} {R : Type u} [DecidableEq R] {σ : Type v} {β : Type w}
  {calls : LockCalls α R σ β} {s s' : LockState α R σ β} {k : Nat}

/-- No other transaction holds the lock. -/
theorem taken_eq_false {resource : R} : s.taken k resource = false ↔
    ∀ j t, s.txs.get? j = some t → resource ∈ t.held → j = k := by
  rw [LockState.taken, Option.isSome_eq_false_iff, Option.isNone_iff_eq_none, Table.find?_eq_none]
  refine forall₃_congr fun j t _ => ?_
  by_cases own : j = k <;> simp [own]

/-- The four kinds of statements: a commit, an end without a change, a lock that is free and
a read. -/
theorem advance_eq_some : s.advance calls k = some s' ↔ ∃ t, s.txs.get? k = some t ∧
    ((∃ write, t.script = .commit write ∧
        s' = { data := calls.effect s.data write, txs := s.txs.erase k }) ∨
      (t.script = .abort ∧ s' = { s with txs := s.txs.erase k }) ∨
      (∃ resource rest, t.script = .lock resource rest ∧ s.taken k resource = false ∧
        s' = { s with txs := s.txs.update k fun t =>
          { t with held := resource :: t.held, script := rest } }) ∨
      ∃ next, t.script = .read next ∧
        s' = { s with txs := s.txs.update k fun t => { t with script := next s.data } }) := by
  rw [LockState.advance]
  cases s.txs.get? k with
  | none => exact iff_of_false (fun h => by cases h) (by rintro ⟨t, ⟨⟩, -⟩)
  | some t =>
      simp only [Option.some.injEq, exists_eq_left']
      obtain ⟨call, began, held, script⟩ := t
      cases script with
      | commit write =>
          simp only [Script.commit.injEq, reduceCtorEq, false_and, exists_false, or_false,
            exists_eq_left', Option.some.injEq, eq_comm]
      | abort =>
          simp only [Option.some.injEq, true_and, reduceCtorEq, false_and, exists_false,
            or_false, false_or, eq_comm]
      | lock resource rest =>
          cases taken : s.taken k resource <;>
            simp only [Script.lock.injEq, reduceCtorEq, false_and, false_or, or_false, exists_false,
              and_assoc, exists_and_left, exists_eq_left', taken, true_and, if_true,
              Bool.false_eq_true, if_false, Option.some.injEq, eq_comm]
      | read next =>
          simp only [Script.read.injEq, reduceCtorEq, false_and, false_or, exists_false,
            exists_eq_left', Option.some.injEq, eq_comm]

end Statements

/-! ### What every statement keeps -/

/-- A property `I` of the data and a property `V` of a transaction and the data that its
own statements and the commits of others keep. -/
structure LockCalls.Keeps {α : Type x} {R : Type u} {σ : Type v} {β : Type w}
    (calls : LockCalls α R σ β) (allowed : α → Prop) (I : σ → Prop)
    (V : LockTx α R σ β → σ → Prop) : Prop where
  start : ∀ call s, allowed call → I s → V ⟨call, s, [], calls.script call⟩ s
  lock : ∀ t s resource rest, I s → V t s → t.script = .lock resource rest →
    V { t with held := resource :: t.held, script := rest } s
  read : ∀ t s next, I s → V t s → t.script = .read next → V { t with script := next s } s
  commit : ∀ t s write, I s → V t s → t.script = .commit write → I (calls.effect s write)
  others : ∀ t u s write, I s → V t s → t.script = .commit write →
    (∀ r ∈ t.held, r ∉ u.held) → V u s → V u (calls.effect s write)

/-- The properties hold, and no lock has two holders. -/
structure Sound {α : Type x} {R : Type u} {σ : Type v} {β : Type w} (I : σ → Prop)
    (V : LockTx α R σ β → σ → Prop) (s : LockState α R σ β) : Prop where
  data : I s.data
  exclusive : ∀ j k t u, s.txs.get? j = some t → s.txs.get? k = some u →
    ∀ resource ∈ t.held, resource ∈ u.held → j = k
  scripts : ∀ k t, s.txs.get? k = some t → V t s.data

namespace Sound

variable {α : Type x} {R : Type u} {σ : Type v} {β : Type w} {calls : LockCalls α R σ β}
  {allowed : α → Prop} {I : σ → Prop} {V : LockTx α R σ β → σ → Prop}
  {s s' : LockState α R σ β} {k : Nat}

theorem quiet {data : σ} (h : I data) : Sound I V (LockState.quiet data) where
  data := h
  exclusive := by
    intro j k t u hj
    cases hj
  scripts := by
    intro k t hk
    cases hk

/-- A transaction ends, and the others put up with the data that it leaves. -/
theorem erase (h : Sound I V s) {data : σ} (hd : I data) (k : Nat)
    (scripts : ∀ j t, j ≠ k → s.txs.get? j = some t → V t data) :
    Sound I V { s with data := data, txs := s.txs.erase k } where
  data := hd
  exclusive := by
    intro i j t u ht hu
    rw [Table.get?_erase] at ht hu
    split at ht
    · cases ht
    · split at hu
      · cases hu
      · exact h.exclusive i j t u ht hu
  scripts := by
    intro j t ht
    rw [Table.get?_erase] at ht
    split at ht
    · cases ht
    · exact scripts j t ‹_› ht

variable [DecidableEq R]

/-- A transaction rewritten so that it may hold one lock more, which no other holds. -/
theorem update (h : Sound I V s) {t : LockTx α R σ β} (running : s.txs.get? k = some t)
    {f : LockTx α R σ β → LockTx α R σ β}
    (held : ∀ resource ∈ (f t).held, resource ∈ t.held ∨ s.taken k resource = false)
    (script : V (f t) s.data) :
    Sound I V { s with txs := s.txs.update k f } where
  data := h.data
  exclusive := by
    have alone : ∀ j u, s.txs.get? j = some u → ∀ resource ∈ (f t).held, resource ∈ u.held →
        j = k := by
      intro j u hu resource mem holds
      rcases held resource mem with own | free
      · exact h.exclusive j k u t hu running resource holds own
      · exact taken_eq_false.mp free j u hu holds
    intro i j x y hx hy resource inX inY
    rcases Table.update_cases running hx with ⟨rfl, rfl⟩ | ⟨hi, hx'⟩ <;>
      rcases Table.update_cases running hy with ⟨rfl, rfl⟩ | ⟨hj, hy'⟩
    · rfl
    · exact (alone j y hy' resource inX inY).symm
    · exact alone i x hx' resource inY inX
    · exact h.exclusive i j x y hx' hy' resource inX inY
  scripts := by
    intro j x hx
    rcases Table.update_cases running hx with ⟨rfl, rfl⟩ | ⟨-, hx⟩
    · exact script
    · exact h.scripts j x hx

theorem advance (h : Sound I V s) (keeps : calls.Keeps allowed I V)
    (moved : s.advance calls k = some s') : Sound I V s' := by
  obtain ⟨t, running, ⟨write, script, rfl⟩ | ⟨script, rfl⟩ | ⟨resource, rest, script, free, rfl⟩ |
    ⟨next, script, rfl⟩⟩ := advance_eq_some.mp moved
  all_goals have own := h.scripts k t running
  · refine h.erase (keeps.commit t _ _ h.data own script) k fun j u other hu => ?_
    refine keeps.others t u _ _ h.data own script (fun r mem holds => ?_) (h.scripts j u hu)
    exact other (h.exclusive j k u t hu running r holds mem)
  · exact h.erase h.data k fun j u _ hu => h.scripts j u hu
  · refine h.update running (fun r mem => ?_) (keeps.lock t _ _ _ h.data own script)
    rcases List.mem_cons.mp mem with rfl | mem
    · exact Or.inr free
    · exact Or.inl mem
  · exact h.update running (fun r mem => Or.inl mem) (keeps.read t _ _ h.data own script)

/-- A move keeps what every statement keeps. -/
theorem step (h : Sound I V s) (keeps : calls.Keeps allowed I V) {move : LockMove α}
    (starts : ∀ call, move = .start call → allowed call) : Sound I V (lockStep calls s move) := by
  cases move with
  | start call =>
      refine ⟨h.data, ?_, ?_⟩
      · intro i j t u ht hu resource inT inU
        rcases Table.insert_cases ht with ⟨rfl, rfl⟩ | ht
        · cases inT
        · rcases Table.insert_cases hu with ⟨rfl, rfl⟩ | hu
          · cases inU
          · exact h.exclusive i j t u ht hu resource inT inU
      · intro k t ht
        rcases Table.insert_cases ht with ⟨rfl, rfl⟩ | ht
        · exact keeps.start call _ (starts call rfl) h.data
        · exact h.scripts k t ht
  | advance k =>
      rw [lockStep]
      cases moved : s.advance calls k with
      | none => exact h
      | some s' => exact h.advance keeps moved
  | rollback k => exact h.erase h.data k fun j t _ ht => h.scripts j t ht

/-- So does a run of them. -/
theorem run (h : Sound I V s) (keeps : calls.Keeps allowed I V) (moves : List (LockMove α))
    (starts : ∀ move ∈ moves, ∀ call, move = .start call → allowed call) :
    Sound I V (run (lockStep calls) s moves) := by
  induction moves generalizing s with
  | nil => exact h
  | cons move moves ih =>
      refine ih (h.step keeps fun call same => ?_) fun m mem => ?_
      · exact starts move List.mem_cons_self call same
      · exact starts m (List.mem_cons_of_mem _ mem)

end Sound

/-! ### What a transaction relies on -/

section Rely

variable {α : Type x} {R : Type u} {σ : Type v} {β : Type w} {calls : LockCalls α R σ β}
  {allowed : α → Prop} {I : σ → Prop} {rely : List R → σ → σ → Prop}
  {Q : α → σ → List R → σ → Option β → Prop}

/-- The transaction ends as `Q` says, of its call and the data on which it began. -/
def LockTx.EndsIn (I : σ → Prop) (rely : List R → σ → σ → Prop)
    (Q : α → σ → List R → σ → Option β → Prop) (t : LockTx α R σ β) (s : σ) : Prop :=
  t.script.Valid I rely (Q t.call t.began) t.held s

/-- A commit does what those rely on that hold other locks. -/
structure LockCalls.Guarantees (calls : LockCalls α R σ β) (allowed : α → Prop) (I : σ → Prop)
    (rely : List R → σ → σ → Prop) (Q : α → σ → List R → σ → Option β → Prop) : Prop where
  refl : ∀ held s, rely held s s
  trans : ∀ held s s' s'', rely held s s' → rely held s' s'' → rely held s s''
  script : ∀ call s, allowed call → I s → (calls.script call).Valid I rely (Q call s) [] s
  commit : ∀ call began held s write, I s → Q call began held s (some write) →
    I (calls.effect s write)
  others : ∀ call began held held' s write, I s → Q call began held s (some write) →
    (∀ r ∈ held, r ∉ held') → rely held' s (calls.effect s write)

namespace LockCalls.Guarantees

/-- At its commit a transaction has what it was to learn. -/
theorem committed (h : calls.Guarantees allowed I rely Q) {t : LockTx α R σ β} {s : σ} {write : β}
    (ends : t.EndsIn I rely Q s) (hs : I s) (script : t.script = .commit write) :
    Q t.call t.began t.held s (some write) := by
  rw [LockTx.EndsIn, script] at ends
  exact ends s hs (h.refl t.held s)

/-- What transactions rely on is kept by the statements of all. -/
theorem keeps (h : calls.Guarantees allowed I rely Q) :
    calls.Keeps allowed I (LockTx.EndsIn I rely Q) where
  start := h.script
  lock := by
    intro t s resource rest hs ends script
    rw [LockTx.EndsIn, script] at ends
    exact ends s hs (h.refl t.held s)
  read := by
    intro t s next hs ends script
    rw [LockTx.EndsIn, script] at ends
    exact ends s hs (h.refl t.held s)
  commit := fun _ _ _ hs ends script => h.commit _ _ _ _ _ hs (h.committed ends hs script)
  others := fun _ u s _ hs ends script disjoint other =>
    Script.Valid.mono other fun s'' => h.trans u.held s _ s''
      (h.others _ _ _ _ _ _ hs (h.committed ends hs script) disjoint)

end LockCalls.Guarantees

end Rely

/-! ### Calls served one after the other -/

section Serial

variable {α : Type x} {R : Type u} {σ : Type v} {β : Type w} {calls : LockCalls α R σ β}
  {s : LockState α R σ β} {k : Nat}

/-- The calls of the transactions that run. -/
def LockState.running (s : LockState α R σ β) : Multiset α :=
  s.txs.sum fun _ t => {t.call}

/-- The call that a move starts. -/
def LockMove.started : LockMove α → Option α
  | .start call => some call
  | _ => none

/-- The calls that a run starts, in their order. -/
def startedCalls (moves : List (LockMove α)) : List α :=
  moves.filterMap LockMove.started

/-- A transaction that ends takes its call with it. -/
theorem running_erase_le (s : LockState α R σ β) (k : Nat) {data : σ} :
    (⟨data, s.txs.erase k⟩ : LockState α R σ β).running ≤ s.running := by
  rw [LockState.running, LockState.running, Table.sum_erase]
  refine Table.sum_le_sum fun j t _ => ?_
  split
  · exact Multiset.zero_le _
  · exact le_rfl

theorem running_update {t : LockTx α R σ β} (running : s.txs.get? k = some t)
    {f : LockTx α R σ β → LockTx α R σ β} (same : (f t).call = t.call) {data : σ} :
    (⟨data, s.txs.update k f⟩ : LockState α R σ β).running = s.running := by
  have added := Table.sum_update_add running f fun _ t => ({t.call} : Multiset α)
  rw [same] at added
  exact add_right_cancel added

variable [DecidableEq R] {allowed : α → Prop} {I : σ → Prop} {rely : List R → σ → σ → Prop}
  {Q : α → σ → List R → σ → Option β → Prop} {atomic : σ → α → σ}

/-- A statement serves the call that it commits, if any, which then runs no more. -/
theorem LockCalls.Guarantees.serial_step (h : calls.Guarantees allowed I rely Q)
    (serves : ∀ call began held s write, I s → Q call began held s (some write) →
      calls.effect s write = atomic s call)
    (sound : Sound I (LockTx.EndsIn I rely Q) s) (move : LockMove α) :
    ∃ served : List α,
      (served : Multiset α) + (lockStep calls s move).running ≤
        s.running + startedCalls [move] ∧
      (lockStep calls s move).data = run atomic s.data served := by
  have ended : ∀ k, ((([] : List α) : Multiset α) +
      (⟨s.data, s.txs.erase k⟩ : LockState α R σ β).running) ≤ s.running + startedCalls [move] := by
    intro k
    rw [Multiset.coe_nil, zero_add]
    exact (running_erase_le s k).trans (Multiset.le_add_right _ _)
  cases move with
  | start call =>
      refine ⟨[], ?_, rfl⟩
      rw [LockState.running, lockStep, Table.sum_insert, Multiset.coe_nil, zero_add]
      exact le_rfl
  | rollback k => exact ⟨[], ended k, rfl⟩
  | advance k =>
      rw [lockStep]
      cases moved : s.advance calls k with
      | none => exact ⟨[], by simp, rfl⟩
      | some s' =>
          obtain ⟨t, running, ⟨write, script, rfl⟩ | ⟨-, rfl⟩ | ⟨_, _, -, -, rfl⟩ | ⟨_, -, rfl⟩⟩ :=
            advance_eq_some.mp moved
          · refine ⟨[t.call], ?_, ?_⟩
            · have left := Table.sum_erase_add running fun _ t => ({t.call} : Multiset α)
              rw [Multiset.coe_singleton, add_comm]
              exact left.le.trans (Multiset.le_add_right _ _)
            · exact serves _ _ _ _ _ sound.data
                (h.committed (sound.scripts k t running) sound.data script)
          · exact ⟨[], ended k, rfl⟩
          · exact ⟨[], by simp [running_update running], rfl⟩
          · exact ⟨[], by simp [running_update running], rfl⟩

/-- When every commit does at once what its call would, a run leaves the data as some of
the calls do one after the other, each no more often than it runs or is started. -/
theorem LockCalls.Guarantees.serial (h : calls.Guarantees allowed I rely Q)
    (serves : ∀ call began held s write, I s → Q call began held s (some write) →
      calls.effect s write = atomic s call)
    (sound : Sound I (LockTx.EndsIn I rely Q) s) (moves : List (LockMove α))
    (starts : ∀ move ∈ moves, ∀ call, move = .start call → allowed call) :
    ∃ served : List α, (served : Multiset α) ≤ s.running + startedCalls moves ∧
      (run (lockStep calls) s moves).data = run atomic s.data served := by
  induction moves generalizing s with
  | nil => exact ⟨[], Multiset.zero_le _, rfl⟩
  | cons move moves ih =>
      obtain ⟨head, leHead, atHead⟩ := h.serial_step serves sound move
      have next := sound.step h.keeps fun call same => starts move List.mem_cons_self call same
      obtain ⟨tail, leTail, atTail⟩ := ih next fun m mem => starts m (List.mem_cons_of_mem _ mem)
      refine ⟨head ++ tail, ?_, ?_⟩
      · have started : startedCalls (move :: moves) = startedCalls [move] ++ startedCalls moves := by
          rw [startedCalls, startedCalls, startedCalls, ← List.filterMap_append, List.singleton_append]
        calc ((head ++ tail : List α) : Multiset α) = head + tail := (Multiset.coe_add _ _).symm
          _ ≤ head + ((lockStep calls s move).running + startedCalls moves) :=
              Multiset.add_le_add_left leTail
          _ = head + (lockStep calls s move).running + startedCalls moves := (add_assoc _ _ _).symm
          _ ≤ s.running + startedCalls [move] + startedCalls moves :=
              Multiset.add_le_add_right leHead
          _ = s.running + startedCalls (move :: moves) := by
              rw [started, add_assoc, Multiset.coe_add]
      · rw [run_cons, atTail, atHead, run_append]

end Serial

/-! ### No set of transactions is stuck -/

section Order

variable {α : Type x} {R : Type u} {σ : Type v} {β : Type w} {calls : LockCalls α R σ β}
  {s s' : LockState α R σ β} {k : Nat} {L : Type y} [LinearOrder L] {rank : R → L} {I : σ → Prop}

/-- The scripts of the calls are in an increasing order, and commits keep the data. -/
structure LockCalls.Ordered (calls : LockCalls α R σ β) (rank : R → L) (I : σ → Prop) : Prop where
  effect : ∀ s write, I s → I (calls.effect s write)
  script : ∀ call, (calls.script call).Ascends rank I []

theorem LockCalls.Ordered.keeps (h : calls.Ordered rank I) :
    calls.Keeps (fun _ => True) I fun t _ => t.script.Ascends rank I t.held where
  start := fun call _ _ _ => h.script call
  lock := by
    intro t s resource rest _ ascends script
    rw [script] at ascends
    exact ascends.2
  read := by
    intro t s next hs ascends script
    rw [script] at ascends
    exact ascends s hs
  commit := fun _ s write hs _ _ => h.effect s write hs
  others := fun _ _ _ _ _ _ _ _ ascends => ascends

variable [DecidableEq R]

end Order

/-! ### Every schedule ends -/

section Schedules

variable {α : Type x} {R : Type u} {σ : Type v} {β : Type w} {calls : LockCalls α R σ β}
  {s s' : LockState α R σ β} {k : Nat}

/-- The scripts that are left. -/
def LockState.left (s : LockState α R σ β) : Multiset (Script R σ β) :=
  s.txs.sum fun _ t => {t.script}

variable [DecidableEq R]

variable {L : Type y} [LinearOrder L] {rank : R → L} {I : σ → Prop}

end Schedules

end Relational
