/-
The reconciliation sweep (`reconcilePendingCarts`).

The worker pages through the pending tasks by order id and settles each customer
it meets in a transaction of its own. A settlement takes tasks off later pages,
and a failing one leaves its tasks behind, so that a page is not a part of the
set the sweep began with. What carries the proofs is the cursor: every task
ahead of it is as it was, or its customer was attempted.
-/

import ColorfulLife.Cart.Provenance
import ColorfulLife.Relational.Paging

namespace ColorfulLife

open Relational

/-! ### The sweep -/

/-- What a transaction of the sweep throws. -/
inductive Thrown where
  | error (message : String)
  | other
  deriving DecidableEq, Repr

/-- `error instanceof Error ? error.message : …`. -/
def Thrown.lastError : Thrown → String
  | .error message => message
  | .other => "Cart reconciliation failed"

/-- What a sweep meets: when the transaction of a customer runs, and what breaks it
other than its own statements, for each cursor it may be reached from. -/
structure SweepEnvironment where
  now : Nat → Nat → Time
  fault : Nat → Nat → Option Thrown

/-- One settlement transaction, and how it ended. -/
structure Attempt where
  userId : Nat
  error : Option String
  deriving DecidableEq, Repr

/-- Pending tasks after the cursor, oldest order first, at most a hundred. -/
def taskPage (cursor : Nat) (db : Db) : List (Nat × OrderCartProvenance) :=
  (db.cartProvenance.selectByKey fun o p => decide (cursor < o) && p.state.isPending).take 100

/-- The page with the customers of its tasks; a foreign key gives every task its
cart. -/
def sweepPage (cursor : Nat) (db : Db) : List (Nat × Nat) :=
  (taskPage cursor db).filterMap fun e =>
    (db.carts.get? e.2.cartId).map fun cart => (e.1, cart.userId)

section

variable (env : SweepEnvironment)

def settleCustomer (cursor userId : Nat) (db : Db) : Except Thrown Db :=
  match env.fault cursor userId with
  | some thrown => .error thrown
  | none =>
      (settleCartReconciliation userId (env.now cursor userId) db).mapError fun e =>
        .error e.message

/-- A settlement that fails is recorded, and its work stays pending. -/
def attempt (cursor userId : Nat) (db : Db) : Attempt × Db :=
  match settleCustomer env cursor userId db with
  | .ok db' => (⟨userId, none⟩, db')
  | .error thrown =>
      (⟨userId, some thrown.lastError⟩, recordCartError userId thrown.lastError db)

def attemptAll (cursor : Nat) : List Nat → Db → List Attempt × Db
  | [], db => ([], db)
  | userId :: rest, db =>
      let first := attempt env cursor userId db
      let others := attemptAll cursor rest first.2
      (first.1 :: others.1, others.2)

/-- `while (true)`, for `fuel` pages. -/
def reconcileFrom : Nat → Nat → Db → Option (List Attempt × Db)
  | 0, _, _ => none
  | fuel + 1, cursor, db =>
      match (sweepPage cursor db).getLast? with
      | none => some ([], db)
      | some last =>
          let page := attemptAll env cursor ((sweepPage cursor db).map Prod.snd).eraseDups db
          (reconcileFrom fuel last.1 page.2).map fun later => (page.1 ++ later.1, later.2)

def reconcilePendingCarts (fuel : Nat) (db : Db) : Option (List Attempt × Db) :=
  reconcileFrom env fuel 0 db

end

/-! ### Whose tasks -/

/-- The customer has a pending task. -/
def PendingOf (userId : Nat) (db : Db) : Prop :=
  ∃ o p, db.cartProvenance.get? o = some p ∧ p.state.isPending = true ∧
    db.ownsCart userId p.cartId = true

/-- The keys of provenance rows: order ids are drawn from a sequence that starts at
one, and a foreign key names the cart. -/
structure Db.ProvenanceKeys (db : Db) : Prop where
  positive : ∀ o p, db.cartProvenance.get? o = some p → 0 < o
  cart : ∀ o p, db.cartProvenance.get? o = some p → ∃ c, db.carts.get? p.cartId = some c

/-! ### What every attempt keeps -/

/-- Carts stay, tasks stay in their carts, and none is queued. -/
structure TasksKept (db db' : Db) : Prop where
  carts : db'.carts = db.carts
  tasks : Table.Rows (fun _ p p' => p'.cartId = p.cartId ∧
    (p'.state.isPending = true → p'.state = p.state)) db.cartProvenance db'.cartProvenance

namespace TasksKept

variable {db db' db'' : Db}

theorem refl (db : Db) : TasksKept db db := ⟨rfl, Table.Rows.refl (fun _ _ => ⟨rfl, fun _ => rfl⟩) _⟩

theorem trans (h : TasksKept db db') (h' : TasksKept db' db'') : TasksKept db db'' := by
  refine ⟨h'.carts.trans h.carts, h.tasks.comp (fun _ p p' p'' first second => ?_) h'.tasks⟩
  obtain ⟨cart, state⟩ := first
  obtain ⟨cart', state'⟩ := second
  refine ⟨cart'.trans cart, fun pending => ?_⟩
  have same := state' pending
  exact same.trans (state (same ▸ pending))

theorem ownsCart (h : TasksKept db db') (userId cartId : Nat) :
    db'.ownsCart userId cartId = db.ownsCart userId cartId := by
  rw [Db.ownsCart, Db.ownsCart, h.carts]

theorem pendingOf (h : TasksKept db db') {userId : Nat} (pending : PendingOf userId db') :
    PendingOf userId db := by
  obtain ⟨o, p', found', pending', own⟩ := pending
  obtain ⟨p, found, cart, state⟩ := h.tasks.backward found'
  rw [h.ownsCart, cart] at own
  exact ⟨o, p, found, state pending' ▸ pending', own⟩

theorem keys (h : TasksKept db db') (keys : db.ProvenanceKeys) : db'.ProvenanceKeys := by
  constructor
  · intro o p' found'
    obtain ⟨p, found, -⟩ := h.tasks.backward found'
    exact keys.positive o p found
  · intro o p' found'
    obtain ⟨p, found, cart, -⟩ := h.tasks.backward found'
    rw [h.carts, cart]
    exact keys.cart o p found

end TasksKept

theorem recordCartError_kept (userId : Nat) (message : String) (db : Db) :
    TasksKept db (recordCartError userId message db) := by
  refine ⟨rfl, fun o => ?_⟩
  rw [recordCartError, Table.get?_updateMany]
  cases db.cartProvenance.get? o with
  | none => exact .none
  | some p =>
      refine .some ?_
      dsimp only
      split <;> exact ⟨rfl, fun _ => rfl⟩

/-! ### What a settlement does to the tasks -/

section Settlement

variable {now : Time} {userId : Nat} {db db' : Db} {task : CartTask} {tasks : List CartTask}

/-- The end that a task comes to. -/
def CartTask.close (now : Time) (task : CartTask) (p : OrderCartProvenance) :
    OrderCartProvenance :=
  { p with
    state := if task.provenance.state = .consumePending then .consumed else .released
    completedAt := some now
    lastError := none }

theorem CartTask.close_pending (now : Time) (task : CartTask) (p : OrderCartProvenance) :
    (task.close now p).state.isPending = false := by
  unfold CartTask.close
  dsimp only
  split <;> rfl

theorem consumeTask_provenance (h : consumeTask db task = .ok db') :
    db'.cartProvenance = db.cartProvenance := by
  refine consumeTask_invariant (I := fun s => s.cartProvenance = db.cartProvenance)
    (fun hs step => ?_) rfl h
  rcases consumeAllocation_cases step with rfl | ⟨rowId, row, -, -, -, rfl | rfl⟩
  · exact hs
  · exact hs
  · exact hs

theorem settleTask_provenance (h : settleTask now db task = .ok db') :
    db'.cartProvenance = db.cartProvenance.update task.orderId (task.close now) := by
  obtain ⟨db₁, consumed, rest⟩ := bind_eq_ok.mp h
  obtain rfl := pure_eq_ok.mp rest
  rw [← consumeTask_provenance consumed]
  rfl

theorem settleTask_kept (h : settleTask now db task = .ok db') : TasksKept db db' := by
  refine ⟨?_, ?_⟩
  · obtain ⟨_, _, _, rfl⟩ := (settleTask_frame h).fields
    rfl
  · rw [settleTask_provenance h]
    refine Table.rows_update (fun p _ => ⟨rfl, fun pending => ?_⟩) fun _ p _ => ⟨rfl, fun _ => rfl⟩
    rw [task.close_pending] at pending
    cases pending

theorem settleTasks_kept (h : tasks.foldlM (settleTask now) db = .ok db') : TasksKept db db' :=
  foldlM_invariant (I := TasksKept db) (fun _ _ _ hs step => hs.trans (settleTask_kept step)) _
    (TasksKept.refl db) h

/-- None of the tasks is pending after its settlement. -/
theorem settleTasks_done (h : tasks.foldlM (settleTask now) db = .ok db') {p' : OrderCartProvenance}
    (mem : task ∈ tasks) (found : db'.cartProvenance.get? task.orderId = some p') :
    p'.state.isPending = false := by
  induction tasks generalizing db with
  | nil => cases mem
  | cons first tasks ih =>
      rw [List.foldlM_cons, bind_eq_ok] at h
      obtain ⟨db₁, step, rest⟩ := h
      rcases List.mem_cons.mp mem with rfl | mem
      · obtain ⟨p₁, found₁, -, state⟩ := (settleTasks_kept rest).tasks.backward found
        rw [settleTask_provenance step, Table.get?_update_self, Option.map_eq_some_iff] at found₁
        obtain ⟨p, -, rfl⟩ := found₁
        by_contra pending
        rw [Bool.not_eq_false] at pending
        have closed := task.close_pending now p
        rw [← state pending, pending] at closed
        cases closed
      · exact ih rest mem

theorem settleCartReconciliation_kept (h : settleCartReconciliation userId now db = .ok db') :
    TasksKept db db' :=
  settleTasks_kept h

/-- A customer whose settlement succeeds has no pending task left. -/
theorem settleCartReconciliation_done (h : settleCartReconciliation userId now db = .ok db') :
    ¬ PendingOf userId db' := by
  rintro ⟨o, p', found, pending, own⟩
  have kept := settleCartReconciliation_kept h
  obtain ⟨p, found₀, cart, state⟩ := kept.tasks.backward found
  rw [kept.ownsCart, cart] at own
  obtain ⟨task, mem, rfl⟩ :=
    exists_pendingCartTask found₀ (state pending ▸ pending) own
  rw [settleTasks_done h mem found] at pending
  cases pending

end Settlement

/-! ### What a settlement leaves to other customers -/

/-- An allocation is as it was, or the row it was about is in somebody else's cart
and gone. -/
def SameAllocation (userId : Nat) (db : Db) (a a' : OrderCartAllocation) : Prop :=
  a' = a ∨ (a' = { a with cartItemId := none } ∧ ∃ r row, a.cartItemId = some r ∧
    db.cartItems.get? r = some row ∧ db.ownsCart userId row.cartId = false)

/-- A customer's carts and tasks are as they were, but for `lastError`. -/
structure Untouched (userId : Nat) (db db' : Db) : Prop where
  carts : db'.carts = db.carts
  rows : ∀ r row, db.ownsCart userId row.cartId = true →
    (db'.cartItems.get? r = some row ↔ db.cartItems.get? r = some row)
  older : ∀ r row', db'.cartItems.get? r = some row' →
    ∃ row, db.cartItems.get? r = some row ∧ row.cartId = row'.cartId
  tasks : Table.Rows (fun _ p p' => p'.cartId = p.cartId ∧ (db.ownsCart userId p.cartId = true →
    ∃ lastError, p' = { p with lastError := lastError })) db.cartProvenance db'.cartProvenance
  allocations : Table.Rows (fun _ a a' => a'.orderId = a.orderId ∧
    ∀ p, db.cartProvenance.get? a.orderId = some p → db.ownsCart userId p.cartId = true →
      SameAllocation userId db a a') db.cartAllocations db'.cartAllocations
  taskKeys : db'.cartProvenance.keys = db.cartProvenance.keys
  allocationKeys : db'.cartAllocations.keys = db.cartAllocations.keys

namespace Untouched

variable {userId : Nat} {db db' db'' : Db}

theorem refl (userId : Nat) (db : Db) : Untouched userId db db where
  carts := rfl
  rows := fun _ _ _ => Iff.rfl
  older := fun _ row found => ⟨row, found, rfl⟩
  tasks := Table.Rows.refl (fun _ p => ⟨rfl, fun _ => ⟨p.lastError, rfl⟩⟩) _
  allocations := Table.Rows.refl (fun _ _ => ⟨rfl, fun _ _ _ => Or.inl rfl⟩) _
  taskKeys := rfl
  allocationKeys := rfl

theorem ownsCart (h : Untouched userId db db') (v cartId : Nat) :
    db'.ownsCart v cartId = db.ownsCart v cartId := by
  rw [Db.ownsCart, Db.ownsCart, h.carts]

theorem trans (h : Untouched userId db db') (h' : Untouched userId db' db'') :
    Untouched userId db db'' := by
  refine ⟨h'.carts.trans h.carts, fun r row own => ?_, fun r row'' found => ?_,
    h.tasks.comp (fun _ p p' p'' first second => ?_) h'.tasks,
    h.allocations.comp (fun _ a a' a'' first second => ?_) h'.allocations,
    h'.taskKeys.trans h.taskKeys, h'.allocationKeys.trans h.allocationKeys⟩
  · exact (h'.rows r row ((h.ownsCart userId row.cartId).trans own)).trans (h.rows r row own)
  · obtain ⟨row', found', cart'⟩ := h'.older r row'' found
    obtain ⟨row, found, cart⟩ := h.older r row' found'
    exact ⟨row, found, cart.trans cart'⟩
  · obtain ⟨cart, own⟩ := first
    obtain ⟨cart', own'⟩ := second
    refine ⟨cart'.trans cart, fun owned => ?_⟩
    obtain ⟨e, rfl⟩ := own owned
    obtain ⟨e', rfl⟩ := own' ((h.ownsCart userId _).trans owned)
    exact ⟨e', rfl⟩
  · obtain ⟨order, same⟩ := first
    obtain ⟨order', same'⟩ := second
    refine ⟨order'.trans order, fun p hp own => ?_⟩
    obtain ⟨p', hp', cart, -⟩ := h.tasks.forward hp
    have own' : db'.ownsCart userId p'.cartId = true := by rw [h.ownsCart, cart]; exact own
    rcases same p hp own with rfl | ⟨rfl, lost⟩
    · rcases same' p' hp' own' with rfl | ⟨rfl, r, row', on, found', foreign⟩
      · exact Or.inl rfl
      · obtain ⟨row, found, cart⟩ := h.older r row' found'
        rw [h.ownsCart, ← cart] at foreign
        exact Or.inr ⟨rfl, r, row, on, found, foreign⟩
    · rcases same' p' hp' own' with rfl | ⟨-, r, row', on, -⟩
      · exact Or.inr ⟨rfl, lost⟩
      · cases on

/-- A task that is not the customer's stays so. -/
theorem foreign (h : Untouched userId db db') {o : Nat}
    (foreign : ∀ p, db.cartProvenance.get? o = some p → db.ownsCart userId p.cartId = false) :
    ∀ p, db'.cartProvenance.get? o = some p → db'.ownsCart userId p.cartId = false := by
  intro p' found'
  obtain ⟨p, found, cart, -⟩ := h.tasks.backward found'
  rw [h.ownsCart, cart]
  exact foreign p found

end Untouched

section Others

variable {userId : Nat} {now : Time} {db db' : Db} {task : CartTask} {tasks : List CartTask}

/-- A cart row that is not the customer's may shrink. -/
theorem untouched_updateRow {k : Nat} {row : CartItem} (found : db.cartItems.get? k = some row)
    (foreign : db.ownsCart userId row.cartId = false) (n : Int) :
    Untouched userId db { db with
      cartItems := db.cartItems.update k fun r => { r with quantity := r.quantity - n } } := by
  refine { Untouched.refl userId db with rows := fun r row' own => ?_, older := fun r row' h => ?_ }
  · by_cases same : r = k
    · subst same
      rw [Table.get?_update_self, found, Option.map_some]
      constructor
      · intro h
        obtain rfl := Option.some.inj h
        exact absurd own (by simp [foreign])
      · intro h
        obtain rfl := Option.some.inj h
        exact absurd own (by simp [foreign])
    · dsimp only
      rw [Table.get?_update_of_ne _ _ same]
  · dsimp only at h
    rw [Table.get?_update] at h
    split at h
    · obtain ⟨old, hold, rfl⟩ := Option.map_eq_some_iff.mp h
      exact ⟨old, hold, rfl⟩
    · exact ⟨row', h, rfl⟩

/-- Or go, with the references to it. -/
theorem untouched_deleteCartItem {k : Nat} {row : CartItem}
    (found : db.cartItems.get? k = some row) (foreign : db.ownsCart userId row.cartId = false) :
    Untouched userId db (deleteCartItem k db) := by
  refine { Untouched.refl userId db with
    rows := fun r row' own => ?_
    older := fun r row' h => ?_
    allocations := fun i => ?_
    allocationKeys := Table.keys_updateMany .. }
  · rw [get?_deleteCartItem]
    split
    · subst_vars
      rw [found]
      constructor
      · nofun
      · intro h
        obtain rfl := Option.some.inj h
        exact absurd own (by simp [foreign])
    · rfl
  · rw [get?_deleteCartItem] at h
    split at h
    · cases h
    · exact ⟨row', h, rfl⟩
  · rw [get?_deleteCartItem_allocations]
    cases db.cartAllocations.get? i with
    | none => exact .none
    | some a =>
        refine .some ?_
        dsimp only
        split
        · rename_i on
          exact ⟨rfl, fun _ _ _ => Or.inr ⟨rfl, k, row, of_decide_eq_true on, found, foreign⟩⟩
        · exact ⟨rfl, fun _ _ _ => Or.inl rfl⟩

theorem consumeTask_untouched (foreign : db.ownsCart userId task.provenance.cartId = false)
    (h : consumeTask db task = .ok db') : Untouched userId db db' := by
  refine consumeTask_invariant (I := Untouched userId db) (fun hs step => ?_)
    (Untouched.refl userId db) h
  rcases consumeAllocation_cases step with rfl | ⟨rowId, row, -, found, cart, rfl | rfl⟩
  · exact hs
  · refine hs.trans (untouched_deleteCartItem found ?_)
    rw [hs.ownsCart, cart]
    exact foreign
  · refine hs.trans (untouched_updateRow found ?_ _)
    rw [hs.ownsCart, cart]
    exact foreign

theorem settleTask_untouched (cart : db.ownsCart userId task.provenance.cartId = false)
    (order : ∀ p, db.cartProvenance.get? task.orderId = some p → db.ownsCart userId p.cartId = false)
    (h : settleTask now db task = .ok db') : Untouched userId db db' := by
  obtain ⟨db₁, consumed, rest⟩ := bind_eq_ok.mp h
  obtain rfl := pure_eq_ok.mp rest
  have first := consumeTask_untouched cart consumed
  have order₁ := first.foreign order
  refine first.trans { Untouched.refl userId db₁ with
    tasks := Table.rows_update (fun p found => ⟨rfl, fun own => ?_⟩)
      fun _ p _ => ⟨rfl, fun _ => ⟨p.lastError, rfl⟩⟩
    allocations := fun i => ?_
    taskKeys := Table.keys_update ..
    allocationKeys := Table.keys_updateMany .. }
  · exact absurd own (by simp [order₁ p found])
  · dsimp only
    rw [Table.get?_updateMany]
    cases db₁.cartAllocations.get? i with
    | none => exact .none
    | some a =>
        refine .some ?_
        dsimp only
        split
        · rename_i same
          refine ⟨rfl, fun p hp own => ?_⟩
          rw [of_decide_eq_true same] at hp
          exact absurd own (by simp [order₁ p hp])
        · exact ⟨rfl, fun _ _ _ => Or.inl rfl⟩

/-- Tasks of other customers can be settled in turn. -/
theorem settleTasks_untouched
    (carts : ∀ task ∈ tasks, db.ownsCart userId task.provenance.cartId = false)
    (orders : ∀ task ∈ tasks, ∀ p, db.cartProvenance.get? task.orderId = some p →
      db.ownsCart userId p.cartId = false)
    (h : tasks.foldlM (settleTask now) db = .ok db') : Untouched userId db db' := by
  induction tasks generalizing db with
  | nil =>
      obtain rfl := pure_eq_ok.mp h
      exact Untouched.refl userId db
  | cons first tasks ih =>
      rw [List.foldlM_cons, bind_eq_ok] at h
      obtain ⟨db₁, step, rest⟩ := h
      have own := settleTask_untouched (carts first List.mem_cons_self)
        (orders first List.mem_cons_self) step
      refine own.trans (ih (fun task mem => ?_) (fun task mem => own.foreign ?_) rest)
      · rw [own.ownsCart]
        exact carts task (List.mem_cons_of_mem _ mem)
      · exact orders task (List.mem_cons_of_mem _ mem)

/-- A cart has one owner. -/
theorem ownsCart_unique {u v cartId : Nat} (other : u ≠ v) (own : db.ownsCart v cartId = true) :
    db.ownsCart u cartId = false := by
  unfold Db.ownsCart at *
  cases found : db.carts.get? cartId with
  | none => rfl
  | some cart =>
      rw [found, Option.any_some, decide_eq_true_eq] at own
      simp [own, other.symm]

theorem settleCartReconciliation_untouched {v : Nat} (other : userId ≠ v)
    (h : settleCartReconciliation v now db = .ok db') : Untouched userId db db' := by
  refine settleTasks_untouched (fun task mem => ?_) (fun task mem p found => ?_) h
  · exact ownsCart_unique other (mem_pendingCartTasks mem).2.2
  · obtain ⟨read, -, own⟩ := mem_pendingCartTasks mem
    obtain rfl := Option.some.inj (read.symm.trans found)
    exact ownsCart_unique other own

/-- A recorded failure touches nobody. -/
theorem recordCartError_untouched (v : Nat) (message : String) :
    Untouched userId db (recordCartError v message db) := by
  refine { Untouched.refl userId db with
    tasks := fun o => ?_
    taskKeys := Table.keys_updateMany .. }
  rw [recordCartError, Table.get?_updateMany]
  cases db.cartProvenance.get? o with
  | none => exact .none
  | some p =>
      refine .some ?_
      dsimp only
      split
      · exact ⟨rfl, fun _ => ⟨some message, rfl⟩⟩
      · exact ⟨rfl, fun _ => ⟨p.lastError, rfl⟩⟩

/-- A customer nobody has touched keeps its pending tasks. -/
theorem Untouched.pending (h : Untouched userId db db') {o : Nat} {p : OrderCartProvenance}
    (found : db.cartProvenance.get? o = some p) (pending : p.state.isPending = true)
    (own : db.ownsCart userId p.cartId = true) :
    ∃ p', db'.cartProvenance.get? o = some p' ∧ p'.state.isPending = true ∧
      db'.ownsCart userId p'.cartId = true := by
  obtain ⟨p', found', cart, kept⟩ := h.tasks.forward found
  obtain ⟨e, rfl⟩ := kept own
  exact ⟨_, found', pending, (h.ownsCart userId _).trans own⟩

end Others

/-! ### A settlement does not depend on other customers -/

section Alone

variable {userId cartId : Nat} {base s s' s₁ db db' : Db} {a a₁ : OrderCartAllocation}

/-- The rows of the customer's carts agree, and no row is new. -/
structure AgreeOn (userId : Nat) (base s s₁ : Db) : Prop where
  rows : ∀ r row, base.ownsCart userId row.cartId = true →
    (s₁.cartItems.get? r = some row ↔ s.cartItems.get? r = some row)
  older : ∀ r row', s.cartItems.get? r = some row' →
    ∃ row, base.cartItems.get? r = some row ∧ row.cartId = row'.cartId

theorem consumeAllocation_agree (agree : AgreeOn userId base s s₁)
    (own : base.ownsCart userId cartId = true) (same : SameAllocation userId base a a₁)
    (h : consumeAllocation cartId a s = .ok s') :
    ∃ s₁', consumeAllocation cartId a₁ s₁ = .ok s₁' ∧ AgreeOn userId base s' s₁' := by
  rcases same with rfl | ⟨rfl, r, row₀, on, found₀, foreign⟩
  · unfold consumeAllocation at h ⊢
    cases hrow : a₁.cartItemId with
    | none =>
        simp only [hrow] at h ⊢
        exact ⟨s₁, rfl, Except.ok.inj h ▸ agree⟩
    | some rowId =>
        simp only [hrow] at h ⊢
        by_cases none : a₁.visibleQuantity = 0
        · rw [if_pos none] at h ⊢
          exact ⟨s₁, rfl, Except.ok.inj h ▸ agree⟩
        · rw [if_neg none] at h
          simp only [if_neg none, bind_eq_ok, orThrow_eq_ok, ensure_eq_ok, pure_eq_ok] at h ⊢
          obtain ⟨row, hrow, ⟨⟩, enough, rfl⟩ := h
          obtain ⟨found, there⟩ := Option.filter_eq_some_iff.mp hrow
          have cart := (of_decide_eq_true there).1
          have found₁ := (agree.rows rowId row (by rw [cart]; exact own)).mpr found
          refine ⟨_, ⟨row, Option.filter_eq_some_iff.mpr ⟨found₁, there⟩, ⟨⟩, enough, rfl⟩, ?_⟩
          split
          · refine ⟨fun r row' owned => ?_, fun r row' left => ?_⟩
            · rw [get?_deleteCartItem, get?_deleteCartItem]
              split
              · rfl
              · exact agree.rows r row' owned
            · rw [get?_deleteCartItem] at left
              split at left
              · cases left
              · exact agree.older r row' left
          · refine ⟨fun r row' owned => ?_, fun r row' left => ?_⟩
            · dsimp only
              rw [Table.get?_update, Table.get?_update]
              split
              · subst_vars
                rw [found, found₁]
              · exact agree.rows r row' owned
            · dsimp only at left
              rw [Table.get?_update] at left
              split at left
              · obtain ⟨old, hold, rfl⟩ := Option.map_eq_some_iff.mp left
                exact agree.older r old hold
              · exact agree.older r row' left
  · -- The reference is gone; the row was never one that the settlement could take from.
    refine ⟨s₁, rfl, ?_⟩
    rcases consumeAllocation_cases h with rfl | ⟨rowId, row, on', found, cart, -⟩
    · exact agree
    · obtain rfl := Option.some.inj (on.symm.trans on')
      obtain ⟨old, hold, same⟩ := agree.older _ row found
      obtain rfl := Option.some.inj (found₀.symm.trans hold)
      rw [same, cart, own] at foreign
      cases foreign

/-- Two tasks that a settlement treats alike. -/
structure AlikeTasks (userId : Nat) (base : Db) (task task₁ : CartTask) : Prop where
  cart : task₁.provenance.cartId = task.provenance.cartId
  state : task₁.provenance.state = task.provenance.state
  own : base.ownsCart userId task.provenance.cartId = true
  allocations : List.Forall₂ (SameAllocation userId base) task.allocations task₁.allocations

theorem consumeAllocations_agree {l l₁ : List OrderCartAllocation}
    (agree : AgreeOn userId base s s₁) (own : base.ownsCart userId cartId = true)
    (same : List.Forall₂ (SameAllocation userId base) l l₁)
    (h : l.foldlM (fun s a => consumeAllocation cartId a s) s = .ok s') :
    ∃ s₁', l₁.foldlM (fun s a => consumeAllocation cartId a s) s₁ = .ok s₁' ∧
      AgreeOn userId base s' s₁' := by
  induction same generalizing s s₁ with
  | nil =>
      obtain rfl := pure_eq_ok.mp h
      exact ⟨s₁, rfl, agree⟩
  | cons first rest ih =>
      rw [List.foldlM_cons, bind_eq_ok] at h
      obtain ⟨t, step, h⟩ := h
      obtain ⟨t₁, step₁, agree⟩ := consumeAllocation_agree agree own first step
      obtain ⟨s₁', rest₁, agree⟩ := ih agree h
      exact ⟨s₁', by rw [List.foldlM_cons, step₁]; exact rest₁, agree⟩

theorem settleTask_agree (now₁ : Time) {now : Time} {task task₁ : CartTask}
    (agree : AgreeOn userId base s s₁)
    (alike : AlikeTasks userId base task task₁) (h : settleTask now s task = .ok s') :
    ∃ s₁', settleTask now₁ s₁ task₁ = .ok s₁' ∧ AgreeOn userId base s' s₁' := by
  obtain ⟨t, consumed, rest⟩ := bind_eq_ok.mp h
  obtain rfl := pure_eq_ok.mp rest
  have consume : ∃ t₁, consumeTask s₁ task₁ = .ok t₁ ∧ AgreeOn userId base t t₁ := by
    unfold consumeTask at consumed ⊢
    rw [alike.state, alike.cart]
    by_cases consumes : task.provenance.state = .consumePending
    · rw [if_pos consumes] at consumed ⊢
      exact consumeAllocations_agree agree alike.own alike.allocations consumed
    · rw [if_neg consumes] at consumed ⊢
      exact ⟨s₁, rfl, Except.ok.inj consumed ▸ agree⟩
  obtain ⟨t₁, consumed₁, agree⟩ := consume
  exact ⟨_, bind_eq_ok.mpr ⟨t₁, consumed₁, rfl⟩, agree.rows, agree.older⟩

theorem settleTasks_agree {now now₁ : Time} {tasks tasks₁ : List CartTask}
    (agree : AgreeOn userId base s s₁) (alike : List.Forall₂ (AlikeTasks userId base) tasks tasks₁)
    (h : tasks.foldlM (settleTask now) s = .ok s') :
    ∃ s₁', tasks₁.foldlM (settleTask now₁) s₁ = .ok s₁' := by
  induction alike generalizing s s₁ with
  | nil => exact ⟨s₁, rfl⟩
  | cons first rest ih =>
      rw [List.foldlM_cons, bind_eq_ok] at h
      obtain ⟨t, step, h⟩ := h
      obtain ⟨t₁, step₁, agree⟩ := settleTask_agree now₁ agree first step
      obtain ⟨s₁', rest₁⟩ := ih agree h
      exact ⟨s₁', by rw [List.foldlM_cons, step₁]; exact rest₁⟩

/-- The reading of a task. -/
def CartTask.read (db : Db) (e : Nat × OrderCartProvenance) : CartTask where
  orderId := e.1
  provenance := e.2
  allocations := (db.cartAllocations.select fun _ a => decide (a.orderId = e.1)).map Prod.snd

theorem pendingCartTasks_eq (userId : Nat) (db : Db) : pendingCartTasks userId db =
    (db.cartProvenance.selectByKey fun _ p =>
      p.state.isPending && db.ownsCart userId p.cartId).map (CartTask.read db) :=
  rfl

/-- What the customer's allocations of an order are read as after others were settled. -/
theorem Untouched.sameAllocations (h : Untouched userId db db') {o : Nat}
    {p : OrderCartProvenance} (found : db.cartProvenance.get? o = some p)
    (own : db.ownsCart userId p.cartId = true) :
    List.Forall₂ (SameAllocation userId db)
      ((db.cartAllocations.select fun _ a => decide (a.orderId = o)).map Prod.snd)
      ((db'.cartAllocations.select fun _ a => decide (a.orderId = o)).map Prod.snd) := by
  have row : ∀ i a, db.cartAllocations.get? i = some a →
      ((db'.cartAllocations.get? i).getD a).orderId = a.orderId ∧
        (a.orderId = o → SameAllocation userId db a ((db'.cartAllocations.get? i).getD a)) := by
    intro i a ha
    obtain ⟨a', ha', order, same⟩ := h.allocations.forward ha
    rw [ha', Option.getD_some]
    exact ⟨order, fun about => same p (about ▸ found) own⟩
  rw [Table.select_of_keys h.allocationKeys,
    Table.select_modify fun i a ha => by rw [(row i a ha).1], List.map_map,
    List.forall₂_map_left_iff, List.forall₂_map_right_iff, List.forall₂_same]
  intro e mem
  obtain ⟨found, about⟩ := Table.mem_select.mp mem
  exact (row e.1 e.2 found).2 (of_decide_eq_true about)

/-- What the customer's tasks are read as after others were settled. -/
theorem Untouched.alikeTasks (h : Untouched userId db db') :
    List.Forall₂ (AlikeTasks userId db) (pendingCartTasks userId db)
      (pendingCartTasks userId db') := by
  have row : ∀ o p, db.cartProvenance.get? o = some p →
      ((db'.cartProvenance.get? o).getD p).cartId = p.cartId ∧
        (db.ownsCart userId p.cartId = true →
          ((db'.cartProvenance.get? o).getD p).state = p.state) := by
    intro o p found
    obtain ⟨p', found', cart, same⟩ := h.tasks.forward found
    rw [found', Option.getD_some]
    refine ⟨cart, fun own => ?_⟩
    obtain ⟨e, rfl⟩ := same own
    rfl
  have selected : ∀ o p, db.cartProvenance.get? o = some p →
      (((db'.cartProvenance.get? o).getD p).state.isPending &&
        db'.ownsCart userId ((db'.cartProvenance.get? o).getD p).cartId) =
          (p.state.isPending && db.ownsCart userId p.cartId) := by
    intro o p found
    obtain ⟨cart, state⟩ := row o p found
    rw [h.ownsCart, cart]
    cases own : db.ownsCart userId p.cartId with
    | true => rw [state own]
    | false => simp
  have before : (db'.cartProvenance.selectByKey fun _ p =>
      p.state.isPending && db'.ownsCart userId p.cartId) =
        (db.cartProvenance.selectByKey fun _ p =>
          p.state.isPending && db'.ownsCart userId p.cartId).map
            fun e => (e.1, (db'.cartProvenance.get? e.1).getD e.2) := by
    rw [Table.selectByKey_of_keys h.taskKeys]
    refine Table.selectByKey_modify fun o p found => ?_
    rw [h.ownsCart userId p.cartId]
    exact selected o p found
  rw [pendingCartTasks_eq, pendingCartTasks_eq, before, List.map_map, List.forall₂_map_left_iff,
    List.forall₂_map_right_iff]
  simp only [h.ownsCart]
  rw [List.forall₂_same]
  intro e mem
  obtain ⟨found, pending⟩ := Table.mem_selectByKey.mp mem
  rw [Bool.and_eq_true] at pending
  obtain ⟨cart, state⟩ := row e.1 e.2 found
  exact ⟨cart, state pending.2, pending.2, h.sameAllocations found pending.2⟩

/-- A settlement that would succeed still does after others were attempted. -/
theorem Untouched.settles (h : Untouched userId db db') {now : Time}
    (settles : settleCartReconciliation userId now db = .ok s') (now₁ : Time) :
    ∃ s₁', settleCartReconciliation userId now₁ db' = .ok s₁' :=
  settleTasks_agree ⟨h.rows, fun _ row found => ⟨row, found, rfl⟩⟩ h.alikeTasks settles

end Alone

/-! ### A run of attempts -/

section Attempts

variable {env : SweepEnvironment} {cursor userId : Nat} {db db' db'' : Db}
  {attempts later : List Attempt}

/-- The attempts were made in turn. -/
inductive Attempted (env : SweepEnvironment) : Db → List Attempt → Db → Prop where
  | nil (db : Db) : Attempted env db [] db
  | settled {userId : Nat} {now : Time} {db db₁ db' : Db} {attempts : List Attempt} :
      settleCartReconciliation userId now db = .ok db₁ → Attempted env db₁ attempts db' →
      Attempted env db (⟨userId, none⟩ :: attempts) db'
  | failed {userId : Nat} {message : String} {db db' : Db} {attempts : List Attempt} :
      ((∃ cursor, env.fault cursor userId ≠ none) ∨
        ∃ now e, settleCartReconciliation userId now db = .error e) →
      Attempted env (recordCartError userId message db) attempts db' →
      Attempted env db (⟨userId, some message⟩ :: attempts) db'

theorem Attempted.append (h : Attempted env db attempts db') (h' : Attempted env db' later db'') :
    Attempted env db (attempts ++ later) db'' := by
  induction h with
  | nil => exact h'
  | settled settles _ ih => exact .settled settles (ih h')
  | failed fails _ ih => exact .failed fails (ih h')

theorem attemptAll_attempted (env : SweepEnvironment) (cursor : Nat) (userIds : List Nat)
    (db : Db) : Attempted env db (attemptAll env cursor userIds db).1
      (attemptAll env cursor userIds db).2 := by
  induction userIds generalizing db with
  | nil => exact .nil db
  | cons userId rest ih =>
      simp only [attemptAll, attempt, settleCustomer]
      cases fault : env.fault cursor userId with
      | some thrown => exact .failed (Or.inl ⟨cursor, by simp [fault]⟩) (ih _)
      | none =>
          cases settles : settleCartReconciliation userId (env.now cursor userId) db with
          | ok db₁ => exact .settled settles (ih _)
          | error e => exact .failed (Or.inr ⟨_, e, settles⟩) (ih _)

theorem attemptAll_userIds (env : SweepEnvironment) (cursor : Nat) (userIds : List Nat) (db : Db) :
    (attemptAll env cursor userIds db).1.map Attempt.userId = userIds := by
  induction userIds generalizing db with
  | nil => rfl
  | cons userId rest ih =>
      have own : (attempt env cursor userId db).1.userId = userId := by
        unfold attempt
        split <;> rfl
      simp only [attemptAll, List.map_cons, own, ih]

theorem Attempted.kept (h : Attempted env db attempts db') : TasksKept db db' := by
  induction h with
  | nil db => exact TasksKept.refl db
  | settled settles _ ih => exact (settleCartReconciliation_kept settles).trans ih
  | failed _ _ ih => exact (recordCartError_kept ..).trans ih

/-- A customer that was settled has no pending task from then on. -/
theorem Attempted.done (h : Attempted env db attempts db') {a : Attempt} (mem : a ∈ attempts)
    (success : a.error = none) : ¬ PendingOf a.userId db' := by
  induction h with
  | nil => cases mem
  | settled settles rest ih =>
      rcases List.mem_cons.mp mem with rfl | mem
      · exact fun pending => settleCartReconciliation_done settles (rest.kept.pendingOf pending)
      · exact ih mem
  | failed _ _ ih =>
      rcases List.mem_cons.mp mem with rfl | mem
      · cases success
      · exact ih mem

/-- A customer that was never settled is untouched. -/
theorem Attempted.untouched (h : Attempted env db attempts db')
    (never : ∀ a ∈ attempts, a.userId = userId → a.error ≠ none) : Untouched userId db db' := by
  induction h with
  | nil db => exact Untouched.refl userId db
  | @settled v _ _ _ _ _ settles _ ih =>
      have other : userId ≠ v := fun same => never _ List.mem_cons_self same.symm rfl
      exact (settleCartReconciliation_untouched other settles).trans
        (ih fun a mem => never a (List.mem_cons_of_mem _ mem))
  | failed _ _ ih =>
      exact (recordCartError_untouched ..).trans
        (ih fun a mem => never a (List.mem_cons_of_mem _ mem))

theorem settle_nothing {now : Time} (idle : ¬ PendingOf userId db) :
    settleCartReconciliation userId now db = .ok db := by
  have none : pendingCartTasks userId db = [] := by
    refine List.eq_nil_iff_forall_not_mem.mpr fun task mem => idle ?_
    obtain ⟨found, pending, own⟩ := mem_pendingCartTasks mem
    exact ⟨task.orderId, task.provenance, found, pending, own⟩
  rw [settleCartReconciliation, none]
  rfl

/-- A customer that nothing interrupts and whose settlement would succeed at first
is settled whenever it is attempted. -/
theorem Attempted.succeeds (h : Attempted env db attempts db')
    (smooth : ∀ cursor, env.fault cursor userId = none)
    (able : ∀ now, ∃ s, settleCartReconciliation userId now db = .ok s) :
    ∀ a ∈ attempts, a.userId = userId → a.error = none := by
  induction h with
  | nil => nofun
  | @settled v _ db db₁ _ _ settles _ ih =>
      have still : ∀ now, ∃ s, settleCartReconciliation userId now db₁ = .ok s := by
        intro now
        by_cases same : v = userId
        · subst same
          exact ⟨db₁, settle_nothing (settleCartReconciliation_done settles)⟩
        · obtain ⟨s, hs⟩ := able now
          exact (settleCartReconciliation_untouched (Ne.symm same) settles).settles hs now
      exact List.forall_mem_cons.mpr ⟨fun _ => rfl, ih still⟩
  | @failed v message db _ _ fails _ ih =>
      have still : ∀ now,
          ∃ s, settleCartReconciliation userId now (recordCartError v message db) = .ok s := by
        intro now
        obtain ⟨s, hs⟩ := able now
        exact (recordCartError_untouched v message).settles hs now
      refine List.forall_mem_cons.mpr ⟨fun same => ?_, ih still⟩
      subst same
      rcases fails with ⟨cursor, interrupted⟩ | ⟨now, e, refused⟩
      · exact absurd (smooth cursor) interrupted
      · obtain ⟨s, hs⟩ := able now
        rw [hs] at refused
        cases refused

end Attempts

/-! ### Pages -/

section Pages

variable {env : SweepEnvironment} {cursor fuel o userId : Nat} {db db' : Db}
  {p : OrderCartProvenance}

/-- The tasks that a page after the cursor is taken from. -/
def isAhead (cursor o : Nat) (p : OrderCartProvenance) : Bool :=
  decide (cursor < o) && p.state.isPending

theorem isAhead_iff : isAhead cursor o p = true ↔ cursor < o ∧ p.state.isPending = true := by
  rw [isAhead, Bool.and_eq_true, decide_eq_true_eq]

theorem mem_taskPage {e : Nat × OrderCartProvenance} (h : e ∈ taskPage cursor db) :
    db.cartProvenance.get? e.1 = some e.2 ∧ cursor < e.1 ∧ e.2.state.isPending = true := by
  obtain ⟨found, ahead⟩ := Table.mem_selectByKey.mp (List.mem_of_mem_take h)
  exact ⟨found, isAhead_iff.mp ahead⟩

/-- A task that is ahead and not on the page comes after the page. -/
theorem taskPage_before (found : db.cartProvenance.get? o = some p) (after : cursor < o)
    (pending : p.state.isPending = true) (out : (o, p) ∉ taskPage cursor db)
    {e : Nat × OrderCartProvenance} (on : e ∈ taskPage cursor db) : e.1 < o :=
  rel_of_notMem_take (Table.pairwise_selectByKey ..)
    (Table.mem_selectByKey.mpr ⟨found, isAhead_iff.mpr ⟨after, pending⟩⟩) out on

theorem mem_sweepPage {last : Nat × Nat} (h : last ∈ sweepPage cursor db) :
    ∃ e ∈ taskPage cursor db, e.1 = last.1 := by
  obtain ⟨e, mem, h⟩ := List.mem_filterMap.mp h
  obtain ⟨cart, -, rfl⟩ := Option.map_eq_some_iff.mp h
  exact ⟨e, mem, rfl⟩

theorem userId_mem_sweepPage {e : Nat × OrderCartProvenance} (mem : e ∈ taskPage cursor db)
    (own : db.ownsCart userId e.2.cartId = true) :
    userId ∈ (sweepPage cursor db).map Prod.snd := by
  unfold Db.ownsCart at own
  cases found : db.carts.get? e.2.cartId with
  | none => simp [found] at own
  | some cart =>
      rw [found, Option.any_some, decide_eq_true_eq] at own
      refine List.mem_map.mpr ⟨(e.1, userId), List.mem_filterMap.mpr ⟨e, mem, ?_⟩, rfl⟩
      rw [found, Option.map_some, own]

/-- A page without tasks is the last. -/
theorem no_task_ahead (keys : db.ProvenanceKeys) (empty : (sweepPage cursor db).getLast? = none)
    (found : db.cartProvenance.get? o = some p) (after : cursor < o) :
    p.state.isPending = false := by
  rw [List.getLast?_eq_none_iff] at empty
  by_contra pending
  rw [Bool.not_eq_false] at pending
  have ahead : (o, p) ∈ db.cartProvenance.selectByKey (isAhead cursor) :=
    Table.mem_selectByKey.mpr ⟨found, isAhead_iff.mpr ⟨after, pending⟩⟩
  obtain ⟨e, rest, hpage⟩ : ∃ e rest, taskPage cursor db = e :: rest := by
    cases h : db.cartProvenance.selectByKey (isAhead cursor) with
    | nil => rw [h] at ahead; cases ahead
    | cons e rest => exact ⟨e, rest.take 99, congrArg (List.take 100) h⟩
  have mem : e ∈ taskPage cursor db := by rw [hpage]; exact List.mem_cons_self
  obtain ⟨cart, hcart⟩ := keys.cart e.1 e.2 (mem_taskPage mem).1
  have user : cart.userId ∈ (sweepPage cursor db).map Prod.snd :=
    userId_mem_sweepPage mem (by simp [Db.ownsCart, hcart])
  rw [empty] at user
  cases user

/-- The number of tasks ahead of the cursor. -/
def tasksAhead (cursor : Nat) (db : Db) : Nat := (db.cartProvenance.select (isAhead cursor)).length

theorem tasksAhead_lt (kept : TasksKept db db') {e : Nat × OrderCartProvenance}
    (mem : e ∈ taskPage cursor db) : tasksAhead e.1 db' < tasksAhead cursor db := by
  obtain ⟨found, after, pending⟩ := mem_taskPage mem
  have key : ∀ o, o ∈ (db'.cartProvenance.select (isAhead e.1)).map Prod.fst →
      e.1 < o ∧ o ∈ (db.cartProvenance.select (isAhead cursor)).map Prod.fst := by
    intro o ho
    obtain ⟨⟨o, p'⟩, hp', rfl⟩ := List.mem_map.mp ho
    obtain ⟨found', ahead⟩ := Table.mem_select.mp hp'
    obtain ⟨later, pending'⟩ := isAhead_iff.mp ahead
    obtain ⟨p, found, -, state⟩ := kept.tasks.backward found'
    refine ⟨later, List.mem_map.mpr ⟨(o, p), Table.mem_select.mpr ⟨found, ?_⟩, rfl⟩⟩
    exact isAhead_iff.mpr ⟨after.trans later, state pending' ▸ pending'⟩
  have distinct : (e.1 :: (db'.cartProvenance.select (isAhead e.1)).map Prod.fst).Nodup :=
    List.nodup_cons.mpr ⟨fun own => absurd (key e.1 own).1 (lt_irrefl _),
      Table.nodup_keys_select ..⟩
  have sub := (List.subperm_of_subset distinct (List.cons_subset.mpr
    ⟨List.mem_map.mpr ⟨e, Table.mem_select.mpr ⟨found, isAhead_iff.mpr ⟨after, pending⟩⟩, rfl⟩,
      fun o ho => (key o ho).2⟩)).length_le
  rw [List.length_cons, List.length_map, List.length_map] at sub
  exact sub

/-- A page is attempted, and the sweep goes on after its last task. -/
theorem reconcileFrom_succ {last : Nat × Nat} (page : (sweepPage cursor db).getLast? = some last) :
    reconcileFrom env (fuel + 1) cursor db =
      (reconcileFrom env fuel last.1 (attemptAll env cursor
        ((sweepPage cursor db).map Prod.snd).eraseDups db).2).map fun later =>
          ((attemptAll env cursor ((sweepPage cursor db).map Prod.snd).eraseDups db).1 ++ later.1,
            later.2) := by
  rw [reconcileFrom, page]

theorem reconcileFrom_done (page : (sweepPage cursor db).getLast? = none) :
    reconcileFrom env (fuel + 1) cursor db = some ([], db) := by
  rw [reconcileFrom, page]

/-- The sweep ends: each page is one task ahead at least. -/
theorem reconcileFrom_ends (enough : tasksAhead cursor db < fuel) :
    ∃ swept, reconcileFrom env fuel cursor db = some swept := by
  induction fuel generalizing cursor db with
  | zero => cases enough
  | succ fuel ih =>
      cases page : (sweepPage cursor db).getLast? with
      | none => exact ⟨_, reconcileFrom_done page⟩
      | some last =>
          obtain ⟨e, mem, same⟩ := mem_sweepPage (List.mem_of_getLast? page)
          have fewer := tasksAhead_lt (attemptAll_attempted env cursor
            ((sweepPage cursor db).map Prod.snd).eraseDups db).kept mem
          rw [same] at fewer
          obtain ⟨swept, rest⟩ := ih (lt_of_lt_of_le fewer (Nat.le_of_lt_succ enough))
          exact ⟨_, by rw [reconcileFrom_succ page, rest]; rfl⟩

/-- More pages than it takes change nothing. -/
theorem reconcileFrom_mono {swept : List Attempt × Db} {more : Nat} (le : fuel ≤ more)
    (h : reconcileFrom env fuel cursor db = some swept) :
    reconcileFrom env more cursor db = some swept := by
  induction fuel generalizing more cursor db swept with
  | zero => cases h
  | succ fuel ih =>
      obtain ⟨more, rfl⟩ := Nat.exists_eq_add_of_le' (Nat.lt_of_lt_of_le (Nat.succ_pos fuel) le)
      cases page : (sweepPage cursor db).getLast? with
      | none => rw [reconcileFrom_done page] at h ⊢; exact h
      | some last =>
          rw [reconcileFrom_succ page, Option.map_eq_some_iff] at h
          obtain ⟨later, rest, rfl⟩ := h
          rw [reconcileFrom_succ page, ih (Nat.le_of_succ_le_succ le) rest]
          rfl

theorem reconcileFrom_attempted {swept : List Attempt × Db}
    (h : reconcileFrom env fuel cursor db = some swept) : Attempted env db swept.1 swept.2 := by
  induction fuel generalizing cursor db swept with
  | zero => cases h
  | succ fuel ih =>
      cases page : (sweepPage cursor db).getLast? with
      | none =>
          rw [reconcileFrom_done page] at h
          obtain rfl := Option.some.inj h
          exact .nil db
      | some last =>
          rw [reconcileFrom_succ page, Option.map_eq_some_iff] at h
          obtain ⟨later, rest, rfl⟩ := h
          exact (attemptAll_attempted ..).append (ih rest)

/-- Every customer with a task ahead of the cursor is attempted. -/
theorem reconcileFrom_covers {swept : List Attempt × Db} (keys : db.ProvenanceKeys)
    (h : reconcileFrom env fuel cursor db = some swept)
    (found : db.cartProvenance.get? o = some p) (after : cursor < o)
    (pending : p.state.isPending = true) (own : db.ownsCart userId p.cartId = true) :
    ∃ a ∈ swept.1, a.userId = userId := by
  induction fuel generalizing cursor db swept p with
  | zero => cases h
  | succ fuel ih =>
      cases page : (sweepPage cursor db).getLast? with
      | none =>
          rw [no_task_ahead keys page found after] at pending
          cases pending
      | some last =>
          rw [reconcileFrom_succ page, Option.map_eq_some_iff] at h
          obtain ⟨later, rest, rfl⟩ := h
          set userIds := ((sweepPage cursor db).map Prod.snd).eraseDups with huserIds
          have attempted := attemptAll_attempted env cursor userIds db
          by_cases on : userId ∈ userIds
          · rw [← attemptAll_userIds env cursor userIds db] at on
            obtain ⟨a, mem, same⟩ := List.mem_map.mp on
            exact ⟨a, List.mem_append_left _ mem, same⟩
          · -- The task is after the page, and its customer was not on it.
            have never : ∀ a ∈ (attemptAll env cursor userIds db).1, a.userId ≠ userId := by
              intro a mem same
              apply on
              rw [← attemptAll_userIds env cursor userIds db]
              exact List.mem_map.mpr ⟨a, mem, same⟩
            have untouched := attempted.untouched fun a mem same => absurd same (never a mem)
            obtain ⟨e, mem, same⟩ := mem_sweepPage (List.mem_of_getLast? page)
            have out : (o, p) ∉ taskPage cursor db := fun mem =>
              on (List.mem_eraseDups.mpr (userId_mem_sweepPage mem own))
            have later := taskPage_before found after pending out mem
            rw [same] at later
            obtain ⟨p', found', pending', own'⟩ := untouched.pending found pending own
            obtain ⟨a, mem, same⟩ := ih (attempted.kept.keys keys) rest found' later pending' own'
            exact ⟨a, List.mem_append_right _ mem, same⟩

end Pages

/-! ### The sweep is complete and ends -/

/-- Whatever transactions fail, the sweep ends; it attempts every customer with a
pending task, no settled customer has a task left, a customer that was never
settled keeps its carts and tasks, and a customer whose own settlement can be made
is settled whatever becomes of the others. -/
theorem reconcilePendingCarts_complete (env : SweepEnvironment) {db : Db}
    (keys : db.ProvenanceKeys) :
    ∃ attempts db' pages, (∀ fuel, pages ≤ fuel →
        reconcilePendingCarts env fuel db = some (attempts, db')) ∧
      (∀ userId, PendingOf userId db → ∃ a ∈ attempts, a.userId = userId) ∧
      (∀ a ∈ attempts, a.error = none → ¬ PendingOf a.userId db') ∧
      (∀ userId, (∀ a ∈ attempts, a.userId = userId → a.error ≠ none) →
        Untouched userId db db') ∧
      ∀ userId now db₁, settleCartReconciliation userId now db = .ok db₁ →
        (∀ cursor, env.fault cursor userId = none) →
        ∀ a ∈ attempts, a.userId = userId → a.error = none := by
  obtain ⟨swept, h⟩ : ∃ swept, reconcileFrom env (tasksAhead 0 db + 1) 0 db = some swept :=
    reconcileFrom_ends (Nat.lt_succ_self _)
  have attempted := reconcileFrom_attempted h
  refine ⟨swept.1, swept.2, _, fun fuel le => reconcileFrom_mono le h, ?_,
    fun a mem success => attempted.done mem success, fun userId never => attempted.untouched never,
    fun userId now db₁ settles smooth => attempted.succeeds smooth
      fun now₁ => (Untouched.refl userId db).settles settles now₁⟩
  rintro userId ⟨o, p, found, pending, own⟩
  exact reconcileFrom_covers keys h found (keys.positive o p found) pending own

/-- Two customers with pending releases. -/
def releasedCarts : Db :=
  { Db.empty with
    carts := (Table.empty.insert ⟨7⟩).insert ⟨8⟩
    cartProvenance := ((Table.empty.insert ⟨1, .releasePending, none, none⟩).insert
      ⟨2, .releasePending, none, none⟩).insert ⟨1, .releasePending, none, none⟩ }

/-- The transactions of one of them are cut off. -/
def cutOff : SweepEnvironment where
  now := fun _ _ => 0
  fault := fun _ userId => if userId = 7 then some (.error "Connection terminated") else none

/-- The other one is settled, and the first keeps its carts and tasks. -/
theorem reconcilePendingCarts_complete_cutOff : ∃ attempts db' fuel,
    reconcilePendingCarts cutOff fuel releasedCarts = some (attempts, db') ∧
      (∃ a ∈ attempts, a.userId = 7) ∧ (∃ a ∈ attempts, a = ⟨8, none⟩) ∧ ¬ PendingOf 8 db' := by
  have keys : releasedCarts.ProvenanceKeys := by
    have rows : ∀ e ∈ releasedCarts.cartProvenance.entries,
        0 < e.1 ∧ (releasedCarts.carts.get? e.2.cartId).isSome = true := by decide
    refine ⟨fun o p found => (rows (o, p) (Table.mem_entries.mpr found)).1, fun o p found => ?_⟩
    exact Option.isSome_iff_exists.mp (rows (o, p) (Table.mem_entries.mpr found)).2
  obtain ⟨attempts, db', pages, ends, covers, settled, -, others⟩ :=
    reconcilePendingCarts_complete cutOff keys
  have failing := covers 7 ⟨1, _, rfl, rfl, rfl⟩
  obtain ⟨⟨userId, error⟩, mem', rfl⟩ := covers 8 ⟨2, _, rfl, rfl, rfl⟩
  obtain rfl : error = none := others 8 0 _ rfl (fun _ => rfl) _ mem' rfl
  exact ⟨attempts, db', pages, ends pages le_rfl, failing, ⟨_, mem', rfl⟩,
    settled _ mem' rfl⟩

end ColorfulLife
