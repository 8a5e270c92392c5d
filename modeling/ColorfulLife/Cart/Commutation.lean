/-
Settlements commute with the queueing of tasks.

`forecast` says what a customer's cart comes to once a plan of queueings is
carried out and settled. Queueing a planned order and settling the customer's
tasks both keep the forecast, and a cart with nothing left to queue or to settle
is its own forecast. So every schedule of one plan ends in one cart.
-/

import ColorfulLife.Cart.Invariant

namespace ColorfulLife

open Relational

/-! ### Schedules -/

inductive CartEvent where
  | queue (orderId : Nat) (consume : Bool)
  | settle (now : Time)
  deriving DecidableEq, Repr

def CartEvent.apply (userId : Nat) (db : Db) : CartEvent → Result Db
  | .queue orderId consume => .ok (queueCartReconciliation orderId consume db)
  | .settle now => settleCartReconciliation userId now db

def runEvents (userId : Nat) (db : Db) (events : List CartEvent) : Result Db :=
  events.foldlM (CartEvent.apply userId) db

/-- The orders that the events queue, and as what. -/
def queueings (events : List CartEvent) : List (Nat × Bool) :=
  events.filterMap fun event =>
    match event with
    | .queue orderId consume => some (orderId, consume)
    | .settle _ => none

/-! ### What is compared -/

/-- The cart tables without times and error notes. -/
structure CartOutcome where
  rows : Nat → Option CartItem
  allocations : Nat → Option OrderCartAllocation
  states : Nat → Option (Nat × CartReconciliationState)

def cartOutcome (db : Db) : CartOutcome where
  rows := db.cartItems.get?
  allocations := db.cartAllocations.get?
  states := fun o => (db.cartProvenance.get? o).map fun p => (p.cartId, p.state)

/-! ### The forecast -/

/-- The state after the plan's queueings. -/
def queuedState (plan : List (Nat × Bool)) (orderId : Nat) (state : CartReconciliationState) :
    CartReconciliationState :=
  if state = .active then
    match plan.lookup orderId with
    | some consume => if consume then .consumePending else .releasePending
    | none => .active
  else state

/-- The state after a settlement. -/
def settledState : CartReconciliationState → CartReconciliationState
  | .consumePending => .consumed
  | .releasePending => .released
  | state => state

section Forecast

variable (userId : Nat) (plan : List (Nat × Bool)) (db : Db)

/-- The carts and the states of the orders after the plan's queueings. -/
def queuedStates (orderId : Nat) : Option (Nat × CartReconciliationState) :=
  (db.cartProvenance.get? orderId).map fun p => (p.cartId, queuedState plan orderId p.state)

/-- The order's task will be settled. -/
def settlesOrder (orderId : Nat) : Bool :=
  (queuedStates plan db orderId).any fun s => db.ownsCart userId s.1 && s.2.isPending

/-- The order's task will take its units out of the cart. -/
def consumesOrder (orderId : Nat) : Bool :=
  (queuedStates plan db orderId).any fun s =>
    db.ownsCart userId s.1 && decide (s.2 = .consumePending)

/-- What all tasks together take from a row. -/
def takenFrom (cartItemId : Nat) : Int :=
  visibleSum (fun a => decide (a.cartItemId = some cartItemId) &&
    consumesOrder userId plan db a.orderId) db.cartAllocations

/-- The row will be deleted. -/
def goes (cartItemId : Nat) : Bool :=
  (db.cartItems.get? cartItemId).any fun row =>
    (row.remaining (takenFrom userId plan db cartItemId)).isNone

/-- The row references and visible quantities that are left of an allocation. -/
def OrderCartAllocation.cleared (gone settled : Nat → Bool) (a : OrderCartAllocation) :
    OrderCartAllocation :=
  { a with
    cartItemId := a.cartItemId.filter fun k => !gone k
    visibleQuantity := if settled a.orderId then 0 else a.visibleQuantity }

def forecast : CartOutcome where
  rows := fun k => (db.cartItems.get? k).bind (CartItem.remaining (takenFrom userId plan db k))
  allocations := fun i => (db.cartAllocations.get? i).map
    (OrderCartAllocation.cleared (goes userId plan db) (settlesOrder userId plan db))
  states := fun o => (queuedStates plan db o).map fun s =>
    (s.1, if db.ownsCart userId s.1 then settledState s.2 else s.2)

end Forecast

variable {u o k : Nat} {now : Time} {plan : List (Nat × Bool)} {db db' db'' : Db}
  {task : CartTask} {tasks : List CartTask}

/-! ### Queueing -/

theorem queuedState_queued {consume : Bool} (planned : plan.lookup o = some consume)
    (state : CartReconciliationState) : queuedState plan o
      (if state = .active then (if consume then .consumePending else .releasePending) else state) =
      queuedState plan o state := by
  unfold queuedState
  by_cases active : state = .active
  · cases consume <;> simp [active, planned]
  · simp [active]

theorem get?_queue {consume : Bool} (j : Nat) :
    (queueCartReconciliation o consume db).cartProvenance.get? j =
      (db.cartProvenance.get? j).map fun p =>
        if j = o then { p with
          state := if p.state = .active then
            (if consume then .consumePending else .releasePending) else p.state }
        else p := by
  rw [queueCartReconciliation, Table.get?_updateMany]
  refine congrArg (Option.map · _) (funext fun p => ?_)
  by_cases same : j = o
  · by_cases active : p.state = .active <;> simp [same, active]
  · simp [same]

/-- The forecast reads the provenance through the queued states only. -/
theorem forecast_congr (carts : db'.carts = db.carts) (items : db'.cartItems = db.cartItems)
    (allocations : db'.cartAllocations = db.cartAllocations)
    (states : queuedStates plan db' = queuedStates plan db) :
    forecast u plan db' = forecast u plan db := by
  have owns : db'.ownsCart u = db.ownsCart u := by
    unfold Db.ownsCart
    rw [carts]
  have settles : settlesOrder u plan db' = settlesOrder u plan db := by
    unfold settlesOrder
    rw [owns, states]
  have taken : takenFrom u plan db' = takenFrom u plan db := by
    unfold takenFrom consumesOrder
    rw [owns, states, allocations]
  have gone : goes u plan db' = goes u plan db := by
    unfold goes
    rw [items, taken]
  unfold forecast
  rw [owns, states, items, allocations, taken, gone, settles]

/-- Queueing a planned order keeps what the plan comes to. -/
theorem forecast_queue {consume : Bool} (planned : plan.lookup o = some consume) :
    forecast u plan (queueCartReconciliation o consume db) = forecast u plan db := by
  refine forecast_congr rfl rfl rfl (funext fun j => ?_)
  rw [queuedStates, queuedStates, get?_queue, Option.map_map]
  refine congrArg (Option.map · _) (funext fun p => ?_)
  by_cases same : j = o
  · subst same
    simp only [Function.comp_apply, if_true, queuedState_queued planned]
  · simp only [Function.comp_apply, same, if_false]

/-! ### One task -/

/-- Rows only go, and a row that goes takes its references along. -/
structure Detaches (db db' : Db) : Prop where
  missing : ∀ k, db.cartItems.get? k = none → db'.cartItems.get? k = none
  references : db'.cartAllocations = db.cartAllocations.modify fun _ a =>
    { a with cartItemId := a.cartItemId.filter fun k =>
        (db.cartItems.get? k).isNone || (db'.cartItems.get? k).isSome }
  provenance : db'.cartProvenance = db.cartProvenance
  carts : db'.carts = db.carts

namespace Detaches

theorem of_rows (missing : ∀ k, db'.cartItems.get? k = none ↔ db.cartItems.get? k = none)
    (allocations : db'.cartAllocations = db.cartAllocations)
    (provenance : db'.cartProvenance = db.cartProvenance) (carts : db'.carts = db.carts) :
    Detaches db db' where
  missing := fun k => (missing k).mpr
  provenance := provenance
  carts := carts
  references := by
    have all : (fun k => (db.cartItems.get? k).isNone || (db'.cartItems.get? k).isSome) =
        fun _ => true := by
      funext k
      cases before : db.cartItems.get? k with
      | none => rfl
      | some row =>
          have kept : db'.cartItems.get? k ≠ none := fun gone => by
            rw [(missing k).mp gone] at before
            cases before
          simp [Option.isSome_iff_ne_none.mpr kept]
    have same : ∀ reference : Option Nat, reference.filter (fun _ => true) = reference :=
      fun reference => by cases reference <;> rfl
    rw [all, allocations]
    simp only [same]
    exact (Table.modify_id _).symm

theorem refl (db : Db) : Detaches db db := of_rows (fun _ => Iff.rfl) rfl rfl rfl

theorem trans (h : Detaches db db') (h' : Detaches db' db'') : Detaches db db'' where
  missing := fun k gone => h'.missing k (h.missing k gone)
  provenance := h'.provenance.trans h.provenance
  carts := h'.carts.trans h.carts
  references := by
    rw [h'.references, h.references, Table.modify_modify]
    refine congrArg _ (funext fun _ => funext fun a => ?_)
    simp only [Option.filter_filter]
    refine congrArg (fun f => { a with cartItemId := a.cartItemId.filter f }) (funext fun k => ?_)
    have first := h.missing k
    have second := h'.missing k
    cases before : db.cartItems.get? k with
    | none => simp [first before, second (first before)]
    | some row =>
        cases between : db'.cartItems.get? k with
        | none => simp [second between]
        | some row' => simp

theorem delete (found : (db.cartItems.get? k).isSome) : Detaches db (deleteCartItem k db) where
  missing := fun j gone => by
    rw [get?_deleteCartItem]
    split
    · rfl
    · exact gone
  provenance := rfl
  carts := rfl
  references := by
    have writes : (deleteCartItem k db).cartAllocations = db.cartAllocations.modify fun _ a =>
        if decide (a.cartItemId = some k) then { a with cartItemId := none } else a := rfl
    rw [writes]
    refine congrArg db.cartAllocations.modify (funext fun _ => funext fun a => ?_)
    obtain ⟨orderId, reference, listing, quantity, visible⟩ := a
    cases reference with
    | none => simp
    | some j =>
        by_cases same : j = k
        · subst same
          have there : db.cartItems.get? j ≠ none := Option.isSome_iff_ne_none.mp found
          simp [get?_deleteCartItem, Option.filter_some, there]
        · have other : (db.cartItems.get? j).isNone || (db.cartItems.get? j).isSome := by
            cases db.cartItems.get? j <;> rfl
          simp [get?_deleteCartItem, Option.filter_some, same, other]

end Detaches

theorem consumeAllocation_detaches {cartId : Nat} {a : OrderCartAllocation}
    (h : consumeAllocation cartId a db = .ok db') : Detaches db db' := by
  rcases consumeAllocation_cases h with rfl | ⟨rowId, row, -, found, -, rfl | rfl⟩
  · exact .refl _
  · exact .delete (Option.isSome_of_mem found)
  · refine .of_rows (fun k => ?_) rfl rfl rfl
    rw [Table.get?_update]
    split <;> simp

/-- What a settled task leaves of the allocations, and of its own provenance. -/
structure Closes (now : Time) (task : CartTask) (db db' : Db) : Prop where
  missing : ∀ k, db.cartItems.get? k = none → db'.cartItems.get? k = none
  allocations : db'.cartAllocations = db.cartAllocations.modify fun _ a =>
    a.cleared (fun k => (db.cartItems.get? k).isSome && (db'.cartItems.get? k).isNone)
      fun o => decide (o = task.orderId)
  provenance : db'.cartProvenance = db.cartProvenance.update task.orderId fun p =>
    { p with
      state := if task.provenance.state = .consumePending then .consumed else .released
      completedAt := some now
      lastError := none }
  carts : db'.carts = db.carts

theorem settleTask_closes (h : settleTask now db task = .ok db') : Closes now task db db' := by
  obtain ⟨db₁, hconsume, hrest⟩ := bind_eq_ok.mp h
  obtain rfl := pure_eq_ok.mp hrest
  have detaches : Detaches db db₁ :=
    consumeTask_invariant (fun hs hstep => hs.trans (consumeAllocation_detaches hstep)) (.refl db)
      hconsume
  refine ⟨detaches.missing, ?_, by rw [← detaches.provenance], detaches.carts⟩
  have writes : (closeTask now task db₁).cartAllocations = db₁.cartAllocations.modify fun _ a =>
      if decide (a.orderId = task.orderId) then { a with visibleQuantity := 0 } else a := rfl
  refine writes.trans ?_
  rw [detaches.references, Table.modify_modify]
  refine congrArg db.cartAllocations.modify (funext fun _ => funext fun a => ?_)
  have references : (fun k => (db.cartItems.get? k).isNone || (db₁.cartItems.get? k).isSome) =
      fun k => !((db.cartItems.get? k).isSome && (db₁.cartItems.get? k).isNone) := by
    funext k
    cases db.cartItems.get? k <;> cases db₁.cartItems.get? k <;> rfl
  rw [references, OrderCartAllocation.cleared]
  by_cases own : a.orderId = task.orderId <;> simp [own]

/-! ### The forecast of a settled task -/

theorem OrderCartAllocation.cleared_cleared (gone settled gone' settled' : Nat → Bool)
    (a : OrderCartAllocation) : (a.cleared gone settled).cleared gone' settled' =
      a.cleared (fun k => gone k || gone' k) fun o => settled o || settled' o := by
  have visible : (if settled' a.orderId then 0 else
      if settled a.orderId then 0 else a.visibleQuantity) =
        if settled a.orderId || settled' a.orderId then 0 else a.visibleQuantity := by
    by_cases first : settled a.orderId = true <;> by_cases second : settled' a.orderId = true <;>
      simp [first, second]
  rw [cleared, cleared, cleared, visible, Option.filter_filter]
  simp only [Bool.not_or]

theorem goes_eq : goes u plan db k =
    ((db.cartItems.get? k).isSome && ((forecast u plan db).rows k).isNone) := by
  simp only [goes, forecast]
  cases db.cartItems.get? k <;> simp

theorem queuedState_of_pending {state : CartReconciliationState} (pending : state.isPending = true) :
    queuedState plan o state = state := by
  cases state <;> first | rfl | cases pending

theorem queuedState_settled {state : CartReconciliationState} (pending : state.isPending = true) :
    queuedState plan o (settledState state) = settledState state := by
  cases state <;> first | rfl | cases pending

theorem settledState_of_rests {state : CartReconciliationState} (rests : state.isPending = false) :
    settledState state = state := by
  cases state <;> first | rfl | cases rests

namespace Closes

section Task

variable (closes : Closes now task db db')
  (read : db.cartProvenance.get? task.orderId = some task.provenance)
  (pending : task.provenance.state.isPending = true)
  (owned : db.ownsCart u task.provenance.cartId = true)

include read pending

theorem states_before :
    queuedStates plan db task.orderId = some (task.provenance.cartId, task.provenance.state) := by
  rw [queuedStates, read, Option.map_some, queuedState_of_pending pending]

include closes

omit read pending in
theorem ownsCart : db'.ownsCart u = db.ownsCart u := by
  unfold Db.ownsCart
  rw [closes.carts]

theorem states_after (j : Nat) : queuedStates plan db' j =
    if j = task.orderId then some (task.provenance.cartId, settledState task.provenance.state)
    else queuedStates plan db j := by
  rw [queuedStates, closes.provenance, Table.get?_update]
  split
  · rename_i same
    have done : (if task.provenance.state = .consumePending then CartReconciliationState.consumed
        else .released) = settledState task.provenance.state := by
      cases hstate : task.provenance.state <;> first | rfl | (rw [hstate] at pending; cases pending)
    rw [same, read, Option.map_some, Option.map_some, done, queuedState_settled pending]
  · rfl

theorem not_consumesOrder : consumesOrder u plan db' task.orderId = false := by
  unfold consumesOrder
  rw [closes.states_after read pending, if_pos rfl]
  cases task.provenance.state <;> simp [settledState] at pending ⊢

/-- A row that is still there gives the rest. -/
theorem takenFrom_after {row : CartItem} (kept : db'.cartItems.get? k = some row) :
    takenFrom u plan db' k =
      visibleSum (fun a => decide (a.cartItemId = some k) && consumesOrder u plan db' a.orderId)
        db.cartAllocations := by
  have none : consumesOrder u plan db' task.orderId = false := closes.not_consumesOrder read pending
  unfold takenFrom visibleSum
  rw [closes.allocations, Table.sum_modify]
  refine Table.sum_congr fun i a _ => ?_
  have onRow : decide ((a.cleared (fun k => (db.cartItems.get? k).isSome &&
      (db'.cartItems.get? k).isNone) fun o => decide (o = task.orderId)).cartItemId = some k) =
      decide (a.cartItemId = some k) := by
    rw [decide_eq_decide, OrderCartAllocation.cleared, Option.filter_eq_some_iff]
    simp [kept]
  beta_reduce
  rw [onRow, OrderCartAllocation.cleared]
  by_cases own : a.orderId = task.orderId <;> simp [own, none]

include owned

theorem settlesOrder_eq (j : Nat) :
    settlesOrder u plan db j = (decide (j = task.orderId) || settlesOrder u plan db' j) := by
  unfold settlesOrder
  rw [closes.ownsCart, closes.states_after read pending]
  by_cases own : j = task.orderId
  · subst own
    simp [states_before read pending, owned, pending]
  · simp [own]

theorem consumesOrder_eq (j : Nat) : consumesOrder u plan db j =
    if j = task.orderId then decide (task.provenance.state = .consumePending)
    else consumesOrder u plan db' j := by
  unfold consumesOrder
  rw [closes.ownsCart, closes.states_after read pending]
  by_cases own : j = task.orderId
  · subst own
    simp [states_before read pending, owned]
  · simp [own]

/-- What the plan takes from a row: the task's part and the rest. -/
theorem takenFrom_before : takenFrom u plan db k = task.takes db k +
    visibleSum (fun a => decide (a.cartItemId = some k) && consumesOrder u plan db' a.orderId)
      db.cartAllocations := by
  have none : consumesOrder u plan db' task.orderId = false := closes.not_consumesOrder read pending
  unfold takenFrom CartTask.takes
  simp only [closes.consumesOrder_eq read pending owned]
  split
  · rename_i consumes
    rw [visibleOf, visibleSum_add fun a own => by simp_all]
    congr
    funext a
    by_cases own : a.orderId = task.orderId <;> simp [own, consumes, none]
  · rename_i releases
    rw [zero_add]
    congr
    funext a
    by_cases own : a.orderId = task.orderId <;> simp [own, releases, none]

/-- Settling a task keeps the forecast. -/
theorem forecast_eq (settled : Settled task db db') (h : ProvenanceInv db) :
    forecast u plan db' = forecast u plan db := by
  have rows : (forecast u plan db').rows = (forecast u plan db).rows := by
    funext k
    change (db'.cartItems.get? k).bind (CartItem.remaining (takenFrom u plan db' k)) =
      (db.cartItems.get? k).bind (CartItem.remaining (takenFrom u plan db k))
    cases found : db.cartItems.get? k with
    | none => rw [closes.missing k found, Option.bind_none, Option.bind_none]
    | some row =>
        have left := settled.rows k
        rw [found, Option.bind_some] at left
        have before : takenFrom u plan db k = _ :=
          closes.takenFrom_before read pending owned
        have own : 0 ≤ task.takes db k := by
          unfold CartTask.takes
          split
          · exact h.visibleOf_nonneg
          · exact le_rfl
        have rest : 0 ≤ visibleSum (fun a => decide (a.cartItemId = some k) &&
            consumesOrder u plan db' a.orderId) db.cartAllocations := visibleSum_nonneg h.nonneg
        have least : takenFrom u plan db k ≤ heldOf k db :=
          visibleSum_mono h.nonneg fun a taken => (Bool.and_eq_true_iff.mp taken).1
        have covered := h.covered k row found
        rw [before] at least
        have both := CartItem.remaining_add own rest (least.trans covered)
        rw [← before] at both
        rw [Option.bind_some, ← both, left]
        cases kept : row.remaining (task.takes db k) with
        | none => rfl
        | some row' =>
            rw [Option.bind_some, Option.bind_some,
              closes.takenFrom_after read pending (left.trans kept)]
  have gone : goes u plan db = fun k => ((db.cartItems.get? k).isSome &&
      (db'.cartItems.get? k).isNone) || goes u plan db' k := by
    funext k
    rw [goes_eq, goes_eq, rows]
    cases found : db.cartItems.get? k with
    | none => simp [closes.missing k found]
    | some row =>
        cases kept : db'.cartItems.get? k with
        | none =>
            have deleted : (forecast u plan db').rows k = none := by
              change (db'.cartItems.get? k).bind _ = none
              rw [kept, Option.bind_none]
            rw [← rows, deleted]
            rfl
        | some row' => simp
  have allocations : (forecast u plan db').allocations = (forecast u plan db).allocations := by
    funext i
    have settles : settlesOrder u plan db = fun j =>
        decide (j = task.orderId) || settlesOrder u plan db' j :=
      funext fun j => closes.settlesOrder_eq read pending owned j
    change (db'.cartAllocations.get? i).map _ = (db.cartAllocations.get? i).map _
    rw [closes.allocations, Table.get?_modify, Option.map_map, gone, settles]
    refine congrArg (Option.map · _) (funext fun a => ?_)
    exact a.cleared_cleared _ _ _ _
  have states : (forecast u plan db').states = (forecast u plan db).states := by
    funext j
    change (queuedStates plan db' j).map _ = (queuedStates plan db j).map _
    rw [closes.ownsCart, closes.states_after read pending]
    split
    · rename_i same
      subst same
      have twice : settledState (settledState task.provenance.state) =
          settledState task.provenance.state := by
        cases task.provenance.state <;> rfl
      rw [states_before read pending, Option.map_some, Option.map_some, if_pos owned,
        if_pos owned, twice]
    · rfl
  exact CartOutcome.mk.injEq .. ▸ ⟨rows, allocations, states⟩

end Task

end Closes

/-! ### A settlement -/

/-- A settlement keeps the forecast. -/
theorem settleTasks_forecast (h : ProvenanceInv db)
    (apart : tasks.Pairwise fun a b => b.orderId ≠ a.orderId)
    (read : ∀ task ∈ tasks, Read task db)
    (owned : ∀ task ∈ tasks, db.ownsCart u task.provenance.cartId = true)
    (tx : tasks.foldlM (settleTask now) db = .ok db') :
    forecast u plan db' = forecast u plan db := by
  induction tasks generalizing db with
  | nil =>
      obtain rfl := pure_eq_ok.mp tx
      rfl
  | cons task tasks ih =>
      obtain ⟨first, apart⟩ := List.pairwise_cons.mp apart
      have own := read task List.mem_cons_self
      obtain ⟨db₁, hsettle, settled⟩ := own.settle h now
      rw [List.foldlM_cons, hsettle] at tx
      have closes := settleTask_closes hsettle
      have read₁ : ∀ other ∈ tasks, Read other db₁ := fun other ho =>
        (read other (List.mem_cons_of_mem _ ho)).kept h settled (first other ho)
      have owned₁ : ∀ other ∈ tasks, db₁.ownsCart u other.provenance.cartId = true :=
        fun other ho => closes.ownsCart ▸ owned other (List.mem_cons_of_mem _ ho)
      have step : forecast u plan db₁ = forecast u plan db :=
        closes.forecast_eq own.provenance own.pending
          (owned task List.mem_cons_self) settled h
      exact (ih settled.inv apart read₁ owned₁ tx).trans step

theorem forecast_settle (h : ProvenanceInv db)
    (tx : settleCartReconciliation u now db = .ok db') :
    forecast u plan db' = forecast u plan db :=
  settleTasks_forecast h (h.read_pending u).1 (h.read_pending u).2
    (fun _ ht => (mem_pendingCartTasks ht).2.2) tx

/-- A provenance that is not done was not settled. -/
theorem SettledBy.untouched (settled : SettledBy tasks db db') {p : OrderCartProvenance}
    (found : db'.cartProvenance.get? o = some p) (waits : p.state.isDone = false) :
    db.cartProvenance.get? o = some p ∧ ∀ task ∈ tasks, task.orderId ≠ o := by
  induction settled with
  | nil db => exact ⟨found, nofun⟩
  | cons first rest ih =>
      obtain ⟨found₁, others⟩ := ih found
      obtain ⟨f, provenance, done⟩ := first.provenance
      rw [provenance, Table.get?_update] at found₁
      split at found₁
      · obtain ⟨q, -, rfl⟩ := Option.map_eq_some_iff.mp found₁
        rw [(done q).2] at waits
        cases waits
      · rename_i other
        exact ⟨found₁, List.forall_mem_cons.mpr ⟨Ne.symm other, others⟩⟩

/-- Nothing of the customer's waits. -/
def Idle (u : Nat) (db : Db) : Prop := pendingCartTasks u db = []

theorem idle_of_settle (h : ProvenanceInv db)
    (tx : settleCartReconciliation u now db = .ok db') : Idle u db' := by
  obtain ⟨db₁, tx₁, settled⟩ := h.settle u now
  obtain rfl := Except.ok.inj (tx.symm.trans tx₁)
  refine List.eq_nil_iff_forall_not_mem.mpr fun task pending => ?_
  obtain ⟨found, waits, owned⟩ := mem_pendingCartTasks pending
  have active : task.provenance.state.isDone = false := by
    cases hstate : task.provenance.state <;> first | rfl | (rw [hstate] at waits; cases waits)
  obtain ⟨before, others⟩ := settled.untouched found active
  have carts : db'.carts = db.carts := by
    obtain ⟨_, _, _, rfl⟩ := (settleCartReconciliation_frame tx).fields
    rfl
  rw [Db.ownsCart, carts] at owned
  obtain ⟨other, waiting, same⟩ := exists_pendingCartTask before waits owned
  exact others other waiting same

theorem Idle.settle (idle : Idle u db) (now : Time) :
    settleCartReconciliation u now db = .ok db := by
  rw [settleCartReconciliation, idle]
  rfl

/-- A cart without anything to queue or to settle is its own forecast. -/
theorem forecast_idle (idle : Idle u db)
    (queued : ∀ o p, db.cartProvenance.get? o = some p → p.state = .active → plan.lookup o = none) :
    forecast u plan db = cartOutcome db := by
  have kept : queuedStates plan db = fun o =>
      (db.cartProvenance.get? o).map fun p => (p.cartId, p.state) := by
    funext o
    rw [queuedStates]
    refine Option.map_congr fun p found => ?_
    rw [queuedState]
    split
    · rename_i active
      rw [queued o p found active, active]
    · rfl
  have settles : settlesOrder u plan db = fun _ => false := by
    funext o
    rw [settlesOrder, kept, Option.any_map, Option.any_eq_false]
    refine fun p found => Bool.eq_false_iff.mpr fun waiting => ?_
    obtain ⟨owned, waits⟩ := Bool.and_eq_true_iff.mp waiting
    obtain ⟨task, mem, -⟩ := exists_pendingCartTask found waits owned
    rw [idle] at mem
    cases mem
  have consumes : consumesOrder u plan db = fun _ => false := by
    funext o
    have none := congrFun settles o
    rw [settlesOrder, Option.any_eq_false] at none
    rw [consumesOrder, Option.any_eq_false]
    refine fun s found => Bool.eq_false_iff.mpr fun taking => ?_
    obtain ⟨owned, state⟩ := Bool.and_eq_true_iff.mp taking
    refine Bool.eq_false_iff.mp (none s found) (Bool.and_eq_true_iff.mpr ⟨owned, ?_⟩)
    rw [of_decide_eq_true state]
    rfl
  have taken : takenFrom u plan db = fun _ => 0 := by
    funext k
    rw [takenFrom, consumes]
    exact visibleSum_eq_zero fun i a _ on => by simp at on
  have stays : goes u plan db = fun _ => false := by
    funext k
    rw [goes, taken, Option.any_eq_false]
    intro row _
    rw [CartItem.remaining_zero]
    rfl
  have rows : (forecast u plan db).rows = db.cartItems.get? := by
    funext k
    change (db.cartItems.get? k).bind (CartItem.remaining (takenFrom u plan db k)) = _
    rw [taken]
    cases db.cartItems.get? k with
    | none => rfl
    | some row => exact row.remaining_zero
  have allocations : (forecast u plan db).allocations = db.cartAllocations.get? := by
    funext i
    change (db.cartAllocations.get? i).map _ = _
    rw [stays, settles]
    have same : OrderCartAllocation.cleared (fun _ => false) (fun _ => false) = id := by
      funext a
      obtain ⟨orderId, reference, listing, quantity, visible⟩ := a
      cases reference <;> rfl
    rw [same, Option.map_id, id]
  have states : (forecast u plan db).states = fun o =>
      (db.cartProvenance.get? o).map fun p => (p.cartId, p.state) := by
    funext o
    have none := congrFun settles o
    rw [settlesOrder, Option.any_eq_false] at none
    change (queuedStates plan db o).map _ = _
    rw [← congrFun kept o]
    refine (Option.map_congr fun s found => ?_).trans Option.map_id'
    split
    · rename_i owned
      have rests : s.2.isPending = false := by
        have waiting := none s found
        rwa [owned, Bool.true_and] at waiting
      rw [settledState_of_rests rests]
    · rfl
  exact CartOutcome.mk.injEq .. ▸ ⟨rows, allocations, states⟩

/-! ### Schedules of one plan -/

theorem not_active_of_queue {consume : Bool} {p : OrderCartProvenance}
    (found : (queueCartReconciliation o consume db).cartProvenance.get? o = some p) :
    p.state ≠ .active := by
  rw [get?_queue] at found
  obtain ⟨q, -, rfl⟩ := Option.map_eq_some_iff.mp found
  rw [if_pos rfl]
  dsimp only
  split
  · cases consume <;> exact nofun
  · assumption

/-- Whatever is active was active before. -/
theorem active_of_queue {consume : Bool} {j : Nat} {p : OrderCartProvenance}
    (found : (queueCartReconciliation o consume db).cartProvenance.get? j = some p)
    (active : p.state = .active) : db.cartProvenance.get? j = some p := by
  by_cases same : j = o
  · exact absurd active (not_active_of_queue (same ▸ found))
  · rw [get?_queue] at found
    obtain ⟨q, hq, rfl⟩ := Option.map_eq_some_iff.mp found
    rw [if_neg same]
    exact hq

/-- What holds while a schedule of the plan runs, with the events to come. -/
structure Underway (u : Nat) (plan : List (Nat × Bool)) (start : Db) (rest : List CartEvent)
    (db : Db) : Prop where
  inv : ProvenanceInv db
  frame : CartFrame start db
  forecast : forecast u plan db = forecast u plan start
  planned : ∀ e ∈ queueings rest, plan.lookup e.1 = some e.2
  awaited : ∀ o p, db.cartProvenance.get? o = some p → p.state = .active → plan.lookup o ≠ none →
    o ∈ (queueings rest).map Prod.fst

variable {event : CartEvent} {rest events : List CartEvent} {start : Db}

theorem Underway.step (h : Underway u plan start (event :: rest) db) :
    ∃ db', event.apply u db = .ok db' ∧ Underway u plan start rest db' := by
  cases event with
  | queue o consume =>
      have planned := List.forall_mem_cons.mp h.planned
      refine ⟨_, rfl, h.inv.queue o consume, h.frame.trans rfl,
        (forecast_queue planned.1).trans h.forecast, planned.2, fun j p found active still => ?_⟩
      have awaited := h.awaited j p (active_of_queue found active) active still
      rcases List.mem_cons.mp awaited with same | later
      · subst same
        exact absurd active (not_active_of_queue found)
      · exact later
  | settle now =>
      obtain ⟨db', tx, settled⟩ := h.inv.settle u now
      refine ⟨db', tx, settled.inv h.inv, h.frame.trans (settleCartReconciliation_frame tx),
        (forecast_settle h.inv tx).trans h.forecast, h.planned, fun j p found active still => ?_⟩
      have before := (settled.untouched found (by rw [active]; rfl)).1
      exact h.awaited j p before active still

theorem Underway.begin (h : ProvenanceInv db) (distinct : (plan.map Prod.fst).Nodup)
    (carries : (queueings events).Perm plan) :
    Underway u plan db events db where
  inv := h
  frame := CartFrame.refl db
  forecast := rfl
  planned := fun e queued => (Table.lookup_eq_some_iff distinct).mpr (carries.subset queued)
  awaited := fun o _ _ _ still => by
    obtain ⟨consume, hlookup⟩ := Option.ne_none_iff_exists'.mp still
    have mem := (Table.lookup_eq_some_iff distinct).mp hlookup
    exact List.mem_map.mpr ⟨(o, consume), carries.symm.subset mem, rfl⟩

/-- Every schedule of the plan that ends with a settlement comes to the forecast. -/
theorem schedule_comes_to (h : ProvenanceInv db) (distinct : (plan.map Prod.fst).Nodup)
    (carries : (queueings events).Perm plan) (now : Time) :
    ∃ db', runEvents u db (events ++ [.settle now]) = .ok db' ∧ CartFrame db db' ∧
      cartOutcome db' = forecast u plan db ∧ Idle u db' := by
  obtain ⟨db₁, ran, under⟩ := foldlM_progress (J := Underway u plan db)
    (fun _ _ _ underway => underway.step) events (Underway.begin h distinct carries)
  obtain ⟨db', tx, settled⟩ := under.inv.settle u now
  have idle := idle_of_settle under.inv tx
  refine ⟨db', ?_, under.frame.trans (settleCartReconciliation_frame tx), ?_, idle⟩
  · rw [runEvents, List.foldlM_append, ran]
    exact bind_eq_ok.mpr ⟨db₁, rfl, bind_eq_ok.mpr ⟨db', tx, rfl⟩⟩
  · have queued : ∀ o p, db'.cartProvenance.get? o = some p → p.state = .active →
        plan.lookup o = none := by
      intro o p found active
      by_contra still
      have before := (settled.untouched found (by rw [active]; rfl)).1
      cases under.awaited o p before active still
    rw [← forecast_idle idle queued, forecast_settle under.inv tx, under.forecast]

/-- The state in which an order's provenance ends once the plan is carried out: what is
queued, now or by the plan, is done where the cart is the customer's. -/
def finalState (u : Nat) (plan : List (Nat × Bool)) (db : Db) (orderId : Nat)
    (p : OrderCartProvenance) : CartReconciliationState :=
  let queued := queuedState plan orderId p.state
  if db.ownsCart u p.cartId then settledState queued else queued

/-- The plan is carried out and settled. Everything is said from the plan and the
state before it: what becomes of each order, what each row loses to the orders that
are consumed, and what is left of the allocations. -/
structure CarriedOut (u : Nat) (plan : List (Nat × Bool)) (db db' : Db) : Prop where
  orders : ∀ o, (db'.cartProvenance.get? o).map (fun p => (p.cartId, p.state)) =
    (db.cartProvenance.get? o).map fun p => (p.cartId, finalState u plan db o p)
  missing : ∀ k, db.cartItems.get? k = none → db'.cartItems.get? k = none
  rows : ∀ k row, db.cartItems.get? k = some row → db'.cartItems.get? k =
    if row.quantity = takenFrom u plan db k ∧ takenFrom u plan db k ≠ 0 then none
    else some { row with quantity := row.quantity - takenFrom u plan db k }
  allocations : ∀ i, db'.cartAllocations.get? i = (db.cartAllocations.get? i).map fun a =>
    { a with
      cartItemId := a.cartItemId.filter fun k => !goes u plan db k
      visibleQuantity := if settlesOrder u plan db a.orderId then 0 else a.visibleQuantity }
  idle : pendingCartTasks u db' = []

theorem CarriedOut.of_outcome (outcome : cartOutcome db' = forecast u plan db)
    (idle : Idle u db') : CarriedOut u plan db db' where
  orders := by
    intro o
    refine (congrFun (congrArg CartOutcome.states outcome) o).trans ?_
    change (queuedStates plan db o).map _ = _
    rw [queuedStates, Option.map_map]
    rfl
  missing := by
    intro k missing
    refine (congrFun (congrArg CartOutcome.rows outcome) k).trans ?_
    change (db.cartItems.get? k).bind _ = none
    rw [missing, Option.bind_none]
  rows := by
    intro k row found
    refine (congrFun (congrArg CartOutcome.rows outcome) k).trans ?_
    change (db.cartItems.get? k).bind (CartItem.remaining (takenFrom u plan db k)) = _
    rw [found, Option.bind_some, CartItem.remaining]
    by_cases nothing : takenFrom u plan db k = 0
    · simp [nothing]
    · by_cases whole : row.quantity = takenFrom u plan db k <;> simp [nothing, whole]
  allocations := congrFun (congrArg CartOutcome.allocations outcome)
  idle := idle

/-- Whatever the schedule, one plan of queueings ends in one cart: the plan is carried
out on it, and settling it again changes nothing. -/
theorem settlement_commutes (u : Nat) {db : Db} (h : ProvenanceInv db) {plan : List (Nat × Bool)}
    (distinct : (plan.map Prod.fst).Nodup) {first second : List CartEvent}
    (firstCarries : (queueings first).Perm plan) (secondCarries : (queueings second).Perm plan)
    (now now' : Time) :
    ∃ db₁ db₂, runEvents u db (first ++ [.settle now]) = .ok db₁ ∧
      runEvents u db (second ++ [.settle now']) = .ok db₂ ∧
      cartOutcome db₁ = cartOutcome db₂ ∧ CartFrame db db₁ ∧ CarriedOut u plan db db₁ ∧
      (∀ later, settleCartReconciliation u later db₁ = .ok db₁) := by
  obtain ⟨db₁, ran₁, frame, outcome₁, idle⟩ := schedule_comes_to (u := u) h distinct firstCarries now
  obtain ⟨db₂, ran₂, -, outcome₂, -⟩ := schedule_comes_to (u := u) h distinct secondCarries now'
  exact ⟨db₁, db₂, ran₁, ran₂, outcome₁.trans outcome₂.symm, frame, .of_outcome outcome₁ idle,
    idle.settle⟩

/-- The sample cart's three units, spread over two orders. -/
def sharedCart : Db :=
  run (cartStep fun _ => "") sampleCart
    [.createOrder 1 (.single ⟨1, 2, two_units_pos⟩) none 0,
      .createOrder 1 (.single ⟨1, 1, Int.zero_lt_one⟩) none 1]

theorem sharedCart_inv : ProvenanceInv sharedCart :=
  run_invariant (fun _ op h => h.step op) sampleCart_start.inv _

/-- The first order is consumed and the second released: the row loses the two units of
the first, whichever is queued first. -/
theorem settlement_commutes_shared : ∃ db₁ db₂,
    runEvents 1 sharedCart [.queue 1 true, .queue 2 false, .settle 5] = .ok db₁ ∧
      runEvents 1 sharedCart [.queue 2 false, .settle 3, .queue 1 true, .settle 7] = .ok db₂ ∧
      cartOutcome db₁ = cartOutcome db₂ ∧ CartFrame sharedCart db₁ ∧
      CarriedOut 1 [(1, true), (2, false)] sharedCart db₁ ∧
      (∀ later, settleCartReconciliation 1 later db₁ = .ok db₁) ∧
      db₁.cartItems.get? 1 = some ⟨1, 1, 1⟩ ∧
      (db₁.cartProvenance.get? 1).map (fun p => (p.cartId, p.state)) = some (1, .consumed) ∧
      (db₁.cartProvenance.get? 2).map (fun p => (p.cartId, p.state)) = some (1, .released) := by
  have distinct : (([(1, true), (2, false)] : List (Nat × Bool)).map Prod.fst).Nodup := by decide
  have first : (queueings [.queue 1 true, .queue 2 false]).Perm [(1, true), (2, false)] := .refl _
  have second : (queueings [.queue 2 false, .settle 3, .queue 1 true]).Perm
      [(1, true), (2, false)] := List.Perm.swap (1, true) (2, false) []
  obtain ⟨db₁, db₂, ran₁, ran₂, same, frame, carried, again⟩ :=
    settlement_commutes 1 sharedCart_inv distinct first second 5 7
  have row : sharedCart.cartItems.get? 1 = some ⟨1, 1, 3⟩ := by decide +kernel
  have taken : takenFrom 1 [(1, true), (2, false)] sharedCart 1 = 2 := by decide +kernel
  have left := carried.rows 1 _ row
  rw [taken] at left
  refine ⟨db₁, db₂, ran₁, ran₂, same, frame, carried, again, left, ?_, ?_⟩
  · rw [carried.orders]
    decide +kernel
  · rw [carried.orders]
    decide +kernel

end ColorfulLife
