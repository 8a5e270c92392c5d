/-
Calls of `createOrder`, statement by statement.

A call checks its arguments, then reads the customer and looks the key up outside
any transaction, expires elapsed reservations of its listings in transactions of
their own, and opens the transaction that places the order. In it, a call with a
key first waits for the advisory lock of its customer and key, which it holds
until the transaction ends, and looks the key up again. Settling the cart and
placing the order is one step: the cart lock and the row locks of the listings
are held throughout.

Calls are rows of a table, so any number of them, of any customers, can be under
way; every other request of the shop, price changes and changes of the address
book may come between any two statements.
-/

import ColorfulLife.Creation.Terms
import ColorfulLife.Shop.Reservation

namespace ColorfulLife

open Relational

/-! ### Calls -/

/-- The statement a call is at. -/
inductive CreationPhase where
  /-- Before the customer is read. -/
  | started
  /-- Before the key is looked up. -/
  | verified
  /-- The key was not used; before elapsed reservations are searched. -/
  | missed
  | expiring (candidates : List Nat)
  /-- In the transaction, before the advisory lock. -/
  | begun
  /-- With the lock, before the key is looked up again. -/
  | locked
  /-- With the lock; the key was not used. -/
  | cleared
  | returned (created : Bool) (view : OrderView)
  | failed (error : DomainError)
  deriving DecidableEq

/-- The phases in which a call holds its advisory lock. -/
def CreationPhase.holdsLock : CreationPhase → Bool
  | .locked | .cleared => true
  | _ => false

/-- The call has returned or thrown. -/
def CreationPhase.isOver : CreationPhase → Bool
  | .returned .. | .failed _ => true
  | _ => false

structure CreationCall where
  userId : Nat
  input : CreateOrderInput
  key : Option String
  now : Time
  phase : CreationPhase

/-- What a call does after a statement that may throw. -/
def proceed {α : Type} (result : Result α) (next : α → CreationPhase) : CreationPhase :=
  match result with
  | .ok a => next a
  | .error e => .failed e

/-- The checks before the first read. -/
def checkArguments (input : CreateOrderInput) (key : Option String) : Result PUnit := do
  ensure (key.all isIdempotencyKey = true) DomainError.invalidOrderIdempotencyKey
  orReject (firstDuplicate [] (input.items.map RequestLine.productListingId))
    DomainError.duplicateProductListing

/-- The pending orders with an elapsed reservation of a requested listing. -/
def expiredCandidates (input : CreateOrderInput) (now : Time) (db : Db) : List Nat :=
  let requested := input.items.map RequestLine.productListingId
  (db.orders.select fun id order =>
    decide (order.status = .pending) && order.isElapsed now &&
      (db.itemsOf id).any fun item => decide (item.2.productListingId ∈ requested)).map Prod.fst

namespace CreationCall

variable (digest : CanonicalRequest → String) (call : CreationCall)

/-- The lookup of the key; a call that finds its order returns it. -/
def lookup (db : Db) (unused : CreationPhase) : CreationPhase :=
  proceed (replayedOrder digest call.userId call.input call.key db) fun found =>
    found.elim unused fun orderId => .returned false (db.viewOrder orderId)

/-- The rest of the transaction. -/
def place (db : Db) : Result (Db × Nat) := do
  let db ← settleCartReconciliation call.userId call.now db
  placeOrder digest call.userId call.input call.key call.now db

/-- The next statement; none when the call is over or waits for the lock. -/
def next (lockFree : Bool) (db : Db) : Option (Db × CreationPhase) :=
  match call.phase with
  | .started => some (db, proceed (verifiedUser call.userId db) fun _ => .verified)
  | .verified => some (db, call.lookup digest db .missed)
  | .missed => some (db, .expiring (expiredCandidates call.input call.now db))
  | .expiring (orderId :: candidates) =>
      match expireOrderReservation orderId call.now db with
      | .ok db' => some (db', .expiring candidates)
      | .error e => some (db, .failed e)
  | .expiring [] => some (db, proceed (verifiedUser call.userId db) fun _ => .begun)
  | .begun => if lockFree then some (db, .locked) else none
  | .locked => some (db, call.lookup digest db .cleared)
  | .cleared =>
      match call.place digest db with
      | .ok (db', orderId) => some (db', .returned true (db'.viewOrder orderId))
      | .error e => some (db, .failed e)
  | .returned .. | .failed _ => none

end CreationCall

/-! ### The machine -/

structure CreationState where
  db : Db
  calls : Table CreationCall

inductive CreationOp where
  | call (userId : Nat) (input : CreateOrderInput) (key : Option String) (now : Time)
  | advance (callId : Nat)
  | shop (op : ShopOp)
  | price (listingId : Nat) (originalPrice : Pence) (salePrice : Option Pence)
  | addresses (addresses : Table Address)

/-- `pg_advisory_xact_lock` does not wait: no other call of the customer with the
key is past it. -/
def CreationState.lockFree (s : CreationState) (call : CreationCall) : Bool :=
  decide (call.key = none) ||
    (s.calls.find? fun _ c =>
      decide (c.userId = call.userId ∧ c.key = call.key) && c.phase.holdsLock).isNone

/-- A call goes on to `phase` and leaves the database `db`. -/
def CreationState.move (s : CreationState) (callId : Nat) (db : Db) (phase : CreationPhase) :
    CreationState where
  db := db
  calls := s.calls.update callId fun c => { c with phase := phase }

def ProductListing.price (originalPrice : Pence) (salePrice : Option Pence)
    (listing : ProductListing) : ProductListing :=
  { listing with originalPrice := originalPrice, salePrice := salePrice }

section

variable (digest : CanonicalRequest → String)

/-- Creations are calls; `shop` is for the other requests. -/
def creationStep (s : CreationState) : CreationOp → CreationState
  | .call userId input key now =>
      let phase := proceed (checkArguments input key) fun _ => .started
      { s with calls := s.calls.insert ⟨userId, input, key, now, phase⟩ }
  | .advance callId =>
      match s.calls.get? callId with
      | none => s
      | some call =>
          match call.next digest (s.lockFree call) s.db with
          | none => s
          | some (db, phase) => s.move callId db phase
  | .shop op => if op.creates then s else { s with db := shopStep digest s.db op }
  | .price listingId originalPrice salePrice =>
      { s with db := { s.db with
          listings := s.db.listings.update listingId (·.price originalPrice salePrice) } }
  | .addresses addresses => { s with db := { s.db with addresses := addresses } }

end

/-- A shop before its first order, nobody ordering yet. -/
structure FreshCreation (s : CreationState) : Prop where
  shop : FreshShop s.db
  calls : ∀ i, s.calls.get? i = none

/-! ### What a step does -/

section Steps

variable {digest : CanonicalRequest → String} {s : CreationState} {i : Nat} {call : CreationCall}

theorem get?_move_self (found : s.calls.get? i = some call) (db : Db) (phase : CreationPhase) :
    (s.move i db phase).calls.get? i = some { call with phase := phase } := by
  rw [CreationState.move, Table.get?_update, if_pos rfl, found]
  rfl

/-- A call takes its next statement. -/
theorem advance_next {db : Db} {phase : CreationPhase} (found : s.calls.get? i = some call)
    (next : call.next digest (s.lockFree call) s.db = some (db, phase)) :
    creationStep digest s (.advance i) = s.move i db phase := by
  simp only [creationStep, found, next]

theorem advance_none (found : s.calls.get? i = some call)
    (next : call.next digest (s.lockFree call) s.db = none) :
    creationStep digest s (.advance i) = s := by
  simp only [creationStep, found, next]

/-- An advance takes a call's next statement or does nothing. -/
theorem advance_cases (digest : CanonicalRequest → String) (s : CreationState) (i : Nat) :
    creationStep digest s (.advance i) = s ∨
      ∃ call db phase, s.calls.get? i = some call ∧
        call.next digest (s.lockFree call) s.db = some (db, phase) ∧
        creationStep digest s (.advance i) = s.move i db phase := by
  cases found : s.calls.get? i with
  | none => exact Or.inl (by simp only [creationStep, found])
  | some call =>
      cases next : call.next digest (s.lockFree call) s.db with
      | none => exact Or.inl (advance_none found next)
      | some result =>
          obtain ⟨db, phase⟩ := result
          exact Or.inr ⟨call, db, phase, rfl, next, advance_next found next⟩

/-- The lock is free when nobody is past it. -/
theorem lockFree_eq_true {key : String} (hkey : call.key = some key) :
    s.lockFree call = true ↔ ∀ i c, s.calls.get? i = some c → c.userId = call.userId →
      c.key = some key → c.phase.holdsLock = false := by
  rw [CreationState.lockFree, hkey, Bool.or_eq_true, Option.isNone_iff_eq_none,
    Table.find?_eq_none]
  simp

end Steps

/-! ### A transaction on its own -/

section Alone

variable {digest : CanonicalRequest → String} {s : CreationState} {i : Nat} {call : CreationCall}

/-- A call that is over stays as it is. -/
theorem run_over (found : s.calls.get? i = some call) (ended : call.phase.isOver = true) (n : Nat) :
    run (creationStep digest) s (List.replicate n (.advance i)) = s := by
  have next : call.next digest (s.lockFree call) s.db = none := by
    rw [CreationCall.next]
    cases phase : call.phase <;> simp_all [CreationPhase.isOver]
  induction n with
  | zero => rfl
  | succ n ih => rw [List.replicate_succ, run_cons, advance_none found next, ih]

/-- Nobody else holds the lock after a statement before it. -/
theorem lockFree_move (free : s.lockFree call = true) (db : Db) {phase : CreationPhase}
    (before : phase.holdsLock = false) :
    (s.move i db phase).lockFree { call with phase := phase } = true := by
  cases hkey : call.key with
  | none => simp [CreationState.lockFree]
  | some key =>
      refine (lockFree_eq_true rfl).mpr fun j c hc user same => ?_
      rw [CreationState.move, Table.get?_update] at hc
      split at hc
      · obtain ⟨c, -, rfl⟩ := Option.map_eq_some_iff.mp hc
        exact before
      · exact (lockFree_eq_true hkey).mp free j c hc user same

/-- The step that places the order. -/
theorem place_alone (found : s.calls.get? i = some { call with phase := .cleared }) :
    (run (creationStep digest) s (List.replicate 1 (.advance i))).db =
      commit ((call.place digest s.db).map Prod.fst) s.db := by
  have next : ∀ free, CreationCall.next digest { call with phase := .cleared } free s.db =
      match call.place digest s.db with
      | .ok (db', orderId) => some (db', .returned true (db'.viewOrder orderId))
      | .error e => some (s.db, .failed e) := fun _ => rfl
  rw [List.replicate_one, run_cons, run_nil]
  cases placed : call.place digest s.db with
  | error e =>
      rw [placed] at next
      rw [advance_next found (next _)]
      rfl
  | ok result =>
      rw [placed] at next
      rw [advance_next found (next _)]
      rfl

/-- The two statements under the lock. -/
theorem lookup_alone (found : s.calls.get? i = some { call with phase := .locked }) :
    (run (creationStep digest) s (List.replicate 2 (.advance i))).db =
      commit ((do
        match ← replayedOrder digest call.userId call.input call.key s.db with
        | some orderId => return (s.db, orderId)
        | none => call.place digest s.db : Result (Db × Nat)).map Prod.fst) s.db := by
  have next : ∀ free, CreationCall.next digest { call with phase := .locked } free s.db =
      some (s.db, call.lookup digest s.db .cleared) := fun _ => rfl
  have looked := get?_move_self found s.db (call.lookup digest s.db .cleared)
  rw [List.replicate_succ, run_cons, advance_next found (next _)]
  rw [CreationCall.lookup] at looked ⊢
  cases replay : replayedOrder digest call.userId call.input call.key s.db with
  | error e =>
      rw [replay] at looked
      rw [run_over looked rfl]
      rfl
  | ok existing =>
      rw [replay] at looked
      cases existing with
      | some orderId =>
          rw [run_over looked rfl]
          rfl
      | none => exact place_alone looked

/-- The four statements of the transaction, undisturbed, commit what
`createOrderTransaction` commits. -/
theorem transaction_alone (found : s.calls.get? i = some call)
    (opens : call.phase = .expiring []) (free : s.lockFree call = true) :
    (run (creationStep digest) s (List.replicate 4 (.advance i))).db =
      commit ((createOrderTransaction digest call.userId call.input call.key call.now s.db).map
        Prod.fst) s.db := by
  have first : call.next digest (s.lockFree call) s.db =
      some (s.db, proceed (verifiedUser call.userId s.db) fun _ => .begun) := by
    rw [CreationCall.next, opens]
  have read := get?_move_self found s.db (proceed (verifiedUser call.userId s.db) fun _ => .begun)
  rw [List.replicate_succ, run_cons, advance_next found first, createOrderTransaction]
  cases verified : verifiedUser call.userId s.db with
  | error e =>
      rw [verified] at read
      rw [run_over read rfl]
      rfl
  | ok _ =>
      rw [verified] at read
      have unlocked : (s.move i s.db .begun).lockFree { call with phase := .begun } = true :=
        lockFree_move free s.db rfl
      have second : CreationCall.next digest { call with phase := .begun }
          ((s.move i s.db .begun).lockFree { call with phase := .begun }) s.db =
            some (s.db, .locked) := by
        rw [unlocked]
        rfl
      rw [List.replicate_succ, run_cons]
      have waited := congrArg
        (fun s => (run (creationStep digest) s (List.replicate 2 (.advance i))).db)
        (advance_next read second)
      exact waited.trans (lookup_alone (get?_move_self read s.db .locked))

end Alone

end ColorfulLife
