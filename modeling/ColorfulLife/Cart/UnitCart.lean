/-
The cart as the customer means it: single units of a listing, each free or
standing for one order.

An order that has ended waits for its settlement; until then its units are still
there. A settlement asks only how the order ended. Nothing here knows of rows,
provenances or allocations.
-/

import ColorfulLife.Labelled.Pool
import ColorfulLife.Relational.Run

namespace ColorfulLife

open Relational Labelled

/-- How an order has ended. -/
inductive Fate where
  | undecided
  | confirmed
  | released
  deriving DecidableEq, Repr

/-- The units of each customer and listing, labelled with orders. -/
structure UnitCart where
  units : Nat → Nat → Pool Nat
  fate : Nat → Fate

inductive UnitOp where
  | add (userId productListingId quantity : Nat)
  | claim (userId orderId : Nat) (lines : List (Nat × Nat))
  | resize (userId productListingId quantity : Nat)
  | remove (userId productListingId : Nat)
  | clear (userId : Nat)
  | confirm (orderId : Nat)
  | release (orderId : Nat)
  | settle (orderId : Nat)
  deriving DecidableEq, Repr

namespace UnitCart

/-- Other units of one listing in one cart. -/
def put (s : UnitCart) (userId productListingId : Nat) (units : Pool Nat) : UnitCart :=
  { s with units := fun u l =>
      if u = userId ∧ l = productListingId then units else s.units u l }

/-- Every line for which there are units has enough free ones. -/
def admits (s : UnitCart) (userId : Nat) (lines : List (Nat × Nat)) : Bool :=
  lines.all fun line =>
    decide (s.units userId line.1 = [] ∨ line.2 ≤ (s.units userId line.1).free)

/-- The order ends, if it has not yet. -/
def decideFate (s : UnitCart) (orderId : Nat) (fate : Fate) : UnitCart :=
  { s with fate := fun o =>
      if o = orderId ∧ s.fate o = .undecided then fate else s.fate o }

end UnitCart

def unitStep (s : UnitCart) : UnitOp → UnitCart
  | .add userId listing n => s.put userId listing ((s.units userId listing).add n)
  | .claim userId orderId lines =>
      if s.admits userId lines then
        { units := fun u l =>
            if u = userId then
              (lines.lookup l).elim (s.units u l) fun n => (s.units u l).claim orderId n
            else s.units u l
          fate := fun o => if o = orderId then .undecided else s.fate o }
      else s
  | .resize userId listing n => s.put userId listing ((s.units userId listing).resize n)
  | .remove userId listing => s.put userId listing []
  | .clear userId => { s with units := fun u l => if u = userId then [] else s.units u l }
  | .confirm orderId => s.decideFate orderId .confirmed
  | .release orderId => s.decideFate orderId .released
  | .settle orderId =>
      match s.fate orderId with
      | .undecided => s
      | .confirmed => { s with units := fun u l => (s.units u l).consume orderId }
      | .released => { s with units := fun u l => (s.units u l).release orderId }

/-- Only its own claim gives an order units. -/
theorem owned_unitStep_le (s : UnitCart) {op : UnitOp} {o : Nat}
    (unclaimed : ∀ userId lines, op ≠ .claim userId o lines) (u l : Nat) :
    ((unitStep s op).units u l).owned o ≤ (s.units u l).owned o := by
  cases op with
  | add userId listing n =>
      simp only [unitStep, UnitCart.put]
      split
      · rename_i same
        obtain ⟨rfl, rfl⟩ := same
        simp
      · exact le_rfl
  | claim userId orderId lines =>
      have other : o ≠ orderId := fun same => unclaimed userId lines (by rw [same])
      simp only [unitStep]
      split
      · dsimp only
        split
        · cases lines.lookup l with
          | none => exact le_rfl
          | some n => exact le_of_eq (Pool.owned_claim_of_ne _ other n)
        · exact le_rfl
      · exact le_rfl
  | resize userId listing n =>
      simp only [unitStep, UnitCart.put]
      split
      · rename_i same
        obtain ⟨rfl, rfl⟩ := same
        exact Pool.owned_resize_le _ n o
      · exact le_rfl
  | remove userId listing =>
      simp only [unitStep, UnitCart.put]
      split
      · exact Nat.zero_le _
      · exact le_rfl
  | clear userId =>
      simp only [unitStep]
      split
      · exact Nat.zero_le _
      · exact le_rfl
  | confirm orderId => exact le_rfl
  | release orderId => exact le_rfl
  | settle orderId =>
      simp only [unitStep]
      split
      · exact le_rfl
      · by_cases own : o = orderId
        · simp [own]
        · exact le_of_eq (Pool.owned_consume_of_ne _ own)
      · by_cases own : o = orderId
        · simp [own]
        · exact le_of_eq (Pool.owned_release_of_ne _ own)

end ColorfulLife
