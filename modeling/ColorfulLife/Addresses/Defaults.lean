/-
The default addresses of an address book.

A step is one request whole: every mutation of a user's addresses holds the lock
of the user's row. The two roles, default for shipping and default for billing,
are two views of one table; each transaction makes on either view one of the
moves that keep the role with one member.
-/

import ColorfulLife.Addresses.Book
import ColorfulLife.Creation.Placement
import ColorfulLife.Relational.Role
import ColorfulLife.Relational.Run

namespace ColorfulLife

open Relational

/-! ### The machine -/

inductive AddressOp where
  | createAddress (userId : Nat) (body : CreateAddressData)
  | updateAddress (userId addressId : Nat) (body : PatchAddressData)
  | deleteAddress (userId addressId : Nat)

/-- What a request leaves in the table, and why it was rejected if it was;
`userExists` says who has a row in `User`. -/
def AddressOp.handle (userExists : Nat → Bool) (addresses : Table Address) :
    AddressOp → Table Address × Option AddressRejection
  | .createAddress userId body => postAddress (userExists userId) userId body addresses
  | .updateAddress userId addressId body => patchAddress userId addressId body addresses
  | .deleteAddress userId addressId => removeAddress userId addressId addresses

def addressStep (userExists : Nat → Bool) (addresses : Table Address) (op : AddressOp) :
    Table Address :=
  (op.handle userExists addresses).1

theorem AddressOp.handle_rejected {userExists : Nat → Bool} {addresses : Table Address}
    {op : AddressOp} {rejection : AddressRejection}
    (h : (op.handle userExists addresses).2 = some rejection) :
    addressStep userExists addresses op = addresses := by
  cases op with
  | createAddress => exact postAddress_rejected h
  | updateAddress => exact patchAddress_rejected h
  | deleteAddress => exact removeAddress_rejected h

/-! ### The roles of the rows -/

section Views

variable {role : Address → Bool} {unset : Address → Address} {addresses : Table Address}
  {userId : Nat}

/-- Clearing a role takes it from the user's addresses. -/
theorem clearDefault_view (own : ∀ a, (unset a).userId = a.userId)
    (off : ∀ a, role (unset a) = false) (asked : Bool) :
    (clearDefault role unset asked userId addresses).roleView Address.userId role =
      if asked then (addresses.roleView Address.userId role).clear userId
      else addresses.roleView Address.userId role := by
  funext k
  rw [Table.roleView, get?_clearDefault]
  cases asked with
  | false => simp [Table.roleView]
  | true =>
      simp only [true_and, if_true, RoleView.clear, Table.roleView]
      cases addresses.get? k with
      | none => rfl
      | some a =>
          simp only [Option.map_some]
          by_cases mine : a.userId = userId <;> cases flag : role a <;> simp [mine, flag, own, off]

/-- Clearing one role leaves the other. -/
theorem clearDefault_view_other {other : Address → Bool} (own : ∀ a, (unset a).userId = a.userId)
    (kept : ∀ a, other (unset a) = other a) (asked : Bool) :
    (clearDefault role unset asked userId addresses).roleView Address.userId other =
      addresses.roleView Address.userId other := by
  funext k
  rw [Table.roleView, get?_clearDefault, Table.roleView]
  cases addresses.get? k with
  | none => rfl
  | some a =>
      simp only [Option.map_some]
      split <;> simp [own, kept]

/-- The table in which the roles that are asked for have been cleared. -/
abbrev cleared (shipping billing : Bool) (userId : Nat) (addresses : Table Address) :
    Table Address :=
  clearBillingDefault billing userId (clearShippingDefault shipping userId addresses)

theorem cleared_view_shipping (shipping billing : Bool) :
    (cleared shipping billing userId addresses).roleView Address.userId Address.isDefault =
      if shipping then (addresses.roleView Address.userId Address.isDefault).clear userId
      else addresses.roleView Address.userId Address.isDefault := by
  rw [cleared, clearBillingDefault,
    clearDefault_view_other Address.unsetBilling_userId (fun _ => rfl), clearShippingDefault,
    clearDefault_view Address.unsetShipping_userId (fun _ => rfl)]

theorem cleared_view_billing (shipping billing : Bool) :
    (cleared shipping billing userId addresses).roleView Address.userId Address.isDefaultBilling =
      if billing then (addresses.roleView Address.userId Address.isDefaultBilling).clear userId
      else addresses.roleView Address.userId Address.isDefaultBilling := by
  rw [cleared, clearBillingDefault, clearDefault_view Address.unsetBilling_userId (fun _ => rfl),
    clearShippingDefault, clearDefault_view_other Address.unsetShipping_userId (fun _ => rfl)]

/-- Clearing leaves a row with its user and its other role, and with the role
that is not asked for. -/
theorem clearDefault_row {other : Address → Bool} (own : ∀ a, (unset a).userId = a.userId)
    (kept : ∀ a, other (unset a) = other a) (asked : Bool) (userId : Nat) {k : Nat} {a : Address}
    (found : addresses.get? k = some a) :
    ∃ a', (clearDefault role unset asked userId addresses).get? k = some a' ∧
      a'.userId = a.userId ∧ (asked || role a') = (asked || role a) ∧ other a' = other a := by
  rw [get?_clearDefault, found]
  cases asked with
  | false => exact ⟨a, by simp⟩
  | true =>
      by_cases on : a.userId = userId ∧ role a = true
      · exact ⟨unset a, by simp [on], own a, rfl, kept a⟩
      · exact ⟨a, by simp [on], rfl, rfl, rfl⟩

theorem cleared_row (shipping billing : Bool) (userId : Nat) {k : Nat} {a : Address}
    (found : addresses.get? k = some a) : ∃ a', (cleared shipping billing userId addresses).get? k =
      some a' ∧ a'.userId = a.userId ∧ (shipping || a'.isDefault) = (shipping || a.isDefault) ∧
      (billing || a'.isDefaultBilling) = (billing || a.isDefaultBilling) := by
  have keptBilling : ∀ a : Address, a.unsetShipping.isDefaultBilling = a.isDefaultBilling :=
    fun _ => rfl
  have keptShipping : ∀ a : Address, a.unsetBilling.isDefault = a.isDefault := fun _ => rfl
  obtain ⟨a₁, found₁, own₁, shipping₁, billing₁⟩ :=
    clearDefault_row Address.unsetShipping_userId keptBilling shipping userId found
  obtain ⟨a₂, found₂, own₂, billing₂, shipping₂⟩ :=
    clearDefault_row Address.unsetBilling_userId keptShipping billing userId found₁
  exact ⟨a₂, found₂, own₂.trans own₁, by rw [shipping₂, shipping₁], by rw [billing₂, billing₁]⟩

end Views

/-! ### The invariant -/

/-- A user with addresses has one default for shipping and one for billing. -/
structure BookInv (addresses : Table Address) (userId : Nat) : Prop where
  shipping : (addresses.roleView Address.userId Address.isDefault).Sole userId
  billing : (addresses.roleView Address.userId Address.isDefaultBilling).Sole userId

namespace BookInv

variable {addresses addresses' : Table Address} {userId owner addressId : Nat}

/-- A row's place in a view. -/
theorem member {k : Nat} {a : Address} (role : Address → Bool) (found : addresses.get? k = some a)
    (own : a.userId = owner) :
    addresses.roleView Address.userId role k = some (owner, role a) :=
  Table.roleView_eq_some.mpr ⟨a, found, own, rfl⟩

theorem of_empty (empty : ∀ k a, addresses.get? k = some a → a.userId ≠ userId) :
    BookInv addresses userId := by
  have nobody : ∀ (role : Address → Bool) k b,
      addresses.roleView Address.userId role k ≠ some (userId, b) := by
    intro role k b member
    obtain ⟨a, found, own, -⟩ := Table.roleView_eq_some.mp member
    exact empty k a found own
  exact ⟨RoleView.sole_of_empty (nobody _), RoleView.sole_of_empty (nobody _)⟩

theorem create (h : BookInv addresses userId) {userExists : Bool} {data : CreateAddressData}
    (created : createAddress userExists owner data addresses = .ok addresses') :
    BookInv addresses' userId := by
  obtain ⟨shipping, billing, others, others', -, rfl⟩ := createAddress_ok created
  have some_member : ∀ role : Address → Bool,
      (∃ k a, addresses.get? k = some a ∧ a.userId = owner) →
        ∃ j b, addresses.roleView Address.userId role j = some (owner, b) := by
    rintro role ⟨k, a, found, own⟩
    exact ⟨k, role a, member role found own⟩
  have key : (cleared shipping billing owner addresses).nextId = addresses.nextId := by
    rw [cleared, clearBillingDefault, clearDefault_nextId, clearShippingDefault,
      clearDefault_nextId]
  have new : ∀ role : Address → Bool,
      addresses.roleView Address.userId role addresses.nextId = none := by
    intro role
    simp [Table.roleView]
  constructor
  · rw [Table.roleView_insert, key, cleared_view_shipping]
    exact h.shipping.join (new _) fun unset => some_member _ (others unset)
  · rw [Table.roleView_insert, key, cleared_view_billing]
    exact h.billing.join (new _) fun unset => some_member _ (others' unset)

theorem update (h : BookInv addresses userId) (data : PatchAddressData) :
    BookInv (updateAddress owner addressId data addresses).1 userId := by
  rcases updateAddress_cases owner addressId data addresses with ⟨_, kept⟩ | ⟨address, found, done⟩
  · rw [kept]
    exact h
  · obtain ⟨found, own⟩ := ownAddress_eq_some found
    rw [done]
    obtain ⟨a, there, own', shipping, billing⟩ := cleared_row
      (data.isDefaultShipping = some true) (data.isDefaultBilling = some true) owner found
    constructor
    · rw [Table.roleView_update there, cleared_view_shipping]
      have role : (data.apply a).isDefault =
          (decide (data.isDefaultShipping = some true) || address.isDefault) := by
        rw [← shipping]
        by_cases asked : data.isDefaultShipping = some true <;> simp [PatchAddressData.apply, asked]
      rw [show (data.apply a).userId = owner from own'.trans own, role]
      exact h.shipping.amend (member _ found own)
    · rw [Table.roleView_update there, cleared_view_billing]
      have role : (data.apply a).isDefaultBilling =
          (decide (data.isDefaultBilling = some true) || address.isDefaultBilling) := by
        rw [← billing]
        by_cases asked : data.isDefaultBilling = some true <;> simp [PatchAddressData.apply, asked]
      rw [show (data.apply a).userId = owner from own'.trans own, role]
      exact h.billing.amend (member _ found own)

theorem delete (h : BookInv addresses userId) :
    BookInv (deleteAddress owner addressId addresses).1 userId := by
  rcases deleteAddress_cases owner addressId addresses with
    kept | ⟨address, found, ⟨last, done⟩ | ⟨promote, next, done⟩⟩
  · rw [kept]
    exact h
  · obtain ⟨found, own⟩ := ownAddress_eq_some found
    have only : ∀ (role : Address → Bool) j c,
        addresses.roleView Address.userId role j = some (owner, c) → j = addressId := by
      intro role j c hj
      obtain ⟨a, there, own', -⟩ := Table.roleView_eq_some.mp hj
      exact successor_eq_none last there own'
    rw [done]
    constructor
    · rw [Table.roleView_erase]
      exact h.shipping.dissolve (member _ found own) (only _)
    · rw [Table.roleView_erase]
      exact h.billing.dissolve (member _ found own) (only _)
  · obtain ⟨found, own⟩ := ownAddress_eq_some found
    obtain ⟨heir, there, own', other⟩ := successor_eq_some next
    rw [done]
    constructor
    · rw [Table.roleView_erase, Table.roleView_update there,
        show (address.promote heir).userId = owner from own']
      exact h.shipping.succeed (member _ found own) other (member _ there own')
    · rw [Table.roleView_erase, Table.roleView_update there,
        show (address.promote heir).userId = owner from own']
      exact h.billing.succeed (member _ found own) other (member _ there own')

theorem step (h : BookInv addresses userId) (userExists : Nat → Bool) (op : AddressOp) :
    BookInv (addressStep userExists addresses op) userId := by
  cases op with
  | createAddress owner body =>
      unfold addressStep AddressOp.handle postAddress
      dsimp only
      split
      · exact h
      · rename_i created
        obtain ⟨data, -, created⟩ := bind_eq_ok.mp created
        exact h.create created
  | updateAddress owner addressId body =>
      unfold addressStep AddressOp.handle patchAddress
      dsimp only
      split_ifs
      · exact h
      · split
        · exact h
        · exact h.update _
  | deleteAddress owner addressId =>
      unfold addressStep AddressOp.handle removeAddress
      dsimp only
      split_ifs
      · exact h
      · exact h.delete

end BookInv

/-! ### What the roles are for -/

/-- One default for shipping and one for billing, as soon as there is an address. -/
def OneDefaultEach (addresses : Table Address) (userId : Nat) : Prop :=
  (∃ k a, addresses.get? k = some a ∧ a.userId = userId) →
    (addresses.select fun _ a => decide (a.userId = userId ∧ a.isDefault = true)).length = 1 ∧
    (addresses.select fun _ a => decide (a.userId = userId ∧ a.isDefaultBilling = true)).length = 1

theorem BookInv.oneDefaultEach {addresses : Table Address} {userId : Nat}
    (h : BookInv addresses userId) : OneDefaultEach addresses userId := by
  rintro ⟨k, a, found, own⟩
  exact ⟨Table.length_select_of_sole h.shipping found own,
    Table.length_select_of_sole h.billing found own⟩

section Orders

variable {digest : CanonicalRequest → String} {userId : Nat} {input : CreateOrderInput}
  {key : Option String} {now : Time} {db : Db} {e : DomainError}

/-- An order fails for its billing address only when the address book has none,
or several. -/
theorem createOrder_billing_error
    (thrown : createOrder digest userId input key now db = .error e)
    (billing : e = .noDefaultBillingAddress ∨ e = .multipleDefaultBillingAddresses) :
    billingAddress userId db = .error e := by
  have foreign : ¬ PlacementError e := by
    rcases billing with rfl | rfl <;> exact nofun
  simp only [createOrder, createOrderTransaction, bind_eq_error, ensure_eq_error,
    orReject_eq_error, verifiedUser, orThrow_eq_error] at thrown
  rcases thrown with ⟨-, rfl⟩ | ⟨-, -, ⟨_, -, rfl⟩ | ⟨-, -, (⟨-, rfl⟩ | ⟨_, -, -, rfl⟩) |
    ⟨-, -, replay | ⟨existing, -, thrown⟩⟩⟩⟩
  · rcases billing with h | h <;> cases h
  · rcases billing with h | h <;> cases h
  · rcases billing with h | h <;> cases h
  · rcases billing with h | h <;> cases h
  · obtain rfl := replayedOrder_error replay
    rcases billing with h | h <;> cases h
  · split at thrown
    · cases thrown
    · rcases bind_eq_error.mp thrown with settling | ⟨settled, settles, placing⟩
      · exact absurd (settle_error settling) foreign
      · rcases placeOrder_error placing with own | own
        · obtain ⟨cartItems, cartProvenance, cartAllocations, rfl⟩ :=
            (settleCartReconciliation_frame settles).fields
          exact own
        · exact absurd own foreign

theorem BookInv.billingAddress (h : BookInv db.addresses userId)
    (thrown : billingAddress userId db = .error e) :
    e = .noDefaultBillingAddress ∧ ∀ k a, db.addresses.get? k = some a → a.userId ≠ userId := by
  by_cases members : ∃ k a, db.addresses.get? k = some a ∧ a.userId = userId
  · obtain ⟨-, one⟩ := h.oneDefaultEach members
    obtain ⟨x, single⟩ := List.length_eq_one_iff.mp one
    simp only [ColorfulLife.billingAddress, single] at thrown
    cases thrown
  · have none_ : ∀ k a, db.addresses.get? k = some a → a.userId ≠ userId :=
      fun k a found own => members ⟨k, a, found, own⟩
    refine ⟨?_, none_⟩
    have empty : (db.addresses.select fun _ a => decide (a.userId = userId ∧ a.isDefaultBilling)) =
        [] := by
      rw [List.eq_nil_iff_forall_not_mem]
      rintro ⟨k, a⟩ mem
      obtain ⟨found, passes⟩ := Table.mem_select.mp mem
      exact none_ k a found (of_decide_eq_true passes).1
    simp only [ColorfulLife.billingAddress, empty] at thrown
    exact (Except.error.inj thrown).symm

end Orders

/-! ### Runs -/

/-- Whatever the requests on the address books: a user who started with an empty
one has one default of each kind as soon as there is an address, a rejected
request changes nothing, and an order is never refused for several billing
addresses, and for want of one only when the book is empty. -/
theorem default_addresses (userExists : Nat → Bool) {addresses : Table Address} {userId : Nat}
    (empty : ∀ k a, addresses.get? k = some a → a.userId ≠ userId) (ops : List AddressOp) :
    (∀ xs, xs <+: ops → OneDefaultEach (run (addressStep userExists) addresses xs) userId) ∧
    (∀ t ∈ transitions (addressStep userExists) addresses ops, ∀ rejection,
      (t.2.handle userExists t.1).2 = some rejection → addressStep userExists t.1 t.2 = t.1) ∧
    ∀ xs, xs <+: ops → ∀ db : Db, db.addresses = run (addressStep userExists) addresses xs →
      ∀ digest input key now e, createOrder digest userId input key now db = .error e →
        e ≠ .multipleDefaultBillingAddresses ∧ (e = .noDefaultBillingAddress →
          ∀ k a, db.addresses.get? k = some a → a.userId ≠ userId) := by
  have inv : ∀ xs, BookInv (run (addressStep userExists) addresses xs) userId :=
    run_invariant (I := fun t => BookInv t userId) (fun _ op h => h.step userExists op)
      (BookInv.of_empty empty)
  refine ⟨fun xs _ => (inv xs).oneDefaultEach, fun t _ rejection rejected => ?_,
    fun xs _ db same digest input key now e thrown => ⟨?_, ?_⟩⟩
  · exact AddressOp.handle_rejected rejected
  · rintro rfl
    have book : BookInv db.addresses userId := same ▸ inv xs
    exact nomatch (book.billingAddress (createOrder_billing_error thrown (Or.inr rfl))).1
  · rintro rfl
    have book : BookInv db.addresses userId := same ▸ inv xs
    exact (book.billingAddress (createOrder_billing_error thrown (Or.inl rfl))).2

/-- A body without flags. -/
def plainAddress (line1 : String) : CreateAddressData :=
  ⟨"Ada", line1, "London", "N1 1AA", "GB", none, none, none, none⟩

/-- Two addresses; billing moves to the second, and the first is deleted. -/
def sampleBook : List AddressOp :=
  [.createAddress 1 (plainAddress "1 High Street"),
    .createAddress 1 { plainAddress "2 High Street" with isDefaultBilling := some true },
    .updateAddress 1 1 ⟨none, none, none, none, none, none, none, some false, none⟩,
    .deleteAddress 1 1]

theorem default_addresses_sample :
    ((run (addressStep fun _ => true) .empty sampleBook).entries.map fun e =>
      (e.1, e.2.isDefault, e.2.isDefaultBilling)) = [(2, true, true)] ∧
    OneDefaultEach (run (addressStep fun _ => true) .empty sampleBook) 1 := by
  have empty : ∀ k a, (Table.empty : Table Address).get? k = some a → a.userId ≠ 1 := nofun
  exact ⟨by decide, (default_addresses (fun _ => true) empty sampleBook).1 _ List.prefix_rfl⟩

end ColorfulLife
