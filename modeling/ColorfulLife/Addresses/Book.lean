/-
The address book (`controllers/addressController.ts`).

Each definition is the body of one transaction, under the lock of the owner's
row. A transaction that returns a rejection still commits what it wrote before,
so an outcome is returned beside the rows and is not an exception.
-/

import ColorfulLife.Relational.Transaction
import ColorfulLife.Schema.Database

namespace ColorfulLife

open Relational

/-! ### Requests -/

/-- The body of `POST /users/me/addresses`. -/
structure CreateAddressData where
  recipientName : String
  line1 : String
  city : String
  postcode : String
  country : String
  line2 : Option String
  phone : Option String
  isDefaultShipping : Option Bool
  isDefaultBilling : Option Bool
  deriving DecidableEq, Repr

/-- The body of `PATCH /users/me/addresses/:addressId`. Where the inner option is
empty the field was sent as null. -/
structure PatchAddressData where
  recipientName : Option String
  line1 : Option String
  city : Option String
  postcode : Option String
  country : Option String
  line2 : Option (Option String)
  phone : Option (Option String)
  isDefaultShipping : Option Bool
  isDefaultBilling : Option Bool
  deriving DecidableEq, Repr

inductive AddressRejection where
  /-- 400, with the issues of the schema. -/
  | invalidBody
  /-- 400 "Invalid address id" -/
  | invalidAddressId
  /-- 404 "Address not found" -/
  | addressNotFound
  /-- 400 "Cannot directly unset the default shipping address" -/
  | cannotUnsetShippingDefault
  /-- 400 "Cannot directly unset the default billing address" -/
  | cannotUnsetBillingDefault
  /-- 500 "Internal server error": there is no such user to connect to. -/
  | internalServerError
  deriving DecidableEq, Repr

/-- `z.string().trim().min(1)`. -/
def requiredText (text : String) : Except AddressRejection String := do
  ensure (trim text ≠ "") AddressRejection.invalidBody
  return trim text

/-- A field that may be missing. -/
def optionalText (text : Option String) : Except AddressRejection (Option String) :=
  match text with
  | none => .ok none
  | some text => do return some (← requiredText text)

/-- `CreateAddressSchema`. -/
def CreateAddressData.parse (body : CreateAddressData) :
    Except AddressRejection CreateAddressData := do
  return { body with
    recipientName := ← requiredText body.recipientName
    line1 := ← requiredText body.line1
    city := ← requiredText body.city
    postcode := ← requiredText body.postcode
    country := ← requiredText body.country
    line2 := body.line2.map trim
    phone := body.phone.map trim }

/-- `PatchAddressSchema`; a body without a field is refused. -/
def PatchAddressData.parse (body : PatchAddressData) :
    Except AddressRejection PatchAddressData := do
  let data : PatchAddressData := { body with
    recipientName := ← optionalText body.recipientName
    line1 := ← optionalText body.line1
    city := ← optionalText body.city
    postcode := ← optionalText body.postcode
    country := ← optionalText body.country
    line2 := body.line2.map (Option.map trim)
    phone := body.phone.map (Option.map trim) }
  ensure (data ≠ ⟨none, none, none, none, none, none, none, none, none⟩)
    AddressRejection.invalidBody
  return data

/-! ### The default roles -/

/-- The `updateMany` that takes a default role from the user's addresses, when
the role is asked for. -/
def clearDefault (role : Address → Bool) (unset : Address → Address) (asked : Bool) (userId : Nat)
    (addresses : Table Address) : Table Address :=
  if asked then
    addresses.updateMany (fun _ a => decide (a.userId = userId ∧ role a = true)) unset
  else addresses

def Address.unsetShipping (a : Address) : Address := { a with isDefault := false }

def Address.unsetBilling (a : Address) : Address := { a with isDefaultBilling := false }

def clearShippingDefault : Bool → Nat → Table Address → Table Address :=
  clearDefault Address.isDefault Address.unsetShipping

def clearBillingDefault : Bool → Nat → Table Address → Table Address :=
  clearDefault Address.isDefaultBilling Address.unsetBilling

/-! ### The transactions -/

/-- The row that a creation inserts. -/
def CreateAddressData.row (data : CreateAddressData) (userId : Nat)
    (isDefault isDefaultBilling : Bool) :
    Address where
  userId := userId
  snapshot :=
    { recipientName := data.recipientName
      line1 := data.line1
      line2 := data.line2
      city := data.city
      county := none
      postcode := data.postcode
      countryCode := data.country
      phone := data.phone }
  isDefault := isDefault
  isDefaultBilling := isDefaultBilling

/-- `userExists` is what connecting the row to its user comes to. -/
def createAddress (userExists : Bool) (userId : Nat) (data : CreateAddressData)
    (addresses : Table Address) : Except AddressRejection (Table Address) := do
  let isFirst := (addresses.select fun _ a => decide (a.userId = userId)).isEmpty
  let isDefaultShipping := isFirst || data.isDefaultShipping.getD false
  let isDefaultBilling := isFirst || data.isDefaultBilling.getD false
  let addresses := clearShippingDefault isDefaultShipping userId addresses
  let addresses := clearBillingDefault isDefaultBilling userId addresses
  ensure (userExists = true) AddressRejection.internalServerError
  return addresses.insert (data.row userId isDefaultShipping isDefaultBilling)

/-- `findFirst({ where: { id: addressId, userId } })`. -/
def ownAddress (userId addressId : Nat) (addresses : Table Address) : Option Address :=
  (addresses.get? addressId).filter (decide <| ·.userId = userId)

/-- `updateData` on the row. -/
def PatchAddressData.apply (data : PatchAddressData) (a : Address) : Address where
  userId := a.userId
  snapshot :=
    { recipientName := data.recipientName.getD a.snapshot.recipientName
      line1 := data.line1.getD a.snapshot.line1
      line2 := data.line2.getD a.snapshot.line2
      city := data.city.getD a.snapshot.city
      county := a.snapshot.county
      postcode := data.postcode.getD a.snapshot.postcode
      countryCode := data.country.getD a.snapshot.countryCode
      phone := data.phone.getD a.snapshot.phone }
  isDefault := if data.isDefaultShipping = some true then true else a.isDefault
  isDefaultBilling := if data.isDefaultBilling = some true then true else a.isDefaultBilling

/-- The complete request is rejected before either role is cleared. -/
def updateAddress (userId addressId : Nat) (data : PatchAddressData) (addresses : Table Address) :
    Table Address × Option AddressRejection :=
  match ownAddress userId addressId addresses with
  | none => (addresses, some .addressNotFound)
  | some address =>
      if data.isDefaultShipping = some false ∧ address.isDefault = true then
        (addresses, some .cannotUnsetShippingDefault)
      else if data.isDefaultBilling = some false ∧ address.isDefaultBilling = true then
        (addresses, some .cannotUnsetBillingDefault)
      else
        let addresses := clearShippingDefault (data.isDefaultShipping = some true) userId addresses
        let addresses := clearBillingDefault (data.isDefaultBilling = some true) userId addresses
        (addresses.update addressId data.apply, none)

/-- `promoteData`: the remaining address takes over the roles of the deleted one. -/
def Address.promote (deleted a : Address) : Address :=
  { a with
    isDefault := deleted.isDefault || a.isDefault
    isDefaultBilling := deleted.isDefaultBilling || a.isDefaultBilling }

/-- The first of the user's other addresses, by id. -/
def successor (userId addressId : Nat) (addresses : Table Address) : Option Nat :=
  ((addresses.selectByKey fun id a => decide (a.userId = userId ∧ id ≠ addressId)).head?).map
    Prod.fst

def deleteAddress (userId addressId : Nat) (addresses : Table Address) :
    Table Address × Option AddressRejection :=
  match ownAddress userId addressId addresses with
  | none => (addresses, some .addressNotFound)
  | some address =>
      let addresses :=
        match successor userId addressId addresses with
        | none => addresses
        | some promote => addresses.update promote address.promote
      (addresses.erase addressId, none)

/-! ### The requests -/

/-- `POST /users/me/addresses`: the rows it leaves, and why it was rejected if it
was. -/
def postAddress (userExists : Bool) (userId : Nat) (body : CreateAddressData)
    (addresses : Table Address) : Table Address × Option AddressRejection :=
  match body.parse.bind fun data => createAddress userExists userId data addresses with
  | .error rejection => (addresses, some rejection)
  | .ok addresses => (addresses, none)

/-- `PATCH /users/me/addresses/:addressId`. -/
def patchAddress (userId addressId : Nat) (body : PatchAddressData) (addresses : Table Address) :
    Table Address × Option AddressRejection :=
  if addressId < 1 then (addresses, some .invalidAddressId)
  else
    match body.parse with
    | .error rejection => (addresses, some rejection)
    | .ok data => updateAddress userId addressId data addresses

/-- `DELETE /users/me/addresses/:addressId`. -/
def removeAddress (userId addressId : Nat) (addresses : Table Address) :
    Table Address × Option AddressRejection :=
  if addressId < 1 then (addresses, some .invalidAddressId)
  else deleteAddress userId addressId addresses

/-! ### Clearing a role -/

section Clear

variable {role : Address → Bool} {unset : Address → Address} {addresses : Table Address}
  {userId : Nat}

theorem get?_clearDefault (asked : Bool) (k : Nat) :
    (clearDefault role unset asked userId addresses).get? k = (addresses.get? k).map fun a =>
      if asked = true ∧ a.userId = userId ∧ role a = true then unset a else a := by
  unfold clearDefault
  split
  · rename_i on
    simp only [Table.get?_updateMany, decide_eq_true_eq, on, true_and]
  · rename_i off
    simp [off]

theorem clearDefault_nextId (asked : Bool) :
    (clearDefault role unset asked userId addresses).nextId = addresses.nextId := by
  unfold clearDefault
  split <;> rfl

/-- Clearing leaves every row with its user. -/
theorem clearDefault_owner (own : ∀ a, (unset a).userId = a.userId) {asked : Bool} {k : Nat}
    {a : Address} (found : (clearDefault role unset asked userId addresses).get? k = some a) :
    ∃ a', addresses.get? k = some a' ∧ a'.userId = a.userId := by
  rw [get?_clearDefault] at found
  obtain ⟨a', found', rfl⟩ := Option.map_eq_some_iff.mp found
  refine ⟨a', found', ?_⟩
  split
  · exact (own a').symm
  · rfl

end Clear

theorem Address.unsetShipping_userId (a : Address) : a.unsetShipping.userId = a.userId := rfl

theorem Address.unsetBilling_userId (a : Address) : a.unsetBilling.userId = a.userId := rfl

/-! ### Inversion -/

section Inversion

variable {userId addressId : Nat} {addresses addresses' : Table Address}

/-- A creation clears the roles that the new row takes. -/
theorem createAddress_ok {userExists : Bool} {data : CreateAddressData}
    (h : createAddress userExists userId data addresses = .ok addresses') :
    ∃ isDefault isDefaultBilling : Bool,
      (isDefault = false → ∃ k a, addresses.get? k = some a ∧ a.userId = userId) ∧
      (isDefaultBilling = false → ∃ k a, addresses.get? k = some a ∧ a.userId = userId) ∧
      userExists = true ∧
      addresses' = (clearBillingDefault isDefaultBilling userId
        (clearShippingDefault isDefault userId addresses)).insert
          (data.row userId isDefault isDefaultBilling) := by
  simp only [createAddress, bind_eq_ok, ensure_eq_ok, pure_eq_ok] at h
  obtain ⟨-, exists_, rfl⟩ := h
  have nonempty : (addresses.select fun _ a => decide (a.userId = userId)).isEmpty = false →
      ∃ k a, addresses.get? k = some a ∧ a.userId = userId := by
    intro notFirst
    rw [List.isEmpty_eq_false_iff_exists_mem] at notFirst
    obtain ⟨⟨k, a⟩, mem⟩ := notFirst
    obtain ⟨found, own⟩ := Table.mem_select.mp mem
    exact ⟨k, a, found, of_decide_eq_true own⟩
  refine ⟨_, _, fun unset => ?_, fun unset => ?_, exists_, rfl⟩
  · exact nonempty (Bool.or_eq_false_iff.mp unset).1
  · exact nonempty (Bool.or_eq_false_iff.mp unset).1

theorem ownAddress_eq_some {address : Address}
    (h : ownAddress userId addressId addresses = some address) :
    addresses.get? addressId = some address ∧ address.userId = userId := by
  obtain ⟨found, own⟩ := Option.filter_eq_some_iff.mp h
  exact ⟨found, of_decide_eq_true own⟩

/-- An update is rejected with the rows as they were, or clears the roles that
the row takes and keeps the ones that it has. -/
theorem updateAddress_cases (userId addressId : Nat) (data : PatchAddressData)
    (addresses : Table Address) :
    (∃ rejection, updateAddress userId addressId data addresses = (addresses, some rejection)) ∨
    ∃ address, ownAddress userId addressId addresses = some address ∧
      updateAddress userId addressId data addresses =
        ((clearBillingDefault (data.isDefaultBilling = some true) userId
          (clearShippingDefault (data.isDefaultShipping = some true) userId addresses)).update
            addressId data.apply, none) := by
  unfold updateAddress
  cases found : ownAddress userId addressId addresses with
  | none => exact Or.inl ⟨_, rfl⟩
  | some address =>
      dsimp only
      split
      · exact Or.inl ⟨_, rfl⟩
      · split
        · exact Or.inl ⟨_, rfl⟩
        · exact Or.inr ⟨address, rfl, rfl⟩

/-- The successor is another address of the user. -/
theorem successor_eq_some {promote : Nat} (h : successor userId addressId addresses = some promote) :
    ∃ a, addresses.get? promote = some a ∧ a.userId = userId ∧ promote ≠ addressId := by
  obtain ⟨⟨k, a⟩, first, rfl⟩ := Option.map_eq_some_iff.mp h
  obtain ⟨found, passes⟩ := Table.mem_selectByKey.mp (List.mem_of_head? first)
  obtain ⟨own, other⟩ := of_decide_eq_true passes
  exact ⟨a, found, own, other⟩

/-- Without a successor the user has no other address. -/
theorem successor_eq_none (h : successor userId addressId addresses = none) {k : Nat} {a : Address}
    (found : addresses.get? k = some a) (own : a.userId = userId) : k = addressId := by
  have empty := List.head?_eq_none_iff.mp (Option.map_eq_none_iff.mp h)
  by_contra other
  have mem : (k, a) ∈ addresses.selectByKey fun id a =>
      decide (a.userId = userId ∧ id ≠ addressId) :=
    Table.mem_selectByKey.mpr ⟨found, decide_eq_true ⟨own, other⟩⟩
  rw [empty] at mem
  cases mem

theorem deleteAddress_cases (userId addressId : Nat) (addresses : Table Address) :
    deleteAddress userId addressId addresses = (addresses, some .addressNotFound) ∨
    ∃ address, ownAddress userId addressId addresses = some address ∧
      ((successor userId addressId addresses = none ∧
          deleteAddress userId addressId addresses = (addresses.erase addressId, none)) ∨
        ∃ promote, successor userId addressId addresses = some promote ∧
          deleteAddress userId addressId addresses =
            ((addresses.update promote address.promote).erase addressId, none)) := by
  unfold deleteAddress
  cases found : ownAddress userId addressId addresses with
  | none => exact Or.inl rfl
  | some address =>
      refine Or.inr ⟨address, rfl, ?_⟩
      cases next : successor userId addressId addresses with
      | none => exact Or.inl ⟨rfl, rfl⟩
      | some promote => exact Or.inr ⟨promote, rfl, rfl⟩

/-! ### Rejections -/

variable {rejection : AddressRejection}

theorem postAddress_rejected {userExists : Bool} {body : CreateAddressData}
    (h : (postAddress userExists userId body addresses).2 = some rejection) :
    (postAddress userExists userId body addresses).1 = addresses := by
  unfold postAddress at h ⊢
  split
  · rfl
  · rename_i accepted
    rw [accepted] at h
    cases h

theorem patchAddress_rejected {body : PatchAddressData}
    (h : (patchAddress userId addressId body addresses).2 = some rejection) :
    (patchAddress userId addressId body addresses).1 = addresses := by
  unfold patchAddress at h ⊢
  split_ifs at h ⊢
  · rfl
  · cases hparse : body.parse with
    | error e => rfl
    | ok data =>
        simp only [hparse] at h ⊢
        rcases updateAddress_cases userId addressId data addresses with ⟨_, kept⟩ | ⟨_, -, done⟩
        · rw [kept]
        · rw [done] at h
          cases h

theorem removeAddress_rejected
    (h : (removeAddress userId addressId addresses).2 = some rejection) :
    (removeAddress userId addressId addresses).1 = addresses := by
  unfold removeAddress at h ⊢
  split_ifs at h ⊢
  · rfl
  · rcases deleteAddress_cases userId addressId addresses with
      kept | ⟨_, -, ⟨-, done⟩ | ⟨_, -, done⟩⟩
    · rw [kept]
    · rw [done] at h
      cases h
    · rw [done] at h
      cases h

/-! ### Owners -/

/-- An accepted body of a user who exists is stored. -/
theorem postAddress_stored (userId : Nat) (addresses : Table Address)
    {body data : CreateAddressData} (accepted : body.parse = .ok data) :
    ∃ k a, (postAddress true userId body addresses).1.get? k = some a ∧ a.userId = userId := by
  have run : postAddress true userId body addresses =
      match createAddress true userId data addresses with
      | .error rejection => (addresses, some rejection)
      | .ok addresses => (addresses, none) := by
    rw [postAddress, accepted]
    rfl
  cases created : createAddress true userId data addresses with
  | error rejection =>
      simp only [createAddress, bind_eq_error, ensure_eq_error, not_true_eq_false, false_and,
        pure_ne_error, and_false, exists_false, or_false] at created
  | ok addresses' =>
      obtain ⟨_, _, -, -, -, rfl⟩ := createAddress_ok created
      rw [run, created]
      exact ⟨_, _, Table.get?_insert_self _ _, rfl⟩

/-- The rows left are of the user who asked, or of users who had rows before. -/
theorem createAddress_owner {userExists : Bool} {data : CreateAddressData}
    (h : createAddress userExists userId data addresses = .ok addresses') {k : Nat} {a : Address}
    (found : addresses'.get? k = some a) :
    a.userId = userId ∨ ∃ k' a', addresses.get? k' = some a' ∧ a'.userId = a.userId := by
  obtain ⟨_, _, -, -, -, rfl⟩ := createAddress_ok h
  rcases Table.insert_cases found with ⟨-, rfl⟩ | found
  · exact Or.inl rfl
  · obtain ⟨a₁, found₁, own₁⟩ := clearDefault_owner Address.unsetBilling_userId found
    obtain ⟨a₂, found₂, own₂⟩ := clearDefault_owner Address.unsetShipping_userId found₁
    exact Or.inr ⟨k, a₂, found₂, own₂.trans own₁⟩

/-- A patch moves no row to another user. -/
theorem patchAddress_owner {body : PatchAddressData} {k : Nat} {a : Address}
    (found : (patchAddress userId addressId body addresses).1.get? k = some a) :
    ∃ a', addresses.get? k = some a' ∧ a'.userId = a.userId := by
  unfold patchAddress at found
  split_ifs at found
  · exact ⟨a, found, rfl⟩
  · cases hparse : body.parse with
    | error e =>
        rw [hparse] at found
        exact ⟨a, found, rfl⟩
    | ok data =>
        simp only [hparse] at found
        rcases updateAddress_cases userId addressId data addresses with ⟨_, kept⟩ | ⟨_, -, done⟩
        · rw [kept] at found
          exact ⟨a, found, rfl⟩
        · rw [done, Table.get?_update] at found
          have cleared : ∀ {b}, (clearBillingDefault (data.isDefaultBilling = some true) userId
              (clearShippingDefault (data.isDefaultShipping = some true) userId addresses)).get? k =
                some b → ∃ a', addresses.get? k = some a' ∧ a'.userId = b.userId := by
            intro b hb
            obtain ⟨a₁, found₁, own₁⟩ := clearDefault_owner Address.unsetBilling_userId hb
            obtain ⟨a₂, found₂, own₂⟩ := clearDefault_owner Address.unsetShipping_userId found₁
            exact ⟨a₂, found₂, own₂.trans own₁⟩
          split at found
          · obtain ⟨b, hb, rfl⟩ := Option.map_eq_some_iff.mp found
            obtain ⟨a', found', own⟩ := cleared hb
            exact ⟨a', found', own⟩
          · exact cleared found

end Inversion

end ColorfulLife
