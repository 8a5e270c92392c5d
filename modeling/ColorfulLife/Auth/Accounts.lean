/-
The requests of a customer on their own account: profile, address book, email,
password and deletion (`controllers/userProfile.ts`, `addressController.ts`,
`authController.ts`, `accountDeletionController.ts`, and the services in
`domain/auth` behind them).

A row of `User` is split under one key: what authentication reads is in
`AuthDb`, the rest is a profile. The body of an email or a password change is
what its schema has parsed, and a password is its hash.
-/

import ColorfulLife.Addresses.Book
import ColorfulLife.Auth.EmailVerification

namespace ColorfulLife

open Relational

/-! ### Rows -/

/-- The columns of a user beside those of the account. -/
structure Profile where
  passwordHash : String
  firstName : Option String
  lastName : Option String
  phone : Option String
  deriving DecidableEq, Repr

structure PasswordResetToken where
  userId : Nat
  tokenHash : String
  expiresAt : Time
  createdAt : Time
  deriving DecidableEq, Repr

/-- `userId Int @unique` and `tokenHash String @unique`. -/
def PasswordResetToken.clash (a b : PasswordResetToken) : Bool :=
  decide (a.userId = b.userId ∨ a.tokenHash = b.tokenHash)

structure AccountDb where
  auth : AuthDb
  profiles : Table Profile
  resetTokens : Table PasswordResetToken
  addresses : Table Address

inductive PasswordResetError where
  /-- "User with id ${userId} not found" -/
  | passwordResetUserNotFound (userId : Nat)
  /-- "Invalid or expired password reset token" -/
  | invalidOrExpiredPasswordResetToken
  | uniqueViolation
  deriving DecidableEq, Repr

/-! ### Middleware -/

/-- The user that `authMiddleware` finds for the id of the token. -/
def authMiddleware (userId : Nat) (db : AccountDb) : Option Account :=
  (db.auth.users.get? userId).filter (decide <| ·.deletedAt = none)

def requireVerifiedEmail (role : UserRole) (userId : Nat) (db : AccountDb) : Bool :=
  decide (role = .admin) || (db.auth.users.get? userId).any (·.emailVerified)

/-! ### Profile -/

/-- The body of `PATCH /users/me`. -/
structure ProfileBody where
  firstName : Option String
  lastName : Option String
  phone : Option String
  deriving DecidableEq, Repr

/-- `UpdateProfileSchema`; a body without a field is refused. -/
def ProfileBody.parse (body : ProfileBody) : Option ProfileBody := do
  let firstName ← (optionalText body.firstName).toOption
  let lastName ← (optionalText body.lastName).toOption
  let data : ProfileBody := ⟨firstName, lastName, body.phone.map trim⟩
  if data = ⟨none, none, none⟩ then none else some data

/-- The fields that are given are written. -/
def ProfileBody.apply (data : ProfileBody) (profile : Profile) : Profile :=
  { profile with
    firstName := data.firstName <|> profile.firstName
    lastName := data.lastName <|> profile.lastName
    phone := data.phone <|> profile.phone }

def updateCurrentUserProfile (userId : Nat) (body : ProfileBody) (db : AccountDb) : AccountDb :=
  match body.parse with
  | none => db
  | some data => { db with profiles := db.profiles.update userId data.apply }

/-! ### Passwords -/

/-- `60 * 60 * 1000`. -/
def resetTokenLifetimeMillis : Nat := 60 * 60 * 1000

section

variable (hash : String → String)

def hashPasswordResetToken (rawToken : String) : String := hash rawToken

/-- `passwordResetToken.upsert({ where: { userId } })`. -/
def createOrReplacePasswordResetToken (userId : Nat) (rawToken : String) (now : Time)
    (db : AccountDb) : Except PasswordResetError AccountDb := do
  let _ ← orThrow (db.auth.users.get? userId) (PasswordResetError.passwordResetUserNotFound userId)
  let token : PasswordResetToken :=
    { userId
      tokenHash := hashPasswordResetToken hash rawToken
      expiresAt := now + resetTokenLifetimeMillis
      createdAt := now }
  match db.resetTokens.find? fun _ t => decide (t.userId = userId) with
  | some (id, _) =>
      ensure (db.resetTokens.clashes PasswordResetToken.clash id token = false)
        PasswordResetError.uniqueViolation
      return { db with resetTokens := db.resetTokens.update id fun _ => token }
  | none =>
      ensure (db.resetTokens.clashes PasswordResetToken.clash db.resetTokens.nextId token = false)
        PasswordResetError.uniqueViolation
      return { db with resetTokens := db.resetTokens.insert token }

/-- The token is consumed before its user is read. -/
def resetPassword (rawToken passwordHash : String) (decisionTime : Time) (db : AccountDb) :
    Except PasswordResetError AccountDb := do
  let tokenHash := hashPasswordResetToken hash rawToken
  let (id, token) ← orThrow (db.resetTokens.find? fun _ t => decide (t.tokenHash = tokenHash))
    PasswordResetError.invalidOrExpiredPasswordResetToken
  ensure (decisionTime < token.expiresAt) PasswordResetError.invalidOrExpiredPasswordResetToken
  let db := { db with resetTokens := db.resetTokens.erase id }
  let _ ← orThrow ((db.auth.users.get? token.userId).filter (decide <| ·.deletedAt = none))
    PasswordResetError.invalidOrExpiredPasswordResetToken
  return { db with
    profiles := db.profiles.update token.userId fun p => { p with passwordHash := passwordHash } }

end

/-- The user that `forgotPassword` finds. -/
def findResetUser (email : String) (db : AccountDb) : Option Nat :=
  (db.auth.users.find? fun _ user => decide (user.email = email ∧ user.deletedAt = none)).map
    Prod.fst

/-! ### Deletion -/

/-- `deleteCustomerAccountInTransaction` on all the rows of an account. -/
def eraseAccount (userId : Nat) (tombstone unusablePasswordHash : String) (now : Time)
    (db : AccountDb) : AuthResult AccountDb := do
  let auth ← deleteCustomerAccount userId tombstone now db.auth
  if (db.auth.users.get? userId).any (decide <| ·.deletedAt ≠ none) then return db
  else
    return {
      auth := auth
      profiles := db.profiles.update userId fun _ =>
        { passwordHash := unusablePasswordHash, firstName := none, lastName := none, phone := none }
      resetTokens := db.resetTokens.eraseMany fun _ t => decide (t.userId = userId)
      addresses := db.addresses.eraseMany fun _ a => decide (a.userId = userId) }

/-! ### Routes -/

/-- The routes behind `authMiddleware`, with what their handler will be given. -/
inductive AccountRoute where
  | createAddress (body : CreateAddressData)
  | updateAddress (addressId : Nat) (body : PatchAddressData)
  | updateCurrentUserProfile (body : ProfileBody)
  | changeCurrentUserEmail (email rawToken : String) (now : Time)
  | resendVerification (rawToken : String) (now : Time)
  | deleteCurrentUserAccount (tombstone unusablePasswordHash : String) (now : Time)

/-- The read between `authMiddleware` and the transaction: `requireVerifiedEmail`
where the route mounts it, the user to send to in a resend. -/
def AccountRoute.admits (role : UserRole) (userId : Nat) (db : AccountDb) : AccountRoute → Bool
  | .createAddress _ | .updateAddress _ _ | .updateCurrentUserProfile _ =>
      requireVerifiedEmail role userId db
  | .resendVerification _ _ => (authMiddleware userId db).any fun user => !user.emailVerified
  | .changeCurrentUserEmail _ _ _ | .deleteCurrentUserAccount _ _ _ => true

/-- The rows after the transaction of the handler. -/
def AccountRoute.transact (hash : String → String) (userId : Nat) (db : AccountDb) :
    AccountRoute → AccountDb
  | .createAddress body => { db with
      addresses :=
        (postAddress (db.auth.users.get? userId).isSome userId body db.addresses).1 }
  | .updateAddress addressId body => { db with
      addresses := (patchAddress userId addressId body db.addresses).1 }
  | .updateCurrentUserProfile body => ColorfulLife.updateCurrentUserProfile userId body db
  | .changeCurrentUserEmail email rawToken now => { db with
      auth := commit (changeUnverifiedUserEmail hash userId email rawToken now db.auth) db.auth }
  | .resendVerification rawToken now => { db with
      auth := commit
        (Prod.fst <$> createOrReplaceEmailVerificationToken hash userId rawToken now db.auth)
        db.auth }
  | .deleteCurrentUserAccount tombstone unusablePasswordHash now =>
      commit (eraseAccount userId tombstone unusablePasswordHash now db) db

/-! ### Inversion -/

section Inversion

variable {hash : String → String} {db db' : AccountDb} {userId : Nat}

/-- A profile that a request writes has a name or a phone number. -/
theorem ProfileBody.parse_apply {body data : ProfileBody} (h : body.parse = some data)
    (profile : Profile) (passwordHash : String) :
    data.apply profile ≠ ⟨passwordHash, none, none, none⟩ := by
  intro blank
  obtain ⟨-, firstName, lastName, phone⟩ := Profile.mk.inj blank
  have empty : data = ⟨none, none, none⟩ := by
    obtain ⟨f, l, p⟩ := data
    cases f <;> cases l <;> cases p <;> simp_all
  obtain ⟨_, -, h⟩ := Option.bind_eq_some_iff.mp h
  obtain ⟨_, -, h⟩ := Option.bind_eq_some_iff.mp h
  simp only [Option.ite_none_left_eq_some, Option.some.injEq] at h
  exact h.1 (h.2.trans empty)

/-- A password is reset for a user who is not deleted. -/
theorem resetPassword_ok {rawToken passwordHash : String} {decisionTime : Time}
    (h : resetPassword hash rawToken passwordHash decisionTime db = .ok db') :
    ∃ u user resetTokens, db.auth.users.get? u = some user ∧ user.deletedAt = none ∧
      db' = { db with
        resetTokens := resetTokens
        profiles := db.profiles.update u fun p => { p with passwordHash := passwordHash } } := by
  simp only [resetPassword, bind_eq_ok, orThrow_eq_ok, ensure_eq_ok, pure_eq_ok,
    Option.filter_eq_some_iff, decide_eq_true_eq] at h
  obtain ⟨⟨id, token⟩, -, -, -, user, ⟨found, alive⟩, rfl⟩ := h
  exact ⟨token.userId, user, _, found, alive, rfl⟩

theorem createOrReplacePasswordResetToken_ok {rawToken : String} {now : Time}
    (h : createOrReplacePasswordResetToken hash userId rawToken now db = .ok db') :
    ∃ resetTokens, db' = { db with resetTokens := resetTokens } := by
  simp only [createOrReplacePasswordResetToken, bind_eq_ok, orThrow_eq_ok] at h
  obtain ⟨_, -, h⟩ := h
  split at h
  · simp only [bind_eq_ok, ensure_eq_ok, pure_eq_ok] at h
    obtain ⟨-, -, rfl⟩ := h
    exact ⟨_, rfl⟩
  · simp only [bind_eq_ok, ensure_eq_ok, pure_eq_ok] at h
    obtain ⟨-, -, rfl⟩ := h
    exact ⟨_, rfl⟩

/-- What is left once a user is deleted. -/
def AccountDb.without (db : AccountDb) (userId : Nat) (tombstone unusablePasswordHash : String)
    (now : Time) : AccountDb where
  auth :=
    { users := db.auth.users.update userId fun u =>
        { u with email := tombstone, deletedAt := some now }
      tokens := db.auth.tokens.eraseMany fun _ t => decide (t.userId = userId) }
  profiles := db.profiles.update userId fun _ =>
    { passwordHash := unusablePasswordHash, firstName := none, lastName := none, phone := none }
  resetTokens := db.resetTokens.eraseMany fun _ t => decide (t.userId = userId)
  addresses := db.addresses.eraseMany fun _ a => decide (a.userId = userId)

/-- A deletion finds its user deleted and changes nothing, or deletes them. -/
theorem eraseAccount_ok {tombstone unusablePasswordHash : String} {now : Time}
    (h : eraseAccount userId tombstone unusablePasswordHash now db = .ok db') :
    ∃ user, db.auth.users.get? userId = some user ∧
      ((user.deletedAt ≠ none ∧ db' = db) ∨
        (user.deletedAt = none ∧ db' = db.without userId tombstone unusablePasswordHash now)) := by
  obtain ⟨auth, hdelete, h⟩ := bind_eq_ok.mp h
  simp only [deleteCustomerAccount, bind_eq_ok, orThrow_eq_ok, ensure_eq_ok] at hdelete
  obtain ⟨user, found, -, -, hdelete⟩ := hdelete
  refine ⟨user, found, ?_⟩
  rw [found, Option.any_some] at h
  by_cases deleted : user.deletedAt = none
  · rw [if_neg (by simp [deleted])] at h hdelete
    simp only [bind_eq_ok, ensure_eq_ok, pure_eq_ok] at hdelete
    obtain ⟨-, -, rfl⟩ := hdelete
    exact Or.inr ⟨deleted, (pure_eq_ok.mp h).symm⟩
  · rw [if_pos (by simp [deleted])] at h
    exact Or.inl ⟨deleted, (pure_eq_ok.mp h).symm⟩

end Inversion

end ColorfulLife
