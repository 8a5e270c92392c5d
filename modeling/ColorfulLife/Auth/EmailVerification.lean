/-
Email verification (`domain/auth/emailVerificationService.ts`), the change of an
unverified address (`emailChangeService.ts`), and the two other services that
write the same rows: signup (`controllers/authController.ts`) and the deletion
of an account (`accountDeletionService.ts`).

Each definition is the body of one transaction. A raw token is an argument, and
`hash` stands for SHA-256 in hexadecimal; only hashes are stored.
-/

import ColorfulLife.Relational.Transaction
import ColorfulLife.Relational.Unique
import ColorfulLife.Schema.Values

namespace ColorfulLife

open Relational

/-! ### Rows -/

inductive UserRole where
  | customer
  | admin
  deriving DecidableEq, Repr

/-- The columns of a user that authentication reads. -/
structure Account where
  email : String
  emailVerified : Bool
  role : UserRole
  deletedAt : Option Time
  deriving DecidableEq, Repr

structure EmailVerificationToken where
  userId : Nat
  tokenHash : String
  expiresAt : Time
  createdAt : Time
  deriving DecidableEq, Repr

structure AuthDb where
  users : Table Account
  tokens : Table EmailVerificationToken

inductive AuthError where
  | verificationUserNotFound (userId : Nat)
  | invalidOrExpiredVerificationToken
  | emailChangeUserNotFound
  | emailChangeVerifiedUser
  | emailChangeSameEmail
  | emailChangeDuplicateEmail
  | accountDeletionUserNotFound
  | accountDeletionAdminNotAllowed
  | uniqueViolation
  deriving DecidableEq, Repr

abbrev AuthResult (α : Type) := Except AuthError α

/-- `email String @unique`. -/
def Account.clash (a b : Account) : Bool := decide (a.email = b.email)

/-- `userId Int @unique` and `tokenHash String @unique`. -/
def EmailVerificationToken.clash (a b : EmailVerificationToken) : Bool :=
  decide (a.userId = b.userId ∨ a.tokenHash = b.tokenHash)

/-! ### Tokens -/

/-- `24 * 60 * 60 * 1000`. -/
def tokenLifetimeMillis : Nat := 24 * 60 * 60 * 1000

section

variable (hash : String → String)

/-- `hashEmailVerificationToken`. -/
def hashEmailVerificationToken (rawToken : String) : String := hash rawToken

/-- The row after an upsert for a user. -/
def newVerificationToken (userId : Nat) (rawToken : String) (now : Time) :
    EmailVerificationToken where
  userId := userId
  tokenHash := hashEmailVerificationToken hash rawToken
  expiresAt := now + tokenLifetimeMillis
  createdAt := now

/-- `emailVerificationToken.upsert({ where: { userId } })`. -/
def upsertVerificationToken (token : EmailVerificationToken)
    (tokens : Table EmailVerificationToken) : AuthResult (Table EmailVerificationToken) :=
  match tokens.find? fun _ t => decide (t.userId = token.userId) with
  | some (id, _) => do
      ensure (tokens.clashes EmailVerificationToken.clash id token = false)
        AuthError.uniqueViolation
      return tokens.update id fun _ => token
  | none => do
      ensure (tokens.clashes EmailVerificationToken.clash tokens.nextId token = false)
        AuthError.uniqueViolation
      return tokens.insert token

/-- A verified user gets no token; the flag says whether one was created. -/
def createOrReplaceEmailVerificationToken (userId : Nat) (rawToken : String) (now : Time)
    (db : AuthDb) : AuthResult (AuthDb × Bool) := do
  let user ← orThrow (db.users.get? userId) (AuthError.verificationUserNotFound userId)
  if user.emailVerified then return (db, false)
  else
    let tokens ← upsertVerificationToken (newVerificationToken hash userId rawToken now) db.tokens
    return ({ db with tokens := tokens }, true)

def findToken (tokenHash : String) (db : AuthDb) : Option (Nat × EmailVerificationToken) :=
  db.tokens.find? fun _ t => decide (t.tokenHash = tokenHash)

/-- The token is read again after the lock on its user. -/
def verifyEmailVerificationToken (rawToken : String) (decisionTime : Time) (db : AuthDb) :
    AuthResult AuthDb := do
  let tokenHash := hashEmailVerificationToken hash rawToken
  let (_, token) ← orThrow (findToken tokenHash db) AuthError.invalidOrExpiredVerificationToken
  let _ ← orThrow ((db.users.get? token.userId).filter (decide <| ·.deletedAt = none))
    AuthError.invalidOrExpiredVerificationToken
  let (id, currentToken) ← orThrow (findToken tokenHash db)
    AuthError.invalidOrExpiredVerificationToken
  ensure (currentToken.userId = token.userId ∧ decisionTime < currentToken.expiresAt)
    AuthError.invalidOrExpiredVerificationToken
  let users ← orThrow
    (db.users.updateIf token.userId
      (fun user => decide (user.emailVerified = false ∧ user.deletedAt = none))
      fun user => { user with emailVerified := true })
    AuthError.invalidOrExpiredVerificationToken
  return { users := users, tokens := db.tokens.erase id }

/-! ### Addresses -/

/-- A new customer, and the first token. -/
def signup (email rawToken : String) (now : Time) (db : AuthDb) : AuthResult (AuthDb × Bool) := do
  let user : Account := { email, emailVerified := false, role := .customer, deletedAt := none }
  ensure (db.users.clashes Account.clash db.users.nextId user = false) AuthError.uniqueViolation
  createOrReplaceEmailVerificationToken hash db.users.nextId rawToken now
    { db with users := db.users.insert user }

/-- The new address and its token are written together. -/
def changeUnverifiedUserEmail (userId : Nat) (normalizedEmail rawToken : String) (now : Time)
    (db : AuthDb) : AuthResult AuthDb := do
  let user ← orThrow (db.users.get? userId) AuthError.emailChangeUserNotFound
  ensure (user.emailVerified = false) AuthError.emailChangeVerifiedUser
  ensure (user.email ≠ normalizedEmail) AuthError.emailChangeSameEmail
  ensure (db.users.clashes Account.clash userId { user with email := normalizedEmail } = false)
    AuthError.emailChangeDuplicateEmail
  let (db, created) ← createOrReplaceEmailVerificationToken hash userId rawToken now
    { db with users := db.users.update userId fun u => { u with email := normalizedEmail } }
  ensure (created = true) AuthError.emailChangeVerifiedUser
  return db

end

/-- `tombstone` is the address a deleted account is left with. -/
def deleteCustomerAccount (userId : Nat) (tombstone : String) (now : Time) (db : AuthDb) :
    AuthResult AuthDb := do
  let user ← orThrow (db.users.get? userId) AuthError.accountDeletionUserNotFound
  ensure (user.role ≠ .admin) AuthError.accountDeletionAdminNotAllowed
  if user.deletedAt ≠ none then return db
  else
    ensure (db.users.clashes Account.clash userId { user with email := tombstone } = false)
      AuthError.uniqueViolation
    return {
      users := db.users.update userId fun u => { u with email := tombstone, deletedAt := some now }
      tokens := db.tokens.eraseMany fun _ t => decide (t.userId = userId) }

/-! ### Inversion -/

section Inversion

variable {hash : String → String} {db db' : AuthDb} {userId : Nat} {rawToken : String} {now : Time}

/-- The tokens of a user were replaced by one. -/
def Replaced (token : EmailVerificationToken) (tokens tokens' : Table EmailVerificationToken) :
    Prop :=
  ∃ i, tokens'.get? i = some token ∧ ∀ j t, tokens'.get? j = some t →
    (j = i ∧ t = token) ∨ (t.userId ≠ token.userId ∧ tokens.get? j = some t)

theorem upsertVerificationToken_ok {token : EmailVerificationToken}
    {tokens tokens' : Table EmailVerificationToken}
    (one : ∀ i j s t, tokens.get? i = some s → tokens.get? j = some t →
      s.userId = t.userId → i = j)
    (h : upsertVerificationToken token tokens = .ok tokens') : Replaced token tokens tokens' := by
  unfold upsertVerificationToken at h
  cases hfind : tokens.find? fun _ t => decide (t.userId = token.userId) with
  | some e =>
      obtain ⟨found, own⟩ := Table.find?_eq_some hfind
      simp only [hfind, bind_eq_ok, ensure_eq_ok, pure_eq_ok] at h
      obtain ⟨-, -, rfl⟩ := h
      refine ⟨e.1, by simp [found], fun i t ht => ?_⟩
      rw [Table.get?_update] at ht
      split at ht
      · obtain ⟨_, -, rfl⟩ := Option.map_eq_some_iff.mp ht
        exact Or.inl ⟨‹_›, rfl⟩
      · refine Or.inr ⟨fun same => ‹¬ i = e.1› ?_, ht⟩
        exact one i e.1 t e.2 ht found (same.trans (of_decide_eq_true own).symm)
  | none =>
      simp only [hfind, bind_eq_ok, ensure_eq_ok, pure_eq_ok] at h
      obtain ⟨-, -, rfl⟩ := h
      refine ⟨_, Table.get?_insert_self .., fun i t ht => ?_⟩
      rcases Table.insert_cases ht with new | ht
      · exact Or.inl new
      · refine Or.inr ⟨fun same => ?_, ht⟩
        have other := Table.find?_eq_none.mp hfind i t ht
        simp [same] at other

theorem createOrReplace_ok {created : Bool}
    (h : createOrReplaceEmailVerificationToken hash userId rawToken now db = .ok (db', created)) :
    ∃ user, db.users.get? userId = some user ∧
      ((user.emailVerified = true ∧ created = false ∧ db' = db) ∨
        (user.emailVerified = false ∧ created = true ∧ ∃ tokens,
          upsertVerificationToken (newVerificationToken hash userId rawToken now) db.tokens =
            .ok tokens ∧
          db' = { db with tokens := tokens })) := by
  simp only [createOrReplaceEmailVerificationToken, bind_eq_ok, orThrow_eq_ok] at h
  obtain ⟨user, found, h⟩ := h
  refine ⟨user, found, ?_⟩
  split at h
  · simp only [pure_eq_ok, Prod.mk.injEq] at h
    exact Or.inl ⟨‹_›, h.2.symm, h.1.symm⟩
  · simp only [bind_eq_ok, pure_eq_ok, Prod.mk.injEq] at h
    obtain ⟨tokens, hupsert, rfl, rfl⟩ := h
    exact Or.inr ⟨by simpa using ‹¬ user.emailVerified = true›, rfl, tokens, hupsert, rfl⟩

/-- A verification consumes a current token of an unverified account. -/
theorem verifyEmailVerificationToken_ok
    (h : verifyEmailVerificationToken hash rawToken now db = .ok db') :
    ∃ id token user, findToken (hash rawToken) db = some (id, token) ∧
      db.users.get? token.userId = some user ∧ user.deletedAt = none ∧
      user.emailVerified = false ∧ now < token.expiresAt ∧
      db' = {
        users := db.users.update token.userId fun user => { user with emailVerified := true }
        tokens := db.tokens.erase id } := by
  simp only [verifyEmailVerificationToken, hashEmailVerificationToken, bind_eq_ok, orThrow_eq_ok,
    ensure_eq_ok, pure_eq_ok] at h
  obtain ⟨⟨_, token⟩, hfind, _, -, ⟨id, current⟩, hfind', -, ⟨-, alive⟩, users, hupdate, rfl⟩ := h
  obtain ⟨rfl, rfl⟩ := Prod.mk.inj (Option.some.inj (hfind.symm.trans hfind'))
  obtain ⟨user, found, open_, rfl⟩ := Table.updateIf_eq_some.mp hupdate
  simp only [decide_eq_true_eq] at open_
  exact ⟨_, _, user, hfind, found, open_.2, open_.1, alive, rfl⟩

theorem signup_ok {email : String} {created : Bool}
    (one : ∀ i j s t, db.tokens.get? i = some s → db.tokens.get? j = some t →
      s.userId = t.userId → i = j)
    (h : signup hash email rawToken now db = .ok (db', created)) :
    created = true ∧ ∃ user, user.email = email ∧ db'.users = db.users.insert user ∧
      Replaced (newVerificationToken hash db.users.nextId rawToken now) db.tokens db'.tokens := by
  simp only [signup, bind_eq_ok, ensure_eq_ok] at h
  obtain ⟨-, -, h⟩ := h
  obtain ⟨user, found, ⟨verified, -⟩ | ⟨-, rfl, tokens, hupsert, rfl⟩⟩ := createOrReplace_ok h
  · rw [Table.get?_insert_self] at found
    obtain rfl := Option.some.inj found
    cases verified
  · exact ⟨rfl, _, rfl, rfl, upsertVerificationToken_ok one hupsert⟩

theorem changeUnverifiedUserEmail_ok {email : String}
    (one : ∀ i j s t, db.tokens.get? i = some s → db.tokens.get? j = some t →
      s.userId = t.userId → i = j)
    (h : changeUnverifiedUserEmail hash userId email rawToken now db = .ok db') :
    ∃ user, db.users.get? userId = some user ∧
      db'.users = db.users.update userId (fun u => { u with email := email }) ∧
      Replaced (newVerificationToken hash userId rawToken now) db.tokens db'.tokens := by
  simp only [changeUnverifiedUserEmail, bind_eq_ok, orThrow_eq_ok, ensure_eq_ok, pure_eq_ok] at h
  obtain ⟨user, found, -, -, -, -, -, -, ⟨db₁, created⟩, hcreate, -, rfl, rfl⟩ := h
  obtain ⟨_, -, ⟨-, impossible, -⟩ | ⟨-, -, tokens, hupsert, rfl⟩⟩ := createOrReplace_ok hcreate
  · cases impossible
  · exact ⟨user, found, rfl, upsertVerificationToken_ok one hupsert⟩

theorem deleteCustomerAccount_ok {tombstone : String}
    (h : deleteCustomerAccount userId tombstone now db = .ok db') :
    db' = db ∨ db' = {
      users := db.users.update userId fun u => { u with email := tombstone, deletedAt := some now }
      tokens := db.tokens.eraseMany fun _ t => decide (t.userId = userId) } := by
  simp only [deleteCustomerAccount, bind_eq_ok, orThrow_eq_ok, ensure_eq_ok] at h
  obtain ⟨user, -, -, -, h⟩ := h
  split at h
  · exact Or.inl (pure_eq_ok.mp h).symm
  · simp only [bind_eq_ok, ensure_eq_ok, pure_eq_ok] at h
    obtain ⟨-, -, rfl⟩ := h
    exact Or.inr rfl

end Inversion

/-! ### When a change of address goes through -/

section Change

variable {hash : String → String} {db : AuthDb} {userId : Nat} {email rawToken : String} {now : Time}

/-- A token is stored unless another user's has its hash. -/
theorem upsertVerificationToken_isOk {token : EmailVerificationToken}
    {tokens : Table EmailVerificationToken}
    (one : ∀ i j s t, tokens.get? i = some s → tokens.get? j = some t →
      s.userId = t.userId → i = j) :
    (∃ tokens', upsertVerificationToken token tokens = .ok tokens') ↔
      ∀ k other, tokens.get? k = some other → other.userId ≠ token.userId →
        other.tokenHash ≠ token.tokenHash := by
  unfold upsertVerificationToken
  cases hfind : tokens.find? fun _ t => decide (t.userId = token.userId) with
  | some e =>
      obtain ⟨found, own⟩ := Table.find?_eq_some hfind
      have own : e.2.userId = token.userId := of_decide_eq_true own
      simp only [bind_eq_ok, ensure_eq_ok, pure_eq_ok, Table.clashes_eq_false,
        EmailVerificationToken.clash, decide_eq_true_eq]
      constructor
      · rintro ⟨_, _, free, -⟩ k other hk foreign same
        have here : k = e.1 := free k other hk (Or.inr same.symm)
        rw [here, found] at hk
        exact foreign (Option.some.inj hk ▸ own)
      · intro free
        refine ⟨_, ⟨⟩, fun k other hk clash => ?_, rfl⟩
        by_cases mine : other.userId = token.userId
        · exact one k e.1 other e.2 hk found (mine.trans own.symm)
        · rcases clash with same | same
          · exact absurd same.symm mine
          · exact absurd same.symm (free k other hk mine)
  | none =>
      have nobody : ∀ k other, tokens.get? k = some other → other.userId ≠ token.userId :=
        fun k other hk => of_decide_eq_false (Table.find?_eq_none.mp hfind k other hk)
      simp only [bind_eq_ok, ensure_eq_ok, pure_eq_ok, Table.clashes_eq_false,
        EmailVerificationToken.clash, decide_eq_true_eq]
      constructor
      · rintro ⟨_, _, free, -⟩ k other hk - same
        have new : k = tokens.nextId := free k other hk (Or.inr same.symm)
        simp [new] at hk
      · intro free
        refine ⟨_, ⟨⟩, fun k other hk clash => ?_, rfl⟩
        rcases clash with same | same
        · exact absurd same.symm (nobody k other hk)
        · exact absurd same.symm (free k other hk (nobody k other hk))

/-- An address is changed when it is an unverified user's, is not the one they
have, is nobody else's, and the token is new. -/
theorem changeUnverifiedUserEmail_isOk
    (one : ∀ i j s t, db.tokens.get? i = some s → db.tokens.get? j = some t →
      s.userId = t.userId → i = j) :
    (∃ db', changeUnverifiedUserEmail hash userId email rawToken now db = .ok db') ↔
      ∃ user, db.users.get? userId = some user ∧ user.emailVerified = false ∧ user.email ≠ email ∧
        (∀ k other, db.users.get? k = some other → k ≠ userId → other.email ≠ email) ∧
        ∀ k token, db.tokens.get? k = some token → token.userId ≠ userId →
          token.tokenHash ≠ hash rawToken := by
  simp only [changeUnverifiedUserEmail, createOrReplaceEmailVerificationToken, bind_eq_ok,
    orThrow_eq_ok, ensure_eq_ok, pure_eq_ok, Table.clashes_eq_false, Account.clash,
    decide_eq_true_eq]
  constructor
  · rintro ⟨_, user, found, -, unverified, -, other, -, free, ⟨db₁, created⟩, ⟨user', found', tx⟩,
      -, isNew, rfl⟩
    refine ⟨user, found, unverified, other, fun k foreign hk ne same => ne (free k foreign hk ?_),
      ?_⟩
    · exact same.symm
    · rw [Table.get?_update_self, found] at found'
      obtain rfl := Option.some.inj found'
      rw [if_neg (by simp [unverified])] at tx
      obtain ⟨tokens, stored, -⟩ := bind_eq_ok.mp tx
      exact (upsertVerificationToken_isOk one).mp ⟨tokens, stored⟩
  · rintro ⟨user, found, unverified, other, free, fresh⟩
    obtain ⟨tokens, stored⟩ := (upsertVerificationToken_isOk one).mpr
      (show ∀ k token, db.tokens.get? k = some token →
        token.userId ≠ (newVerificationToken hash userId rawToken now).userId →
        token.tokenHash ≠ (newVerificationToken hash userId rawToken now).tokenHash from fresh)
    have sole : ∀ k foreign, db.users.get? k = some foreign → email = foreign.email → k = userId := by
      intro k foreign hk same
      by_contra ne
      exact free k foreign hk ne same.symm
    let moved : AuthDb :=
      { db with users := db.users.update userId fun u => { u with email := email } }
    have there : moved.users.get? userId = some { user with email := email } := by
      rw [Table.get?_update_self, found]
      rfl
    refine ⟨{ moved with tokens := tokens }, user, found, ⟨⟩, unverified, ⟨⟩, other, ⟨⟩, sole,
      ({ moved with tokens := tokens }, true), ⟨_, there, ?_⟩, ⟨⟩, rfl, rfl⟩
    rw [if_neg (by simp [unverified])]
    exact bind_eq_ok.mpr ⟨tokens, stored, rfl⟩

end Change

end ColorfulLife
