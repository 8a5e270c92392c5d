/-
What is left of an account after its deletion.

A request behind `authMiddleware` is cut at its reads and its transaction: the
user is checked in one step, and the transaction runs in a later one, with
whatever has committed in between. The machine keeps what each deletion left, so
that it can be compared with every later state.
-/

import ColorfulLife.Auth.Accounts
import ColorfulLife.Relational.Run

namespace ColorfulLife

open Relational

/-! ### The machine -/

/-- A request that has passed `authMiddleware`. -/
structure AccountRequest where
  userId : Nat
  role : UserRole
  route : AccountRoute
  admitted : Bool

/-- The tombstone values of a deleted account. -/
structure Erasure where
  userId : Nat
  email : String
  passwordHash : String
  deriving DecidableEq, Repr

structure AccountState where
  db : AccountDb
  requests : Table AccountRequest
  /-- The users that `forgotPassword` calls have found. -/
  resets : Table Nat
  /-- The deletions that have committed. -/
  erasures : List Erasure

inductive AccountOp where
  | authenticate (userId : Nat) (route : AccountRoute)
  | precheck (requestId : Nat)
  | transact (requestId : Nat)
  | forgotPassword (email : String)
  | createResetToken (resetId : Nat) (rawToken : String) (now : Time)
  | resetPassword (rawToken passwordHash : String) (now : Time)
  | verifyEmail (rawToken : String) (now : Time)

/-- The deletion that a transaction commits, if it is one of a live customer. -/
def AccountRoute.erasure (userId : Nat) (db : AccountDb) : AccountRoute → Option Erasure
  | .deleteCurrentUserAccount tombstone unusablePasswordHash now =>
      if (authMiddleware userId db).isSome ∧
          (eraseAccount userId tombstone unusablePasswordHash now db).isOk then
        some ⟨userId, tombstone, unusablePasswordHash⟩
      else none
  | _ => none

section

variable (hash : String → String)

def accountStep (s : AccountState) : AccountOp → AccountState
  | .authenticate userId route =>
      match authMiddleware userId s.db with
      | none => s
      | some user => { s with requests := s.requests.insert ⟨userId, user.role, route, false⟩ }
  | .precheck requestId =>
      match s.requests.get? requestId with
      | none => s
      | some request =>
          if request.route.admits request.role request.userId s.db then
            { s with requests := s.requests.update requestId fun r => { r with admitted := true } }
          else { s with requests := s.requests.erase requestId }
  | .transact requestId =>
      match s.requests.get? requestId with
      | none => s
      | some request =>
          if request.admitted then
            { s with
              db := request.route.transact hash request.userId s.db
              requests := s.requests.erase requestId
              erasures := (request.route.erasure request.userId s.db).toList ++ s.erasures }
          else s
  | .forgotPassword email =>
      match findResetUser email s.db with
      | none => s
      | some userId => { s with resets := s.resets.insert userId }
  | .createResetToken resetId rawToken now =>
      match s.resets.get? resetId with
      | none => s
      | some userId => { s with
          db := commit (createOrReplacePasswordResetToken hash userId rawToken now s.db) s.db
          resets := s.resets.erase resetId }
  | .resetPassword rawToken passwordHash now =>
      { s with db := commit (resetPassword hash rawToken passwordHash now s.db) s.db }
  | .verifyEmail rawToken now =>
      { s with db := { s.db with
          auth := commit (verifyEmailVerificationToken hash rawToken now s.db.auth) s.db.auth } }

/-! ### What the erasure law says -/

/-- Nothing personal is left of the user: no address, and tombstones in the row. -/
structure Erasure.Holds (e : Erasure) (db : AccountDb) : Prop where
  addresses : ∀ k a, db.addresses.get? k = some a → a.userId ≠ e.userId
  email : ∃ user, db.auth.users.get? e.userId = some user ∧ user.email = e.email
  profile : db.profiles.get? e.userId = some ⟨e.passwordHash, none, none, none⟩

def AccountState.Erased (s : AccountState) : Prop := ∀ e ∈ s.erasures, e.Holds s.db

/-- The transaction of the route would write personal data of the user. -/
def AccountRoute.Writes (userId : Nat) (db : AccountDb) : AccountRoute → Prop
  | .createAddress body => ∃ data, body.parse = .ok data
  | .updateCurrentUserProfile body => ∃ data, body.parse = some data
  | .changeCurrentUserEmail email rawToken _ => ∃ user, db.auth.users.get? userId = some user ∧
      user.emailVerified = false ∧ user.email ≠ email ∧
      (∀ k other, db.auth.users.get? k = some other → k ≠ userId → other.email ≠ email) ∧
      ∀ k token, db.auth.tokens.get? k = some token → token.userId ≠ userId →
        token.tokenHash ≠ hash rawToken
  | _ => False

/-- No transaction that writes personal data starts for a user who is deleted by
then. -/
def AccountOp.SparesDeleted (s : AccountState) : AccountOp → Prop
  | .transact requestId => ∀ request user, s.requests.get? requestId = some request →
      request.admitted = true → s.db.auth.users.get? request.userId = some user →
      user.deletedAt ≠ none → ¬ request.route.Writes hash request.userId s.db
  | _ => True

end

/-! ### What a transaction leaves -/

/-- A user has one verification token at most. -/
def AuthDb.OneToken (auth : AuthDb) : Prop :=
  ∀ i j a b, auth.tokens.get? i = some a → auth.tokens.get? j = some b → a.userId = b.userId → i = j

theorem Replaced.oneToken {auth auth' : AuthDb} {token : EmailVerificationToken}
    (h : auth.OneToken) (replaced : Replaced token auth.tokens auth'.tokens) : auth'.OneToken := by
  obtain ⟨k, -, rows⟩ := replaced
  intro i j a b ha hb same
  rcases rows i a ha with ⟨rfl, rfl⟩ | ⟨foreign, old⟩
  · rcases rows j b hb with ⟨rfl, -⟩ | ⟨foreign, -⟩
    · rfl
    · exact absurd same.symm foreign
  · rcases rows j b hb with ⟨rfl, rfl⟩ | ⟨-, old'⟩
    · exact absurd same foreign
    · exact h i j a b old old' same

/-- The users, their profiles and their deletions are what they were. -/
structure AccountDb.Kept (db db' : AccountDb) : Prop where
  users : Table.Rows (fun _ a b => b.deletedAt = a.deletedAt) db.auth.users db'.auth.users
  profiles : ∀ u profile, db.profiles.get? u = some profile →
    ∃ profile', db'.profiles.get? u = some profile'
  one : db.auth.OneToken → db'.auth.OneToken

/-- What would be left of a deleted user is not touched. -/
structure AccountDb.Spares (u : Nat) (db db' : AccountDb) : Prop where
  addresses : ∀ k a, db'.addresses.get? k = some a → a.userId = u →
    ∃ k' a', db.addresses.get? k' = some a' ∧ a'.userId = u
  email : ∀ user, db.auth.users.get? u = some user →
    ∃ user', db'.auth.users.get? u = some user' ∧ user'.email = user.email
  profile : db'.profiles.get? u = db.profiles.get? u

theorem Erasure.Holds.spared {e : Erasure} {db db' : AccountDb} (h : e.Holds db)
    (spares : db.Spares e.userId db') : e.Holds db' where
  addresses := by
    intro k a found own
    obtain ⟨k', a', found', own'⟩ := spares.addresses k a found own
    exact h.addresses k' a' found' own'
  email := by
    obtain ⟨user, found, email⟩ := h.email
    obtain ⟨user', found', same⟩ := spares.email user found
    exact ⟨user', found', same.trans email⟩
  profile := spares.profile.trans h.profile

namespace AccountDb

variable {hash : String → String} {db db' : AccountDb} {u userId : Nat}

theorem Kept.refl (db : AccountDb) : db.Kept db where
  users := by
    apply Table.Rows.refl
    exact fun _ _ => rfl
  profiles := fun _ profile found => ⟨profile, found⟩
  one := id

theorem Spares.refl (u : Nat) (db : AccountDb) : db.Spares u db :=
  ⟨fun k a found own => ⟨k, a, found, own⟩, fun user found => ⟨user, found, rfl⟩, rfl⟩

/-- Only rows that are neither users, profiles, tokens nor addresses change. -/
theorem Kept.resetTokens (resetTokens : Table PasswordResetToken) :
    db.Kept { db with resetTokens := resetTokens } :=
  let keep := Kept.refl db
  ⟨keep.users, keep.profiles, keep.one⟩

theorem Spares.resetTokens (resetTokens : Table PasswordResetToken) :
    db.Spares u { db with resetTokens := resetTokens } :=
  let keep := Spares.refl u db
  ⟨keep.addresses, keep.email, keep.profile⟩

/-- One user's profile changes. -/
theorem Kept.update_profile (db : AccountDb) (userId : Nat) (f : Profile → Profile) :
    db.Kept { db with profiles := db.profiles.update userId f } := by
  refine ⟨(Kept.refl db).users, fun u profile found => ?_, id⟩
  rw [Table.get?_update, found]
  split <;> exact ⟨_, rfl⟩

theorem Spares.update_profile (db : AccountDb) (f : Profile → Profile) (other : u ≠ userId) :
    db.Spares u { db with profiles := db.profiles.update userId f } := by
  refine ⟨fun k a found own => ⟨k, a, found, own⟩, fun user found => ⟨user, found, rfl⟩, ?_⟩
  exact Table.get?_update_of_ne _ _ other

/-- One user's row of `AuthDb` changes, and stays as deleted as it was. -/
theorem kept_of_update {f : Account → Account} {tokens : Table EmailVerificationToken}
    (deleted : ∀ a, (f a).deletedAt = a.deletedAt)
    (one : db.auth.OneToken → AuthDb.OneToken ⟨db.auth.users.update userId f, tokens⟩) :
    db.Kept { db with auth := ⟨db.auth.users.update userId f, tokens⟩ } :=
  ⟨Table.rows_update (fun a _ => deleted a) (fun _ _ _ => rfl),
    fun _ profile found => ⟨profile, found⟩, one⟩

theorem spares_of_update {f : Account → Account} {tokens : Table EmailVerificationToken}
    (same : u = userId → ∀ a, (f a).email = a.email) :
    db.Spares u { db with auth := ⟨db.auth.users.update userId f, tokens⟩ } := by
  refine ⟨fun k a found own => ⟨k, a, found, own⟩, fun user found => ?_, rfl⟩
  rw [Table.get?_update, found]
  split
  · exact ⟨_, rfl, same ‹_› user⟩
  · exact ⟨user, rfl, rfl⟩

theorem resend_kept {rawToken : String} {now : Time} {auth : AuthDb}
    (tx : Prod.fst <$> createOrReplaceEmailVerificationToken hash userId rawToken now db.auth =
      .ok auth) : db.Kept { db with auth := auth } ∧ db.Spares u { db with auth := auth } := by
  obtain ⟨⟨_, created⟩, hcreate, rfl⟩ := map_eq_ok.mp tx
  obtain ⟨user, found, ⟨-, -, rfl⟩ | ⟨-, -, tokens, hupsert, rfl⟩⟩ := createOrReplace_ok hcreate
  · exact ⟨.refl db, .refl u db⟩
  · have keep := Kept.refl db
    have spare := Spares.refl u db
    refine ⟨⟨keep.users, keep.profiles, fun one => ?_⟩, ⟨spare.addresses, spare.email, rfl⟩⟩
    exact Replaced.oneToken one (upsertVerificationToken_ok one hupsert)

theorem verify_kept {rawToken : String} {now : Time} {auth : AuthDb}
    (tx : verifyEmailVerificationToken hash rawToken now db.auth = .ok auth) :
    db.Kept { db with auth := auth } ∧ db.Spares u { db with auth := auth } := by
  obtain ⟨id, token, user, -, -, -, -, -, rfl⟩ := verifyEmailVerificationToken_ok tx
  refine ⟨kept_of_update (fun _ => rfl) fun one i j a b ha hb => ?_, spares_of_update fun _ _ => rfl⟩
  rw [Table.get?_erase] at ha hb
  split at ha
  · cases ha
  · split at hb
    · cases hb
    · exact one i j a b ha hb

theorem change_kept {email rawToken : String} {now : Time} {auth : AuthDb} (one : db.auth.OneToken)
    (tx : changeUnverifiedUserEmail hash userId email rawToken now db.auth = .ok auth) :
    db.Kept { db with auth := auth } ∧ (u ≠ userId → db.Spares u { db with auth := auth }) := by
  obtain ⟨user, found, users, replaced⟩ := changeUnverifiedUserEmail_ok one tx
  obtain ⟨users', tokens⟩ := auth
  obtain rfl : users' = _ := users
  refine ⟨kept_of_update (fun _ => rfl) fun one => ?_, fun other => spares_of_update ?_⟩
  · exact Replaced.oneToken one replaced
  · exact fun same => absurd same other

theorem createAddress_spares {userExists : Bool} {body : CreateAddressData} (other : u ≠ userId) :
    db.Spares u { db with addresses := (postAddress userExists userId body db.addresses).1 } := by
  refine ⟨fun k a found own => ?_, fun user found => ⟨user, found, rfl⟩, rfl⟩
  unfold postAddress at found
  split at found
  · exact ⟨k, a, found, own⟩
  · rename_i created
    obtain ⟨data, -, created⟩ := bind_eq_ok.mp created
    rcases createAddress_owner created found with mine | ⟨k', a', found', own'⟩
    · exact absurd (own.symm.trans mine) other
    · exact ⟨k', a', found', own'.trans own⟩

theorem updateAddress_spares {addressId : Nat} {body : PatchAddressData} :
    db.Spares u { db with
      addresses := (patchAddress userId addressId body db.addresses).1 } := by
  refine ⟨fun k a found own => ?_, fun user found => ⟨user, found, rfl⟩, rfl⟩
  obtain ⟨a', found', own'⟩ := patchAddress_owner found
  exact ⟨k, a', found', own'.trans own⟩

theorem erase_spares {tombstone unusablePasswordHash : String} {now : Time}
    (tx : eraseAccount userId tombstone unusablePasswordHash now db = .ok db')
    (other : u ≠ userId) : db.Spares u db' := by
  obtain ⟨user, -, ⟨-, rfl⟩ | ⟨-, rfl⟩⟩ := eraseAccount_ok tx
  · exact .refl u _
  · refine ⟨fun k a found own => ?_, fun user found => ?_, ?_⟩
    · dsimp only [AccountDb.without] at found
      rw [Table.get?_eraseMany, Option.filter_eq_some_iff] at found
      exact ⟨k, a, found.1, own⟩
    · exact ⟨user, (Table.get?_update_of_ne _ _ other).trans found, rfl⟩
    · exact Table.get?_update_of_ne _ _ other

end AccountDb

/-! ### Transactions of a deleted user -/

namespace AccountRoute

variable {hash : String → String} {db : AccountDb} {u userId : Nat}

/-- A route that is not a deletion leaves users and deletions as they were. -/
theorem transact_kept (one : db.auth.OneToken) (route : AccountRoute)
    (change : ∀ tombstone password now, route ≠ .deleteCurrentUserAccount tombstone password now) :
    db.Kept (route.transact hash userId db) := by
  have keep := AccountDb.Kept.refl db
  cases route with
  | createAddress | updateAddress => exact ⟨keep.users, keep.profiles, keep.one⟩
  | updateCurrentUserProfile body =>
      unfold transact ColorfulLife.updateCurrentUserProfile
      dsimp only
      split
      · exact keep
      · exact .update_profile ..
  | changeCurrentUserEmail email rawToken now =>
      unfold transact
      dsimp only
      apply commit_invariant (I := fun auth => db.Kept { db with auth := auth }) keep
      exact fun auth tx => (AccountDb.change_kept (u := userId) one tx).1
  | resendVerification rawToken now =>
      unfold transact
      dsimp only
      apply commit_invariant (I := fun auth => db.Kept { db with auth := auth }) keep
      exact fun auth tx => (AccountDb.resend_kept (u := userId) tx).1
  | deleteCurrentUserAccount tombstone password now => exact absurd rfl (change _ _ _)

/-- A transaction that writes no personal data of a deleted user spares them. -/
theorem transact_spares {user : Account} (one : db.auth.OneToken)
    (found : db.auth.users.get? u = some user) (deleted : user.deletedAt ≠ none)
    (route : AccountRoute) (safe : u = userId → ¬ route.Writes hash userId db) :
    db.Spares u (route.transact hash userId db) := by
  have spare := AccountDb.Spares.refl u db
  cases route with
  | createAddress body =>
      by_cases own : u = userId
      · have rejected : ∀ data, body.parse ≠ .ok data := fun data h => safe own ⟨data, h⟩
        cases hparse : body.parse with
        | error e =>
            simp only [transact, postAddress, hparse]
            exact spare
        | ok data => exact absurd hparse (rejected data)
      · exact AccountDb.createAddress_spares own
  | updateAddress addressId body => exact AccountDb.updateAddress_spares
  | updateCurrentUserProfile body =>
      unfold transact ColorfulLife.updateCurrentUserProfile
      dsimp only
      split
      · exact spare
      · rename_i data hparse
        exact .update_profile _ _ fun own => safe own ⟨data, hparse⟩
  | changeCurrentUserEmail email rawToken now =>
      unfold transact
      dsimp only
      apply commit_invariant (I := fun auth => db.Spares u { db with auth := auth }) spare
      intro auth tx
      apply (AccountDb.change_kept one tx).2
      intro own
      exact safe own ((changeUnverifiedUserEmail_isOk one).mp ⟨auth, tx⟩)
  | resendVerification rawToken now =>
      unfold transact
      dsimp only
      apply commit_invariant (I := fun auth => db.Spares u { db with auth := auth }) spare
      exact fun auth tx => (AccountDb.resend_kept tx).2
  | deleteCurrentUserAccount tombstone password now =>
      unfold transact
      dsimp only
      apply commit_invariant (I := fun db' => db.Spares u db') spare
      intro db' tx
      by_cases own : u = userId
      · subst own
        obtain ⟨user', found', ⟨-, rfl⟩ | ⟨alive, -⟩⟩ := eraseAccount_ok tx
        · exact spare
        · exact absurd (Option.some.inj (found.symm.trans found') ▸ alive) deleted
      · exact AccountDb.erase_spares tx own

/-- A transaction that writes personal data of a deleted user breaks their
erasure. -/
theorem transact_breaks {user : Account} {e : Erasure} (one : db.auth.OneToken)
    (found : db.auth.users.get? e.userId = some user) (holds : e.Holds db) (route : AccountRoute)
    (writes : route.Writes hash e.userId db) : ¬ e.Holds (route.transact hash e.userId db) := by
  intro still
  cases route with
  | createAddress body =>
      obtain ⟨data, hparse⟩ := writes
      obtain ⟨k, a, stored, own⟩ := postAddress_stored e.userId db.addresses hparse
      refine still.addresses k a ?_ own
      rw [transact, found]
      exact stored
  | updateCurrentUserProfile body =>
      obtain ⟨data, hparse⟩ := writes
      have blank := still.profile
      simp only [transact, ColorfulLife.updateCurrentUserProfile, hparse, Table.get?_update_self,
        holds.profile, Option.map_some, Option.some.injEq] at blank
      exact ProfileBody.parse_apply hparse _ _ blank
  | changeCurrentUserEmail email rawToken now =>
      have changes : ∃ auth, changeUnverifiedUserEmail hash e.userId email rawToken now db.auth =
          .ok auth := (changeUnverifiedUserEmail_isOk one).mpr writes
      obtain ⟨auth, tx⟩ := changes
      obtain ⟨current, found', -, other, -⟩ := writes
      obtain ⟨-, -, users, -⟩ := changeUnverifiedUserEmail_ok one tx
      obtain ⟨after, there, after_email⟩ := still.email
      obtain ⟨before, found'', before_email⟩ := holds.email
      obtain rfl := Option.some.inj (found'.symm.trans found'')
      simp only [transact, commit, tx, users, Table.get?_update_self, found', Option.map_some,
        Option.some.injEq] at there
      subst there
      exact other (before_email.trans after_email.symm)
  | _ => exact writes

end AccountRoute

/-! ### The invariant -/

/-- Deletions and deleted users go together, every user has a profile, and a user
has one verification token at most. -/
structure ErasureInv (s : AccountState) : Prop where
  deleted : ∀ u user, s.db.auth.users.get? u = some user → user.deletedAt ≠ none →
    ∃ e ∈ s.erasures, e.userId = u
  erased : ∀ e ∈ s.erasures, ∃ user, s.db.auth.users.get? e.userId = some user ∧
    user.deletedAt ≠ none
  profiles : ∀ u user, s.db.auth.users.get? u = some user →
    ∃ profile, s.db.profiles.get? u = some profile
  one : s.db.auth.OneToken

namespace ErasureInv

variable {hash : String → String} {s : AccountState}

/-- A transaction that deletes nobody. -/
theorem kept (h : ErasureInv s) {db : AccountDb} {requests : Table AccountRequest}
    {resets : Table Nat} (kept : s.db.Kept db) :
    ErasureInv { s with db := db, requests := requests, resets := resets } where
  deleted := by
    intro u user found isDeleted
    obtain ⟨before, found', same⟩ := kept.users.backward found
    exact h.deleted u before found' (same ▸ isDeleted)
  erased := by
    intro e mem
    obtain ⟨before, found, isDeleted⟩ := h.erased e mem
    obtain ⟨user, found', same⟩ := kept.users.forward found
    exact ⟨user, found', same ▸ isDeleted⟩
  profiles := by
    intro u user found
    obtain ⟨before, found', -⟩ := kept.users.backward found
    obtain ⟨profile, hasProfile⟩ := h.profiles u before found'
    exact kept.profiles u profile hasProfile
  one := kept.one h.one

/-- A deletion. -/
theorem delete (h : ErasureInv s) {userId : Nat} {user : Account} {tombstone password : String}
    {now : Time} (found : s.db.auth.users.get? userId = some user)
    {requests : Table AccountRequest} : ErasureInv { s with
      db := s.db.without userId tombstone password now
      requests := requests
      erasures := ⟨userId, tombstone, password⟩ :: s.erasures } where
  deleted := by
    intro u after found' isDeleted
    rcases Table.update_cases found found' with ⟨rfl, -⟩ | ⟨-, old⟩
    · exact ⟨_, List.mem_cons_self, rfl⟩
    · obtain ⟨e, mem, own⟩ := h.deleted u after old isDeleted
      exact ⟨e, List.mem_cons_of_mem _ mem, own⟩
  erased := by
    intro e mem
    dsimp only [AccountDb.without]
    rw [Table.get?_update]
    split
    · rename_i own
      rw [own, found]
      exact ⟨_, rfl, Option.some_ne_none _⟩
    · rename_i other
      rcases List.mem_cons.mp mem with rfl | mem
      · exact absurd rfl other
      · exact h.erased e mem
  profiles := by
    intro u after found'
    have before : ∃ profile, s.db.profiles.get? u = some profile := by
      rcases Table.update_cases found found' with ⟨rfl, -⟩ | ⟨-, old⟩
      · exact h.profiles u user found
      · exact h.profiles u after old
    obtain ⟨profile, hasProfile⟩ := before
    dsimp only [AccountDb.without]
    rw [Table.get?_update, hasProfile]
    split <;> exact ⟨_, rfl⟩
  one := by
    intro i j a b ha hb
    dsimp only [AccountDb.without] at ha hb
    rw [Table.get?_eraseMany, Option.filter_eq_some_iff] at ha hb
    exact h.one i j a b ha.1 hb.1

end ErasureInv

/-! ### Steps -/

section Steps

variable {hash : String → String} {s : AccountState}

/-- A deletion is what its transaction does to a live user; otherwise it changes
nothing. -/
theorem deletion_cases (hash : String → String) (userId : Nat) (tombstone password : String)
    (now : Time) (db : AccountDb) :
    ((AccountRoute.deleteCurrentUserAccount tombstone password now).erasure userId db = none ∧
      (AccountRoute.deleteCurrentUserAccount tombstone password now).transact hash userId db = db) ∨
    ∃ user, db.auth.users.get? userId = some user ∧ user.deletedAt = none ∧
      (AccountRoute.deleteCurrentUserAccount tombstone password now).erasure userId db =
        some ⟨userId, tombstone, password⟩ ∧
      (AccountRoute.deleteCurrentUserAccount tombstone password now).transact hash userId db =
        db.without userId tombstone password now := by
  cases tx : eraseAccount userId tombstone password now db with
  | error e =>
      refine Or.inl ⟨?_, ?_⟩
      · simp [AccountRoute.erasure, tx, Except.isOk, Except.toBool]
      · simp [AccountRoute.transact, commit, tx]
  | ok db' =>
      obtain ⟨user, found, ⟨deleted, rfl⟩ | ⟨alive, rfl⟩⟩ := eraseAccount_ok tx
      · refine Or.inl ⟨?_, ?_⟩
        · simp [AccountRoute.erasure, authMiddleware, found, Option.filter, deleted]
        · simp [AccountRoute.transact, commit, tx]
      · refine Or.inr ⟨user, found, alive, ?_, ?_⟩
        · simp [AccountRoute.erasure, authMiddleware, found, Option.filter, alive, tx, Except.isOk,
            Except.toBool]
        · simp [AccountRoute.transact, commit, tx]

/-- A route that is not a deletion records none. -/
theorem erasure_eq_none {userId : Nat} {db : AccountDb} {route : AccountRoute}
    (other : ∀ tombstone password now, route ≠ .deleteCurrentUserAccount tombstone password now) :
    route.erasure userId db = none := by
  cases route with
  | deleteCurrentUserAccount tombstone password now => exact absurd rfl (other _ _ _)
  | _ => rfl

theorem isDeletion_or (route : AccountRoute) :
    (∃ tombstone password now, route = .deleteCurrentUserAccount tombstone password now) ∨
      ∀ tombstone password now, route ≠ .deleteCurrentUserAccount tombstone password now := by
  cases route with
  | deleteCurrentUserAccount tombstone password now => exact Or.inl ⟨_, _, _, rfl⟩
  | _ => exact Or.inr fun _ _ _ => nofun

/-- The database and the deletions after a step, beside what is under way. -/
theorem accountStep_cases (hash : String → String) (s : AccountState) (op : AccountOp) :
    (∃ requestId request, op = .transact requestId ∧ s.requests.get? requestId = some request ∧
      request.admitted = true ∧
      accountStep hash s op = { s with
        db := request.route.transact hash request.userId s.db
        requests := s.requests.erase requestId
        erasures := (request.route.erasure request.userId s.db).toList ++ s.erasures }) ∨
    (∃ db requests resets, s.db.Kept db ∧
      (∀ u user, s.db.auth.users.get? u = some user → user.deletedAt ≠ none → s.db.Spares u db) ∧
      op.SparesDeleted hash s ∧
      accountStep hash s op = { s with db := db, requests := requests, resets := resets }) := by
  have keep := AccountDb.Kept.refl s.db
  have spare : ∀ u user, s.db.auth.users.get? u = some user → user.deletedAt ≠ none →
      s.db.Spares u s.db := fun u _ _ _ => .refl u s.db
  cases op with
  | authenticate userId route =>
      refine Or.inr ?_
      unfold accountStep
      dsimp only
      split
      · exact ⟨_, _, _, keep, spare, trivial, rfl⟩
      · exact ⟨_, _, _, keep, spare, trivial, rfl⟩
  | precheck requestId =>
      refine Or.inr ?_
      unfold accountStep
      dsimp only
      split
      · exact ⟨_, _, _, keep, spare, trivial, rfl⟩
      · split
        · exact ⟨_, _, _, keep, spare, trivial, rfl⟩
        · exact ⟨_, _, _, keep, spare, trivial, rfl⟩
  | transact requestId =>
      cases found : s.requests.get? requestId with
      | none =>
          refine Or.inr ⟨s.db, s.requests, s.resets, keep, spare, ?_, ?_⟩
          · exact fun request _ there => nomatch found.symm.trans there
          · simp only [accountStep, found]
      | some request =>
          cases admitted : request.admitted with
          | false =>
              refine Or.inr ⟨s.db, s.requests, s.resets, keep, spare, ?_, ?_⟩
              · intro request' _ there admitted'
                obtain rfl := Option.some.inj (found.symm.trans there)
                exact nomatch admitted.symm.trans admitted'
              · simp only [accountStep, found, admitted, Bool.false_eq_true, if_false]
          | true =>
              refine Or.inl ⟨requestId, request, rfl, found, admitted, ?_⟩
              simp only [accountStep, found, admitted, if_true]
  | forgotPassword email =>
      refine Or.inr ?_
      unfold accountStep
      dsimp only
      split
      · exact ⟨_, _, _, keep, spare, trivial, rfl⟩
      · exact ⟨_, _, _, keep, spare, trivial, rfl⟩
  | createResetToken resetId rawToken now =>
      refine Or.inr ?_
      unfold accountStep
      dsimp only
      split
      · exact ⟨_, _, _, keep, spare, trivial, rfl⟩
      · rename_i userId _
        cases tx : createOrReplacePasswordResetToken hash userId rawToken now s.db with
        | error e => exact ⟨_, _, _, keep, spare, trivial, rfl⟩
        | ok db =>
            obtain ⟨resetTokens, rfl⟩ := createOrReplacePasswordResetToken_ok tx
            exact ⟨_, _, _, .resetTokens resetTokens, fun _ _ _ _ => .resetTokens resetTokens,
              trivial, rfl⟩
  | resetPassword rawToken passwordHash now =>
      refine Or.inr ?_
      unfold accountStep
      dsimp only
      cases tx : ColorfulLife.resetPassword hash rawToken passwordHash now s.db with
      | error e => exact ⟨_, _, _, keep, spare, trivial, rfl⟩
      | ok db =>
          obtain ⟨u, user, resetTokens, found, alive, rfl⟩ := resetPassword_ok tx
          refine ⟨_, _, _, ?_, fun v user' found' deleted => ?_, trivial, rfl⟩
          · have first := AccountDb.Kept.update_profile s.db u fun p =>
              { p with passwordHash := passwordHash }
            exact ⟨first.users, first.profiles, first.one⟩
          · have other : v ≠ u := by
              rintro rfl
              exact deleted (Option.some.inj (found.symm.trans found') ▸ alive)
            have first := AccountDb.Spares.update_profile s.db
              (fun p => { p with passwordHash := passwordHash }) other
            exact ⟨first.addresses, first.email, first.profile⟩
  | verifyEmail rawToken now =>
      refine Or.inr ?_
      unfold accountStep
      dsimp only
      cases tx : verifyEmailVerificationToken hash rawToken now s.db.auth with
      | error e => exact ⟨_, _, _, keep, spare, trivial, rfl⟩
      | ok auth =>
          exact ⟨_, _, _, (AccountDb.verify_kept (u := 0) tx).1,
            fun _ _ _ _ => (AccountDb.verify_kept tx).2, trivial, rfl⟩

theorem ErasureInv.step (h : ErasureInv s) (op : AccountOp) : ErasureInv (accountStep hash s op) := by
  rcases accountStep_cases hash s op with
    ⟨requestId, request, rfl, found, -, next⟩ | ⟨db, requests, resets, kept, -, -, next⟩
  · rw [next]
    rcases isDeletion_or request.route with ⟨tombstone, password, now, hroute⟩ | other
    · rw [hroute]
      rcases deletion_cases hash request.userId tombstone password now s.db with
        ⟨none_, same⟩ | ⟨user, there, -, recorded, deleted⟩
      · rw [none_, same]
        exact h.kept (.refl s.db)
      · rw [recorded, deleted]
        exact h.delete there
    · rw [erasure_eq_none other]
      exact h.kept (request.route.transact_kept h.one other)
  · rw [next]
    exact h.kept kept

/-- The erasure of a user that the step deletes. -/
theorem erased_new {db : AccountDb} {userId : Nat} {user : Account} {tombstone password : String}
    {now : Time} {profile : Profile} (found : db.auth.users.get? userId = some user)
    (hasProfile : db.profiles.get? userId = some profile) :
    Erasure.Holds ⟨userId, tombstone, password⟩ (db.without userId tombstone password now) where
  addresses := by
    intro k a stored
    dsimp only [AccountDb.without] at stored
    rw [Table.get?_eraseMany, Option.filter_eq_some_iff] at stored
    simpa using stored.2
  email := by
    dsimp only [AccountDb.without]
    rw [Table.get?_update_self, found]
    exact ⟨_, rfl, rfl⟩
  profile := by
    dsimp only [AccountDb.without]
    rw [Table.get?_update_self, hasProfile]
    rfl

/-- A step leaves deleted users erased exactly when it spares them. -/
theorem erased_step_iff (h : ErasureInv s) (erased : s.Erased) (op : AccountOp) :
    (accountStep hash s op).Erased ↔ op.SparesDeleted hash s := by
  rcases accountStep_cases hash s op with
    ⟨requestId, request, rfl, found, admitted, next⟩ |
      ⟨db, requests, resets, -, spares, safe, next⟩
  · constructor
    · intro still request' user found' _ there isDeleted writes
      obtain rfl := Option.some.inj (found.symm.trans found')
      obtain ⟨e, mem, own⟩ := h.deleted _ user there isDeleted
      rw [next] at still
      have after : e.Holds (request.route.transact hash request.userId s.db) :=
        still e (List.mem_append_right _ mem)
      rw [← own] at there writes after
      exact request.route.transact_breaks h.one there (erased e mem) writes after
    · intro safe e mem
      have spared : ∀ e ∈ s.erasures, e.Holds (request.route.transact hash request.userId s.db) := by
        intro e mem
        obtain ⟨user, there, isDeleted⟩ := h.erased e mem
        refine (erased e mem).spared (request.route.transact_spares h.one there isDeleted ?_)
        intro own
        exact safe request user found admitted (own ▸ there) isDeleted
      rw [next] at mem ⊢
      rcases List.mem_append.mp mem with new | old
      · rcases isDeletion_or request.route with ⟨tombstone, password, now, hroute⟩ | other
        · rw [hroute] at new ⊢
          rcases deletion_cases hash request.userId tombstone password now s.db with
            ⟨none_, -⟩ | ⟨user, there, -, recorded, deleted⟩
          · simp [none_] at new
          · rw [recorded, Option.toList_some, List.mem_singleton] at new
            obtain ⟨profile, hasProfile⟩ := h.profiles _ user there
            rw [new, deleted]
            exact erased_new there hasProfile
        · simp [erasure_eq_none other] at new
      · exact spared e old
  · refine ⟨fun _ => safe, fun _ e mem => ?_⟩
    rw [next] at mem ⊢
    obtain ⟨user, there, isDeleted⟩ := h.erased e mem
    exact (erased e mem).spared (spares _ user there isDeleted)

end Steps

/-! ### Runs -/

/-- Any users with their profiles, none of them deleted yet, and any requests
under way. -/
structure AccountStart (s : AccountState) : Prop where
  alive : ∀ u user, s.db.auth.users.get? u = some user → user.deletedAt = none
  profiles : ∀ u user, s.db.auth.users.get? u = some user →
    ∃ profile, s.db.profiles.get? u = some profile
  one : s.db.auth.OneToken
  erasures : s.erasures = []

theorem AccountStart.inv {s : AccountState} (start : AccountStart s) : ErasureInv s where
  deleted := fun u user found deleted => absurd (start.alive u user found) deleted
  erased := by simp [start.erasures]
  profiles := start.profiles
  one := start.one

/-- Deleted users stay erased in every state of a run exactly when no transaction
of the run starts that writes personal data of a user deleted by then. -/
theorem erasure_permanent (hash : String → String) {s : AccountState} (start : AccountStart s)
    (ops : List AccountOp) :
    (∀ xs, xs <+: ops → (run (accountStep hash) s xs).Erased) ↔
      ∀ t ∈ transitions (accountStep hash) s ops, t.2.SparesDeleted hash t.1 :=
  states_forall_iff (I := ErasureInv) (P := AccountState.Erased)
    (C := fun s op => op.SparesDeleted hash s) (fun _ op h => h.step op)
    (fun _ op h erased => erased_step_iff h erased op) start.inv
    (fun e mem => by simp [start.erasures] at mem) ops

/-- One verified customer. -/
def sampleAccounts : AccountState where
  db :=
    { auth :=
        { users := Table.empty.insert ⟨"ada@example.com", true, .customer, none⟩, tokens := .empty }
      profiles := Table.empty.insert ⟨"$2b$12$...", some "Ada", some "Lovelace", none⟩
      resetTokens := .empty
      addresses := .empty }
  requests := .empty
  resets := .empty
  erasures := []

theorem sampleAccounts_start : AccountStart sampleAccounts where
  alive := by
    intro u user found
    simp only [sampleAccounts, Table.get?_insert, Table.get?_empty] at found
    split at found
    · exact Option.some.inj found ▸ rfl
    · cases found
  profiles := by
    intro u user found
    simp only [sampleAccounts, Table.get?_insert, Table.get?_empty] at found
    split at found
    · rename_i own
      obtain rfl : u = 1 := own
      exact ⟨_, rfl⟩
    · cases found
  one := fun i j a b ha => nomatch ha
  erasures := rfl

def homeAddress : CreateAddressData :=
  ⟨"Ada Lovelace", "1 High Street", "London", "N1 1AA", "GB", none, none, none, none⟩

/-- A new address passes its checks, the account is deleted, and the address is
written. -/
def overtakenAddress : List AccountOp :=
  [.authenticate 1 (.createAddress homeAddress), .precheck 1,
    .authenticate 1 (.deleteCurrentUserAccount "deleted-1-aa@deleted.invalid" "$2b$12$x" 5),
    .precheck 2, .transact 2, .transact 1]

/-- The deleted customer has an address again. -/
theorem overtakenAddress_not_erased : AccountStart sampleAccounts ∧
    ¬ ∀ xs, xs <+: overtakenAddress → (run (accountStep id) sampleAccounts xs).Erased := by
  apply And.intro sampleAccounts_start
  intro all
  have last := all overtakenAddress List.prefix_rfl
  have holds := last ⟨1, "deleted-1-aa@deleted.invalid", "$2b$12$x"⟩ (by decide)
  exact holds.addresses 1 (homeAddress.row 1 true true) rfl rfl

/-- The address is written first. -/
def orderlyDeletion : List AccountOp :=
  [.authenticate 1 (.createAddress homeAddress), .precheck 1, .transact 1,
    .authenticate 1 (.deleteCurrentUserAccount "deleted-1-aa@deleted.invalid" "$2b$12$x" 5),
    .precheck 2, .transact 2]

theorem orderlyDeletion_spares :
    ∀ t ∈ transitions (accountStep id) sampleAccounts orderlyDeletion, t.2.SparesDeleted id t.1 := by
  simp only [orderlyDeletion, transitions, List.forall_mem_cons, List.not_mem_nil]
  refine ⟨trivial, trivial, ?_, trivial, trivial, ?_, fun _ none => none.elim⟩
  · intro request user there _ found deleted
    obtain rfl := Option.some.inj there
    obtain rfl := Option.some.inj found
    exact absurd rfl deleted
  · intro request user there _ _ _
    obtain rfl := Option.some.inj there
    exact id

theorem erasure_permanent_sample :
    (run (accountStep id) sampleAccounts orderlyDeletion).erasures.length = 1 ∧
    (run (accountStep id) sampleAccounts orderlyDeletion).Erased :=
  ⟨by decide, (erasure_permanent id sampleAccounts_start orderlyDeletion).mpr orderlyDeletion_spares
    orderlyDeletion List.prefix_rfl⟩

end ColorfulLife
