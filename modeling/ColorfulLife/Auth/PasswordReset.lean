/-
Password resets (`domain/auth/passwordResetService.ts`) beside the deletion of
accounts (`accountDeletionService.ts`), statement by statement.

A reset deletes its token before it reads the user, and a deletion locks the user
before it deletes the tokens. Each may so come to wait for the other; the database
then rolls one of them back. What commits is still what the atomic requests do, one
after the other (`resetCalls_serial`): the row of the token that a reset holds keeps a
deletion of its user from committing, and the lock on the user that a deletion holds
keeps new tokens out. On the atomic requests a password is set for the latest token
only, once, and never for a deleted account.
-/

import ColorfulLife.Auth.Accounts
import ColorfulLife.Relational.Locks

namespace ColorfulLife

open Relational

/-! ### Statements -/

/-- `FOR UPDATE` takes both locks of a user, an update of the row the first, and the
foreign key of a new token the second. A token's row is that of its user. -/
inductive AccountLock where
  | user (userId : Nat)
  | userKey (userId : Nat)
  | resetToken (userId : Nat)
  deriving DecidableEq, Repr

inductive ResetCall where
  | issue (userId : Nat) (rawToken : String) (now : Time)
  | reset (rawToken passwordHash : String) (decisionTime : Time)
  | erase (userId : Nat) (tombstone unusablePasswordHash : String) (now : Time)
  deriving DecidableEq, Repr

/-- What a transaction writes; a deletion, the tokens that it found. -/
inductive ResetWrite where
  | replace (id : Nat) (token : PasswordResetToken)
  | insert (token : PasswordResetToken)
  | consume (id userId : Nat) (passwordHash : String)
  | erase (userId : Nat) (tombstone unusablePasswordHash : String) (now : Time) (tokens : List Nat)
  deriving DecidableEq, Repr

abbrev ResetScript := Script AccountLock AccountDb ResetWrite

def AccountDb.tokenOf (userId : Nat) (db : AccountDb) : Option (Nat × PasswordResetToken) :=
  db.resetTokens.find? fun _ t => decide (t.userId = userId)

/-- The ids of a user's tokens. -/
def AccountDb.tokensOf (userId : Nat) (db : AccountDb) : List Nat :=
  (db.resetTokens.selectByKey fun _ t => decide (t.userId = userId)).map Prod.fst

section Scripts

variable (hash : String → String)

/-- The row of an upsert. -/
def newResetToken (userId : Nat) (rawToken : String) (now : Time) : PasswordResetToken where
  userId := userId
  tokenHash := hashPasswordResetToken hash rawToken
  expiresAt := now + resetTokenLifetimeMillis
  createdAt := now

/-- `createTokenInTransaction`: the upsert locks the row of the user's token or, in the
unique index on `userId`, its place. -/
def issueScript (userId : Nat) (rawToken : String) (now : Time) : ResetScript :=
  .read fun db =>
    if (db.auth.users.get? userId).isNone then .abort
    else .lock (.resetToken userId) <| .read fun db =>
      match db.tokenOf userId with
      | some (id, _) => .commit (.replace id (newResetToken hash userId rawToken now))
      | none =>
          .lock (.userKey userId) (.commit (.insert (newResetToken hash userId rawToken now)))

/-- `resetPassword`: `deleteMany` looks at the row again once it has locked it. -/
def resetScript (rawToken passwordHash : String) (decisionTime : Time) : ResetScript :=
  .read fun db =>
    match db.resetTokens.find? fun _ t =>
      decide (t.tokenHash = hashPasswordResetToken hash rawToken) with
    | none => .abort
    | some (id, token) =>
        if token.expiresAt ≤ decisionTime then .abort
        else .lock (.resetToken token.userId) <| .read fun db =>
          if (db.resetTokens.get? id).any fun t => decide
              (t.tokenHash = hashPasswordResetToken hash rawToken ∧ decisionTime < t.expiresAt) then
            .read fun db =>
              if (db.auth.users.get? token.userId).any fun user => decide (user.deletedAt = none) then
                .lock (.user token.userId) (.commit (.consume id token.userId passwordHash))
              else .abort
          else .abort

/-- `deleteCustomerAccountInTransaction`. -/
def eraseScript (userId : Nat) (tombstone unusablePasswordHash : String) (now : Time) :
    ResetScript :=
  .lock (.userKey userId) <| .lock (.user userId) <| .read fun db =>
    if (db.auth.users.get? userId).any fun user => decide
        (user.role ≠ .admin ∧ user.deletedAt = none) then
      .read fun db =>
        match db.tokensOf userId with
        | [] => .commit (.erase userId tombstone unusablePasswordHash now [])
        | _ :: _ => .lock (.resetToken userId) <| .read fun db =>
            .commit (.erase userId tombstone unusablePasswordHash now (db.tokensOf userId))
    else .abort

def ResetCall.script : ResetCall → ResetScript
  | .issue userId rawToken now => issueScript hash userId rawToken now
  | .reset rawToken passwordHash decisionTime => resetScript hash rawToken passwordHash decisionTime
  | .erase userId tombstone unusablePasswordHash now =>
      eraseScript userId tombstone unusablePasswordHash now

/-- The data after a commit; a broken unique index leaves it as it was. -/
def writeReset (db : AccountDb) : ResetWrite → AccountDb
  | .replace id token =>
      if db.resetTokens.clashes PasswordResetToken.clash id token = false then
        { db with resetTokens := db.resetTokens.update id fun _ => token }
      else db
  | .insert token =>
      if db.resetTokens.clashes PasswordResetToken.clash db.resetTokens.nextId token = false then
        { db with resetTokens := db.resetTokens.insert token }
      else db
  | .consume id userId passwordHash => { db with
      resetTokens := db.resetTokens.erase id
      profiles := db.profiles.update userId fun p => { p with passwordHash := passwordHash } }
  | .erase userId tombstone unusablePasswordHash now tokens =>
      if (db.auth.users.get? userId).all fun user =>
          !db.auth.users.clashes Account.clash userId { user with email := tombstone } then
        { db.without userId tombstone unusablePasswordHash now with
          resetTokens := db.resetTokens.eraseMany fun id _ => decide (id ∈ tokens) }
      else db

def resetCalls : LockCalls ResetCall AccountLock AccountDb ResetWrite where
  script := ResetCall.script hash
  effect := writeReset

/-- The request as one step. -/
def serve (db : AccountDb) : ResetCall → AccountDb
  | .issue userId rawToken now =>
      commit (createOrReplacePasswordResetToken hash userId rawToken now db) db
  | .reset rawToken passwordHash decisionTime =>
      commit (resetPassword hash rawToken passwordHash decisionTime db) db
  | .erase userId tombstone unusablePasswordHash now =>
      commit (eraseAccount userId tombstone unusablePasswordHash now db) db

end Scripts

/-! ### What transactions learn and rely on -/

def AccountDb.HasToken (db : AccountDb) (userId : Nat) : Prop :=
  ∃ id t, db.resetTokens.get? id = some t ∧ t.userId = userId

/-- What a transaction has locked and learnt at its commit. -/
def Reserved (held : List AccountLock) (db : AccountDb) : ResetWrite → Prop
  | .replace id token => .resetToken token.userId ∈ held ∧
      ∃ t, db.resetTokens.get? id = some t ∧ t.userId = token.userId
  | .insert token => .resetToken token.userId ∈ held ∧ .userKey token.userId ∈ held
  | .consume id userId _ => .resetToken userId ∈ held ∧ .user userId ∈ held ∧
      ∃ t, db.resetTokens.get? id = some t ∧ t.userId = userId
  | .erase userId _ _ _ tokens => .user userId ∈ held ∧ .userKey userId ∈ held ∧
      (db.HasToken userId → .resetToken userId ∈ held) ∧
      ∀ id t, db.resetTokens.get? id = some t → (id ∈ tokens ↔ t.userId = userId)

/-- What others leave alone. -/
structure AccountStays (held : List AccountLock) (db db' : AccountDb) : Prop where
  users : ∀ u, (db.auth.users.get? u).isSome → (db'.auth.users.get? u).isSome
  nextId : db.resetTokens.nextId ≤ db'.resetTokens.nextId
  /-- An id is that of one user's token. -/
  owners : ∀ id t', id < db.resetTokens.nextId → db'.resetTokens.get? id = some t' →
    ∃ t, db.resetTokens.get? id = some t ∧ t.userId = t'.userId
  user : ∀ u, .user u ∈ held → db'.auth.users.get? u = db.auth.users.get? u
  tokens : ∀ u, .resetToken u ∈ held → ∀ id t, t.userId = u →
    (db'.resetTokens.get? id = some t ↔ db.resetTokens.get? id = some t)
  /-- While a token is locked its user is not deleted. -/
  live : ∀ u, .resetToken u ∈ held → db.HasToken u →
    db'.auth.users.get? u = db.auth.users.get? u
  /-- While the key of a user is locked they get no token. -/
  closed : ∀ u, .userKey u ∈ held → ∀ id t', db'.resetTokens.get? id = some t' → t'.userId = u →
    ∃ t, db.resetTokens.get? id = some t ∧ t.userId = u

/-- `userId` and `tokenHash` are unique. -/
def AccountDb.ResetsUnique (db : AccountDb) : Prop :=
  db.resetTokens.Unique PasswordResetToken.clash

section Staying

variable {held held' : List AccountLock} {db db' db'' : AccountDb} {write : ResetWrite}

theorem AccountStays.refl (held : List AccountLock) (db : AccountDb) : AccountStays held db db where
  users := fun _ h => h
  nextId := le_rfl
  owners := fun _ t _ found => ⟨t, found, rfl⟩
  user := fun _ _ => rfl
  tokens := fun _ _ _ _ _ => Iff.rfl
  live := fun _ _ _ => rfl
  closed := fun _ _ _ t found own => ⟨t, found, own⟩

theorem AccountDb.HasToken.stays {u : Nat} (has : db.HasToken u) (h : AccountStays held db db')
    (mem : .resetToken u ∈ held) : db'.HasToken u := by
  obtain ⟨id, t, found, own⟩ := has
  exact ⟨id, t, (h.tokens u mem id t own).mpr found, own⟩

theorem AccountStays.trans (h : AccountStays held db db') (h' : AccountStays held db' db'') :
    AccountStays held db db'' where
  users := fun u is => h'.users u (h.users u is)
  nextId := h.nextId.trans h'.nextId
  owners := by
    intro id t'' old found''
    obtain ⟨t', found', same'⟩ := h'.owners id t'' (old.trans_le h.nextId) found''
    obtain ⟨t, found, same⟩ := h.owners id t' old found'
    exact ⟨t, found, same.trans same'⟩
  user := fun u mem => (h'.user u mem).trans (h.user u mem)
  tokens := fun u mem id t own => (h'.tokens u mem id t own).trans (h.tokens u mem id t own)
  live := fun u mem has => (h'.live u mem (has.stays h mem)).trans (h.live u mem has)
  closed := by
    intro u mem id t'' found'' own
    obtain ⟨t', found', own'⟩ := h'.closed u mem id t'' found'' own
    exact h.closed u mem id t' found' own'

/-- Fewer locks protect less. -/
theorem AccountStays.of_subset (h : AccountStays held' db db') (sub : ∀ r ∈ held, r ∈ held') :
    AccountStays held db db' where
  users := h.users
  nextId := h.nextId
  owners := h.owners
  user := fun u mem => h.user u (sub _ mem)
  tokens := fun u mem => h.tokens u (sub _ mem)
  live := fun u mem => h.live u (sub _ mem)
  closed := fun u mem => h.closed u (sub _ mem)

/-- A commit that only writes a token, to a place of its user. -/
theorem stays_of_token {token : PasswordResetToken} {id : Nat} {resetTokens : Table PasswordResetToken}
    (free : .resetToken token.userId ∉ held)
    (place : (∃ t, db.resetTokens.get? id = some t ∧ t.userId = token.userId) ∨
      db.resetTokens.nextId ≤ id ∧ .userKey token.userId ∉ held)
    (nextId : db.resetTokens.nextId ≤ resetTokens.nextId)
    (get : ∀ j, resetTokens.get? j = if j = id then some token else db.resetTokens.get? j) :
    AccountStays held db { db with resetTokens := resetTokens } := by
  have other : ∀ j t', resetTokens.get? j = some t' →
      (j = id ∧ t' = token) ∨ db.resetTokens.get? j = some t' := by
    intro j t' found
    rw [get] at found
    split at found
    · exact Or.inl ⟨‹_›, (Option.some.inj found).symm⟩
    · exact Or.inr found
  refine ⟨fun _ h => h, nextId, fun j t' old found => ?_, fun _ _ => rfl, fun u mem j t own => ?_,
    fun _ _ _ => rfl, fun u mem j t' found own => ?_⟩
  · rcases other j t' found with ⟨rfl, rfl⟩ | found
    · rcases place with ⟨t, found, same⟩ | ⟨new, -⟩
      · exact ⟨t, found, same⟩
      · exact absurd old new.not_gt
    · exact ⟨t', found, rfl⟩
  · -- the row is another user's
    have apart : t.userId ≠ token.userId := fun same => free (same ▸ own ▸ mem)
    show resetTokens.get? j = some t ↔ _
    rw [get]
    split
    · rename_i here
      subst here
      constructor
      · intro same
        exact absurd (congrArg PasswordResetToken.userId (Option.some.inj same)).symm apart
      · intro found
        rcases place with ⟨t', found', same⟩ | ⟨new, -⟩
        · obtain rfl := Option.some.inj (found.symm.trans found')
          exact absurd same apart
        · rw [Table.get?_of_nextId_le _ new] at found
          cases found
    · exact Iff.rfl
  · rcases other j t' found with ⟨rfl, rfl⟩ | found
    · rcases place with ⟨t, found, same⟩ | ⟨-, closed⟩
      · exact ⟨t, found, same.trans own⟩
      · exact absurd (own ▸ mem) closed
    · exact ⟨t', found, own⟩

/-- A commit that deletes tokens of one user, and may rewrite that user. -/
theorem stays_of_erased {u : Nat} {p : Nat → PasswordResetToken → Bool}
    (tokens : db'.resetTokens = db.resetTokens.eraseMany p)
    (own : ∀ id t, db.resetTokens.get? id = some t → p id t = true → t.userId = u)
    (free : db.HasToken u → .resetToken u ∉ held)
    (users : db'.auth.users = db.auth.users ∨ .user u ∉ held ∧
      ∃ f, db'.auth.users = db.auth.users.update u f) : AccountStays held db db' := by
  have stays : ∀ id t', db'.resetTokens.get? id = some t' → db.resetTokens.get? id = some t' := by
    intro id t' found
    rw [tokens, Table.get?_eraseMany] at found
    exact (Option.filter_eq_some_iff.mp found).1
  have others : ∀ v, (.user v ∈ held ∨ .resetToken v ∈ held ∧ db.HasToken v) →
      db'.auth.users.get? v = db.auth.users.get? v := by
    intro v known
    rcases users with same | ⟨notHeld, f, same⟩
    · rw [same]
    · have apart : v ≠ u := by
        rintro rfl
        rcases known with mem | ⟨mem, has⟩
        · exact notHeld mem
        · exact free has mem
      rw [same, Table.get?_update_of_ne _ _ apart]
  refine ⟨fun v is => ?_, (congrArg Table.nextId tokens).ge, fun id t' _ found => ?_,
    fun v mem => others v (Or.inl mem), fun v mem id t belongs => ⟨stays id t, fun found => ?_⟩,
    fun v mem has => others v (Or.inr ⟨mem, has⟩), fun v _ id t' found belongs => ?_⟩
  · rcases users with same | ⟨-, f, same⟩
    · rwa [same]
    · rw [same, Table.get?_update]
      split
      · rwa [Option.isSome_map]
      · exact is
  · exact ⟨t', stays id t' found, rfl⟩
  · rw [tokens, Table.get?_eraseMany, found]
    refine Option.filter_some_pos ?_
    rw [Bool.not_eq_true']
    by_contra gone
    have erased := own id t found (by simpa using gone)
    obtain rfl : v = u := belongs.symm.trans erased
    exact free ⟨id, t, found, belongs⟩ mem
  · exact ⟨t', stays id t' found, belongs⟩

/-- A commit leaves alone what others have locked. -/
theorem writeReset_stays (reserved : Reserved held db write) (disjoint : ∀ r ∈ held, r ∉ held') :
    AccountStays held' db (writeReset db write) := by
  cases write with
  | replace id token =>
      obtain ⟨lock, t, found, own⟩ := reserved
      rw [writeReset]
      split
      · refine stays_of_token (disjoint _ lock) (Or.inl ⟨t, found, own⟩) le_rfl fun j => ?_
        rw [Table.get?_update]
        by_cases here : j = id
        · rw [if_pos here, if_pos here, here, found]
          rfl
        · rw [if_neg here, if_neg here]
      · exact .refl held' db
  | insert token =>
      obtain ⟨lock, key⟩ := reserved
      rw [writeReset]
      split
      · exact stays_of_token (disjoint _ lock) (Or.inr ⟨le_rfl, disjoint _ key⟩) (Nat.le_succ _)
          fun j => Table.get?_insert _ _ j
      · exact .refl held' db
  | consume id userId passwordHash =>
      obtain ⟨lock, -, t, found, own⟩ := reserved
      refine stays_of_erased (u := userId) (p := fun j _ => decide (j = id)) rfl ?_
        (fun _ => disjoint _ lock) (Or.inl rfl)
      intro j t' found' here
      rw [of_decide_eq_true here, found] at found'
      exact Option.some.inj found' ▸ own
  | erase userId tombstone unusablePasswordHash now tokens =>
      obtain ⟨user, -, lock, exact_⟩ := reserved
      rw [writeReset]
      split
      · refine stays_of_erased (u := userId) (p := fun id _ => decide (id ∈ tokens)) rfl ?_
          (fun has => disjoint _ (lock has)) (Or.inr ⟨disjoint _ user,
            fun u => { u with email := tombstone, deletedAt := some now }, rfl⟩)
        exact fun id t found mem => (exact_ id t found).mp (of_decide_eq_true mem)
      · exact .refl held' db

/-- A commit keeps the indexes unique. -/
theorem writeReset_unique (unique : db.ResetsUnique) (reserved : Reserved held db write) :
    (writeReset db write).ResetsUnique := by
  have symm : ∀ a b, PasswordResetToken.clash a b = PasswordResetToken.clash b a := by
    intro a b
    simp only [PasswordResetToken.clash, eq_comm]
  cases write with
  | replace id token =>
      obtain ⟨-, t, found, -⟩ := reserved
      rw [writeReset]
      split
      · exact unique.update symm found ‹_›
      · exact unique
  | insert token =>
      rw [writeReset]
      split
      · exact unique.insert symm ‹_›
      · exact unique
  | consume id userId passwordHash => exact unique.eraseMany _
  | erase userId tombstone unusablePasswordHash now tokens =>
      rw [writeReset]
      split
      · exact unique.eraseMany _
      · exact unique

end Staying

/-! ### What commits come to -/

section Outcomes

variable {hash : String → String} {db db' : AccountDb}

theorem resetPassword_eq_ok {rawToken passwordHash : String} {decisionTime : Time} :
    resetPassword hash rawToken passwordHash decisionTime db = .ok db' ↔ ∃ id token user,
      (db.resetTokens.find? fun _ t =>
        decide (t.tokenHash = hashPasswordResetToken hash rawToken)) = some (id, token) ∧
      decisionTime < token.expiresAt ∧ db.auth.users.get? token.userId = some user ∧
      user.deletedAt = none ∧ db' = writeReset db (.consume id token.userId passwordHash) := by
  simp only [resetPassword, bind_eq_ok, orThrow_eq_ok, ensure_eq_ok, pure_eq_ok,
    Option.filter_eq_some_iff, decide_eq_true_eq]
  constructor
  · rintro ⟨⟨id, token⟩, found, -, unexpired, user, ⟨there, live⟩, rfl⟩
    exact ⟨id, token, user, found, unexpired, there, live, rfl⟩
  · rintro ⟨id, token, user, found, unexpired, there, live, rfl⟩
    exact ⟨(id, token), found, ⟨⟩, unexpired, user, ⟨there, live⟩, rfl⟩

theorem tokenOf_eq_none {userId : Nat} : db.tokenOf userId = none ↔ ¬ db.HasToken userId := by
  rw [AccountDb.tokenOf, Table.find?_eq_none]
  constructor
  · rintro absent ⟨id, t, found, own⟩
    exact absurd own (of_decide_eq_false (absent id t found))
  · exact fun absent id t found => decide_eq_false fun own => absent ⟨id, t, found, own⟩

theorem tokenOf_eq_some (unique : db.ResetsUnique) {userId id : Nat} {t : PasswordResetToken} :
    db.tokenOf userId = some (id, t) ↔ db.resetTokens.get? id = some t ∧ t.userId = userId := by
  constructor
  · intro read
    obtain ⟨found, own⟩ := Table.find?_eq_some read
    exact ⟨found, of_decide_eq_true own⟩
  · rintro ⟨found, own⟩
    cases read : db.tokenOf userId with
    | none => exact absurd ⟨id, t, found, own⟩ (tokenOf_eq_none.mp read)
    | some e =>
        obtain ⟨at_, same⟩ := Table.find?_eq_some read
        have clash : PasswordResetToken.clash e.2 t = true :=
          decide_eq_true (Or.inl ((of_decide_eq_true same).trans own.symm))
        have key := unique e.1 id e.2 t at_ found clash
        rw [key] at at_
        exact congrArg some (Prod.ext key (Option.some.inj (at_.symm.trans found)))

theorem mem_tokensOf {userId id : Nat} {t : PasswordResetToken}
    (found : db.resetTokens.get? id = some t) : id ∈ db.tokensOf userId ↔ t.userId = userId := by
  rw [AccountDb.tokensOf, List.mem_map]
  constructor
  · rintro ⟨⟨_, t'⟩, mem, rfl⟩
    obtain ⟨found', own⟩ := Table.mem_selectByKey.mp mem
    obtain rfl := Option.some.inj (found.symm.trans found')
    exact of_decide_eq_true own
  · exact fun own => ⟨(id, t), Table.mem_selectByKey.mpr ⟨found, decide_eq_true own⟩, rfl⟩

theorem tokensOf_eq_nil {userId : Nat} : db.tokensOf userId = [] ↔ ¬ db.HasToken userId := by
  constructor
  · rintro none_ ⟨id, t, found, own⟩
    have mem := (mem_tokensOf found).mpr own
    rw [none_] at mem
    cases mem
  · intro absent
    refine List.eq_nil_iff_forall_not_mem.mpr fun id mem => ?_
    obtain ⟨⟨_, t⟩, row, rfl⟩ := List.mem_map.mp mem
    obtain ⟨found, own⟩ := Table.mem_selectByKey.mp row
    exact absent ⟨_, t, found, of_decide_eq_true own⟩

theorem replace_serves {userId id : Nat} {rawToken : String} {now : Time} {t : PasswordResetToken}
    (user : (db.auth.users.get? userId).isSome) (found : db.tokenOf userId = some (id, t)) :
    writeReset db (.replace id (newResetToken hash userId rawToken now)) =
      serve hash db (.issue userId rawToken now) := by
  obtain ⟨account, there⟩ := Option.isSome_iff_exists.mp user
  rw [AccountDb.tokenOf] at found
  rw [serve, createOrReplacePasswordResetToken, there]
  simp only [orThrow, ok_bind, found]
  rw [commit_ensure]
  rfl

theorem insert_serves {userId : Nat} {rawToken : String} {now : Time}
    (user : (db.auth.users.get? userId).isSome) (none_ : db.tokenOf userId = none) :
    writeReset db (.insert (newResetToken hash userId rawToken now)) =
      serve hash db (.issue userId rawToken now) := by
  obtain ⟨account, there⟩ := Option.isSome_iff_exists.mp user
  rw [AccountDb.tokenOf] at none_
  rw [serve, createOrReplacePasswordResetToken, there]
  simp only [orThrow, ok_bind, none_]
  rw [commit_ensure]
  rfl

theorem consume_serves (unique : db.ResetsUnique) {id : Nat} {t : PasswordResetToken}
    {user : Account} {rawToken passwordHash : String} {decisionTime : Time}
    (found : db.resetTokens.get? id = some t)
    (same : t.tokenHash = hashPasswordResetToken hash rawToken) (unexpired : decisionTime < t.expiresAt)
    (there : db.auth.users.get? t.userId = some user) (live : user.deletedAt = none) :
    writeReset db (.consume id t.userId passwordHash) =
      serve hash db (.reset rawToken passwordHash decisionTime) := by
  have first : (db.resetTokens.find? fun _ t =>
      decide (t.tokenHash = hashPasswordResetToken hash rawToken)) = some (id, t) := by
    cases read : db.resetTokens.find? fun _ t =>
        decide (t.tokenHash = hashPasswordResetToken hash rawToken) with
    | none =>
        have absent := Table.find?_eq_none.mp read id t found
        exact absurd same (of_decide_eq_false absent)
    | some e =>
        obtain ⟨at_, hashed⟩ := Table.find?_eq_some read
        have clash : PasswordResetToken.clash e.2 t = true :=
          decide_eq_true (Or.inr ((of_decide_eq_true hashed).trans same.symm))
        have key := unique e.1 id e.2 t at_ found clash
        rw [key] at at_
        exact congrArg some (Prod.ext key (Option.some.inj (at_.symm.trans found)))
  have ran : resetPassword hash rawToken passwordHash decisionTime db =
      .ok (writeReset db (.consume id t.userId passwordHash)) :=
    resetPassword_eq_ok.mpr ⟨id, t, user, first, unexpired, there, live, rfl⟩
  rw [serve, ran, commit_ok]

theorem erase_serves {userId : Nat} {user : Account} {tombstone unusablePasswordHash : String}
    {now : Time} {tokens : List Nat} (there : db.auth.users.get? userId = some user)
    (role : user.role ≠ .admin) (live : user.deletedAt = none)
    (exact_ : ∀ id t, db.resetTokens.get? id = some t → (id ∈ tokens ↔ t.userId = userId)) :
    writeReset db (.erase userId tombstone unusablePasswordHash now tokens) =
      serve hash db (.erase userId tombstone unusablePasswordHash now) := by
  have rows : (db.resetTokens.eraseMany fun id _ => decide (id ∈ tokens)) =
      db.resetTokens.eraseMany fun _ t => decide (t.userId = userId) :=
    Table.eraseMany_congr fun id t found => decide_eq_decide.mpr (exact_ id t found)
  obtain ⟨email, verified, role_, deletedAt⟩ := user
  obtain rfl : deletedAt = none := live
  rw [serve, eraseAccount, deleteCustomerAccount, there, writeReset, there, rows]
  simp only [orThrow, ok_bind, ensure_of role, ne_eq, not_true_eq_false, if_false, decide_false,
    Option.any_some, Option.all_some, Bool.false_eq_true]
  by_cases free : db.auth.users.clashes Account.clash userId
      ⟨tombstone, verified, role_, none⟩ = false
  · rw [ensure_of free, if_pos (by rw [free]; rfl)]
    rfl
  · rw [ensure, if_neg free, if_neg (by rwa [Bool.not_eq_true'])]
    rfl

end Outcomes

/-! ### Every script comes to its request -/

section Scripts

variable {hash : String → String} {held : List AccountLock}

/-- At its commit a transaction does what its request would do at once. -/
def Serves (hash : String → String) (call : ResetCall) (held : List AccountLock)
    (db : AccountDb) : Option ResetWrite → Prop
  | some write => Reserved held db write ∧ writeReset db write = serve hash db call
  | none => True

abbrev Completes (hash : String → String) (call : ResetCall) (held : List AccountLock)
    (db : AccountDb) (script : ResetScript) : Prop :=
  script.Valid AccountDb.ResetsUnique AccountStays (Serves hash call) held db

theorem completes_issue (userId : Nat) (rawToken : String) (now : Time) (db : AccountDb) :
    Completes hash (.issue userId rawToken now) [] db (issueScript hash userId rawToken now) := by
  intro db₀ _ _
  dsimp only
  split
  · exact fun _ _ _ => trivial
  · rename_i there
    have user : (db₀.auth.users.get? userId).isSome := Option.isSome_iff_ne_none.mpr
      fun absent => there (Option.isNone_iff_eq_none.mpr absent)
    intro db₁ _ first db₂ unique₂ second
    have user₂ := second.users userId (first.users userId user)
    change Completes hash (.issue userId rawToken now) _ db₂ (match db₂.tokenOf userId with
      | some (id, _) => _
      | none => _)
    cases read : db₂.tokenOf userId with
    | some e =>
        obtain ⟨id, t⟩ := e
        obtain ⟨found, own⟩ := (tokenOf_eq_some unique₂).mp read
        intro db₃ unique₃ third
        have lock : AccountLock.resetToken userId ∈ [AccountLock.resetToken userId] :=
          List.mem_cons_self
        have still := (third.tokens userId lock id t own).mpr found
        exact ⟨⟨lock, t, still, own⟩, replace_serves (third.users userId user₂)
          ((tokenOf_eq_some unique₃).mpr ⟨still, own⟩)⟩
    | none =>
        have absent := tokenOf_eq_none.mp read
        intro db₃ _ third db₄ _ fourth
        have later : AccountStays [.resetToken userId] db₂ db₄ :=
          third.trans (fourth.of_subset fun r mem => List.mem_cons_of_mem _ mem)
        have absent₄ : ¬ db₄.HasToken userId := by
          rintro ⟨id, t, found, own⟩
          exact absent ⟨id, t, (later.tokens userId List.mem_cons_self id t own).mp found, own⟩
        exact ⟨⟨List.mem_cons_of_mem _ List.mem_cons_self, List.mem_cons_self⟩,
          insert_serves (later.users userId user₂) (tokenOf_eq_none.mpr absent₄)⟩

theorem completes_reset (rawToken passwordHash : String) (decisionTime : Time) (db : AccountDb) :
    Completes hash (.reset rawToken passwordHash decisionTime) [] db
      (resetScript hash rawToken passwordHash decisionTime) := by
  intro db₀ _ _
  change Completes hash (.reset rawToken passwordHash decisionTime) _ db₀
    (match db₀.resetTokens.find? fun _ t =>
      decide (t.tokenHash = hashPasswordResetToken hash rawToken) with
    | none => _
    | some (id, token) => _)
  cases read : db₀.resetTokens.find? fun _ t =>
      decide (t.tokenHash = hashPasswordResetToken hash rawToken) with
  | none => exact fun _ _ _ => trivial
  | some e =>
      obtain ⟨id, token⟩ := e
      obtain ⟨found, -⟩ := Table.find?_eq_some read
      dsimp only
      split
      · exact fun _ _ _ => trivial
      · intro db₁ _ first db₂ _ second
        dsimp only
        split
        · rename_i still
          obtain ⟨t, found₂, valid⟩ := (Option.any_eq_true ..).mp still
          obtain ⟨same, unexpired⟩ := of_decide_eq_true valid
          have change : AccountStays [] db₀ db₂ :=
            first.trans (second.of_subset fun r mem => by cases mem)
          have own : t.userId = token.userId := by
            obtain ⟨t₀, found₀, owner⟩ := change.owners id t (Table.lt_nextId found) found₂
            obtain rfl := Option.some.inj (found.symm.trans found₀)
            exact owner.symm
          intro db₃ _ third
          dsimp only
          split
          · rename_i alive
            obtain ⟨user, there, notDeleted⟩ := (Option.any_eq_true ..).mp alive
            intro db₄ _ fourth db₅ unique₅ fifth
            have lock : AccountLock.resetToken token.userId ∈ [AccountLock.resetToken token.userId] :=
              List.mem_cons_self
            have last : AccountStays [.resetToken token.userId] db₃ db₅ :=
              fourth.trans (fifth.of_subset fun r mem => List.mem_cons_of_mem _ mem)
            have found₃ := (third.tokens token.userId lock id t own).mpr found₂
            have found₅ := (last.tokens token.userId lock id t own).mpr found₃
            have there₅ := (last.live token.userId lock ⟨id, t, found₃, own⟩).trans there
            refine ⟨⟨List.mem_cons_of_mem _ lock, List.mem_cons_self, t, found₅, own⟩, ?_⟩
            exact own ▸ consume_serves unique₅ found₅ same unexpired (own ▸ there₅)
              (of_decide_eq_true notDeleted)
          · exact fun _ _ _ => trivial
        · exact fun _ _ _ => trivial

theorem completes_erase (userId : Nat) (tombstone unusablePasswordHash : String) (now : Time)
    (db : AccountDb) : Completes hash (.erase userId tombstone unusablePasswordHash now) [] db
      (eraseScript userId tombstone unusablePasswordHash now) := by
  intro db₀ _ _ db₁ _ _ db₂ _ _
  dsimp only
  split
  · rename_i admits
    obtain ⟨user, there, checks⟩ := (Option.any_eq_true ..).mp admits
    obtain ⟨role, live⟩ := of_decide_eq_true checks
    have row : AccountLock.user userId ∈ [AccountLock.user userId, .userKey userId] :=
      List.mem_cons_self
    have key : AccountLock.userKey userId ∈ [AccountLock.user userId, .userKey userId] :=
      List.mem_cons_of_mem _ List.mem_cons_self
    intro db₃ _ third
    change Completes hash (.erase userId tombstone unusablePasswordHash now) _ db₃
      (match db₃.tokensOf userId with
      | [] => _
      | _ :: _ => _)
    cases tokens : db₃.tokensOf userId with
    | nil =>
        intro db₄ _ fourth
        have absent : ¬ db₄.HasToken userId := by
          rintro ⟨id, t, found, own⟩
          obtain ⟨t₃, found₃, own₃⟩ := fourth.closed userId key id t found own
          exact tokensOf_eq_nil.mp tokens ⟨id, t₃, found₃, own₃⟩
        have exact_ : ∀ id t, db₄.resetTokens.get? id = some t → (id ∈ [] ↔ t.userId = userId) :=
          fun id t found => ⟨fun mem => (List.not_mem_nil mem).elim,
            fun own => absurd ⟨id, t, found, own⟩ absent⟩
        have there₄ := ((third.trans fourth).user userId row).trans there
        exact ⟨⟨row, key, fun has => absurd has absent, exact_⟩,
          erase_serves there₄ role live exact_⟩
    | cons first rest =>
        intro db₄ _ fourth db₅ _ fifth db₆ _ sixth
        have sub : ∀ r ∈ [AccountLock.user userId, .userKey userId],
            r ∈ [AccountLock.resetToken userId, .user userId, .userKey userId] :=
          fun r mem => List.mem_cons_of_mem _ mem
        have lock : AccountLock.resetToken userId ∈
            [AccountLock.resetToken userId, .user userId, .userKey userId] := List.mem_cons_self
        have there₆ := ((third.trans (fourth.trans ((fifth.trans sixth).of_subset sub))).user userId
          row).trans there
        have exact_ : ∀ id t, db₆.resetTokens.get? id = some t →
            (id ∈ db₅.tokensOf userId ↔ t.userId = userId) := by
          intro id t found
          constructor
          · intro mem
            obtain ⟨⟨_, t₅⟩, selected, rfl⟩ := List.mem_map.mp mem
            obtain ⟨found₅, own⟩ := Table.mem_selectByKey.mp selected
            have own := of_decide_eq_true own
            have found₆ := (sixth.tokens userId lock _ t₅ own).mpr found₅
            exact Option.some.inj (found.symm.trans found₆) ▸ own
          · exact fun own => (mem_tokensOf ((sixth.tokens userId lock id t own).mp found)).mpr own
        exact ⟨⟨sub _ row, sub _ key, fun _ => lock, exact_⟩,
          erase_serves there₆ role live exact_⟩
  · exact fun _ _ _ => trivial

variable (hash) in
theorem resetCalls_guarantees : (resetCalls hash).Guarantees (fun _ => True)
    AccountDb.ResetsUnique AccountStays (fun call _ => Serves hash call) where
  refl := AccountStays.refl
  trans := fun _ _ _ _ => AccountStays.trans
  script := by
    intro call db _ _
    cases call with
    | issue userId rawToken now => exact completes_issue userId rawToken now db
    | reset rawToken passwordHash decisionTime =>
        exact completes_reset rawToken passwordHash decisionTime db
    | erase userId tombstone unusablePasswordHash now =>
        exact completes_erase userId tombstone unusablePasswordHash now db
  commit := fun _ _ _ _ _ unique serves => writeReset_unique unique serves.1
  others := fun _ _ _ _ _ _ _ serves disjoint => writeReset_stays serves.1 disjoint

/-- However the statements interleave, and whatever the database rolls back, the data is
that of requests that came in, each at once and no more often than it came in. -/
theorem resetCalls_serial (hash : String → String) {db : AccountDb} (unique : db.ResetsUnique)
    (moves : List (LockMove ResetCall)) : ∃ served : List ResetCall,
      served.Subperm (startedCalls moves) ∧
      (run (lockStep (resetCalls hash)) (.quiet db) moves).data = run (serve hash) db served := by
  obtain ⟨served, started, same⟩ := (resetCalls_guarantees hash).serial
    (fun _ _ _ _ _ _ serves => serves.2) (.quiet unique) moves fun _ _ _ _ => trivial
  have none_ : (LockState.quiet db : LockState ResetCall AccountLock AccountDb ResetWrite).running =
    0 := rfl
  rw [none_, zero_add, Multiset.coe_le] at started
  exact ⟨served, started, same⟩

end Scripts

/-! ### Tokens of the atomic requests -/

section Tokens

variable {hash : String → String} {db db' : AccountDb} {u : Nat}

/-- The request writes the token of the user: a new one, one that is spent, or none once
the account is deleted. -/
def ResetCall.Writes (hash : String → String) (db : AccountDb) (u : Nat) : ResetCall → Prop
  | .issue userId rawToken now => userId = u ∧
      ∃ db', createOrReplacePasswordResetToken hash userId rawToken now db = .ok db'
  | .reset rawToken passwordHash decisionTime => ∃ id token db',
      (db.resetTokens.find? fun _ t =>
        decide (t.tokenHash = hashPasswordResetToken hash rawToken)) = some (id, token) ∧
      token.userId = u ∧ resetPassword hash rawToken passwordHash decisionTime db = .ok db'
  | .erase userId tombstone unusablePasswordHash now => userId = u ∧
      ∃ db' user, db.auth.users.get? u = some user ∧ user.deletedAt = none ∧
        eraseAccount userId tombstone unusablePasswordHash now db = .ok db'

/-- An upsert finds the user's token, or there is none. -/
theorem issue_ok {userId : Nat} {rawToken : String} {now : Time}
    (h : createOrReplacePasswordResetToken hash userId rawToken now db = .ok db') :
    (∃ id t, db.tokenOf userId = some (id, t) ∧ db'.resetTokens =
        db.resetTokens.update id fun _ => newResetToken hash userId rawToken now) ∨
      db.tokenOf userId = none ∧
        db'.resetTokens = db.resetTokens.insert (newResetToken hash userId rawToken now) := by
  simp only [createOrReplacePasswordResetToken, bind_eq_ok, orThrow_eq_ok] at h
  obtain ⟨user, -, h⟩ := h
  cases read : db.tokenOf userId with
  | some e =>
      have found : (db.resetTokens.find? fun _ t => decide (t.userId = userId)) = some e := read
      simp only [found, bind_eq_ok, ensure_eq_ok, pure_eq_ok] at h
      obtain ⟨-, -, rfl⟩ := h
      exact Or.inl ⟨e.1, e.2, rfl, rfl⟩
  | none =>
      have absent : (db.resetTokens.find? fun _ t => decide (t.userId = userId)) = none := read
      simp only [absent, bind_eq_ok, ensure_eq_ok, pure_eq_ok] at h
      obtain ⟨-, -, rfl⟩ := h
      exact Or.inr ⟨rfl, rfl⟩

/-- A user has one token. -/
theorem token_unique (unique : db.ResetsUnique) {i j : Nat} {a b : PasswordResetToken}
    (ha : db.resetTokens.get? i = some a) (hb : db.resetTokens.get? j = some b)
    (same : a.userId = b.userId) : i = j :=
  unique i j a b ha hb (decide_eq_true (Or.inl same))

/-- A token is that of a request, or was there and is left alone. -/
theorem serve_token (unique : db.ResetsUnique) {call : ResetCall} {id : Nat}
    {t : PasswordResetToken} (found : (serve hash db call).resetTokens.get? id = some t) :
    (db.resetTokens.get? id = some t ∧ ¬ call.Writes hash db t.userId) ∨
      ∃ rawToken now, call = .issue t.userId rawToken now ∧
        t = newResetToken hash t.userId rawToken now := by
  cases call with
  | issue userId rawToken now =>
      cases tx : createOrReplacePasswordResetToken hash userId rawToken now db with
      | error e =>
          rw [serve, tx, commit_error] at found
          refine Or.inl ⟨found, ?_⟩
          rintro ⟨-, db', ok⟩
          rw [tx] at ok
          cases ok
      | ok db' =>
          rw [serve, tx, commit_ok] at found
          rcases issue_ok tx with ⟨i, old, read, rows⟩ | ⟨read, rows⟩
          · obtain ⟨there, own⟩ := (tokenOf_eq_some unique).mp read
            rw [rows] at found
            rcases Table.update_cases there found with ⟨rfl, rfl⟩ | ⟨other, found⟩
            · exact Or.inr ⟨rawToken, now, rfl, rfl⟩
            · refine Or.inl ⟨found, ?_⟩
              rintro ⟨same, -⟩
              exact other (token_unique unique found there (own.trans same).symm)
          · rw [rows] at found
            rcases Table.insert_cases found with ⟨rfl, rfl⟩ | found
            · exact Or.inr ⟨rawToken, now, rfl, rfl⟩
            · refine Or.inl ⟨found, ?_⟩
              rintro ⟨same, -⟩
              exact tokenOf_eq_none.mp read ⟨id, t, found, same.symm⟩
  | reset rawToken passwordHash decisionTime =>
      cases tx : resetPassword hash rawToken passwordHash decisionTime db with
      | error e =>
          rw [serve, tx, commit_error] at found
          refine Or.inl ⟨found, ?_⟩
          rintro ⟨_, _, db', -, -, ok⟩
          rw [tx] at ok
          cases ok
      | ok db' =>
          rw [serve, tx, commit_ok] at found
          obtain ⟨i, token, user, first, -, -, -, rfl⟩ := resetPassword_eq_ok.mp tx
          rw [writeReset, Table.get?_erase] at found
          split at found
          · cases found
          · rename_i other
            refine Or.inl ⟨found, ?_⟩
            rintro ⟨j, token', db', first', own, -⟩
            obtain ⟨rfl, rfl⟩ := Prod.mk.inj (Option.some.inj (first.symm.trans first'))
            exact other (token_unique unique found (Table.find?_eq_some first).1 own.symm)
  | erase userId tombstone unusablePasswordHash now =>
      cases tx : eraseAccount userId tombstone unusablePasswordHash now db with
      | error e =>
          rw [serve, tx, commit_error] at found
          refine Or.inl ⟨found, ?_⟩
          rintro ⟨-, db', _, -, -, ok⟩
          rw [tx] at ok
          cases ok
      | ok db' =>
          rw [serve, tx, commit_ok] at found
          obtain ⟨user, there, ⟨deleted, rfl⟩ | ⟨live, rfl⟩⟩ := eraseAccount_ok tx
          · refine Or.inl ⟨found, ?_⟩
            rintro ⟨rfl, _, user', there', live, -⟩
            obtain rfl := Option.some.inj (there.symm.trans there')
            exact deleted live
          · rw [AccountDb.without, Table.get?_eraseMany] at found
            obtain ⟨there, kept⟩ := Option.filter_eq_some_iff.mp found
            refine Or.inl ⟨there, ?_⟩
            rintro ⟨same, -⟩
            rw [Bool.not_eq_true', decide_eq_false_iff_not] at kept
            exact kept same.symm

theorem serve_unique (unique : db.ResetsUnique) (call : ResetCall) :
    (serve hash db call).ResetsUnique := by
  cases call with
  | issue userId rawToken now =>
      cases user : db.auth.users.get? userId with
      | none =>
          rw [serve, createOrReplacePasswordResetToken, user]
          exact unique
      | some account =>
          have there : (db.auth.users.get? userId).isSome := Option.isSome_of_eq_some user
          cases read : db.tokenOf userId with
          | some e =>
              obtain ⟨id, t⟩ := e
              have reserved : Reserved [.resetToken userId] db
                  (.replace id (newResetToken hash userId rawToken now)) :=
                ⟨List.mem_cons_self, t, (tokenOf_eq_some unique).mp read⟩
              rw [← replace_serves there read]
              exact writeReset_unique unique reserved
          | none =>
              have reserved : Reserved [.resetToken userId, .userKey userId] db
                  (.insert (newResetToken hash userId rawToken now)) :=
                ⟨List.mem_cons_self, List.mem_cons_of_mem _ List.mem_cons_self⟩
              rw [← insert_serves there read]
              exact writeReset_unique unique reserved
  | reset rawToken passwordHash decisionTime =>
      refine commit_invariant (I := AccountDb.ResetsUnique) unique fun db' tx => ?_
      obtain ⟨id, token, user, -, -, -, -, rfl⟩ := resetPassword_eq_ok.mp tx
      exact unique.eraseMany _
  | erase userId tombstone unusablePasswordHash now =>
      refine commit_invariant (I := AccountDb.ResetsUnique) unique fun db' tx => ?_
      obtain ⟨user, -, ⟨-, rfl⟩ | ⟨-, rfl⟩⟩ := eraseAccount_ok tx
      · exact unique
      · exact unique.eraseMany _

/-- No token has been issued. -/
def NoResets (db : AccountDb) : Prop := ∀ id, db.resetTokens.get? id = none

theorem NoResets.unique (fresh : NoResets db) : db.ResetsUnique := by
  intro i j a b ha
  rw [fresh i] at ha
  cases ha

theorem NoResets.run_unique (fresh : NoResets db) (served : List ResetCall) :
    (run (serve hash) db served).ResetsUnique :=
  run_invariant (I := AccountDb.ResetsUnique) (fun _ call unique => serve_unique unique call)
    fresh.unique served

/-- Where a token of a user comes from: the latest request that wrote it. -/
def Issued (hash : String → String) (db : AccountDb) (served : List ResetCall)
    (t : PasswordResetToken) : Prop :=
  ∃ earlier rawToken now between,
    served = earlier ++ .issue t.userId rawToken now :: between ∧
    t = newResetToken hash t.userId rawToken now ∧
    ∀ x ∈ transitions (serve hash)
        (run (serve hash) db (earlier ++ [.issue t.userId rawToken now])) between,
      ¬ x.2.Writes hash x.1 t.userId

theorem issued_run (fresh : NoResets db) (served : List ResetCall) {id : Nat}
    {t : PasswordResetToken}
    (found : (run (serve hash) db served).resetTokens.get? id = some t) :
    Issued hash db served t := by
  induction served using List.reverseRecOn generalizing id t with
  | nil =>
      rw [run_nil, fresh] at found
      cases found
  | append_singleton served call ih =>
      have unique : (run (serve hash) db served).ResetsUnique := fresh.run_unique served
      rw [run_append, run_cons, run_nil] at found
      rcases serve_token unique found with ⟨before, kept⟩ | ⟨rawToken, now, rfl, row⟩
      · obtain ⟨earlier, rawToken, now, between, rfl, row, quiet⟩ := ih before
        refine ⟨earlier, rawToken, now, between ++ [call], by simp, row, fun x mem => ?_⟩
        rw [transitions_append] at mem
        rcases List.mem_append.mp mem with old | last
        · exact quiet x old
        · obtain rfl := List.mem_singleton.mp last
          rw [← run_append, List.append_assoc]
          exact kept
      · exact ⟨served, rawToken, now, [], rfl, row, fun x mem => (List.not_mem_nil mem).elim⟩

/-- A reset sets the password of a user who is not deleted. -/
theorem reset_writes {rawToken passwordHash : String} {decisionTime : Time}
    (writes : (ResetCall.reset rawToken passwordHash decisionTime).Writes hash db u) :
    ∃ id token user, db.resetTokens.get? id = some token ∧ token.userId = u ∧
      token.tokenHash = hashPasswordResetToken hash rawToken ∧ decisionTime < token.expiresAt ∧
      db.auth.users.get? u = some user ∧ user.deletedAt = none ∧
      serve hash db (.reset rawToken passwordHash decisionTime) =
        writeReset db (.consume id u passwordHash) := by
  obtain ⟨id, token, db', first, own, tx⟩ := writes
  obtain ⟨id', token', user, first', unexpired, there, live, rfl⟩ := resetPassword_eq_ok.mp tx
  obtain ⟨rfl, rfl⟩ := Prod.mk.inj (Option.some.inj (first.symm.trans first'))
  obtain ⟨found, hashed⟩ := Table.find?_eq_some first
  refine ⟨id, token, user, found, own, of_decide_eq_true hashed, unexpired, own ▸ there, live, ?_⟩
  rw [serve, tx, commit_ok, own]

/-- The request sets a password. -/
inductive ResetCall.SetsPassword : ResetCall → Prop where
  | reset (rawToken passwordHash : String) (decisionTime : Time) :
      SetsPassword (.reset rawToken passwordHash decisionTime)
  | erase (userId : Nat) (tombstone unusablePasswordHash : String) (now : Time) :
      SetsPassword (.erase userId tombstone unusablePasswordHash now)

/-- A user and their password change with a reset of theirs or with their deletion, and
neither happens to a deleted account. -/
theorem serve_account (call : ResetCall) (u : Nat) :
    ((serve hash db call).profiles.get? u = db.profiles.get? u ∧
      (serve hash db call).auth.users.get? u = db.auth.users.get? u) ∨
    (call.SetsPassword ∧ call.Writes hash db u ∧
      ∃ user, db.auth.users.get? u = some user ∧ user.deletedAt = none) := by
  cases call with
  | issue userId rawToken now =>
      cases tx : createOrReplacePasswordResetToken hash userId rawToken now db with
      | error e =>
          rw [serve, tx]
          exact Or.inl ⟨rfl, rfl⟩
      | ok db' =>
          obtain ⟨_, rfl⟩ := createOrReplacePasswordResetToken_ok tx
          rw [serve, tx]
          exact Or.inl ⟨rfl, rfl⟩
  | reset rawToken passwordHash decisionTime =>
      cases tx : resetPassword hash rawToken passwordHash decisionTime db with
      | error e =>
          rw [serve, tx]
          exact Or.inl ⟨rfl, rfl⟩
      | ok db' =>
          obtain ⟨id, token, user, first, -, there, live, rfl⟩ := resetPassword_eq_ok.mp tx
          by_cases own : u = token.userId
          · exact Or.inr ⟨.reset .., ⟨id, token, _, first, own.symm, tx⟩, user, own ▸ there, live⟩
          · rw [serve, tx]
            exact Or.inl ⟨Table.get?_update_of_ne _ _ own, rfl⟩
  | erase userId tombstone unusablePasswordHash now =>
      cases tx : eraseAccount userId tombstone unusablePasswordHash now db with
      | error e =>
          rw [serve, tx]
          exact Or.inl ⟨rfl, rfl⟩
      | ok db' =>
          obtain ⟨user, there, ⟨-, rfl⟩ | ⟨live, rfl⟩⟩ := eraseAccount_ok tx
          · rw [serve, tx]
            exact Or.inl ⟨rfl, rfl⟩
          · by_cases own : u = userId
            · subst own
              exact Or.inr ⟨.erase .., ⟨rfl, _, user, there, live, tx⟩, user, there, live⟩
            · rw [serve, tx]
              exact Or.inl ⟨Table.get?_update_of_ne _ _ own, Table.get?_update_of_ne _ _ own⟩

end Tokens

/-! ### Resets over whole runs -/

/-- What holds of requests that are served one after the other. -/
structure PasswordRules (hash : String → String) (db : AccountDb) (served : List ResetCall) :
    Prop where
  /-- A reset spends the latest token of its user, before it expires. -/
  resets : ∀ before rawToken passwordHash decisionTime after u,
    served = before ++ .reset rawToken passwordHash decisionTime :: after →
    (ResetCall.reset rawToken passwordHash decisionTime).Writes hash
      (run (serve hash) db before) u →
    ∃ earlier issued now between, before = earlier ++ .issue u issued now :: between ∧
      hashPasswordResetToken hash issued = hashPasswordResetToken hash rawToken ∧
      decisionTime < now + resetTokenLifetimeMillis ∧
      ∀ x ∈ transitions (serve hash) (run (serve hash) db (earlier ++ [.issue u issued now])) between,
        ¬ x.2.Writes hash x.1 u
  /-- Between two resets of a user a token is issued to them. -/
  once : ∀ first raw₁ password₁ time₁ second raw₂ password₂ time₂ after u,
    served = first ++ .reset raw₁ password₁ time₁ :: (second ++ .reset raw₂ password₂ time₂ :: after) →
    (ResetCall.reset raw₁ password₁ time₁).Writes hash (run (serve hash) db first) u →
    (ResetCall.reset raw₂ password₂ time₂).Writes hash
      (run (serve hash) db (first ++ .reset raw₁ password₁ time₁ :: second)) u →
    ∃ issued now, .issue u issued now ∈ second
  /-- The password of a user changes with a reset of theirs or their deletion that goes
  through. -/
  changes : ∀ before call after u, served = before ++ call :: after →
    (serve hash (run (serve hash) db before) call).profiles.get? u ≠
      (run (serve hash) db before).profiles.get? u →
    call.SetsPassword ∧ call.Writes hash (run (serve hash) db before) u
  /-- A deleted account stays as it is. -/
  deleted : ∀ before after u user, served = before ++ after →
    (run (serve hash) db before).auth.users.get? u = some user → user.deletedAt ≠ none →
    (run (serve hash) db served).auth.users.get? u = some user ∧
      (run (serve hash) db served).profiles.get? u = (run (serve hash) db before).profiles.get? u

section Runs

variable {hash : String → String} {db : AccountDb}

theorem reset_spends_latest (fresh : NoResets db) {before : List ResetCall}
    {rawToken passwordHash : String} {decisionTime : Time} {u : Nat}
    (writes : (ResetCall.reset rawToken passwordHash decisionTime).Writes hash
      (run (serve hash) db before) u) :
    ∃ earlier issued now between, before = earlier ++ .issue u issued now :: between ∧
      hashPasswordResetToken hash issued = hashPasswordResetToken hash rawToken ∧
      decisionTime < now + resetTokenLifetimeMillis ∧
      ∀ x ∈ transitions (serve hash) (run (serve hash) db (earlier ++ [.issue u issued now])) between,
        ¬ x.2.Writes hash x.1 u := by
  obtain ⟨id, token, user, found, rfl, hashed, unexpired, -⟩ := reset_writes writes
  obtain ⟨earlier, issued, now, between, split, row, quiet⟩ := issued_run fresh before found
  refine ⟨earlier, issued, now, between, split, ?_, ?_, quiet⟩
  · rw [← hashed, row]
    rfl
  · rw [row] at unexpired
    exact unexpired

/-- The second of two resets spends a token that the first did not. -/
theorem issued_between (fresh : NoResets db) {first second : List ResetCall}
    {raw₁ password₁ raw₂ password₂ : String} {time₁ time₂ : Time} {u : Nat}
    (before : (ResetCall.reset raw₁ password₁ time₁).Writes hash (run (serve hash) db first) u)
    (writes : (ResetCall.reset raw₂ password₂ time₂).Writes hash
      (run (serve hash) db (first ++ .reset raw₁ password₁ time₁ :: second)) u) :
    ∃ issued now, .issue u issued now ∈ second := by
  obtain ⟨earlier, issued, now, between, split, -, -, quiet⟩ := reset_spends_latest fresh writes
  rcases List.append_eq_append_iff.mp split with ⟨middle, rfl, rest⟩ | ⟨middle, rfl, rest⟩
  · -- the token is issued after the first reset
    cases middle with
    | nil => cases rest
    | cons head tail =>
        obtain ⟨-, rfl⟩ := List.cons.inj rest
        exact ⟨issued, now, List.mem_append_right _ List.mem_cons_self⟩
  · -- the first reset would be among the requests since
    cases middle with
    | nil => cases rest
    | cons head tail =>
        obtain ⟨rfl, rfl⟩ := List.cons.inj rest
        have state : run (serve hash) db (earlier ++ .issue u issued now :: tail) =
            run (serve hash) (run (serve hash) db (earlier ++ [.issue u issued now])) tail := by
          rw [← run_append, List.append_assoc]
          rfl
        have mem : (run (serve hash) db (earlier ++ .issue u issued now :: tail),
            ResetCall.reset raw₁ password₁ time₁) ∈
            transitions (serve hash) (run (serve hash) db (earlier ++ [.issue u issued now]))
              (tail ++ .reset raw₁ password₁ time₁ :: second) := by
          rw [transitions_append, state]
          exact List.mem_append_right _ List.mem_cons_self
        exact absurd before (quiet _ mem)

theorem deleted_stays (calls : List ResetCall) {u : Nat} {user : Account}
    (there : db.auth.users.get? u = some user) (deleted : user.deletedAt ≠ none) :
    (run (serve hash) db calls).auth.users.get? u = some user ∧
      (run (serve hash) db calls).profiles.get? u = db.profiles.get? u := by
  induction calls generalizing db with
  | nil => exact ⟨there, rfl⟩
  | cons call calls ih =>
      have step := @serve_account hash db call u
      rcases step with ⟨profile, same⟩ | ⟨-, -, user', found, live⟩
      · obtain ⟨users, profiles⟩ := ih (same.trans there)
        exact ⟨users, profiles.trans profile⟩
      · obtain rfl := Option.some.inj (there.symm.trans found)
        exact absurd live deleted

theorem passwordRules (fresh : NoResets db) (served : List ResetCall) :
    PasswordRules hash db served where
  resets := fun _ _ _ _ _ _ _ writes => reset_spends_latest fresh writes
  once := fun _ _ _ _ _ _ _ _ _ _ _ before writes => issued_between fresh before writes
  changes := by
    intro before call after u _ changed
    have step := @serve_account hash (run (serve hash) db before) call u
    rcases step with ⟨same, -⟩ | ⟨sets, writes, -⟩
    · exact absurd same changed
    · exact ⟨sets, writes⟩
  deleted := by
    rintro before after u user rfl there deleted
    rw [run_append]
    exact deleted_stays after there deleted

end Runs

/-- However resets, deletions and requests for tokens interleave, statement by statement and
with rollbacks, the data is that of started requests served one after the other, each at
most once, among which a reset needs the latest token of its user, spends it, and never
touches a deleted account. -/
theorem password_reset (hash : String → String) {db : AccountDb} (fresh : NoResets db)
    (moves : List (LockMove ResetCall)) : ∃ served : List ResetCall,
      served.Subperm (startedCalls moves) ∧
      (run (lockStep (resetCalls hash)) (.quiet db) moves).data = run (serve hash) db served ∧
      PasswordRules hash db served := by
  obtain ⟨served, started, same⟩ := resetCalls_serial hash fresh.unique moves
  exact ⟨served, started, same, passwordRules fresh served⟩

/-- One customer. -/
def sampleCustomer : AccountDb where
  auth :=
    { users := Table.empty.insert
        { email := "ada@example.com", emailVerified := true, role := .customer, deletedAt := none }
      tokens := .empty }
  profiles := Table.empty.insert
    { passwordHash := "old", firstName := some "Ada", lastName := none, phone := none }
  resetTokens := .empty
  addresses := .empty

theorem sampleCustomer_fresh : NoResets sampleCustomer := fun _ => rfl

/-- A token is issued; then its reset deletes it while a deletion locks the customer. -/
def crossedReset : List (LockMove ResetCall) :=
  .start (.issue 1 "token" 0) :: List.replicate 5 (.advance 1) ++
    .start (.reset "token" "new" 1) :: List.replicate 4 (.advance 2) ++
    .start (.erase 1 "gone" "unusable" 2) :: List.replicate 4 (.advance 3)

/-- Both now wait, each for the other. -/
example : let s := run (lockStep (resetCalls id)) (.quiet sampleCustomer) crossedReset
    (s.advance (resetCalls id) 2).isNone ∧ (s.advance (resetCalls id) 3).isNone := by
  decide

/-- The deletion is rolled back and the reset goes through, after which its token is tried
again. -/
def rescuedReset : List (LockMove ResetCall) :=
  crossedReset ++ [.rollback 3, .advance 2, .advance 2, .start (.reset "token" "newer" 1), .advance 4]

theorem password_reset_sample :
    (∃ served : List ResetCall, served.Subperm (startedCalls rescuedReset) ∧
      (run (lockStep (resetCalls id)) (.quiet sampleCustomer) rescuedReset).data =
        run (serve id) sampleCustomer served ∧
      PasswordRules id sampleCustomer served) ∧
    (((run (lockStep (resetCalls id)) (.quiet sampleCustomer) rescuedReset).data.profiles.get?
      1).map fun p => p.passwordHash) = some "new" :=
  ⟨password_reset id sampleCustomer_fresh rescuedReset, by decide⟩

end ColorfulLife
