/-
The credentials of a session.

A rotation and a revocation are calls under way between their discovery and
their locked part. A credential is drawn by a login or by the start of a
rotation, and one that was drawn before is not drawn again; the machine keeps
the sessions that credentials were issued for, which the database does not.
-/

import ColorfulLife.Auth.RefreshSession
import ColorfulLife.Relational.Run

namespace ColorfulLife

open Relational

/-! ### The machine -/

/-- A rotation that has discovered its session. -/
structure RotationCall where
  discovered : DiscoveredSession
  presentedToken : String
  replacement : String
  deriving DecidableEq, Repr

structure SessionState where
  db : SessionDb
  clock : Time
  rotations : Table RotationCall
  revocations : Table DiscoveredSession
  /-- Every credential drawn. -/
  drawn : List String
  /-- The credentials stored so far, with their sessions. -/
  issued : List (Nat × String)

inductive SessionOp where
  | wait (millis : Nat)
  | login (userId ttlDays : Nat) (refreshToken : String) (now : Time)
  | discoverRotation (presentedToken replacement : String)
  | rotate (callId : Nat) (issueAccessToken : Nat → Account → SessionResult String)
  | discoverRevocation (presentedToken : String)
  | revoke (callId : Nat) (now : Time)
  | deleteAccount (userId : Nat) (tombstone : String) (now : Time)

section

variable (hash : String → String)

/-- What the locked part of a rotation call comes to. -/
def SessionState.attempt (s : SessionState) (call : RotationCall)
    (issueAccessToken : Nat → Account → SessionResult String) :
    SessionResult (SessionDb × RotatedSession) :=
  rotateSession hash issueAccessToken call.discovered call.presentedToken call.replacement s.clock
    s.db

def sessionStep (s : SessionState) : SessionOp → SessionState
  | .wait millis => { s with clock := s.clock + millis }
  | .login userId ttlDays refreshToken now =>
      if refreshToken ∈ s.drawn then s
      else
        match createRefreshSession hash ttlDays userId refreshToken now s.db with
        | .error _ => { s with drawn := refreshToken :: s.drawn }
        | .ok db => { s with
            db := db
            drawn := refreshToken :: s.drawn
            issued := (s.db.sessions.nextId, refreshToken) :: s.issued }
  | .discoverRotation presentedToken replacement =>
      if replacement ∈ s.drawn then s
      else
        match discoverRotation hash presentedToken s.clock s.db with
        | .error _ => { s with drawn := replacement :: s.drawn }
        | .ok discovered => { s with
            rotations := s.rotations.insert ⟨discovered, presentedToken, replacement⟩
            drawn := replacement :: s.drawn }
  | .rotate callId issueAccessToken =>
      match s.rotations.get? callId with
      | none => s
      | some call =>
          match s.attempt hash call issueAccessToken with
          | .error _ => { s with rotations := s.rotations.erase callId }
          | .ok (db, _) => { s with
              db := db
              rotations := s.rotations.erase callId
              issued := (call.discovered.id, call.replacement) :: s.issued }
  | .discoverRevocation presentedToken =>
      match discoverRevocation hash presentedToken s.db with
      | none => s
      | some discovered => { s with revocations := s.revocations.insert discovered }
  | .revoke callId now =>
      match s.revocations.get? callId with
      | none => s
      | some discovered => { s with
          db := revokeSession discovered now s.db
          revocations := s.revocations.erase callId }
  | .deleteAccount userId tombstone now =>
      { s with db := { s.db with
          auth := commit (deleteCustomerAccount userId tombstone now s.db.auth) s.db.auth } }

/-- The session and the credential that a step accepts. -/
def SessionOp.accepted (s : SessionState) : SessionOp → Option (Nat × String)
  | .rotate callId issueAccessToken => do
      let call ← s.rotations.get? callId
      if (s.attempt hash call issueAccessToken).isOk then
        some (call.discovered.id, call.presentedToken)
      else none
  | _ => none

end

/-- The session is revoked, or expired, or its user is deleted. -/
def SessionState.Ended (s : SessionState) (id : Nat) : Prop :=
  ∃ session, s.db.sessions.get? id = some session ∧
    (session.revokedAt ≠ none ∨ session.expiresAt ≤ s.clock ∨
      ∃ user, s.db.auth.users.get? session.userId = some user ∧ user.deletedAt ≠ none)

/-! ### What a step does -/

/-- Every change a step can make, with the checks it passed. -/
inductive SessionEffect (hash : String → String) (s : SessionState) :
    SessionOp → SessionState → Prop where
  | idle {op : SessionOp} (silent : op.accepted hash s = none) : SessionEffect hash s op s
  | waited (millis : Nat) :
      SessionEffect hash s (.wait millis) { s with clock := s.clock + millis }
  | drew {op : SessionOp} {token : String} (fresh : token ∉ s.drawn)
      (silent : op.accepted hash s = none) :
      SessionEffect hash s op { s with drawn := token :: s.drawn }
  | loggedIn {userId ttlDays : Nat} {token : String} {now : Time} {session : RefreshSession}
      (fresh : token ∉ s.drawn) (owner : ∃ user, s.db.auth.users.get? session.userId = some user)
      (hashed : session.refreshTokenHash = hash token) :
      SessionEffect hash s (.login userId ttlDays token now) { s with
        db := { s.db with sessions := s.db.sessions.insert session }
        drawn := token :: s.drawn
        issued := (s.db.sessions.nextId, token) :: s.issued }
  | foundRotation (call : RotationCall) {session : RefreshSession}
      (fresh : call.replacement ∉ s.drawn)
      (found : s.db.sessions.get? call.discovered.id = some session)
      (owner : session.userId = call.discovered.userId) :
      SessionEffect hash s (.discoverRotation call.presentedToken call.replacement) { s with
        rotations := s.rotations.insert call
        drawn := call.replacement :: s.drawn }
  | rejected {callId : Nat} {issueAccessToken : Nat → Account → SessionResult String}
      (silent : (SessionOp.rotate callId issueAccessToken).accepted hash s = none) :
      SessionEffect hash s (.rotate callId issueAccessToken)
        { s with rotations := s.rotations.erase callId }
  | rotated {callId : Nat} {issueAccessToken : Nat → Account → SessionResult String}
      {call : RotationCall} {session : RefreshSession} {user : Account}
      (pending : s.rotations.get? callId = some call)
      (accepts : (SessionOp.rotate callId issueAccessToken).accepted hash s =
        some (call.discovered.id, call.presentedToken))
      (owner : s.db.auth.users.get? call.discovered.userId = some user)
      (alive : user.deletedAt = none)
      (found : s.db.sessions.get? call.discovered.id = some session)
      (hashed : session.refreshTokenHash = hash call.presentedToken)
      (unrevoked : session.revokedAt = none) (unexpired : s.clock < session.expiresAt) :
      SessionEffect hash s (.rotate callId issueAccessToken) { s with
        db := { s.db with sessions := s.db.sessions.update call.discovered.id fun session =>
          { session with refreshTokenHash := hash call.replacement } }
        rotations := s.rotations.erase callId
        issued := (call.discovered.id, call.replacement) :: s.issued }
  | foundRevocation {token : String} {discovered : DiscoveredSession} {session : RefreshSession}
      (found : s.db.sessions.get? discovered.id = some session)
      (owner : session.userId = discovered.userId) :
      SessionEffect hash s (.discoverRevocation token)
        { s with revocations := s.revocations.insert discovered }
  | revoked {callId : Nat} {now : Time} {discovered : DiscoveredSession}
      (pending : s.revocations.get? callId = some discovered) :
      SessionEffect hash s (.revoke callId now) { s with
        db := revokeSession discovered now s.db
        revocations := s.revocations.erase callId }
  | deleted {userId : Nat} {tombstone : String} {now : Time} {auth : AuthDb}
      (tx : deleteCustomerAccount userId tombstone now s.db.auth = .ok auth) :
      SessionEffect hash s (.deleteAccount userId tombstone now)
        { s with db := { s.db with auth := auth } }

theorem sessionStep_effect (hash : String → String) (s : SessionState) (op : SessionOp) :
    SessionEffect hash s op (sessionStep hash s op) := by
  cases op with
  | wait millis => exact .waited millis
  | login userId ttlDays token now =>
      unfold sessionStep
      dsimp only
      split
      · exact .idle rfl
      · rename_i fresh
        split
        · exact .drew fresh rfl
        · rename_i db tx
          obtain ⟨owner, rfl⟩ := createRefreshSession_ok tx
          exact .loggedIn fresh owner rfl
  | discoverRotation presentedToken replacement =>
      unfold sessionStep
      dsimp only
      split
      · exact .idle rfl
      · rename_i fresh
        split
        · exact .drew fresh rfl
        · rename_i discovered hdiscover
          obtain ⟨session, found, owner, -⟩ := discoverRotation_ok hdiscover
          exact .foundRotation ⟨discovered, presentedToken, replacement⟩ fresh found owner
  | rotate callId issueAccessToken =>
      unfold sessionStep
      dsimp only
      split
      · rename_i missing
        exact .idle (by simp [SessionOp.accepted, missing])
      · rename_i call pending
        split
        · rename_i tx
          exact .rejected (by simp [SessionOp.accepted, pending, tx, Except.isOk, Except.toBool])
        · rename_i db answer tx
          obtain ⟨session, user, owner, alive, found, hashed, unrevoked, unexpired, -, -, rfl⟩ :=
            rotateSession_ok tx
          refine .rotated pending ?_ owner alive found hashed unrevoked unexpired
          simp [SessionOp.accepted, pending, tx, Except.isOk, Except.toBool]
  | discoverRevocation presentedToken =>
      unfold sessionStep
      dsimp only
      split
      · exact .idle rfl
      · rename_i discovered hdiscover
        obtain ⟨session, found, owner, -⟩ := discoverRevocation_eq_some hdiscover
        exact .foundRevocation found owner
  | revoke callId now =>
      unfold sessionStep
      dsimp only
      split
      · exact .idle rfl
      · exact .revoked ‹_›
  | deleteAccount userId tombstone now =>
      unfold sessionStep
      dsimp only
      cases tx : deleteCustomerAccount userId tombstone now s.db.auth with
      | error e => exact .idle rfl
      | ok auth => exact .deleted tx

/-! ### What no step undoes -/

/-- Sessions go on, deleted users stay deleted and the clock does not go back. -/
structure SessionState.Continues (s s' : SessionState) : Prop where
  sessions : ∀ id session, s.db.sessions.get? id = some session →
    ∃ session', s'.db.sessions.get? id = some session' ∧ session.Continues session'
  users : ∀ u user, s.db.auth.users.get? u = some user →
    ∃ user', s'.db.auth.users.get? u = some user' ∧ (user.deletedAt ≠ none → user'.deletedAt ≠ none)
  clock : s.clock ≤ s'.clock

namespace SessionState.Continues

variable {s s' s'' : SessionState}

theorem refl (s : SessionState) : s.Continues s where
  sessions := fun _ session found => ⟨session, found, .refl session⟩
  users := fun _ user found => ⟨user, found, id⟩
  clock := le_rfl

theorem trans (h₁ : s.Continues s') (h₂ : s'.Continues s'') : s.Continues s'' where
  sessions := by
    intro id session found
    obtain ⟨session', found', continues⟩ := h₁.sessions id session found
    obtain ⟨session'', found'', continues'⟩ := h₂.sessions id session' found'
    exact ⟨session'', found'', continues.trans continues'⟩
  users := by
    intro u user found
    obtain ⟨user', found', deleted⟩ := h₁.users u user found
    obtain ⟨user'', found'', deleted'⟩ := h₂.users u user' found'
    exact ⟨user'', found'', deleted' ∘ deleted⟩
  clock := h₁.clock.trans h₂.clock

/-- An end is for good. -/
theorem ended {id : Nat} (h : s.Continues s') (ended : s.Ended id) : s'.Ended id := by
  obtain ⟨session, found, over_⟩ := ended
  obtain ⟨session', found', continues⟩ := h.sessions id session found
  refine ⟨session', found', ?_⟩
  rw [continues.expiresAt, continues.userId]
  rcases over_ with revoked | expired | ⟨user, owner, deleted⟩
  · exact Or.inl (continues.revoked revoked)
  · exact Or.inr (Or.inl (expired.trans h.clock))
  · obtain ⟨user', owner', deleted'⟩ := h.users _ user owner
    exact Or.inr (Or.inr ⟨user', owner', deleted' deleted⟩)

theorem of_effect {hash : String → String} {op : SessionOp}
    (effect : SessionEffect hash s op s') : s.Continues s' := by
  have keep := refl s
  cases effect with
  | idle => exact keep
  | waited millis => exact ⟨keep.sessions, keep.users, Nat.le_add_right _ _⟩
  | drew | foundRotation | rejected | foundRevocation =>
      exact ⟨keep.sessions, keep.users, le_rfl⟩
  | loggedIn =>
      refine ⟨fun id session found => ?_, keep.users, le_rfl⟩
      exact ⟨session, Table.get?_insert_of_some found, .refl session⟩
  | rotated =>
      refine ⟨fun id session found => ?_, keep.users, le_rfl⟩
      dsimp only
      rw [Table.get?_update, found]
      split
      · exact ⟨_, rfl, rfl, rfl, fun h => h⟩
      · exact ⟨session, rfl, .refl session⟩
  | revoked =>
      refine ⟨fun id session found => ?_, ?_, le_rfl⟩
      · obtain ⟨session', found', continues, -⟩ := revokeSession_rows.forward found
        exact ⟨session', found', continues⟩
      · dsimp only
        rw [revokeSession_auth]
        exact keep.users
  | deleted tx =>
      refine ⟨keep.sessions, fun u user found => ?_, le_rfl⟩
      dsimp only
      rcases deleteCustomerAccount_ok tx with rfl | rfl
      · exact keep.users u user found
      · dsimp only
        rw [Table.get?_update, found]
        split
        · exact ⟨_, rfl, fun _ => Option.some_ne_none _⟩
        · exact ⟨user, rfl, id⟩

theorem run (hash : String → String) (s : SessionState) (ops : List SessionOp) :
    s.Continues (run (sessionStep hash) s ops) :=
  run_rel_of refl trans fun t _ => of_effect (sessionStep_effect hash t.1 t.2)

end SessionState.Continues

/-! ### The invariant -/

/-- The session that a call discovered is there, and is of the user it read. -/
def DiscoveredSession.Stored (discovered : DiscoveredSession) (s : SessionState) : Prop :=
  ∃ session, s.db.sessions.get? discovered.id = some session ∧ session.userId = discovered.userId

theorem DiscoveredSession.Stored.continues {discovered : DiscoveredSession} {s s' : SessionState}
    (h : discovered.Stored s) (continues : s.Continues s') : discovered.Stored s' := by
  obtain ⟨session, found, owner⟩ := h
  obtain ⟨session', found', same⟩ := continues.sessions _ session found
  exact ⟨session', found', same.userId.trans owner⟩

/-- A credential belongs to one session, which holds the hash of one of its own,
and the replacements of the calls under way are not issued yet. -/
structure LineageInv (hash : String → String) (s : SessionState) : Prop where
  drawn : ∀ e ∈ s.issued, e.2 ∈ s.drawn
  functional : ∀ a b token, (a, token) ∈ s.issued → (b, token) ∈ s.issued → a = b
  current : ∀ id session, s.db.sessions.get? id = some session →
    ∃ token, (id, token) ∈ s.issued ∧ session.refreshTokenHash = hash token
  owned : ∀ id session, s.db.sessions.get? id = some session →
    ∃ user, s.db.auth.users.get? session.userId = some user
  reserved : ∀ k call, s.rotations.get? k = some call →
    call.replacement ∈ s.drawn ∧ ∀ id, (id, call.replacement) ∉ s.issued
  distinct : ∀ j k a b, s.rotations.get? j = some a → s.rotations.get? k = some b →
    a.replacement = b.replacement → j = k
  rotates : ∀ k call, s.rotations.get? k = some call → call.discovered.Stored s
  revokes : ∀ k discovered, s.revocations.get? k = some discovered → discovered.Stored s

namespace LineageInv

variable {hash : String → String} {s s' : SessionState} {op : SessionOp}

/-- A credential that was not drawn yet is not issued to any session. -/
theorem fresh (h : LineageInv hash s) {token : String} (notDrawn : token ∉ s.drawn) (id : Nat) :
    (id, token) ∉ s.issued :=
  fun mem => notDrawn (h.drawn _ mem)

/-- A new pair keeps credentials with one session. -/
theorem functional_cons (h : LineageInv hash s) {id : Nat} {token : String}
    (new : ∀ i, (i, token) ∉ s.issued) (a b : Nat) (t : String)
    (ha : (a, t) ∈ (id, token) :: s.issued) (hb : (b, t) ∈ (id, token) :: s.issued) : a = b := by
  rcases List.mem_cons.mp ha with same | old
  · obtain ⟨rfl, rfl⟩ := Prod.mk.inj same
    rcases List.mem_cons.mp hb with same' | old'
    · exact (Prod.mk.inj same').1.symm
    · exact absurd old' (new b)
  · rcases List.mem_cons.mp hb with same' | old'
    · obtain ⟨-, rfl⟩ := Prod.mk.inj same'
      exact absurd old (new a)
    · exact h.functional a b t old old'

/-- One credential more is drawn. -/
theorem draw (h : LineageInv hash s) (token : String) :
    LineageInv hash { s with drawn := token :: s.drawn } :=
  { h with
    drawn := fun e mem => List.mem_cons_of_mem _ (h.drawn e mem)
    reserved := fun k call found =>
      ⟨List.mem_cons_of_mem _ (h.reserved k call found).1, (h.reserved k call found).2⟩ }

/-- One rotation call less is under way. -/
theorem drop (h : LineageInv hash s) (callId : Nat) :
    LineageInv hash { s with rotations := s.rotations.erase callId } := by
  have kept : ∀ k call, (s.rotations.erase callId).get? k = some call →
      s.rotations.get? k = some call := by
    intro k call found
    rw [Table.get?_erase] at found
    split at found
    · cases found
    · exact found
  exact { h with
    reserved := fun k call found => h.reserved k call (kept k call found)
    distinct := fun j k a b ha hb => h.distinct j k a b (kept j a ha) (kept k b hb)
    rotates := fun k call found => h.rotates k call (kept k call found) }

/-- The database moves on, and each session keeps the hash of a credential of
its own. -/
theorem move (h : LineageInv hash s) (db : SessionDb) (continues : s.Continues { s with db := db })
    (rows : Table.Rows (fun _ a b => b.userId = a.userId ∧ b.refreshTokenHash = a.refreshTokenHash)
      s.db.sessions db.sessions) : LineageInv hash { s with db := db } :=
  { h with
    current := by
      intro id session found
      obtain ⟨session₀, found₀, -, hashed⟩ := rows.backward found
      obtain ⟨token, issued, hashed₀⟩ := h.current id session₀ found₀
      exact ⟨token, issued, hashed.trans hashed₀⟩
    owned := by
      intro id session found
      obtain ⟨session₀, found₀, owner, -⟩ := rows.backward found
      obtain ⟨user, hasUser⟩ := h.owned id session₀ found₀
      obtain ⟨user', hasUser', -⟩ := continues.users _ user hasUser
      exact ⟨user', owner ▸ hasUser'⟩
    rotates := fun k call found => (h.rotates k call found).continues continues
    revokes := fun k discovered found => (h.revokes k discovered found).continues continues }

theorem loggedIn (h : LineageInv hash s) {session : RefreshSession} {token : String}
    (notDrawn : token ∉ s.drawn) (owner : ∃ user, s.db.auth.users.get? session.userId = some user)
    (hashed : session.refreshTokenHash = hash token)
    (continues : s.Continues { s with
      db := { s.db with sessions := s.db.sessions.insert session }
      drawn := token :: s.drawn
      issued := (s.db.sessions.nextId, token) :: s.issued }) :
    LineageInv hash { s with
      db := { s.db with sessions := s.db.sessions.insert session }
      drawn := token :: s.drawn
      issued := (s.db.sessions.nextId, token) :: s.issued } where
  drawn := by
    intro e mem
    rcases List.mem_cons.mp mem with rfl | mem
    · exact List.mem_cons_self
    · exact List.mem_cons_of_mem _ (h.drawn e mem)
  functional := h.functional_cons (h.fresh notDrawn)
  current := by
    intro id session' found
    rcases Table.insert_cases found with ⟨rfl, rfl⟩ | found
    · exact ⟨token, List.mem_cons_self, hashed⟩
    · obtain ⟨token', issued, hashed'⟩ := h.current id session' found
      exact ⟨token', List.mem_cons_of_mem _ issued, hashed'⟩
  owned := by
    intro id session' found
    rcases Table.insert_cases found with ⟨-, rfl⟩ | found
    · exact owner
    · exact h.owned id session' found
  reserved := by
    intro k call found
    obtain ⟨drawn, unissued⟩ := h.reserved k call found
    refine ⟨List.mem_cons_of_mem _ drawn, fun id mem => ?_⟩
    rcases List.mem_cons.mp mem with same | mem
    · obtain ⟨-, rfl⟩ := Prod.mk.inj same
      exact notDrawn drawn
    · exact unissued id mem
  distinct := h.distinct
  rotates := fun k call found => (h.rotates k call found).continues continues
  revokes := fun k discovered found => (h.revokes k discovered found).continues continues

theorem foundRotation (h : LineageInv hash s) {call : RotationCall}
    (notDrawn : call.replacement ∉ s.drawn) (stored : call.discovered.Stored s) :
    LineageInv hash { s with
      rotations := s.rotations.insert call
      drawn := call.replacement :: s.drawn } := by
  have reserved : ∀ k a, s.rotations.get? k = some a → a.replacement ≠ call.replacement := by
    intro k a found same
    exact notDrawn (same ▸ (h.reserved k a found).1)
  refine { h.draw call.replacement with
    reserved := fun k a found => ?_, distinct := fun j k a b ha hb same => ?_,
    rotates := fun k a found => ?_ }
  · rcases Table.insert_cases found with ⟨-, rfl⟩ | found
    · exact ⟨List.mem_cons_self, h.fresh notDrawn⟩
    · exact (h.draw call.replacement).reserved k a found
  · rcases Table.insert_cases ha with ⟨first, rfl⟩ | olderA
    · rcases Table.insert_cases hb with ⟨second, rfl⟩ | olderB
      · exact first.trans second.symm
      · exact absurd same.symm (reserved k b olderB)
    · rcases Table.insert_cases hb with ⟨-, rfl⟩ | olderB
      · exact absurd same (reserved j a olderA)
      · exact h.distinct j k a b olderA olderB same
  · rcases Table.insert_cases found with ⟨-, rfl⟩ | found
    · exact stored
    · exact h.rotates k a found

theorem rotated (h : LineageInv hash s) {callId : Nat} {call : RotationCall}
    (pending : s.rotations.get? callId = some call)
    (continues : s.Continues { s with
      db := { s.db with sessions := s.db.sessions.update call.discovered.id fun session =>
        { session with refreshTokenHash := hash call.replacement } }
      rotations := s.rotations.erase callId
      issued := (call.discovered.id, call.replacement) :: s.issued }) :
    LineageInv hash { s with
      db := { s.db with sessions := s.db.sessions.update call.discovered.id fun session =>
        { session with refreshTokenHash := hash call.replacement } }
      rotations := s.rotations.erase callId
      issued := (call.discovered.id, call.replacement) :: s.issued } where
  drawn := by
    intro e mem
    rcases List.mem_cons.mp mem with rfl | mem
    · exact (h.reserved callId call pending).1
    · exact h.drawn e mem
  functional := h.functional_cons (h.reserved callId call pending).2
  current := by
    intro id session found
    rw [Table.get?_update] at found
    split at found
    · rename_i own
      obtain ⟨session₀, -, rfl⟩ := Option.map_eq_some_iff.mp found
      exact ⟨call.replacement, own ▸ List.mem_cons_self, rfl⟩
    · obtain ⟨token, issued, hashed⟩ := h.current id session found
      exact ⟨token, List.mem_cons_of_mem _ issued, hashed⟩
  owned := by
    intro id session found
    rw [Table.get?_update] at found
    split at found
    · obtain ⟨session₀, found₀, rfl⟩ := Option.map_eq_some_iff.mp found
      exact h.owned _ session₀ found₀
    · exact h.owned id session found
  reserved := by
    intro k a found
    rw [Table.get?_erase] at found
    split at found
    · cases found
    · rename_i other
      obtain ⟨drawn, unissued⟩ := h.reserved k a found
      refine ⟨drawn, fun id mem => ?_⟩
      rcases List.mem_cons.mp mem with same | mem
      · exact other (h.distinct k callId a call found pending (Prod.mk.inj same).2)
      · exact unissued id mem
  distinct := (h.drop callId).distinct
  rotates := fun k a found => ((h.drop callId).rotates k a found).continues
    ⟨continues.sessions, continues.users, continues.clock⟩
  revokes := fun k discovered found => (h.revokes k discovered found).continues continues

theorem foundRevocation (h : LineageInv hash s) {discovered : DiscoveredSession}
    (stored : discovered.Stored s) :
    LineageInv hash { s with revocations := s.revocations.insert discovered } :=
  { h with
    revokes := by
      intro k a found
      rcases Table.insert_cases found with ⟨-, rfl⟩ | found
      · exact stored
      · exact h.revokes k a found }

theorem of_effect (h : LineageInv hash s) (effect : SessionEffect hash s op s') :
    LineageInv hash s' := by
  have continues : s.Continues s' := .of_effect effect
  cases effect with
  | idle => exact h
  | waited millis => exact { h with }
  | drew => exact h.draw _
  | loggedIn fresh owner hashed => exact h.loggedIn fresh owner hashed continues
  | foundRotation call fresh found owner => exact h.foundRotation fresh ⟨_, found, owner⟩
  | rejected => exact h.drop _
  | rotated pending => exact h.rotated pending continues
  | foundRevocation found owner => exact h.foundRevocation ⟨_, found, owner⟩
  | @revoked callId now discovered pending =>
      have moved := h.move (revokeSession discovered now s.db)
        ⟨continues.sessions, continues.users, le_rfl⟩
        (revokeSession_rows.mono fun _ _ _ row => ⟨row.1.userId, row.2⟩)
      refine { moved with revokes := fun k a found => ?_ }
      rw [Table.get?_erase] at found
      split at found
      · cases found
      · exact moved.revokes k a found
  | deleted tx => exact h.move _ continues (.refl (fun _ _ => ⟨rfl, rfl⟩) _)

theorem step (h : LineageInv hash s) (op : SessionOp) : LineageInv hash (sessionStep hash s op) :=
  h.of_effect (sessionStep_effect hash s op)

end LineageInv

/-! ### Acceptance -/

section Acceptance

variable {hash : String → String} {s s' : SessionState} {op : SessionOp} {id : Nat} {token : String}

/-- A step that accepts a credential is a rotation of a live session that has
it, and leaves the session with the replacement. -/
theorem accepted_eq_some (effect : SessionEffect hash s op s')
    (accepts : op.accepted hash s = some (id, token)) :
    ∃ callId call session user, s.rotations.get? callId = some call ∧ call.discovered.id = id ∧
      s.db.sessions.get? id = some session ∧ session.refreshTokenHash = hash token ∧
      session.revokedAt = none ∧ s.clock < session.expiresAt ∧
      s.db.auth.users.get? call.discovered.userId = some user ∧ user.deletedAt = none ∧
      s'.drawn = s.drawn ∧ s'.rotations = s.rotations.erase callId ∧
      s'.db.sessions = s.db.sessions.update id fun session =>
        { session with refreshTokenHash := hash call.replacement } := by
  cases effect with
  | rotated pending accepts' owner alive found hashed unrevoked unexpired =>
      obtain ⟨rfl, rfl⟩ := Prod.mk.inj (Option.some.inj (accepts'.symm.trans accepts))
      exact ⟨_, _, _, _, pending, rfl, found, hashed, unrevoked, unexpired, owner, alive, rfl, rfl,
        rfl⟩
  | idle silent | drew _ silent | rejected silent => exact nomatch silent.symm.trans accepts
  | _ => cases accepts

/-- The accepted credential was issued for the session. -/
theorem LineageInv.accepted_issued (h : LineageInv hash s) (injective : Function.Injective hash)
    (accepts : op.accepted hash s = some (id, token)) : (id, token) ∈ s.issued := by
  obtain ⟨_, _, session, _, -, -, found, hashed, -⟩ :=
    accepted_eq_some (sessionStep_effect hash s op) accepts
  obtain ⟨token', issued, hashed'⟩ := h.current id session found
  exact injective (hashed'.symm.trans hashed) ▸ issued

/-- No session has the credential, and no call will store it. -/
structure Spent (hash : String → String) (token : String) (s : SessionState) : Prop where
  drawn : token ∈ s.drawn
  current : ∀ id session, s.db.sessions.get? id = some session →
    session.refreshTokenHash ≠ hash token
  reserved : ∀ k call, s.rotations.get? k = some call → call.replacement ≠ token

/-- A rotation spends the credential that it accepts. -/
theorem LineageInv.spends (h : LineageInv hash s) (injective : Function.Injective hash)
    (effect : SessionEffect hash s op s') (accepts : op.accepted hash s = some (id, token)) :
    Spent hash token s' := by
  have issued : (id, token) ∈ s.issued := h.accepted_issued injective accepts
  obtain ⟨callId, call, session, user, pending, -, found, hashed, -, -, -, -, drawn, rotations,
    sessions⟩ := accepted_eq_some effect accepts
  refine ⟨drawn ▸ h.drawn _ issued, fun id' session' found' same => ?_, fun k call' hk same => ?_⟩
  · rw [sessions] at found'
    rcases Table.update_cases found found' with ⟨-, rfl⟩ | ⟨other, old⟩
    · have replaced : call.replacement = token := injective same
      exact (h.reserved callId call pending).2 id (replaced ▸ issued)
    · obtain ⟨token', issued', hashed'⟩ := h.current id' session' old
      have : token' = token := injective (hashed'.symm.trans same)
      exact other (h.functional id' id token (this ▸ issued') issued)
  · rw [rotations, Table.get?_erase] at hk
    split at hk
    · cases hk
    · exact (h.reserved k call' hk).2 id (same ▸ issued)

namespace Spent

theorem of_effect (h : Spent hash token s) (injective : Function.Injective hash)
    (effect : SessionEffect hash s op s') : Spent hash token s' := by
  have other : ∀ {t : String}, t ∉ s.drawn → t ≠ token := fun fresh same => fresh (same ▸ h.drawn)
  cases effect with
  | idle => exact h
  | waited => exact { h with }
  | drew => exact { h with drawn := List.mem_cons_of_mem _ h.drawn }
  | loggedIn fresh owner hashed =>
      refine { h with
        drawn := List.mem_cons_of_mem _ h.drawn, current := fun id session found => ?_ }
      rcases Table.insert_cases found with ⟨-, rfl⟩ | found
      · rw [hashed]
        exact injective.ne (other fresh)
      · exact h.current id session found
  | foundRotation call fresh =>
      refine { h with
        drawn := List.mem_cons_of_mem _ h.drawn, reserved := fun k call found => ?_ }
      rcases Table.insert_cases found with ⟨-, rfl⟩ | found
      · exact other fresh
      · exact h.reserved k call found
  | rejected =>
      refine { h with reserved := fun k call found => ?_ }
      rw [Table.get?_erase] at found
      split at found
      · cases found
      · exact h.reserved k call found
  | @rotated callId _ call session user pending _ _ _ found =>
      refine { h with current := fun id session' found' => ?_, reserved := fun k a hk => ?_ }
      · rcases Table.update_cases found found' with ⟨-, rfl⟩ | ⟨-, old⟩
        · exact injective.ne (h.reserved callId call pending)
        · exact h.current id session' old
      · rw [Table.get?_erase] at hk
        split at hk
        · cases hk
        · exact h.reserved k a hk
  | foundRevocation => exact { h with }
  | revoked =>
      refine { h with current := fun id session found => ?_ }
      obtain ⟨session₀, found₀, -, same⟩ := revokeSession_rows.backward found
      rw [same]
      exact h.current id session₀ found₀
  | deleted => exact { h with }

end Spent

end Acceptance

/-! ### Runs -/

/-- Any users, and no session yet. -/
structure SessionStart (s : SessionState) : Prop where
  sessions : ∀ id, s.db.sessions.get? id = none
  rotations : ∀ k, s.rotations.get? k = none
  revocations : ∀ k, s.revocations.get? k = none
  issued : s.issued = []

theorem SessionStart.inv {s : SessionState} (start : SessionStart s) (hash : String → String) :
    LineageInv hash s where
  drawn := by simp [start.issued]
  functional := by simp [start.issued]
  current := by simp [start.sessions]
  owned := by simp [start.sessions]
  reserved := by simp [start.rotations]
  distinct := by simp [start.rotations]
  rotates := by simp [start.rotations]
  revokes := by simp [start.revocations]

section Runs

variable {hash : String → String} {s : SessionState}

end Runs

end ColorfulLife
