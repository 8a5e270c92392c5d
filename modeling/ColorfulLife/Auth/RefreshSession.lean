/-
Renewable sessions (`domain/auth/refreshSessionService.ts`).

A rotation and a revocation are each one transaction with two parts: the read
that discovers the session, and what runs once the row of its user is locked.
Other transactions may commit in between, so the parts are definitions of their
own; every writer of the rows read after the lock holds it too. A raw credential
is an argument, and only its hash is stored.
-/

import ColorfulLife.Auth.EmailVerification

namespace ColorfulLife

open Relational

/-! ### Rows -/

structure RefreshSession where
  userId : Nat
  refreshTokenHash : String
  expiresAt : Time
  revokedAt : Option Time
  deriving DecidableEq, Repr

/-- `refreshTokenHash String @unique`. -/
def RefreshSession.clash (a b : RefreshSession) : Bool :=
  decide (a.refreshTokenHash = b.refreshTokenHash)

structure SessionDb where
  auth : AuthDb
  sessions : Table RefreshSession

inductive SessionError where
  /-- "Invalid or expired refresh session" -/
  | invalidRefreshSession
  /-- "Configured access token has no expiry" -/
  | accessTokenNotIssued
  | foreignKeyViolation
  | uniqueViolation
  deriving DecidableEq, Repr

abbrev SessionResult (α : Type) := Except SessionError α

/-! ### The service -/

/-- `24 * 60 * 60 * 1000`. -/
def dayMillis : Nat := 24 * 60 * 60 * 1000

section

variable (hash : String → String)

def hashRefreshToken (refreshToken : String) : String := hash refreshToken

/-- The session that a login opens; `ttlDays` is `REFRESH_SESSION_TTL_DAYS`. -/
def createRefreshSession (ttlDays userId : Nat) (refreshToken : String) (now : Time)
    (db : SessionDb) : SessionResult SessionDb := do
  let session : RefreshSession :=
    { userId
      refreshTokenHash := hashRefreshToken hash refreshToken
      expiresAt := now + ttlDays * dayMillis
      revokedAt := none }
  let _ ← orThrow (db.auth.users.get? userId) SessionError.foreignKeyViolation
  ensure (db.sessions.clashes RefreshSession.clash db.sessions.nextId session = false)
    SessionError.uniqueViolation
  return { db with sessions := db.sessions.insert session }

def findSession (presentedHash : String) (db : SessionDb) : Option (Nat × RefreshSession) :=
  db.sessions.find? fun _ session => decide (session.refreshTokenHash = presentedHash)

/-- What a call has read of the session that it discovered. -/
structure DiscoveredSession where
  id : Nat
  userId : Nat
  deriving DecidableEq, Repr

/-- The first read of a rotation. -/
def discoverRotation (presentedToken : String) (now : Time) (db : SessionDb) :
    SessionResult DiscoveredSession := do
  let (id, discovered) ← orThrow (findSession (hashRefreshToken hash presentedToken) db)
    SessionError.invalidRefreshSession
  ensure (discovered.revokedAt = none ∧ now < discovered.expiresAt)
    SessionError.invalidRefreshSession
  return ⟨id, discovered.userId⟩

/-- What a rotation answers. -/
structure RotatedSession where
  accessToken : String
  refreshToken : String
  refreshExpiresAt : Time
  deriving DecidableEq, Repr

/-- The rotation under the lock of the user. The session and its user are read
again, and the expiry is compared with the time of the decision. -/
def rotateSession (issueAccessToken : Nat → Account → SessionResult String)
    (discovered : DiscoveredSession) (presentedToken replacement : String) (decisionTime : Time)
    (db : SessionDb) : SessionResult (SessionDb × RotatedSession) := do
  let presentedHash := hashRefreshToken hash presentedToken
  let user ← orThrow ((db.auth.users.get? discovered.userId).filter (decide <| ·.deletedAt = none))
    SessionError.invalidRefreshSession
  let currentSession ← orThrow (db.sessions.get? discovered.id) SessionError.invalidRefreshSession
  ensure (currentSession.refreshTokenHash = presentedHash ∧ currentSession.revokedAt = none ∧
    decisionTime < currentSession.expiresAt) SessionError.invalidRefreshSession
  let accessToken ← issueAccessToken discovered.userId user
  let rotated := { currentSession with refreshTokenHash := hashRefreshToken hash replacement }
  ensure (db.sessions.clashes RefreshSession.clash discovered.id rotated = false)
    SessionError.uniqueViolation
  let sessions ← orThrow
    (db.sessions.updateIf discovered.id
      (fun session => decide (session.refreshTokenHash = presentedHash ∧
        session.revokedAt = none ∧ decisionTime < session.expiresAt))
      fun session => { session with refreshTokenHash := hashRefreshToken hash replacement })
    SessionError.invalidRefreshSession
  return ({ db with sessions := sessions },
    { accessToken, refreshToken := replacement, refreshExpiresAt := currentSession.expiresAt })

/-- The read of a revocation. An unknown credential ends the call. -/
def discoverRevocation (presentedToken : String) (db : SessionDb) : Option DiscoveredSession :=
  (findSession (hashRefreshToken hash presentedToken) db).map fun e => ⟨e.1, e.2.userId⟩

end

def RefreshSession.revoke (now : Time) (session : RefreshSession) : RefreshSession :=
  { session with revokedAt := some now }

/-- The revocation under the lock of the user, whatever the hash is by now. -/
def revokeSession (discovered : DiscoveredSession) (now : Time) (db : SessionDb) : SessionDb :=
  if (db.auth.users.get? discovered.userId).isSome then
    { db with
      sessions := (db.sessions.updateIf discovered.id (decide <| ·.revokedAt = none)
        (RefreshSession.revoke now)).getD db.sessions }
  else db

/-! ### Inversion -/

section Inversion

variable {hash : String → String} {db db' : SessionDb}

theorem createRefreshSession_ok {ttlDays userId : Nat} {refreshToken : String} {now : Time}
    (h : createRefreshSession hash ttlDays userId refreshToken now db = .ok db') :
    (∃ user, db.auth.users.get? userId = some user) ∧ db' = { db with
      sessions := db.sessions.insert
        { userId
          refreshTokenHash := hash refreshToken
          expiresAt := now + ttlDays * dayMillis
          revokedAt := none } } := by
  simp only [createRefreshSession, bind_eq_ok, orThrow_eq_ok, ensure_eq_ok, pure_eq_ok] at h
  obtain ⟨user, found, -, -, rfl⟩ := h
  exact ⟨⟨user, found⟩, rfl⟩

theorem findSession_eq_some {presentedHash : String} {e : Nat × RefreshSession}
    (h : findSession presentedHash db = some e) :
    db.sessions.get? e.1 = some e.2 ∧ e.2.refreshTokenHash = presentedHash := by
  obtain ⟨found, hashed⟩ := Table.find?_eq_some h
  exact ⟨found, of_decide_eq_true hashed⟩

/-- The session of a presented token is found by its hash. -/
theorem discoverRotation_ok {presentedToken : String} {now : Time} {discovered : DiscoveredSession}
    (h : discoverRotation hash presentedToken now db = .ok discovered) :
    ∃ session, db.sessions.get? discovered.id = some session ∧
      session.userId = discovered.userId ∧ session.refreshTokenHash = hash presentedToken := by
  simp only [discoverRotation, bind_eq_ok, orThrow_eq_ok, ensure_eq_ok, pure_eq_ok] at h
  obtain ⟨e, hfind, -, -, rfl⟩ := h
  obtain ⟨found, hashed⟩ := findSession_eq_some hfind
  exact ⟨e.2, found, rfl, hashed⟩

/-- A rotation replaces the hash of a live session of a live user. -/
theorem rotateSession_ok {issueAccessToken : Nat → Account → SessionResult String}
    {discovered : DiscoveredSession} {presentedToken replacement : String} {decisionTime : Time}
    {answer : RotatedSession}
    (h : rotateSession hash issueAccessToken discovered presentedToken replacement decisionTime db =
      .ok (db', answer)) :
    ∃ session user, db.auth.users.get? discovered.userId = some user ∧ user.deletedAt = none ∧
      db.sessions.get? discovered.id = some session ∧
      session.refreshTokenHash = hash presentedToken ∧ session.revokedAt = none ∧
      decisionTime < session.expiresAt ∧ answer.refreshToken = replacement ∧
      answer.refreshExpiresAt = session.expiresAt ∧
      db' = { db with sessions := db.sessions.update discovered.id fun session =>
        { session with refreshTokenHash := hash replacement } } := by
  simp only [rotateSession, bind_eq_ok, orThrow_eq_ok, ensure_eq_ok, pure_eq_ok,
    Option.filter_eq_some_iff, decide_eq_true_eq, Prod.mk.injEq] at h
  obtain ⟨user, ⟨found, alive⟩, session, hsession, -, ⟨hashed, unrevoked, unexpired⟩, -, -, -, -,
    sessions, hupdate, rfl, rfl⟩ := h
  obtain ⟨-, -, -, rfl⟩ := Table.updateIf_eq_some.mp hupdate
  exact ⟨session, user, found, alive, hsession, hashed, unrevoked, unexpired, rfl, rfl, rfl⟩

theorem discoverRevocation_eq_some {presentedToken : String} {discovered : DiscoveredSession}
    (h : discoverRevocation hash presentedToken db = some discovered) :
    ∃ session, db.sessions.get? discovered.id = some session ∧
      session.userId = discovered.userId ∧ session.refreshTokenHash = hash presentedToken := by
  obtain ⟨e, hfind, rfl⟩ := Option.map_eq_some_iff.mp h
  obtain ⟨found, hashed⟩ := findSession_eq_some hfind
  exact ⟨e.2, found, rfl, hashed⟩

end Inversion

/-! ### Revocation -/

/-- The later row is of the same session: its user and its expiry stay, and a
revocation is not undone. -/
structure RefreshSession.Continues (a b : RefreshSession) : Prop where
  userId : b.userId = a.userId
  expiresAt : b.expiresAt = a.expiresAt
  revoked : a.revokedAt ≠ none → b.revokedAt ≠ none

theorem RefreshSession.Continues.refl (a : RefreshSession) : a.Continues a := ⟨rfl, rfl, id⟩

/-- Through two changes a session stays the same one. -/
theorem RefreshSession.Continues.trans {a b c : RefreshSession} (h₁ : a.Continues b)
    (h₂ : b.Continues c) : a.Continues c where
  userId := h₂.userId.trans h₁.userId
  expiresAt := h₂.expiresAt.trans h₁.expiresAt
  revoked := h₂.revoked ∘ h₁.revoked

section Revocation

variable {discovered : DiscoveredSession} {now : Time} {db : SessionDb}

@[simp] theorem revokeSession_auth : (revokeSession discovered now db).auth = db.auth := by
  unfold revokeSession
  split <;> rfl

/-- A revocation only sets `revokedAt`. -/
theorem revokeSession_rows : Table.Rows
    (fun _ a b => a.Continues b ∧ b.refreshTokenHash = a.refreshTokenHash)
    db.sessions (revokeSession discovered now db).sessions := by
  have same : Table.Rows (fun _ a b => a.Continues b ∧ b.refreshTokenHash = a.refreshTokenHash)
      db.sessions db.sessions := .refl (fun _ a => ⟨.refl a, rfl⟩) _
  unfold revokeSession
  split
  · dsimp only
    cases hupdate : db.sessions.updateIf discovered.id (decide <| ·.revokedAt = none)
        (RefreshSession.revoke now) with
    | none => exact same
    | some sessions =>
        obtain ⟨-, -, -, rfl⟩ := Table.updateIf_eq_some.mp hupdate
        apply Table.rows_update
        · exact fun a _ => ⟨⟨rfl, rfl, fun _ => Option.some_ne_none now⟩, rfl⟩
        · exact fun _ a _ => ⟨.refl a, rfl⟩
  · exact same

end Revocation

end ColorfulLife
