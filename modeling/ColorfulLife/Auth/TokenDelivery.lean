/-
Which address a verification token verifies.

A request is cut at its transactions and its mail: a resend reads the user, then
replaces the token, then sends; a signup or a change of address commits and then
sends. The mail of a token is a row from the moment the token exists, and says
where it goes. A raw token that was given out before is not drawn again.
-/

import ColorfulLife.Auth.EmailVerification
import ColorfulLife.Relational.Run

namespace ColorfulLife

open Relational

/-! ### The machine -/

inductive Delivery where
  | waiting
  | sent
  | failed
  deriving DecidableEq, Repr

/-- `sendVerificationEmail({ recipientEmail, verificationUrl })`. -/
structure Mail where
  recipientEmail : String
  rawToken : String
  delivery : Delivery
  deriving DecidableEq, Repr

/-- What a resend has read of its user. -/
structure Resend where
  userId : Nat
  email : String
  deriving DecidableEq, Repr

structure AuthState where
  db : AuthDb
  resends : Table Resend
  mails : Table Mail

inductive AuthOp where
  | signup (email rawToken : String) (now : Time)
  | readResend (userId : Nat)
  | replaceToken (resendId : Nat) (rawToken : String) (now : Time)
  | changeCurrentUserEmail (userId : Nat) (email rawToken : String) (now : Time)
  | send (mailId : Nat) (delivered : Bool)
  | verifyEmail (rawToken : String) (now : Time)
  | deleteAccount (userId : Nat) (tombstone : String) (now : Time)

namespace AuthState

/-- No mail carries the token. -/
def isFresh (s : AuthState) (rawToken : String) : Bool :=
  (s.mails.find? fun _ mail => decide (mail.rawToken = rawToken)).isNone

def post (s : AuthState) (recipientEmail rawToken : String) : AuthState :=
  { s with mails := s.mails.insert ⟨recipientEmail, rawToken, .waiting⟩ }

end AuthState

section

variable (hash : String → String)

def authStep (s : AuthState) : AuthOp → AuthState
  | .signup email rawToken now =>
      if s.isFresh rawToken then
        match signup hash email rawToken now s.db with
        | .error _ => s
        | .ok (db, created) =>
            if created then { s with db := db }.post email rawToken else { s with db := db }
      else s
  | .readResend userId =>
      match (s.db.users.get? userId).filter (decide <| ·.deletedAt = none) with
      | none => s
      | some user =>
          if user.emailVerified then s
          else { s with resends := s.resends.insert ⟨userId, user.email⟩ }
  | .replaceToken resendId rawToken now =>
      match s.resends.get? resendId with
      | none => s
      | some resend =>
          if s.isFresh rawToken then
            let s := { s with resends := s.resends.erase resendId }
            match createOrReplaceEmailVerificationToken hash resend.userId rawToken now s.db with
            | .error _ => s
            | .ok (db, created) =>
                if created then { s with db := db }.post resend.email rawToken
                else { s with db := db }
          else s
  | .changeCurrentUserEmail userId email rawToken now =>
      if s.isFresh rawToken then
        match changeUnverifiedUserEmail hash userId email rawToken now s.db with
        | .error _ => s
        | .ok db => { s with db := db }.post email rawToken
      else s
  | .send mailId delivered =>
      { s with mails := s.mails.update mailId fun mail =>
          { mail with delivery := if delivered then .sent else .failed } }
  | .verifyEmail rawToken now =>
      { s with db := commit (verifyEmailVerificationToken hash rawToken now s.db) s.db }
  | .deleteAccount userId tombstone now =>
      { s with db := commit (deleteCustomerAccount userId tombstone now s.db) s.db }

/-! ### What the token law says -/

/-- The mail that carries the token goes to the address. -/
def AuthState.DeliveredTo (s : AuthState) (rawToken email : String) : Prop :=
  (∃ k mail, s.mails.get? k = some mail ∧ mail.rawToken = rawToken) ∧
    ∀ k mail, s.mails.get? k = some mail → mail.rawToken = rawToken → mail.recipientEmail = email

/-- A verification that goes through is of the address its token was mailed to. -/
def AuthOp.VerifiesRecipient (s : AuthState) : AuthOp → Prop
  | .verifyEmail rawToken now => ∀ db, verifyEmailVerificationToken hash rawToken now s.db = .ok db →
      ∃ id token user, findToken (hash rawToken) s.db = some (id, token) ∧
        s.db.users.get? token.userId = some user ∧ s.DeliveredTo rawToken user.email
  | _ => True

end

/-- A resend replaces the token of an address that is still the one it read. -/
def AuthOp.ResendsToCurrent (s : AuthState) : AuthOp → Prop
  | .replaceToken resendId _ _ => ∀ resend user, s.resends.get? resendId = some resend →
      s.db.users.get? resend.userId = some user → user.emailVerified = false →
      user.deletedAt = none → user.email = resend.email
  | _ => True

/-! ### The invariant -/

/-- The mail of each stored token goes to its user's current address. -/
structure TokenInv (hash : String → String) (s : AuthState) : Prop where
  one : ∀ i j a b, s.db.tokens.get? i = some a → s.db.tokens.get? j = some b →
    a.userId = b.userId → i = j
  owned : ∀ i t, s.db.tokens.get? i = some t → ∃ user, s.db.users.get? t.userId = some user
  mailed : ∀ i t, s.db.tokens.get? i = some t → ∃ rawToken, t.tokenHash = hash rawToken ∧
    (∃ k mail, s.mails.get? k = some mail ∧ mail.rawToken = rawToken) ∧
    ∀ user, s.db.users.get? t.userId = some user → user.deletedAt = none →
      s.DeliveredTo rawToken user.email

namespace TokenInv

variable {hash : String → String} {s : AuthState} {db : AuthDb}

theorem isFresh_iff {rawToken : String} : s.isFresh rawToken = true ↔
    ∀ k mail, s.mails.get? k = some mail → mail.rawToken ≠ rawToken := by
  simp [AuthState.isFresh, Option.isNone_iff_eq_none, Table.find?_eq_none]

/-- A new mail does not carry an older token. -/
theorem deliveredTo_post {rawToken newToken email recipient : String}
    (fresh : s.isFresh newToken = true)
    (h : s.DeliveredTo rawToken email) : (s.post recipient newToken).DeliveredTo rawToken email := by
  obtain ⟨⟨k, mail, found, carries⟩, all⟩ := h
  refine ⟨⟨k, mail, Table.get?_insert_of_some found, carries⟩, fun j m hm same => ?_⟩
  dsimp only [AuthState.post] at hm
  rcases Table.insert_cases hm with ⟨-, rfl⟩ | hm
  · exact absurd (carries.trans same.symm) (isFresh_iff.mp fresh k mail found)
  · exact all j m hm same

theorem deliveredTo_new (recipient : String) {newToken : String}
    (fresh : s.isFresh newToken = true) :
    (s.post recipient newToken).DeliveredTo newToken recipient := by
  refine ⟨⟨_, _, Table.get?_insert_self .., rfl⟩, fun j m hm same => ?_⟩
  dsimp only [AuthState.post] at hm
  rw [Table.get?_insert] at hm
  split at hm
  · exact Option.some.inj hm ▸ rfl
  · exact absurd same (isFresh_iff.mp fresh j m hm)

/-- A user's token is replaced and mailed, and nobody else's address changes. -/
theorem issue (h : TokenInv hash s) {userId : Nat} {recipient rawToken : String} {now : Time}
    (fresh : s.isFresh rawToken = true)
    (replaced : Replaced (newVerificationToken hash userId rawToken now) s.db.tokens db.tokens)
    (others : ∀ u, u ≠ userId → ∀ user, s.db.users.get? u = some user →
      db.users.get? u = some user)
    (owner : ∃ user, db.users.get? userId = some user)
    (current : ∀ user, db.users.get? userId = some user → user.deletedAt = none →
      user.email = recipient) : TokenInv hash ({ s with db := db }.post recipient rawToken) := by
  obtain ⟨k, -, rows⟩ := replaced
  have fresh' : { s with db := db }.isFresh rawToken = true := fresh
  refine ⟨fun i j a b ha hb same => ?_, fun i t ht => ?_, fun i t ht => ?_⟩
  · rcases rows i a ha with ⟨rfl, rfl⟩ | ⟨other, old⟩
    · rcases rows j b hb with ⟨rfl, -⟩ | ⟨other', -⟩
      · rfl
      · exact absurd same.symm other'
    · rcases rows j b hb with ⟨-, rfl⟩ | ⟨-, old'⟩
      · exact absurd same other
      · exact h.one i j a b old old' same
  · rcases rows i t ht with ⟨-, rfl⟩ | ⟨other, old⟩
    · exact owner
    · obtain ⟨user, found⟩ := h.owned i t old
      exact ⟨user, others _ other user found⟩
  · rcases rows i t ht with ⟨-, rfl⟩ | ⟨other, old⟩
    · have delivered := deliveredTo_new recipient fresh'
      refine ⟨rawToken, rfl, delivered.1, fun user found alive => ?_⟩
      rw [current user found alive]
      exact delivered
    · obtain ⟨raw, hashed, ⟨j, mail, hm, carries⟩, delivered⟩ := h.mailed i t old
      refine ⟨raw, hashed, ⟨j, mail, Table.get?_insert_of_some hm, carries⟩,
        fun user found alive => ?_⟩
      obtain ⟨user', found'⟩ := h.owned i t old
      obtain rfl := Option.some.inj (found.symm.trans (others _ other user' found'))
      exact deliveredTo_post fresh' (delivered user found' alive)

/-- Users and tokens only go on, and nobody's address changes while a token of
theirs is left. -/
theorem kept (h : TokenInv hash s)
    (tokens : ∀ i t, db.tokens.get? i = some t → s.db.tokens.get? i = some t ∧
      ∃ user user', s.db.users.get? t.userId = some user ∧
        db.users.get? t.userId = some user' ∧ user'.email = user.email ∧
        user'.deletedAt = user.deletedAt) : TokenInv hash { s with db := db } := by
  refine ⟨fun i j a b ha hb => ?_, fun i t ht => ?_, fun i t ht => ?_⟩
  · exact h.one i j a b (tokens i a ha).1 (tokens j b hb).1
  · obtain ⟨-, -, user', -, found, -⟩ := tokens i t ht
    exact ⟨user', found⟩
  · obtain ⟨old, user, user', found, found', email, deleted⟩ := tokens i t ht
    obtain ⟨raw, hashed, mail, delivered⟩ := h.mailed i t old
    refine ⟨raw, hashed, mail, fun user'' found'' alive => ?_⟩
    obtain rfl := Option.some.inj (found'.symm.trans found'')
    rw [email]
    exact delivered user found (deleted ▸ alive)

/-- A delivery does not change where a mail goes. -/
theorem send (h : TokenInv hash s) (mailId : Nat) (delivery : Delivery) :
    TokenInv hash { s with
      mails := s.mails.update mailId fun mail => { mail with delivery := delivery } } := by
  have read : ∀ k mail', (s.mails.update mailId fun mail =>
      { mail with delivery := delivery }).get? k = some mail' → ∃ mail,
        s.mails.get? k = some mail ∧ mail'.rawToken = mail.rawToken ∧
        mail'.recipientEmail = mail.recipientEmail := by
    intro k mail' hm
    rw [Table.get?_update] at hm
    split at hm
    · obtain ⟨mail, found, rfl⟩ := Option.map_eq_some_iff.mp hm
      exact ⟨mail, found, rfl, rfl⟩
    · exact ⟨mail', hm, rfl, rfl⟩
  have carried : ∀ raw, (∃ k mail, s.mails.get? k = some mail ∧ mail.rawToken = raw) →
      ∃ k mail, (s.mails.update mailId fun mail => { mail with delivery := delivery }).get? k =
        some mail ∧ mail.rawToken = raw := by
    rintro raw ⟨k, mail, found, rfl⟩
    by_cases own : k = mailId
    · subst own
      exact ⟨k, { mail with delivery := delivery }, by simp [found], rfl⟩
    · exact ⟨k, mail, (Table.get?_update_of_ne _ _ own).trans found, rfl⟩
  refine ⟨h.one, h.owned, fun i t ht => ?_⟩
  obtain ⟨raw, hashed, mail, delivered⟩ := h.mailed i t ht
  refine ⟨raw, hashed, carried raw mail, fun user found alive => ?_⟩
  obtain ⟨some_mail, all⟩ := delivered user found alive
  refine ⟨carried raw some_mail, fun k mail' hm same => ?_⟩
  obtain ⟨mail, hmail, carries, recipient⟩ := read k mail' hm
  exact recipient.trans (all k mail hmail (carries.symm.trans same))

theorem verify (h : TokenInv hash s) {rawToken : String} {now : Time}
    (tx : verifyEmailVerificationToken hash rawToken now s.db = .ok db) :
    TokenInv hash { s with db := db } := by
  obtain ⟨id, token, user, -, found, -, -, -, rfl⟩ := verifyEmailVerificationToken_ok tx
  refine h.kept fun i t ht => ?_
  dsimp only at ht ⊢
  rw [Table.get?_erase] at ht
  split at ht
  · cases ht
  · obtain ⟨user', found'⟩ := h.owned i t ht
    rw [Table.get?_update, found']
    split
    · exact ⟨ht, user', _, rfl, rfl, rfl, rfl⟩
    · exact ⟨ht, user', user', rfl, rfl, rfl, rfl⟩

theorem delete (h : TokenInv hash s) {userId : Nat} {tombstone : String} {now : Time}
    (tx : deleteCustomerAccount userId tombstone now s.db = .ok db) :
    TokenInv hash { s with db := db } := by
  rcases deleteCustomerAccount_ok tx with rfl | rfl
  · exact h
  · refine h.kept fun i t ht => ?_
    dsimp only at ht ⊢
    rw [Table.get?_eraseMany, Option.filter_eq_some_iff] at ht
    obtain ⟨ht, other⟩ := ht
    have other : t.userId ≠ userId := by simpa using other
    obtain ⟨user, found⟩ := h.owned i t ht
    rw [Table.get?_update_of_ne _ _ other]
    exact ⟨ht, user, user, found, found, rfl, rfl⟩

theorem step (h : TokenInv hash s) (op : AuthOp) (current : op.ResendsToCurrent s) :
    TokenInv hash (authStep hash s op) := by
  cases op with
  | signup email rawToken now =>
      unfold authStep
      dsimp only
      split
      · rename_i fresh
        split
        · exact h
        · rename_i db created hsignup
          obtain ⟨rfl, user, address, users, replaced⟩ := signup_ok h.one hsignup
          rw [if_pos rfl]
          apply h.issue fresh replaced
          · intro u other user' found
            rw [users]
            exact Table.get?_insert_of_some found
          · exact ⟨user, by rw [users, Table.get?_insert_self]⟩
          · intro user' found alive
            rw [users, Table.get?_insert_self] at found
            obtain rfl := Option.some.inj found
            exact address
      · exact h
  | readResend userId =>
      unfold authStep
      dsimp only
      split
      · exact h
      · split
        · exact h
        · exact ⟨h.one, h.owned, h.mailed⟩
  | replaceToken resendId rawToken now =>
      unfold authStep
      dsimp only
      split
      · exact h
      · rename_i resend hresend
        split
        · rename_i fresh
          have left : TokenInv hash { s with resends := s.resends.erase resendId } :=
            ⟨h.one, h.owned, h.mailed⟩
          split
          · exact left
          · rename_i db created hcreate
            obtain ⟨user, found, ⟨-, rfl, rfl⟩ | ⟨unverified, rfl, tokens, hupsert, rfl⟩⟩ :=
              createOrReplace_ok hcreate
            · rw [if_neg (by simp)]
              exact left
            · rw [if_pos rfl]
              apply left.issue fresh (upsertVerificationToken_ok h.one hupsert)
              · exact fun u _ user' found' => found'
              · exact ⟨user, found⟩
              · intro user' found' alive
                obtain rfl := Option.some.inj (found.symm.trans found')
                exact current resend user hresend found unverified alive
        · exact h
  | changeCurrentUserEmail userId email rawToken now =>
      unfold authStep
      dsimp only
      split
      · rename_i fresh
        split
        · exact h
        · rename_i db hchange
          obtain ⟨user, found, users, replaced⟩ := changeUnverifiedUserEmail_ok h.one hchange
          apply h.issue fresh replaced
          · intro u other user' found'
            rw [users, Table.get?_update_of_ne _ _ other]
            exact found'
          · exact ⟨_, by rw [users, Table.get?_update_self, found]; rfl⟩
          · intro user' found' alive
            rw [users, Table.get?_update_self, found] at found'
            exact Option.some.inj found' ▸ rfl
      · exact h
  | send mailId delivered => exact h.send mailId _
  | verifyEmail rawToken now =>
      exact commit_invariant (I := fun db => TokenInv hash { s with db := db }) h fun db tx =>
        h.verify tx
  | deleteAccount userId tombstone now =>
      exact commit_invariant (I := fun db => TokenInv hash { s with db := db }) h fun db tx =>
        h.delete tx

/-- With the invariant, a verification is of the address its token was mailed to. -/
theorem verifies (h : TokenInv hash s) (injective : Function.Injective hash) (op : AuthOp) :
    op.VerifiesRecipient hash s := by
  cases op with
  | verifyEmail rawToken now =>
      intro db tx
      obtain ⟨id, token, user, hfind, found, alive, -⟩ := verifyEmailVerificationToken_ok tx
      obtain ⟨stored, hashed⟩ := Table.find?_eq_some hfind
      obtain ⟨raw, hashed', -, delivered⟩ := h.mailed id token stored
      have same : raw = rawToken :=
        injective (hashed'.symm.trans (of_decide_eq_true hashed))
      subst same
      exact ⟨id, token, user, hfind, found, delivered user found alive⟩
  | _ => trivial

end TokenInv

/-! ### Runs -/

/-- Any users, no token yet and nothing under way. -/
structure AuthStart (s : AuthState) : Prop where
  tokens : ∀ i, s.db.tokens.get? i = none
  resends : ∀ i, s.resends.get? i = none
  mails : ∀ i, s.mails.get? i = none

theorem AuthStart.inv {s : AuthState} (start : AuthStart s) (hash : String → String) :
    TokenInv hash s where
  one := fun i j a b ha => by simp [start.tokens] at ha
  owned := fun i t ht => by simp [start.tokens] at ht
  mailed := fun i t ht => by simp [start.tokens] at ht

/-- In a run whose resends replace the token of the address that they read, a
token verifies only the address it was mailed to. -/
theorem tokens_verify_recipients {hash : String → String} (injective : Function.Injective hash)
    {s : AuthState} (start : AuthStart s) (ops : List AuthOp)
    (current : ∀ t ∈ transitions (authStep hash) s ops, t.2.ResendsToCurrent t.1) :
    ∀ t ∈ transitions (authStep hash) s ops, t.2.VerifiesRecipient hash t.1 := by
  intro t ht
  obtain ⟨xs, hxs, hstate⟩ := mem_transitions.mp ht
  have inv : TokenInv hash (run (authStep hash) s xs) :=
    states_invariant_of (I := TokenInv hash) (C := fun s op => op.ResendsToCurrent s)
      (fun _ op h current => h.step op current) (start.inv hash) current
      ((List.prefix_append xs [t.2]).trans hxs)
  rw [← hstate] at inv
  exact inv.verifies injective t.2

/-- Nobody has signed up. -/
def sampleAuth : AuthState := ⟨⟨.empty, .empty⟩, .empty, .empty⟩

theorem sampleAuth_start : AuthStart sampleAuth :=
  ⟨fun _ => rfl, fun _ => rfl, fun _ => rfl⟩

/-- A customer signs up, asks for the mail again, and uses the second token. -/
def resentSignup : List AuthOp :=
  [.signup "ada@example.com" "t1" 0, .send 1 true, .readResend 1, .replaceToken 1 "t2" 1,
    .send 2 true, .verifyEmail "t2" 2]

/-- The address changes between the read of a resend and its token. -/
def overtakenResend : List AuthOp :=
  [.signup "ada@example.com" "t1" 0, .readResend 1,
    .changeCurrentUserEmail 1 "bob@example.com" "t2" 1, .replaceToken 1 "t3" 2, .send 3 true,
    .verifyEmail "t3" 3]

/-- The token that was mailed to the old address verifies the new one. -/
theorem overtakenResend_verifies : AuthStart sampleAuth ∧
    ¬ ∀ t ∈ transitions (authStep id) sampleAuth overtakenResend, t.2.VerifiesRecipient id t.1 := by
  apply And.intro sampleAuth_start
  intro verifies
  have last : (run (authStep id) sampleAuth (overtakenResend.take 5), AuthOp.verifyEmail "t3" 3) ∈
      transitions (authStep id) sampleAuth overtakenResend :=
    mem_transitions.mpr ⟨overtakenResend.take 5, List.prefix_rfl, rfl⟩
  obtain ⟨_, token, user, hfind, found, -, recipients⟩ := verifies _ last _ rfl
  have address := recipients 3 ⟨"ada@example.com", "t3", .sent⟩ rfl rfl
  obtain ⟨-, rfl⟩ := Prod.mk.inj (Option.some.inj hfind)
  obtain rfl := Option.some.inj found
  exact absurd address (by decide)

/-- The resend comes after the signup has committed, and nothing overtakes it. -/
theorem resentSignup_current :
    ∀ t ∈ transitions (authStep id) sampleAuth resentSignup, t.2.ResendsToCurrent t.1 := by
  simp only [resentSignup, transitions, List.forall_mem_cons, List.not_mem_nil]
  refine ⟨trivial, trivial, trivial, ?_, trivial, trivial, fun _ none => none.elim⟩
  intro resend user hresend found _ _
  obtain rfl := Option.some.inj hresend
  obtain rfl := Option.some.inj found
  rfl

theorem tokens_verify_recipients_sample :
    (AuthOp.verifyEmail "t2" 2).VerifiesRecipient id
      (run (authStep id) sampleAuth (resentSignup.take 5)) :=
  tokens_verify_recipients Function.injective_id sampleAuth_start resentSignup
    resentSignup_current (_, .verifyEmail "t2" 2)
    (mem_transitions.mpr ⟨resentSignup.take 5, List.prefix_rfl, rfl⟩)

end ColorfulLife
