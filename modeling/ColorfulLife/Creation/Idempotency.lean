/-
Creation is idempotent for each customer and key.

The lookup outside the transaction decides nothing for a call that misses: the
invariant `KeyInv` rests on the lookup under the advisory lock. A call that is
past it alone holds the lock, and no order has the key; so a placement writes the
key's first order, and every later lookup finds it.
-/

import ColorfulLife.Creation.Placement

namespace ColorfulLife

open Relational

/-! ### One customer and one key -/

/-- A call of the customer with the key. -/
def CreationCall.IsFor (call : CreationCall) (userId : Nat) (key : String) : Prop :=
  call.userId = userId ∧ call.key = some key

instance (call : CreationCall) (userId : Nat) (key : String) :
    Decidable (call.IsFor userId key) := by
  unfold CreationCall.IsFor; infer_instance

/-- A call of the customer with the key created the order that it returned. -/
def CreationState.Created (s : CreationState) (userId : Nat) (key : String) (creator : CreationCall)
    (view : OrderView) : Prop :=
  creator.IsFor userId key ∧ creator.phase = .returned true view ∧
    ∃ i, s.calls.get? i = some creator

/-- The key's only order is the one viewed, with the request's hash, and the view
shows its terms. -/
def Recorded (digest : CanonicalRequest → String) (userId : Nat) (key : String) (terms : DbTerms)
    (input : CreateOrderInput) (view : OrderView) : Prop :=
  ∃ order, terms.keyed userId key = [(view.orderId, order)] ∧
    order.creationRequestHash = some (requestHash digest input) ∧
    view.terms = terms.order view.orderId

/-- The key's orders and the terms of every order are as before. -/
def KeyKept (userId : Nat) (key : String) (before after : DbTerms) : Prop :=
  after.keyed userId key = before.keyed userId key ∧
    ∀ id, before.orders.lookup id ≠ none → after.order id = before.order id

theorem KeyKept.of_eq {userId : Nat} {key : String} {before after : DbTerms}
    (same : after = before) : KeyKept userId key before after := by
  subst same
  exact ⟨rfl, fun _ _ => rfl⟩

theorem Recorded.kept {digest : CanonicalRequest → String} {userId : Nat} {key : String}
    {before after : DbTerms} {input : CreateOrderInput} {view : OrderView}
    (h : Recorded digest userId key before input view) (kept : KeyKept userId key before after) :
    Recorded digest userId key after input view := by
  obtain ⟨order, keyed, hash, terms⟩ := h
  refine ⟨order, kept.1.trans keyed, hash, terms.trans (kept.2 _ ?_).symm⟩
  exact DbTerms.keyed_lookup (by rw [keyed]; exact List.mem_singleton_self _)

/-- Somebody else's order does not use the key. -/
theorem other_place {digest : CanonicalRequest → String} {call : CreationCall} {userId : Nat}
    {key : String} {db db' : Db} {orderId : Nat}
    (placed : call.place digest db = .ok (db', orderId)) (other : ¬ call.IsFor userId key) :
    KeyKept userId key db.terms db'.terms := by
  obtain ⟨order, owner, used, -, added⟩ := place_added placed
  refine ⟨?_, fun id => added.order⟩
  rw [added.keyed, if_neg, List.append_nil]
  rintro ⟨rfl, same⟩
  exact other ⟨owner.symm, used.symm.trans same⟩

/-- What holds of the calls of a customer with one key. -/
structure KeyInv (digest : CanonicalRequest → String) (userId : Nat) (key : String)
    (texts : Set String) (s : CreationState) : Prop where
  atMostOne : (s.db.terms.keyed userId key).length ≤ 1
  exclusive : ∀ i j c d, s.calls.get? i = some c → s.calls.get? j = some d →
    c.IsFor userId key → d.IsFor userId key → c.phase.holdsLock = true →
    d.phase.holdsLock = true → i = j
  unused : ∀ i c, s.calls.get? i = some c → c.IsFor userId key → c.phase = .cleared →
    s.db.terms.keyed userId key = []
  created : s.db.terms.keyed userId key ≠ [] → ∃ creator view, s.Created userId key creator view
  recorded : ∀ i c created view, s.calls.get? i = some c → c.IsFor userId key →
    c.phase = .returned created view → Recorded digest userId key s.db.terms c.input view
  hashed : ∀ i c, s.calls.get? i = some c → c.IsFor userId key →
    requestText (canonicalRequest c.input) ∈ texts

namespace KeyInv

variable {digest : CanonicalRequest → String} {userId : Nat} {key : String} {texts : Set String}
  {s : CreationState}

/-- A change of the database that keeps the key's orders. -/
theorem db {db : Db} (h : KeyInv digest userId key texts s)
    (kept : KeyKept userId key s.db.terms db.terms) :
    KeyInv digest userId key texts { s with db := db } where
  atMostOne := by rw [kept.1]; exact h.atMostOne
  exclusive := h.exclusive
  unused := fun i c found mine cleared => by rw [kept.1]; exact h.unused i c found mine cleared
  created := fun used => h.created (by rw [kept.1] at used; exact used)
  recorded := fun i c created view found mine ended =>
    (h.recorded i c created view found mine ended).kept kept
  hashed := h.hashed

/-- A call that starts, or fails at once. -/
theorem call (h : KeyInv digest userId key texts s) {call : CreationCall}
    (unlocked : call.phase.holdsLock = false)
    (running : ∀ created view, call.phase ≠ .returned created view)
    (hashed : call.IsFor userId key → requestText (canonicalRequest call.input) ∈ texts) :
    KeyInv digest userId key texts { s with calls := s.calls.insert call } := by
  have old : ∀ i c, (s.calls.insert call).get? i = some c → c = call ∨ s.calls.get? i = some c := by
    intro i c found
    rw [Table.get?_insert] at found
    split at found
    · exact Or.inl (Option.some.inj found).symm
    · exact Or.inr found
  refine ⟨h.atMostOne, ?_, ?_, ?_, ?_, ?_⟩
  · intro i j c d hc hd mine mine' locked locked'
    rcases old i c hc with rfl | hc
    · rw [unlocked] at locked
      cases locked
    · rcases old j d hd with rfl | hd
      · rw [unlocked] at locked'
        cases locked'
      · exact h.exclusive i j c d hc hd mine mine' locked locked'
  · intro i c hc mine cleared
    rcases old i c hc with rfl | hc
    · rw [cleared] at unlocked
      cases unlocked
    · exact h.unused i c hc mine cleared
  · intro used
    obtain ⟨creator, view, mine, ended, i, found⟩ := h.created used
    exact ⟨creator, view, mine, ended, i, Table.get?_insert_of_some found⟩
  · intro i c created view hc mine ended
    rcases old i c hc with rfl | hc
    · exact absurd ended (running created view)
    · exact h.recorded i c created view hc mine ended
  · intro i c hc mine
    rcases old i c hc with rfl | hc
    · exact hashed mine
    · exact h.hashed i c hc mine

variable {i : Nat} {call : CreationCall}

/-- Whoever created the key's order is over, and so not the call under way. -/
theorem created_move {creator : CreationCall} {view : OrderView}
    (created : s.Created userId key creator view) (found : s.calls.get? i = some call)
    (running : call.phase.isOver = false) (db : Db) (phase : CreationPhase) :
    (s.move i db phase).Created userId key creator view := by
  obtain ⟨mine, ended, j, hj⟩ := created
  refine ⟨mine, ended, j, ?_⟩
  rw [get?_move_of_ne _ db phase]
  · exact hj
  · rintro rfl
    obtain rfl := Option.some.inj (found.symm.trans hj)
    rw [ended] at running
    cases running

/-- A call under way moves on in one database. -/
theorem goes (h : KeyInv digest userId key texts s) (found : s.calls.get? i = some call)
    (running : call.phase.isOver = false) {phase : CreationPhase}
    (locks : call.IsFor userId key → phase.holdsLock = true →
      call.phase.holdsLock = true ∨ s.lockFree call = true)
    (unused : call.IsFor userId key → phase = .cleared → s.db.terms.keyed userId key = [])
    (recorded : call.IsFor userId key → ∀ created view, phase = .returned created view →
      Recorded digest userId key s.db.terms call.input view) :
    KeyInv digest userId key texts (s.move i s.db phase) := by
  have alone : call.IsFor userId key → phase.holdsLock = true → ∀ j d, j ≠ i →
      s.calls.get? j = some d → d.IsFor userId key → d.phase.holdsLock ≠ true := by
    intro mine locked j d other hd mine' locked'
    rcases locks mine locked with before | free
    · exact other (h.exclusive i j call d found hd mine mine' before locked').symm
    · have unlocked := (lockFree_eq_true mine.2).mp free j d hd (mine'.1.trans mine.1.symm) mine'.2
      rw [locked'] at unlocked
      cases unlocked
  refine ⟨h.atMostOne, ?_, ?_, ?_, ?_, ?_⟩
  · intro j l c d hc hd mine mine' locked locked'
    rcases get?_move_cases found hc with ⟨rfl, rfl⟩ | ⟨hj, old⟩
    · rcases get?_move_cases found hd with ⟨rfl, -⟩ | ⟨hl, hd⟩
      · rfl
      · exact absurd locked' (alone mine locked l d hl hd mine')
    · rcases get?_move_cases found hd with ⟨rfl, rfl⟩ | ⟨hl, hd⟩
      · exact absurd locked (alone mine' locked' j c hj old mine)
      · exact h.exclusive j l c d old hd mine mine' locked locked'
  · intro j c hc mine cleared
    rcases get?_move_cases found hc with ⟨-, rfl⟩ | ⟨-, hc⟩
    · exact unused mine cleared
    · exact h.unused j c hc mine cleared
  · intro used
    obtain ⟨creator, view, created⟩ := h.created used
    exact ⟨creator, view, created_move created found running _ _⟩
  · intro j c created view hc mine ended
    rcases get?_move_cases found hc with ⟨-, rfl⟩ | ⟨-, hc⟩
    · exact recorded mine created view ended
    · exact h.recorded j c created view hc mine ended
  · intro j c hc mine
    rcases get?_move_cases found hc with ⟨-, rfl⟩ | ⟨-, hc⟩
    · exact h.hashed i call found mine
    · exact h.hashed j c hc mine

/-- The call that is alone past the lock places the key's first order. -/
theorem place (h : KeyInv digest userId key texts s) (found : s.calls.get? i = some call)
    (mine : call.IsFor userId key) (cleared : call.phase = .cleared) {db' : Db} {orderId : Nat}
    (placed : call.place digest s.db = .ok (db', orderId)) :
    KeyInv digest userId key texts (s.move i db' (.returned true (db'.viewOrder orderId))) := by
  have unused : s.db.terms.keyed userId key = [] := h.unused i call found mine cleared
  obtain ⟨order, owner, keyed, hash, added⟩ := place_added placed
  have written : db'.terms.keyed userId key = [(orderId, order)] := by
    rw [added.keyed, unused, if_pos ⟨owner.trans mine.1, keyed.trans mine.2⟩, List.nil_append]
  -- nobody has returned yet, and nobody else holds the lock
  have unrecorded : ∀ j c created view, s.calls.get? j = some c → c.IsFor userId key →
      c.phase ≠ .returned created view := by
    intro j c created view hc mine ended
    obtain ⟨order, used, -⟩ := h.recorded j c created view hc mine ended
    rw [unused] at used
    cases used
  refine ⟨by rw [CreationState.move, written]; rfl, ?_, ?_, ?_, ?_, ?_⟩
  · intro j l c d hc hd mine mine' locked locked'
    rcases get?_move_cases found hc with ⟨-, rfl⟩ | ⟨-, hc⟩
    · cases locked
    · rcases get?_move_cases found hd with ⟨-, rfl⟩ | ⟨-, hd⟩
      · cases locked'
      · exact h.exclusive j l c d hc hd mine mine' locked locked'
  · intro j c hc mine' cleared'
    rcases get?_move_cases found hc with ⟨-, rfl⟩ | ⟨other, hc⟩
    · cases cleared'
    · have same := h.exclusive j i c call hc found mine' mine (by rw [cleared']; rfl)
        (by rw [cleared]; rfl)
      exact absurd same other
  · intro _
    refine ⟨{ call with phase := .returned true (db'.viewOrder orderId) }, _, mine, rfl, i, ?_⟩
    exact get?_move_self found _ _
  · intro j c created view hc mine' ended
    rcases get?_move_cases found hc with ⟨-, rfl⟩ | ⟨-, hc⟩
    · cases ended
      refine ⟨order, written, ?_, viewOrder_terms db' orderId⟩
      rw [hash, mine.2]
      rfl
    · exact absurd ended (unrecorded j c created view hc mine')
  · intro j c hc mine
    rcases get?_move_cases found hc with ⟨-, rfl⟩ | ⟨-, hc⟩
    · exact h.hashed i call found mine
    · exact h.hashed j c hc mine

/-! ### The lookup of the key -/

/-- What a lookup of the key finds, and when. -/
theorem lookup (h : KeyInv digest userId key texts s) (mine : call.IsFor userId key) :
    (s.db.terms.keyed userId key = [] ∧
      replayedOrder digest call.userId call.input call.key s.db = .ok none) ∨
    ∃ orderId order, s.db.terms.keyed userId key = [(orderId, order)] ∧
      ((order.creationRequestHash = some (requestHash digest call.input) ∧
          replayedOrder digest call.userId call.input call.key s.db = .ok (some orderId)) ∨
        (order.creationRequestHash ≠ some (requestHash digest call.input) ∧
          replayedOrder digest call.userId call.input call.key s.db =
            .error .orderIdempotencyMismatch)) := by
  have atMostOne := h.atMostOne
  rw [mine.1, mine.2, replayedOrder_keyed]
  cases keyed : s.db.terms.keyed userId key with
  | nil => exact Or.inl ⟨rfl, rfl⟩
  | cons e rest =>
      obtain ⟨orderId, order⟩ := e
      rw [keyed, List.length_cons] at atMostOne
      obtain rfl : rest = [] := List.length_eq_zero_iff.mp (by omega)
      refine Or.inr ⟨orderId, order, rfl, ?_⟩
      by_cases same : order.creationRequestHash = some (requestHash digest call.input)
      · exact Or.inl ⟨same, by simp [same]⟩
      · exact Or.inr ⟨same, by simp [same]⟩

theorem lookup_none (h : KeyInv digest userId key texts s) (mine : call.IsFor userId key)
    (missed : replayedOrder digest call.userId call.input call.key s.db = .ok none) :
    s.db.terms.keyed userId key = [] := by
  rcases h.lookup mine with ⟨unused, -⟩ | ⟨orderId, order, -, ⟨-, found⟩ | ⟨-, found⟩⟩
  · exact unused
  · rw [found] at missed
    cases missed
  · rw [found] at missed
    cases missed

theorem lookup_some (h : KeyInv digest userId key texts s) (mine : call.IsFor userId key)
    {orderId : Nat}
    (used : replayedOrder digest call.userId call.input call.key s.db = .ok (some orderId)) :
    Recorded digest userId key s.db.terms call.input (s.db.viewOrder orderId) := by
  rcases h.lookup mine with ⟨-, found⟩ | ⟨id, order, keyed, ⟨hash, found⟩ | ⟨-, found⟩⟩
  · rw [found] at used
    cases used
  · rw [found] at used
    cases used
    exact ⟨order, keyed, hash, viewOrder_terms s.db orderId⟩
  · rw [found] at used
    cases used

/-! ### Every step keeps it -/

/-- A statement of one call. -/
theorem statement (h : KeyInv digest userId key texts s) (found : s.calls.get? i = some call)
    (running : call.phase.isOver = false) {db' : Db} {phase : CreationPhase}
    (next : CreationStatement digest call (s.lockFree call) s.db db' phase) :
    KeyInv digest userId key texts (s.move i db' phase) := by
  by_cases placing : ∃ view, phase = .returned true view
  · obtain ⟨view, rfl⟩ := placing
    obtain ⟨cleared, orderId, placed, rfl⟩ := next.placed
    by_cases mine : call.IsFor userId key
    · exact h.place found mine cleared placed
    · exact (h.db (other_place placed mine)).goes found running (absurd · mine) (absurd · mine)
        (absurd · mine)
  · have same : db'.terms = s.db.terms := next.terms fun view ended => placing ⟨view, ended⟩
    refine (h.db (KeyKept.of_eq same)).goes found running (fun _ => next.locks) ?_ ?_
    · rintro mine rfl
      change db'.terms.keyed userId key = []
      rw [same]
      exact h.lookup_none mine next.unused
    · rintro mine created view rfl
      change Recorded digest userId key db'.terms call.input view
      rw [same]
      cases created with
      | true => exact absurd ⟨view, rfl⟩ placing
      | false =>
          obtain ⟨orderId, rfl, used⟩ := next.replayed
          exact h.lookup_some mine used

/-- The step lemma. -/
theorem step (h : KeyInv digest userId key texts s) (op : CreationOp)
    (hashed : ∀ input now, op = .call userId input (some key) now →
      requestText (canonicalRequest input) ∈ texts) :
    KeyInv digest userId key texts (creationStep digest s op) := by
  cases op with
  | call userId' input key' now =>
      apply h.call
      · cases checkArguments input key' <;> rfl
      · intro created view
        cases checkArguments input key' <;> exact nofun
      · rintro ⟨rfl, rfl⟩
        exact hashed input now rfl
  | advance i =>
      rcases advance_cases digest s i with same | ⟨call, db, phase, found, next, moved⟩
      · exact same.symm ▸ h
      · rw [moved]
        exact h.statement found (CreationStatement.running next) (next_statement next)
  | shop op =>
      rw [creationStep]
      split
      · exact h
      · exact h.db (KeyKept.of_eq (shopStep_terms digest (Bool.eq_false_of_not_eq_true ‹_›) s.db))
  | price listingId originalPrice salePrice => exact h.db (KeyKept.of_eq rfl)
  | addresses addresses => exact h.db (KeyKept.of_eq rfl)

end KeyInv

/-! ### Placements -/

section Placements

/-- A step writes terms only when a call that is past the lock places its order. -/
theorem creationStep_terms (digest : CanonicalRequest → String) (s : CreationState)
    (op : CreationOp) : (creationStep digest s op).db.terms = s.db.terms ∨
      ∃ i call orderId, op = .advance i ∧ s.calls.get? i = some call ∧ call.phase = .cleared ∧
        call.place digest s.db = .ok ((creationStep digest s op).db, orderId) := by
  cases op with
  | call => exact Or.inl rfl
  | advance i =>
      rcases advance_cases digest s i with same | ⟨call, db, phase, found, next, moved⟩
      · exact Or.inl (by rw [same])
      · have next := next_statement next
        by_cases placing : ∃ view, phase = .returned true view
        · obtain ⟨view, rfl⟩ := placing
          obtain ⟨cleared, orderId, placed, -⟩ := next.placed
          refine Or.inr ⟨i, call, orderId, rfl, found, cleared, ?_⟩
          rw [moved]
          exact placed
        · left
          rw [moved]
          exact next.terms fun view ended => placing ⟨view, ended⟩
  | shop op =>
      left
      rw [creationStep]
      split
      · rfl
      · exact shopStep_terms digest (Bool.eq_false_of_not_eq_true ‹_›) s.db
  | price => exact Or.inl rfl
  | addresses => exact Or.inl rfl

variable (digest : CanonicalRequest → String) (userId : Nat) (key : String)

/-- A call of the customer with the key places its order in this step. -/
def placesFor (t : CreationState × CreationOp) : Bool :=
  match t.2 with
  | .advance i => (t.1.calls.get? i).any fun call =>
      decide (call.IsFor userId key ∧ call.phase = .cleared) && (call.place digest t.1.db).isOk
  | _ => false

variable {digest userId key} {s : CreationState} {op : CreationOp}

theorem placesFor_iff : placesFor digest userId key (s, op) = true ↔
    ∃ i call db orderId, op = .advance i ∧ s.calls.get? i = some call ∧ call.IsFor userId key ∧
      call.phase = .cleared ∧ call.place digest s.db = .ok (db, orderId) := by
  constructor
  · intro places
    cases op with
    | advance i =>
        obtain ⟨call, found, places⟩ := (Option.any_eq_true _ _).mp places
        rw [Bool.and_eq_true, decide_eq_true_eq] at places
        obtain ⟨⟨mine, cleared⟩, places⟩ := places
        cases placed : call.place digest s.db with
        | error e => rw [placed] at places; cases places
        | ok result => exact ⟨i, call, result.1, result.2, rfl, found, mine, cleared, placed⟩
    | _ => cases places
  · rintro ⟨i, call, db, orderId, rfl, found, mine, cleared, placed⟩
    simp [placesFor, found, mine, cleared, placed, Except.isOk, Except.toBool]

/-- A placement writes the one order that has the key. -/
theorem keyed_length (s : CreationState) (op : CreationOp) :
    ((creationStep digest s op).db.terms.keyed userId key).length =
      (s.db.terms.keyed userId key).length +
        if placesFor digest userId key (s, op) then 1 else 0 := by
  split
  · rename_i places
    obtain ⟨i, call, db, orderId, rfl, found, mine, cleared, placed⟩ := placesFor_iff.mp places
    have next : call.next digest (s.lockFree call) s.db =
        some (db, .returned true (db.viewOrder orderId)) := by
      rw [CreationCall.next, cleared]
      simp only [placed]
    obtain ⟨order, owner, used, -, added⟩ := place_added placed
    rw [advance_next found next, CreationState.move, added.keyed,
      if_pos ⟨owner.trans mine.1, used.trans mine.2⟩, List.length_append, List.length_singleton]
  · rename_i elsewhere
    rw [add_zero]
    apply congrArg List.length
    rcases creationStep_terms digest s op with
      same | ⟨i, call, orderId, advances, found, cleared, placed⟩
    · rw [same]
    · have other : ¬ call.IsFor userId key := fun mine =>
        elsewhere (placesFor_iff.mpr ⟨i, call, _, orderId, advances, found, mine, cleared, placed⟩)
      exact (other_place placed other).1

end Placements

/-! ### How a call ends -/

section Ends

variable {sha256 : String → String} {userId : Nat} {key : String} {texts : Set String}
  {s : CreationState} {i : Nat} {call creator : CreationCall} {view : OrderView}

/-- Of two calls of the key that have not failed, the hashes tell the inputs
apart. -/
theorem KeyInv.hash_iff (h : KeyInv (textDigest sha256) userId key texts s) (sound : s.Sound)
    (injective : Set.InjOn sha256 texts) (found : s.calls.get? i = some call)
    (mine : call.IsFor userId key) (live : ∀ e, call.phase ≠ .failed e)
    (created : s.Created userId key creator view) :
    requestHash (textDigest sha256) creator.input = requestHash (textDigest sha256) call.input ↔
      SameRequest call.input creator.input := by
  obtain ⟨mine', ended, j, hj⟩ := created
  have live' : ∀ e, creator.phase ≠ .failed e := fun e failed => by
    rw [ended] at failed
    cases failed
  rw [eq_comm]
  exact requestHash_eq_iff injective (sound.distinct i call found live)
    (sound.distinct j creator hj live') (h.hashed i call found mine) (h.hashed j creator hj mine')

theorem KeyInv.created_recorded (h : KeyInv (textDigest sha256) userId key texts s)
    (created : s.Created userId key creator view) :
    Recorded (textDigest sha256) userId key s.db.terms creator.input view := by
  obtain ⟨mine, ended, j, hj⟩ := created
  exact h.recorded j creator true view hj mine ended

/-- The ends of a call under way: it replays the key's order when the inputs are
the same, is refused when they are not, and otherwise is alone with a key that
was not used. -/
theorem KeyInv.ends (h : KeyInv (textDigest sha256) userId key texts s) (sound : s.Sound)
    (injective : Set.InjOn sha256 texts) (verified : verifiedUser userId s.db = .ok ⟨⟩)
    (found : s.calls.get? i = some call) (mine : call.IsFor userId key)
    (running : call.phase.isOver = false) {db' : Db} {phase : CreationPhase}
    (next : CreationStatement (textDigest sha256) call (s.lockFree call) s.db db' phase)
    (ended : phase.isOver = true) :
    (s.db.terms.keyed userId key ≠ [] ∧ db' = s.db ∧
      ∀ creator view, s.Created userId key creator view →
        (SameRequest call.input creator.input ∧ ∃ view, phase = .returned false view) ∨
          (¬ SameRequest call.input creator.input ∧ phase = .failed .orderIdempotencyMismatch)) ∨
    (s.db.terms.keyed userId key = [] ∧
      ((∃ view, phase = .returned true view) ∨
        (db' = s.db ∧ ∃ e, phase = .failed e ∧ e ≠ .orderIdempotencyMismatch))) := by
  have live : ∀ e, call.phase ≠ .failed e := fun e failed => by
    rw [failed] at running
    cases running
  -- the order that a lookup finds carries its creator's hash
  have compare : ∀ orderId order, s.db.terms.keyed userId key = [(orderId, order)] →
      ∀ creator view, s.Created userId key creator view →
        (order.creationRequestHash = some (requestHash (textDigest sha256) call.input) ↔
          SameRequest call.input creator.input) := by
    intro orderId order keyed creator view created
    obtain ⟨order', keyed', hash, -⟩ := h.created_recorded created
    rw [keyed] at keyed'
    cases keyed'
    rw [hash, Option.some.injEq]
    exact h.hash_iff sound injective found mine live created
  cases next with
  | customer goes => rcases goes with ⟨-, rfl⟩ | ⟨-, rfl⟩ <;> cases ended
  | stranger unverified =>
      rw [mine.1, verified] at unverified
      cases unverified
  | search => cases ended
  | expire => cases ended
  | @stuck orderId _ unexpired =>
      obtain ⟨db', expired⟩ := sound.stock.expires orderId call.now
      rw [expired] at unexpired
      cases unexpired
  | lock => cases ended
  | miss goes => rcases goes with ⟨-, rfl⟩ | ⟨-, rfl⟩ <;> cases ended
  | replay looks used =>
      obtain ⟨order, keyed, hash, -⟩ := h.lookup_some mine used
      refine Or.inl ⟨by rw [keyed]; exact List.cons_ne_nil _ _, rfl, ?_⟩
      intro creator view created
      exact Or.inl ⟨(compare _ order keyed creator view created).mp hash, _, rfl⟩
  | refuse looks other =>
      rcases h.lookup mine with ⟨-, missed⟩ | ⟨orderId, order, keyed, ⟨-, used⟩ | ⟨hash, refused⟩⟩
      · rw [missed] at other
        cases other
      · rw [used] at other
        cases other
      · rw [refused] at other
        cases other
        refine Or.inl ⟨by rw [keyed]; exact List.cons_ne_nil _ _, rfl, ?_⟩
        intro creator view created
        have iff := compare orderId order keyed creator view created
        exact Or.inr ⟨fun same => hash (iff.mpr same), rfl⟩
  | place cleared placed =>
      exact Or.inr ⟨h.unused i call found mine cleared, Or.inl ⟨_, rfl⟩⟩
  | abort cleared unplaced =>
      refine Or.inr ⟨h.unused i call found mine cleared, Or.inr ⟨rfl, _, rfl, ?_⟩⟩
      rintro rfl
      exact place_ne_mismatch _ call unplaced

end Ends

/-! ### The invariant over runs -/

/-- What the steps of a run rely on for one customer and one key. -/
structure CreationInv (digest : CanonicalRequest → String) (userId : Nat) (key : String)
    (texts : Set String) (s : CreationState) : Prop where
  key : KeyInv digest userId key texts s
  sound : s.Sound
  verified : verifiedUser userId s.db = .ok ⟨⟩

/-- The texts that the calls of the customer with the key hash. -/
def hashedTexts (userId : Nat) (key : String) (ops : List CreationOp) : Set String :=
  { text | ∃ input now, .call userId input (some key) now ∈ ops ∧
    text = requestText (canonicalRequest input) }

section Runs

variable {digest : CanonicalRequest → String} {userId : Nat} {key : String} {texts : Set String}
  {s : CreationState}

/-- No request of the shop changes who is a verified customer. -/
theorem creationStep_users (s : CreationState) (op : CreationOp) :
    (creationStep digest s op).db.users = s.db.users := by
  rcases creationStep_terms digest s op with same | ⟨_, _, _, -, -, -, placed⟩
  · exact congrArg DbTerms.users same
  · obtain ⟨order, -, -, -, added⟩ := place_added placed
    exact added.users

theorem CreationInv.step (h : CreationInv digest userId key texts s) (op : CreationOp)
    (hashed : ∀ input now, op = .call userId input (some key) now →
      requestText (canonicalRequest input) ∈ texts) :
    CreationInv digest userId key texts (creationStep digest s op) where
  key := h.key.step op hashed
  sound := h.sound.step op
  verified := by
    rw [verifiedUser, creationStep_users]
    exact h.verified

theorem FreshCreation.unused (fresh : FreshCreation s) : s.db.terms.keyed userId key = [] := by
  rw [keyed_eq, List.map_eq_nil_iff, List.eq_nil_iff_forall_not_mem]
  rintro ⟨id, order⟩ mem
  have found := (Table.mem_select.mp mem).1
  rw [fresh.shop.orders id] at found
  cases found

theorem FreshCreation.inv (fresh : FreshCreation s)
    (verified : verifiedUser userId s.db = .ok ⟨⟩) : CreationInv digest userId key texts s := by
  have none : ∀ {i c}, s.calls.get? i ≠ some c := by
    intro i c found
    rw [fresh.calls i] at found
    cases found
  refine ⟨⟨?_, ?_, ?_, ?_, ?_, ?_⟩, fresh.sound, verified⟩
  · rw [fresh.unused]
    exact Nat.zero_le 1
  · exact fun i j c d found => absurd found none
  · exact fun i c found => absurd found none
  · exact fun used => absurd fresh.unused used
  · exact fun i c created view found => absurd found none
  · exact fun i c found => absurd found none

end Runs

/-! ### Idempotency -/

/-- The orders of the customer with the key. -/
def keyOrders (userId : Nat) (key : String) (db : Db) : List Nat :=
  (db.orders.select fun _ order =>
    decide (order.userId = userId ∧ order.creationIdempotencyKey = some key)).map Prod.fst

theorem keyOrders_eq (userId : Nat) (key : String) (db : Db) :
    keyOrders userId key db = (db.terms.keyed userId key).map Prod.fst := by
  rw [keyed_eq, List.map_map]
  rfl

/-- A call of the customer with the key, under way before the step, is `after`
after it. -/
def Moves (digest : CanonicalRequest → String) (userId : Nat) (key : String)
    (t : CreationState × CreationOp) (call after : CreationCall) : Prop :=
  ∃ i, t.2 = .advance i ∧ t.1.calls.get? i = some call ∧ call.IsFor userId key ∧
    call.phase.isOver = false ∧ (creationStep digest t.1 t.2).calls.get? i = some after

/-- What idempotency asks of a run, for one customer and one key. -/
structure CreatesOnce (digest : CanonicalRequest → String) (userId : Nat) (key : String)
    (s : CreationState) (ops : List CreationOp) : Prop where
  /-- At most one order has the key, written by the one placement there is. -/
  once : (keyOrders userId key (run (creationStep digest) s ops).db).length =
      (transitions (creationStep digest) s ops).countP (placesFor digest userId key) ∧
    (transitions (creationStep digest) s ops).countP (placesFor digest userId key) ≤ 1
  /-- The placement reserves and allocates what its call asks for. -/
  books : ∀ t ∈ transitions (creationStep digest) s ops, placesFor digest userId key t = true →
    ∃ call after orderId, Moves digest userId key t call after ∧
      Placement digest call t.1.db (creationStep digest t.1 t.2).db orderId ∧
      after.phase = .returned true ((creationStep digest t.1 t.2).db.viewOrder orderId)
  /-- No other statement of the calls books anything; they release elapsed
  reservations at most. -/
  quiet : ∀ t ∈ transitions (creationStep digest) s ops, placesFor digest userId key t = false →
    ∀ call after, Moves digest userId key t call after →
    (creationStep digest t.1 t.2).db = t.1.db ∨ ∃ orderId,
      expireOrderReservation orderId call.now t.1.db = .ok (creationStep digest t.1 t.2).db
  /-- Whenever an order has the key, a call created it. -/
  made : ∀ xs, xs <+: ops → keyOrders userId key (run (creationStep digest) s xs).db ≠ [] →
    ∃ creator original, (run (creationStep digest) s xs).Created userId key creator original
  /-- Every call that returned asked for the same and returned that order, with
  the terms it was created on. -/
  returns : ∀ i call created view,
    (run (creationStep digest) s ops).calls.get? i = some call → call.IsFor userId key →
    call.phase = .returned created view →
    keyOrders userId key (run (creationStep digest) s ops).db = [view.orderId] ∧
    ∃ creator original,
      (run (creationStep digest) s ops).Created userId key creator original ∧
      view.terms = original.terms ∧ SameRequest call.input creator.input
  /-- A call ends in a mismatch exactly when an order has the key and was created
  for another request. -/
  mismatch : ∀ t ∈ transitions (creationStep digest) s ops, ∀ call after,
    Moves digest userId key t call after → after.phase.isOver = true →
    (after.phase = .failed .orderIdempotencyMismatch ↔
      ∃ creator original, t.1.Created userId key creator original ∧
        keyOrders userId key t.1.db = [original.orderId] ∧
        ¬ SameRequest call.input creator.input)
  /-- A call that fails leaves the database, and so the key, as it was; it fails
  in another way only while no order has the key. -/
  fails : ∀ t ∈ transitions (creationStep digest) s ops, ∀ call after e,
    Moves digest userId key t call after → after.phase = .failed e →
    (creationStep digest t.1 t.2).db = t.1.db ∧
      (e ≠ .orderIdempotencyMismatch → keyOrders userId key t.1.db = [])

section Idempotency

variable {sha256 : String → String} {digest : CanonicalRequest → String} {userId : Nat}
  {key : String} {texts : Set String} {s : CreationState} {t : CreationState × CreationOp}
  {call after creator : CreationCall} {view : OrderView}

/-- A call that moved took one statement, and left the database it was to leave. -/
theorem Moves.statement (h : Moves digest userId key t call after) :
    ∃ i, t.1.calls.get? i = some call ∧ t.2 = .advance i ∧
      ((after = call ∧ creationStep digest t.1 t.2 = t.1) ∨
        CreationStatement digest call (t.1.lockFree call) t.1.db
          (creationStep digest t.1 t.2).db after.phase) := by
  obtain ⟨i, advances, found, -, -, moved⟩ := h
  refine ⟨i, found, advances, ?_⟩
  rw [advances] at moved ⊢
  rcases advance_cases digest t.1 i with same | ⟨call', db, phase, found', next, step⟩
  · rw [same, found] at moved
    exact Or.inl ⟨(Option.some.inj moved).symm, same⟩
  · obtain rfl := Option.some.inj (found.symm.trans found')
    rw [step, get?_move_self found] at moved
    rw [step, ← Option.some.inj moved]
    exact Or.inr (next_statement next)

/-- The order that a call created has the key. -/
theorem CreationInv.created_order (h : CreationInv (textDigest sha256) userId key texts s)
    (created : s.Created userId key creator view) : keyOrders userId key s.db = [view.orderId] := by
  obtain ⟨order, keyed, -⟩ := h.key.created_recorded created
  rw [keyOrders_eq, keyed]
  rfl

theorem CreationInv.made (h : CreationInv digest userId key texts s)
    (used : keyOrders userId key s.db ≠ []) :
    ∃ creator original, s.Created userId key creator original := by
  apply h.key.created
  intro unused
  rw [keyOrders_eq, unused] at used
  exact used rfl

theorem CreationInv.returns (h : CreationInv (textDigest sha256) userId key texts s)
    (injective : Set.InjOn sha256 texts) {i : Nat} {created : Bool}
    (found : s.calls.get? i = some call) (mine : call.IsFor userId key)
    (ended : call.phase = .returned created view) :
    keyOrders userId key s.db = [view.orderId] ∧
      ∃ creator original, s.Created userId key creator original ∧
        view.terms = original.terms ∧ SameRequest call.input creator.input := by
  obtain ⟨order, keyed, hash, terms⟩ := h.key.recorded i call created view found mine ended
  have live : ∀ e, call.phase ≠ .failed e := fun e failed => by
    rw [ended] at failed
    cases failed
  obtain ⟨creator, original, creation⟩ := h.key.created (by rw [keyed]; exact List.cons_ne_nil _ _)
  obtain ⟨order', keyed', hash', terms'⟩ := h.key.created_recorded creation
  rw [keyed] at keyed'
  obtain ⟨same, rfl⟩ := Prod.mk.inj (List.cons.inj keyed').1
  refine ⟨by rw [keyOrders_eq, keyed]; rfl, creator, original, creation, ?_, ?_⟩
  · rw [terms, terms', same]
  · exact (h.key.hash_iff h.sound injective found mine live creation).mp
      (Option.some.inj (hash'.symm.trans hash))

/-- The ends of a call, in the words of the claim on a run. -/
theorem CreationInv.ends (h : CreationInv (textDigest sha256) userId key texts t.1)
    (injective : Set.InjOn sha256 texts) (moves : Moves (textDigest sha256) userId key t call after)
    (ended : after.phase.isOver = true) :
    (after.phase = .failed .orderIdempotencyMismatch ↔
      ∃ creator original, t.1.Created userId key creator original ∧
        keyOrders userId key t.1.db = [original.orderId] ∧
        ¬ SameRequest call.input creator.input) ∧
    ∀ e, after.phase = .failed e → (creationStep (textDigest sha256) t.1 t.2).db = t.1.db ∧
      (e ≠ .orderIdempotencyMismatch → keyOrders userId key t.1.db = []) := by
  obtain ⟨-, -, -, mine, running, -⟩ := id moves
  obtain ⟨i, found, -, ⟨rfl, -⟩ | next⟩ := moves.statement
  · rw [running] at ended
    cases ended
  rcases h.key.ends h.sound injective h.verified found mine running next ended with
    ⟨used, same, decided⟩ | ⟨unused, ending⟩
  · constructor
    · constructor
      · intro refused
        obtain ⟨creator, original, created⟩ := h.key.created used
        rcases decided creator original created with ⟨-, view, returned⟩ | ⟨differs, -⟩
        · rw [refused] at returned
          cases returned
        · exact ⟨creator, original, created, h.created_order created, differs⟩
      · rintro ⟨creator, original, created, -, differs⟩
        rcases decided creator original created with ⟨asked, -⟩ | ⟨-, refused⟩
        · exact absurd asked differs
        · exact refused
    · intro e failed
      obtain ⟨creator, original, created⟩ := h.key.created used
      refine ⟨same, fun other => ?_⟩
      rcases decided creator original created with ⟨-, view, returned⟩ | ⟨-, refused⟩
      · rw [failed] at returned
        cases returned
      · rw [failed] at refused
        cases refused
        exact absurd rfl other
  · have free : keyOrders userId key t.1.db = [] := by rw [keyOrders_eq, unused]; rfl
    have uncreated : ∀ creator original, ¬ t.1.Created userId key creator original := by
      intro creator original created
      have used := h.created_order created
      rw [free] at used
      cases used
    rcases ending with ⟨view, returned⟩ | ⟨same, e, failed, other⟩
    · rw [returned]
      refine ⟨⟨nofun, ?_⟩, nofun⟩
      rintro ⟨creator, original, created, -⟩
      exact absurd created (uncreated creator original)
    · rw [failed]
      refine ⟨⟨?_, ?_⟩, ?_⟩
      · rintro ⟨⟩
        exact absurd rfl other
      · rintro ⟨creator, original, created, -⟩
        exact absurd created (uncreated creator original)
      · intro e' _
        exact ⟨same, fun _ => free⟩

/-- The placement of the key's order. -/
theorem placesFor_books (places : placesFor digest userId key t = true) :
    ∃ call after orderId, Moves digest userId key t call after ∧
      Placement digest call t.1.db (creationStep digest t.1 t.2).db orderId ∧
      after.phase = .returned true ((creationStep digest t.1 t.2).db.viewOrder orderId) := by
  obtain ⟨i, call, db, orderId, advances, found, mine, cleared, placed⟩ := placesFor_iff.mp places
  have next : call.next digest (t.1.lockFree call) t.1.db =
      some (db, .returned true (db.viewOrder orderId)) := by
    rw [CreationCall.next, cleared]
    simp only [placed]
  have moved := advance_next found next
  refine ⟨call, { call with phase := .returned true (db.viewOrder orderId) }, orderId, ?_, ?_, ?_⟩
  · refine ⟨i, advances, found, mine, by rw [cleared]; rfl, ?_⟩
    rw [advances, moved, get?_move_self found]
  · rw [advances, moved]
    exact place_books placed
  · rw [advances, moved]
    rfl

/-- The other statements of a call book nothing. -/
theorem Moves.quiet (h : Moves digest userId key t call after)
    (elsewhere : placesFor digest userId key t = false) :
    (creationStep digest t.1 t.2).db = t.1.db ∨ ∃ orderId,
      expireOrderReservation orderId call.now t.1.db = .ok (creationStep digest t.1 t.2).db := by
  obtain ⟨-, -, -, mine, -⟩ := id h
  obtain ⟨i, found, advances, ⟨-, same⟩ | next⟩ := h.statement
  · exact Or.inl (congrArg CreationState.db same)
  · generalize (creationStep digest t.1 t.2).db = db' at next ⊢
    generalize after.phase = phase at next
    cases next with
    | expire expiring expired => exact Or.inr ⟨_, expired⟩
    | place cleared placed =>
        have places : placesFor digest userId key t = true :=
          placesFor_iff.mpr ⟨i, call, db', _, advances, found, mine, cleared, placed⟩
        rw [elsewhere] at places
        cases places
    | _ => exact Or.inl rfl

/-- Every state of a run satisfies the invariant on the texts the run hashes. -/
theorem CreationInv.run {ops : List CreationOp}
    (start : CreationInv digest userId key (hashedTexts userId key ops) s) :
    (∀ xs, xs <+: ops →
      CreationInv digest userId key (hashedTexts userId key ops) (run (creationStep digest) s xs)) ∧
    ∀ t ∈ transitions (creationStep digest) s ops,
      CreationInv digest userId key (hashedTexts userId key ops) t.1 := by
  have met : ∀ t ∈ transitions (creationStep digest) s ops,
      ∀ input now, t.2 = .call userId input (some key) now →
        requestText (canonicalRequest input) ∈ hashedTexts userId key ops := by
    intro t ht input now same
    exact ⟨input, now, same ▸ label_mem ht, rfl⟩
  constructor
  · intro xs hxs
    exact states_invariant_of (fun s op h => h.step op) start met hxs
  · exact transitions_invariant_of (fun s op h => h.step op) start met

end Idempotency

/-- For every customer and key, and every interleaving of calls with each other,
with the other requests of the shop, price changes and changes of the address
book: if SHA-256 tells the hashed texts apart, the key creates one order. -/
theorem order_creation_idempotent {sha256 : String → String} {s : CreationState}
    (fresh : FreshCreation s) {userId : Nat} {key : String}
    (verified : verifiedUser userId s.db = .ok ⟨⟩) (ops : List CreationOp)
    (injective : Set.InjOn sha256 (hashedTexts userId key ops)) :
    CreatesOnce (textDigest sha256) userId key s ops := by
  have start : CreationInv (textDigest sha256) userId key (hashedTexts userId key ops) s :=
    fresh.inv verified
  obtain ⟨states, before⟩ := start.run
  have final := states ops (List.prefix_refl ops)
  have counted : (keyOrders userId key (run (creationStep (textDigest sha256)) s ops).db).length =
      (transitions (creationStep (textDigest sha256)) s ops).countP
        (placesFor (textDigest sha256) userId key) := by
    have unused : (s.db.terms.keyed userId key).length = 0 := by
      rw [fresh.unused]
      rfl
    have count := transitions_count (m := fun s => (s.db.terms.keyed userId key).length)
      (E := placesFor (textDigest sha256) userId key) (s := s) keyed_length ops
    rw [unused, zero_add] at count
    rw [keyOrders_eq, List.length_map]
    exact count
  exact
    { once := by
        refine ⟨counted, ?_⟩
        rw [← counted, keyOrders_eq, List.length_map]
        exact final.key.atMostOne
      books := fun t _ places => placesFor_books places
      quiet := fun t _ elsewhere call after moves => moves.quiet elsewhere
      made := fun xs hxs used => (states xs hxs).made used
      returns := fun i call created view found mine ended =>
        final.returns injective found mine ended
      mismatch := fun t ht call after moves ended => ((before t ht).ends injective moves ended).1
      fails := fun t ht call after e moves failed =>
        ((before t ht).ends injective moves (by rw [failed]; rfl)).2 e failed }

/-! ### Three calls with one key -/

def sampleInput (quantity : Int) (positive : 0 < quantity) : CreateOrderInput :=
  ⟨[⟨1, quantity, positive⟩], List.cons_ne_nil _ _, none⟩

/-- SHA-256 on the two texts of the sample calls. -/
def sampleSha256 (text : String) : String :=
  if text = "\x7b\"items\":[\x7b\"productListingId\":1,\"quantity\":2\x7d]," ++
    "\"deliveryAddress\":null\x7d"
  then "15a4aa458972f33b1f97ddd069ce17812c8b025cb5e7909e0cf50f59c0edccbf"
  else "72a767d94e59b1037b038af15b5828fa9567a12ce722c249f7400824e2fd679a"

def sampleCreation : CreationState := ⟨sampleShop, .empty⟩

theorem sampleCreation_fresh : FreshCreation sampleCreation :=
  ⟨sampleShop_fresh, fun _ => rfl⟩

/-- Two calls for two units miss the key, and the first of them places the order;
a third call is for one unit. -/
def sampleOrders : List CreationOp :=
  [.call 1 (sampleInput 2 two_units_pos) (some "key-1") 0,
    .call 1 (sampleInput 2 two_units_pos) (some "key-1") 0,
    .call 1 (sampleInput 1 Int.zero_lt_one) (some "key-1") 0] ++
  [1, 1, 1, 2, 2, 2, 1, 2, 1, 2, 1, 1, 2, 2, 3, 3].map .advance

theorem sampleSha256_injOn : Set.InjOn sampleSha256 (hashedTexts 1 "key-1" sampleOrders) := by
  have texts : ∀ text ∈ hashedTexts 1 "key-1" sampleOrders,
      text = requestText (canonicalRequest (sampleInput 2 (by decide))) ∨
        text = requestText (canonicalRequest (sampleInput 1 (by decide))) := by
    rintro text ⟨input, now, mem, rfl⟩
    rcases List.mem_append.mp mem with mem | mem
    · simp only [List.mem_cons, CreationOp.call.injEq, List.not_mem_nil, or_false] at mem
      rcases mem with ⟨-, rfl, -⟩ | ⟨-, rfl, -⟩ | ⟨-, rfl, -⟩
      · exact Or.inl rfl
      · exact Or.inl rfl
      · exact Or.inr rfl
    · obtain ⟨i, -, advances⟩ := List.mem_map.mp mem
      cases advances
  intro a ha b hb same
  rcases texts a ha with rfl | rfl <;> rcases texts b hb with rfl | rfl
  · rfl
  · exact absurd same (by decide)
  · exact absurd same (by decide)
  · rfl

/-- The second call gets the order of the first, the third is refused. -/
theorem order_creation_idempotent_sample :
    CreatesOnce (textDigest sampleSha256) 1 "key-1" sampleCreation sampleOrders ∧
    ∃ original, ((run (creationStep (textDigest sampleSha256)) sampleCreation sampleOrders).calls
      |>.entries.map fun e => e.2.phase) =
        [.returned true original, .returned false original, .failed .orderIdempotencyMismatch] :=
  ⟨order_creation_idempotent sampleCreation_fresh rfl sampleOrders sampleSha256_injOn, _, rfl⟩

end ColorfulLife
