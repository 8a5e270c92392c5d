/-
Regular expressions with backtracking, as ECMAScript runs them.

`run r p` is the list of the positions at which `r` can end when it is matched
at `p`, in the order in which a backtracking matcher tries them; the match is the
first one. A repetition is greedy, and an iteration that consumes nothing ends
it. Texts are lists of characters. No expression here captures inside a
repetition, so captures are never reset.

A proof about a match follows the first choices (`Leads`), and a proof that there
is none shows the list of choices empty. What a match passes is a text that the
expression spells (`spells_of_mem_run`).
-/

import Mathlib.Data.List.Infix
import Mathlib.Tactic.Common

namespace Regex

inductive Expr where
  | empty
  | char (accepts : Char → Bool)
  | seq (first second : Expr)
  | alt (first second : Expr)
  | many (most : Option Nat) (body : Expr)
  | group (index : Nat) (body : Expr)
  | ahead (body : Expr)
  | start
  | stop
  | boundary

/-- Where a matcher stands: what it has passed, last character first, and what
lies ahead. -/
structure Position where
  before : List Char
  rest : List Char
  groups : List (Nat × List Char)
  deriving DecidableEq

namespace Position

/-- What a group has captured. -/
def group? (p : Position) (index : Nat) : Option (List Char) := p.groups.lookup index

/-- The text between two positions. -/
def upTo (p q : Position) : List Char := p.rest.take (p.rest.length - q.rest.length)

def capture (p q : Position) (index : Nat) : Position :=
  { q with groups := (index, p.upTo q) :: q.groups }

/-- The position after the text `xs` that lies ahead. -/
def advance (p : Position) (xs rest : List Char) : Position :=
  ⟨xs.reverse ++ p.before, rest, p.groups⟩

end Position

/-- `\w`. -/
def isWord (c : Char) : Bool := c.isAlphanum || decide (c = '_')

/-- The iterations of a repetition, the longest first. -/
def iterate (body : Position → List Position) : Nat → Position → List Position
  | 0, p => [p]
  | most + 1, p =>
      ((body p).filter fun q => decide (q.rest.length < p.rest.length)).flatMap
        (iterate body most) ++ [p]

def run : Expr → Position → List Position
  | .empty, p => [p]
  | .char accepts, p =>
      match p.rest with
      | c :: rest => if accepts c then [p.advance [c] rest] else []
      | [] => []
  | .seq first second, p => (run first p).flatMap (run second)
  | .alt first second, p => run first p ++ run second p
  | .many most body, p => iterate (run body) (most.getD p.rest.length) p
  | .group index body, p => (run body p).map fun q => p.capture q index
  | .ahead body, p =>
      match run body p with
      | q :: _ => [{ p with groups := q.groups }]
      | [] => []
  | .start, p => if p.before = [] then [p] else []
  | .stop, p => if p.rest = [] then [p] else []
  | .boundary, p => if p.before.head?.any isWord = p.rest.head?.any isWord then [] else [p]

/-! ### Searching -/

/-- The first match at or after the position with `before` passed. -/
def search (r : Expr) (before : List Char) : List Char → Option Position
  | [] => (run r ⟨before, [], []⟩).head?
  | c :: rest =>
      match run r ⟨before, c :: rest, []⟩ with
      | p :: _ => some p
      | [] => search r (c :: before) rest

/-- `text.match(r)`. -/
def firstMatch (r : Expr) (text : List Char) : Option Position := search r [] text

/-- `r.test(text)`. -/
def test (r : Expr) (text : List Char) : Bool := (firstMatch r text).isSome

/-- The first `fuel` matches from a position on; an empty one moves on by a
character. -/
def matchesFrom (r : Expr) : Nat → List Char → List Char → List Position
  | 0, _, _ => []
  | fuel + 1, before, rest =>
      match search r before rest with
      | none => []
      | some p =>
          if p.rest.length < rest.length then p :: matchesFrom r fuel p.before p.rest
          else
            match rest with
            | [] => [p]
            | c :: rest => p :: matchesFrom r fuel (c :: before) rest

/-- `text.matchAll(r)`. -/
def matchAll (r : Expr) (text : List Char) : List Position :=
  matchesFrom r (text.length + 1) [] text

/-! ### Building expressions -/

/-- The comparison of the flag `i`, as far as ASCII letters go. -/
def canonicalize (c : Char) : Char := c.toUpper

/-- A character under the flag `i`. -/
def letter (c : Char) : Expr := .char fun d => decide (canonicalize d = canonicalize c)

/-- A text under the flag `i`. -/
def text : List Char → Expr
  | [] => .empty
  | c :: rest => .seq (letter c) (text rest)

def concat : List Expr → Expr
  | [] => .empty
  | r :: rest => .seq r (concat rest)

def oneOf : List Expr → Expr
  | [] => .char fun _ => false
  | [r] => r
  | r :: rest => .alt r (oneOf rest)

/-- `class*`. -/
def star (accepts : Char → Bool) : Expr := .many none (.char accepts)

/-- `class+`. -/
def plus (accepts : Char → Bool) : Expr := .seq (.char accepts) (star accepts)

/-! ### One step -/

section Steps

variable {r s : Expr} {p : Position} {accepts : Char → Bool} {c : Char} {b rest : List Char}
  {g : List (Nat × List Char)}

theorem run_seq : run (.seq r s) p = (run r p).flatMap (run s) := rfl

theorem run_alt : run (.alt r s) p = run r p ++ run s p := rfl

theorem run_group {index : Nat} :
    run (.group index r) p = (run r p).map fun q => p.capture q index := rfl

theorem run_char : run (.char accepts) ⟨b, c :: rest, g⟩ =
    if accepts c then [⟨c :: b, rest, g⟩] else [] := rfl

theorem run_many {most : Option Nat} :
    run (.many most r) p = iterate (run r) (most.getD p.rest.length) p := rfl

theorem run_ahead : run (.ahead r) p =
    match run r p with
    | q :: _ => [{ p with groups := q.groups }]
    | [] => [] := rfl

theorem iterate_zero {body : Position → List Position} : iterate body 0 p = [p] := rfl

theorem iterate_succ {body : Position → List Position} {most : Nat} :
    iterate body (most + 1) p =
      ((body p).filter fun q => decide (q.rest.length < p.rest.length)).flatMap
        (iterate body most) ++ [p] := rfl

theorem search_nil : search r b [] = (run r ⟨b, [], []⟩).head? := rfl

theorem search_cons : search r b (c :: rest) =
    match run r ⟨b, c :: rest, []⟩ with
    | p :: _ => some p
    | [] => search r (c :: b) rest := rfl

theorem text_cons {cs : List Char} : text (c :: cs) = .seq (letter c) (text cs) := rfl

theorem concat_cons {rs : List Expr} : concat (r :: rs) = .seq r (concat rs) := rfl

theorem oneOf_cons_cons {rs : List Expr} : oneOf (r :: s :: rs) = .alt r (oneOf (s :: rs)) := rfl

end Steps

/-! ### First choices -/

/-- Matched at `p`, the expression first ends at `q`. -/
def Leads (r : Expr) (p q : Position) : Prop := (run r p).head? = some q

section Leads

variable {r s : Expr} {rs : List Expr} {p q o : Position} {accepts : Char → Bool} {c d : Char}
  {b xs rest : List Char} {g : List (Nat × List Char)}

theorem leads_iff : Leads r p q ↔ ∃ others, run r p = q :: others := by
  rw [Leads, List.head?_eq_some_iff]

theorem Leads.seq (first : Leads r p q) (second : Leads s q o) : Leads (.seq r s) p o := by
  obtain ⟨others, first⟩ := leads_iff.mp first
  obtain ⟨others', second⟩ := leads_iff.mp second
  rw [leads_iff, run_seq, first, List.flatMap_cons, second]
  exact ⟨_, rfl⟩

theorem Leads.left (first : Leads r p q) : Leads (.alt r s) p q := by
  obtain ⟨others, first⟩ := leads_iff.mp first
  rw [leads_iff, run_alt, first]
  exact ⟨_, rfl⟩

theorem Leads.right (first : run r p = []) (second : Leads s p q) : Leads (.alt r s) p q := by
  rw [Leads, run_alt, first, List.nil_append]
  exact second

theorem leads_concat_nil : Leads (concat []) p p := rfl

theorem Leads.cons (first : Leads r p q) (others : Leads (concat rs) q o) :
    Leads (concat (r :: rs)) p o :=
  first.seq others

theorem leads_char (accepted : accepts c = true) :
    Leads (.char accepts) ⟨b, c :: rest, g⟩ ⟨c :: b, rest, g⟩ := by
  rw [Leads, run_char]
  simp [accepted]

theorem leads_letter : Leads (letter c) ⟨b, c :: rest, g⟩ ⟨c :: b, rest, g⟩ :=
  leads_char (decide_eq_true rfl)

theorem leads_stop : Leads .stop ⟨b, [], g⟩ ⟨b, [], g⟩ := rfl

theorem leads_text : Leads (text xs) ⟨b, xs ++ rest, g⟩ ⟨xs.reverse ++ b, rest, g⟩ := by
  induction xs generalizing b with
  | nil => rfl
  | cons c xs ih =>
      refine Leads.seq leads_letter ?_
      rw [List.reverse_cons, List.append_assoc]
      exact ih

/-- Characters of classes, one after the other. -/
theorem leads_chars {classes : List (Char → Bool)}
    (accepted : List.Forall₂ (fun accepts c => accepts c = true) classes xs)
    (others : Leads (concat rs) ⟨xs.reverse ++ b, rest, g⟩ q) :
    Leads (concat (classes.map Expr.char ++ rs)) ⟨b, xs ++ rest, g⟩ q := by
  induction accepted generalizing b with
  | nil => exact others
  | cons first _ ih =>
      refine Leads.cons (leads_char first) (ih ?_)
      rwa [List.reverse_cons, List.append_assoc] at others

/-- A group captures what its body passes. -/
theorem Leads.group {index : Nat}
    (body : Leads r ⟨b, xs ++ rest, g⟩ ⟨xs.reverse ++ b, rest, g⟩) :
    Leads (.group index r) ⟨b, xs ++ rest, g⟩ ⟨xs.reverse ++ b, rest, (index, xs) :: g⟩ := by
  obtain ⟨others, body⟩ := leads_iff.mp body
  rw [Leads, run_group, body]
  simp [Position.capture, Position.upTo]

/-- A group up to the end of the text. -/
theorem Leads.group_all {index : Nat} (body : Leads r ⟨b, xs, g⟩ ⟨xs.reverse ++ b, [], g⟩) :
    Leads (.group index r) ⟨b, xs, g⟩ ⟨xs.reverse ++ b, [], (index, xs) :: g⟩ := by
  have whole : Leads (.group index r) ⟨b, xs ++ [], g⟩
      ⟨xs.reverse ++ b, [], (index, xs) :: g⟩ := by
    refine Leads.group ?_
    rwa [List.append_nil]
  rwa [List.append_nil] at whole

/-! ### Repetitions of a class -/

@[simp] theorem run_star_nil : run (star accepts) ⟨b, [], g⟩ = [⟨b, [], g⟩] := rfl

/-- A repetition of a class goes on with the next character first. -/
theorem run_star_cons : run (star accepts) ⟨b, c :: rest, g⟩ =
    if accepts c then run (star accepts) ⟨c :: b, rest, g⟩ ++ [⟨b, c :: rest, g⟩]
    else [⟨b, c :: rest, g⟩] := by
  cases accepted : accepts c <;>
    simp [star, run_many, iterate_succ, run_char, accepted]

/-- A repetition of a class takes all it can. -/
theorem leads_star (all : ∀ c ∈ xs, accepts c = true)
    (ends : ∀ c ∈ rest.head?, accepts c = false) :
    Leads (star accepts) ⟨b, xs ++ rest, g⟩ ⟨xs.reverse ++ b, rest, g⟩ := by
  induction xs generalizing b with
  | nil =>
      cases rest with
      | nil => rfl
      | cons c rest =>
          have refused := ends c rfl
          rw [List.nil_append, Leads, run_star_cons, refused]
          rfl
  | cons c xs ih =>
      have accepted := all c List.mem_cons_self
      have further := ih (b := c :: b) fun d hd => all d (List.mem_cons_of_mem _ hd)
      obtain ⟨others, further⟩ := leads_iff.mp further
      rw [List.cons_append, leads_iff, run_star_cons, if_pos accepted, further,
        List.reverse_cons, List.append_assoc]
      exact ⟨_, rfl⟩

theorem leads_plus (nonempty : xs ≠ []) (all : ∀ c ∈ xs, accepts c = true)
    (ends : ∀ c ∈ rest.head?, accepts c = false) :
    Leads (plus accepts) ⟨b, xs ++ rest, g⟩ ⟨xs.reverse ++ b, rest, g⟩ := by
  cases xs with
  | nil => exact absurd rfl nonempty
  | cons c xs =>
      refine Leads.seq (leads_char (all c List.mem_cons_self)) ?_
      rw [List.reverse_cons, List.append_assoc]
      exact leads_star (fun d hd => all d (List.mem_cons_of_mem _ hd)) ends

theorem leads_plus_all (nonempty : xs ≠ []) (all : ∀ c ∈ xs, accepts c = true) :
    Leads (plus accepts) ⟨b, xs, g⟩ ⟨xs.reverse ++ b, [], g⟩ := by
  have whole : Leads (plus accepts) ⟨b, xs ++ [], g⟩ ⟨xs.reverse ++ b, [], g⟩ :=
    leads_plus nonempty all nofun
  rwa [List.append_nil] at whole

theorem leads_oneOf {before after : List Expr} (refused : ∀ s ∈ before, run s p = [])
    (leads : Leads r p q) : Leads (oneOf (before ++ r :: after)) p q := by
  induction before with
  | nil =>
      cases after with
      | nil => exact leads
      | cons s after => exact leads.left
  | cons s before ih =>
      have others : oneOf (s :: before ++ r :: after) = .alt s (oneOf (before ++ r :: after)) := by
        cases before <;> rfl
      have later := ih fun s' hs' => refused s' (List.mem_cons_of_mem _ hs')
      rw [others]
      exact Leads.right (refused s List.mem_cons_self) later

/-- An option is taken when it can be. -/
theorem Leads.optional (body : Leads r p q) (further : q.rest.length < p.rest.length) :
    Leads (.many (some 1) r) p q := by
  obtain ⟨others, body⟩ := leads_iff.mp body
  rw [leads_iff, run_many, Option.getD_some, iterate_succ, body,
    List.filter_cons, if_pos (decide_eq_true further), List.flatMap_cons]
  exact ⟨_, rfl⟩

theorem Leads.skip (refused : run r p = []) : Leads (.many (some 1) r) p p := by
  rw [Leads, run_many, Option.getD_some, iterate_succ, refused]
  rfl

theorem leads_optional : Leads (.many (some 1) (letter c)) ⟨b, c :: rest, g⟩ ⟨c :: b, rest, g⟩ :=
  leads_letter.optional (Nat.lt_succ_self _)

theorem leads_optional_skip (other : canonicalize d ≠ canonicalize c) :
    Leads (.many (some 1) (letter c)) ⟨b, d :: rest, g⟩ ⟨b, d :: rest, g⟩ :=
  Leads.skip (if_neg fun same => other (of_decide_eq_true same))

end Leads

/-! ### Expressions that do not match -/

section Refused

variable {r s : Expr} {p : Position} {accepts : Char → Bool} {c d : Char}
  {b xs rest : List Char} {g : List (Nat × List Char)}

theorem run_seq_nil (refused : run r p = []) : run (.seq r s) p = [] := by
  rw [run_seq, refused, List.flatMap_nil]

theorem run_seq_of_eq {q : Position} (only : run r p = [q]) : run (.seq r s) p = run s q := by
  rw [run_seq, only, List.flatMap_singleton]

theorem run_letter : run (letter c) ⟨b, d :: rest, g⟩ =
    if canonicalize d = canonicalize c then [⟨d :: b, rest, g⟩] else [] := by
  simp [letter, run_char]

/-- The texts differ before either ends. -/
def clash : List Char → List Char → Bool
  | c :: cs, d :: ds => if canonicalize d = canonicalize c then clash cs ds else true
  | _, _ => false

theorem clash_cons {cs ds : List Char} : clash (c :: cs) (d :: ds) =
    if canonicalize d = canonicalize c then clash cs ds else true := rfl

theorem run_text_clash {cs ds : List Char} (differ : clash cs ds = true) :
    run (text cs) ⟨b, ds ++ rest, g⟩ = [] := by
  induction cs generalizing b ds with
  | nil => cases differ
  | cons c cs ih =>
      cases ds with
      | nil => cases differ
      | cons d ds =>
          rw [clash_cons] at differ
          rw [List.cons_append, text_cons, run_seq, run_letter]
          split
          · rename_i same
            rw [if_pos same] at differ
            rw [List.flatMap_singleton]
            exact ih differ
          · rfl

theorem run_oneOf_texts_clash {titles : List (List Char)} {ds : List Char}
    (differ : ∀ title ∈ titles, clash title ds = true) :
    run (oneOf (titles.map text)) ⟨b, ds ++ rest, g⟩ = [] := by
  induction titles with
  | nil => cases ds <;> cases rest <;> rfl
  | cons title titles ih =>
      have first : run (text title) ⟨b, ds ++ rest, g⟩ = [] :=
        run_text_clash (differ title List.mem_cons_self)
      have later := ih fun t ht => differ t (List.mem_cons_of_mem _ ht)
      cases titles with
      | nil => exact first
      | cons t titles =>
          rw [List.map_cons] at later
          rw [List.map_cons, List.map_cons, oneOf_cons_cons, run_alt, first, later]
          rfl

/-- The matches of `class*c…` behind the next `c`, then the one at it. -/
theorem run_star_letter_cons {xs : List Char} (all : ∀ d ∈ xs ++ [c], accepts d = true)
    (absent : ∀ d ∈ xs, canonicalize d ≠ canonicalize c) :
    run (.seq (star accepts) (.seq (letter c) r)) ⟨b, xs ++ c :: rest, g⟩ =
      run (.seq (star accepts) (.seq (letter c) r)) ⟨c :: (xs.reverse ++ b), rest, g⟩ ++
        run r ⟨c :: (xs.reverse ++ b), rest, g⟩ := by
  induction xs generalizing b with
  | nil =>
      have accepted := all c (by simp)
      have here : run (.seq (letter c) r) ⟨b, c :: rest, g⟩ = run r ⟨c :: b, rest, g⟩ := by
        refine run_seq_of_eq ?_
        rw [run_letter, if_pos rfl]
      rw [List.nil_append, run_seq, run_star_cons, if_pos accepted, List.flatMap_append,
        List.flatMap_singleton, here]
      rfl
  | cons d xs ih =>
      have accepted := all d (by simp)
      have other := absent d List.mem_cons_self
      have here : run (.seq (letter c) r) ⟨b, d :: (xs ++ c :: rest), g⟩ = [] := by
        refine run_seq_nil ?_
        rw [run_letter, if_neg other]
      have later := ih (b := d :: b) (fun e he => all e (by simp at he ⊢; tauto))
        fun e he => absent e (List.mem_cons_of_mem _ he)
      rw [List.cons_append, run_seq, run_star_cons, if_pos accepted, List.flatMap_append,
        List.flatMap_singleton, here, List.append_nil, ← run_seq, later]
      simp

end Refused

/-! ### What a match passes -/

section Spends

variable {r s : Expr} {rs : List Expr} {p q : Position} {counted accepts : Char → Bool}
  {n m : Nat}

/-- The texts that an expression may pass, whatever stands around them. -/
def Spells : Expr → List Char → Prop
  | .empty, xs => xs = []
  | .char accepts, xs => ∃ c, accepts c = true ∧ xs = [c]
  | .seq first second, xs => ∃ ys zs, Spells first ys ∧ Spells second zs ∧ xs = ys ++ zs
  | .alt first second, xs => Spells first xs ∨ Spells second xs
  | .many most body, xs => ∃ pieces : List (List Char),
      (∀ n ∈ most, pieces.length ≤ n) ∧ (∀ ys ∈ pieces, Spells body ys) ∧ xs = pieces.flatten
  | .group _ body, xs => Spells body xs
  | .ahead _, xs => xs = []
  | .start, xs => xs = []
  | .stop, xs => xs = []
  | .boundary, xs => xs = []

theorem iterate_pieces {body : Position → List Position} {spells : List Char → Prop} {most : Nat}
    (step : ∀ p, ∀ q ∈ body p, ∃ ys, spells ys ∧ p.rest = ys ++ q.rest)
    (matched : q ∈ iterate body most p) : ∃ pieces : List (List Char),
      pieces.length ≤ most ∧ (∀ ys ∈ pieces, spells ys) ∧ p.rest = pieces.flatten ++ q.rest := by
  induction most generalizing p with
  | zero =>
      rw [iterate_zero, List.mem_singleton] at matched
      exact ⟨[], le_rfl, nofun, by rw [matched]; rfl⟩
  | succ most ih =>
      rw [iterate_succ, List.mem_append, List.mem_flatMap, List.mem_singleton] at matched
      rcases matched with ⟨o, first, later⟩ | rfl
      · obtain ⟨ys, own, passed⟩ := step p o (List.mem_of_mem_filter first)
        obtain ⟨pieces, few, others, passed'⟩ := ih later
        refine ⟨ys :: pieces, Nat.succ_le_succ few, List.forall_mem_cons.mpr ⟨own, others⟩, ?_⟩
        rw [passed, passed', List.flatten_cons, List.append_assoc]
      · exact ⟨[], Nat.zero_le _, nofun, rfl⟩

/-- What a match passes is a text that the expression spells. -/
theorem spells_of_mem_run (matched : q ∈ run r p) : ∃ xs, Spells r xs ∧ p.rest = xs ++ q.rest := by
  induction r generalizing p q with
  | empty =>
      rw [List.mem_singleton.mp matched]
      exact ⟨[], rfl, rfl⟩
  | start | stop =>
      obtain ⟨-, here⟩ := List.mem_ite_nil_right.mp matched
      rw [List.mem_singleton.mp here]
      exact ⟨[], rfl, rfl⟩
  | boundary =>
      obtain ⟨-, here⟩ := List.mem_ite_nil_left.mp matched
      rw [List.mem_singleton.mp here]
      exact ⟨[], rfl, rfl⟩
  | char accepts =>
      obtain ⟨b, rest, g⟩ := p
      cases rest with
      | nil => exact absurd matched List.not_mem_nil
      | cons c rest =>
          rw [run_char, List.mem_ite_nil_right, List.mem_singleton] at matched
          obtain ⟨accepted, rfl⟩ := matched
          exact ⟨[c], ⟨c, accepted, rfl⟩, rfl⟩
  | seq first second hfirst hsecond =>
      obtain ⟨o, passed, passed'⟩ := List.mem_flatMap.mp matched
      obtain ⟨ys, hys, front⟩ := hfirst passed
      obtain ⟨zs, hzs, back⟩ := hsecond passed'
      refine ⟨ys ++ zs, ⟨ys, zs, hys, hzs, rfl⟩, ?_⟩
      rw [front, back, List.append_assoc]
  | alt first second hfirst hsecond =>
      rcases List.mem_append.mp matched with passed | passed
      · obtain ⟨xs, own, split⟩ := hfirst passed
        exact ⟨xs, .inl own, split⟩
      · obtain ⟨xs, own, split⟩ := hsecond passed
        exact ⟨xs, .inr own, split⟩
  | many most body ih =>
      obtain ⟨pieces, few, own, split⟩ := iterate_pieces (fun p q passed => ih passed) matched
      refine ⟨pieces.flatten, ⟨pieces, ?_, own, rfl⟩, split⟩
      rintro n ⟨⟩
      exact few
  | group index body ih =>
      obtain ⟨o, passed, rfl⟩ := List.mem_map.mp matched
      have spelled := ih passed
      exact spelled
  | ahead body ih =>
      rw [run_ahead] at matched
      split at matched
      · rw [List.mem_singleton.mp matched]
        exact ⟨[], rfl, rfl⟩
      · exact absurd matched List.not_mem_nil

/-- A match ends in the same text, where it started or further on. -/
theorem rest_suffix (matched : q ∈ run r p) : q.rest <:+ p.rest := by
  obtain ⟨xs, -, split⟩ := spells_of_mem_run matched
  exact ⟨xs, split.symm⟩

theorem Spells.star {xs : List Char} (spelled : Spells (star accepts) xs) :
    ∀ c ∈ xs, accepts c = true := by
  obtain ⟨pieces, -, own, rfl⟩ := spelled
  intro c mem
  obtain ⟨piece, listed, inside⟩ := List.mem_flatten.mp mem
  obtain ⟨d, accepted, rfl⟩ := own piece listed
  rwa [List.mem_singleton.mp inside]

theorem Spells.plus {xs : List Char} (spelled : Spells (plus accepts) xs) :
    xs ≠ [] ∧ ∀ c ∈ xs, accepts c = true := by
  obtain ⟨_, xs, ⟨c, accepted, rfl⟩, others, rfl⟩ := spelled
  exact ⟨List.cons_ne_nil c xs, List.forall_mem_cons.mpr ⟨accepted, others.star⟩⟩

theorem Spells.optional {xs : List Char} (spelled : Spells (.many (some 1) r) xs) :
    xs = [] ∨ Spells r xs := by
  obtain ⟨pieces, few, own, rfl⟩ := spelled
  have few := few 1 rfl
  rcases pieces with _ | ⟨xs, _ | ⟨ys, pieces⟩⟩
  · exact .inl rfl
  · refine .inr ?_
    rw [List.flatten_cons, List.flatten_nil, List.append_nil]
    exact own xs List.mem_cons_self
  · rw [List.length_cons, List.length_cons] at few
    omega

/-- Every match passes at least `n` of the characters that count. -/
def Spends (r : Expr) (counted : Char → Bool) (n : Nat) : Prop :=
  ∀ p, ∀ q ∈ run r p, q.rest.countP counted + n ≤ p.rest.countP counted

theorem spends_zero : Spends r counted 0 := fun _ _ matched =>
  (rest_suffix matched).sublist.countP_le

theorem spends_char (counts : ∀ c, accepts c = true → counted c = true) :
    Spends (.char accepts) counted 1 := by
  rintro ⟨b, rest, g⟩ q matched
  cases rest with
  | nil => exact absurd matched List.not_mem_nil
  | cons c rest =>
      rw [run_char, List.mem_ite_nil_right, List.mem_singleton] at matched
      obtain ⟨accepted, rfl⟩ := matched
      rw [List.countP_cons_of_pos (counts c accepted)]

theorem Spends.seq (first : Spends r counted n) (second : Spends s counted m) :
    Spends (.seq r s) counted (n + m) := by
  intro p q matched
  obtain ⟨o, first', second'⟩ := List.mem_flatMap.mp matched
  have passed := first p o first'
  have passed' := second o q second'
  omega

theorem Spends.refused (spends : Spends r counted n) (few : p.rest.countP counted < n) :
    run r p = [] := by
  refine List.eq_nil_iff_forall_not_mem.mpr fun q matched => ?_
  have passed := spends p q matched
  omega

theorem spends_letter {c : Char} :
    Spends (letter c) (fun d => decide (canonicalize d = canonicalize c)) 1 :=
  spends_char fun _ accepted => accepted

/-- A `c` that `class*c` stops at: with the ones ahead of it, no further one can be
the `c`. -/
theorem leads_star_letter {c : Char} {b xs rest : List Char} {g : List (Nat × List Char)}
    (all : ∀ d ∈ xs ++ [c], accepts d = true)
    (absent : ∀ d ∈ xs, canonicalize d ≠ canonicalize c)
    (spends : Spends (concat rs) (fun d => decide (canonicalize d = canonicalize c)) n)
    (few : (rest.countP fun d => decide (canonicalize d = canonicalize c)) ≤ n)
    (leads : Leads (concat rs) ⟨c :: (xs.reverse ++ b), rest, g⟩ q) :
    Leads (concat (star accepts :: letter c :: rs)) ⟨b, xs ++ c :: rest, g⟩ q := by
  have further : Spends (.seq (star accepts) (.seq (letter c) (concat rs)))
      (fun d => decide (canonicalize d = canonicalize c)) (0 + (1 + n)) :=
    spends_zero.seq (spends_letter.seq spends)
  have none_ := further.refused (p := ⟨c :: (xs.reverse ++ b), rest, g⟩) (by
    change rest.countP _ < _
    omega)
  rw [concat_cons, concat_cons, Leads, run_star_letter_cons all absent, none_, List.nil_append]
  exact leads

end Spends

/-! ### Anchored expressions -/

section Anchored

variable {r : Expr} {rs : List Expr} {line : List Char} {q : Position}

/-- An anchored expression is only matched at the start of the text. -/
theorem firstMatch_anchored :
    firstMatch (concat (.start :: rs)) line = (run (concat rs) ⟨[], line, []⟩).head? := by
  have behind : ∀ (b rest : List Char), b ≠ [] →
      search (concat (.start :: rs)) b rest = none := by
    intro b rest passed
    induction rest generalizing b with
    | nil =>
        have refused : run (concat (.start :: rs)) ⟨b, [], []⟩ = [] :=
          run_seq_nil (if_neg passed)
        rw [search_nil, refused]
        rfl
    | cons c rest ih =>
        have refused : run (concat (.start :: rs)) ⟨b, c :: rest, []⟩ = [] :=
          run_seq_nil (if_neg passed)
        rw [search_cons, refused]
        exact ih (c :: b) (List.cons_ne_nil _ _)
  have begin_ : ∀ line, run (concat (.start :: rs)) ⟨[], line, []⟩ =
      run (concat rs) ⟨[], line, []⟩ := fun line => run_seq_of_eq rfl
  cases line with
  | nil => rw [firstMatch, search_nil, begin_]
  | cons c rest =>
      rw [firstMatch, search_cons, begin_]
      cases found : run (concat rs) ⟨[], c :: rest, []⟩ with
      | nil => exact behind [c] rest (List.cons_ne_nil _ _)
      | cons p others => rfl

theorem firstMatch_of_leads (leads : Leads (concat rs) ⟨[], line, []⟩ q) :
    firstMatch (concat (.start :: rs)) line = some q :=
  firstMatch_anchored.trans leads

/-- A match of the whole text is a text that the expression spells. -/
theorem spells_of_firstMatch
    (matched : firstMatch (concat (.start :: (rs ++ [.stop]))) line = some q) :
    Spells (concat rs) line := by
  have ends : ∀ {rs p}, q ∈ run (concat (rs ++ [.stop])) p →
      ∃ o ∈ run (concat rs) p, o.rest = [] := by
    intro rs p passed
    induction rs generalizing p with
    | nil =>
        obtain ⟨o, last, -⟩ := List.mem_flatMap.mp passed
        obtain ⟨finished, here⟩ := List.mem_ite_nil_right.mp last
        exact ⟨p, List.mem_singleton_self p, finished⟩
    | cons r rs ih =>
        obtain ⟨o, first, later⟩ := List.mem_flatMap.mp passed
        obtain ⟨o', others, finished⟩ := ih later
        exact ⟨o', List.mem_flatMap.mpr ⟨o, first, others⟩, finished⟩
  rw [firstMatch_anchored] at matched
  obtain ⟨o, passed, finished⟩ := ends (List.mem_of_mem_head? matched)
  obtain ⟨xs, spelled, split⟩ := spells_of_mem_run passed
  rw [finished, List.append_nil] at split
  obtain rfl : line = xs := split
  exact spelled

theorem Spells.classes {classes : List (Char → Bool)}
    (spelled : Spells (concat (classes.map .char)) line) :
    List.Forall₂ (fun accepts c => accepts c = true) classes line := by
  induction classes generalizing line with
  | nil =>
      obtain rfl : line = [] := spelled
      exact .nil
  | cons accepts classes ih =>
      obtain ⟨_, _, ⟨c, accepted, rfl⟩, others, rfl⟩ := spelled
      exact .cons accepted (ih others)

/-- An anchored expression of one character after the other accepts the texts that
have a character of each class. -/
theorem test_classes {classes : List (Char → Bool)} :
    test (concat (.start :: (classes.map .char ++ [.stop]))) line = true ↔
      List.Forall₂ (fun accepts c => accepts c = true) classes line := by
  constructor
  · intro matched
    obtain ⟨q, found⟩ := Option.isSome_iff_exists.mp matched
    exact (spells_of_firstMatch found).classes
  · intro accepted
    have leads : Leads (concat (classes.map .char ++ [.stop])) ⟨[], line ++ [], []⟩
        ⟨line.reverse ++ [], [], []⟩ :=
      leads_chars accepted (Leads.cons leads_stop leads_concat_nil)
    rw [List.append_nil line] at leads
    rw [test, firstMatch_of_leads leads]
    rfl

/-- Without the stop, the classes only have to be met at the start. -/
theorem test_prefix {classes : List (Char → Bool)} :
    test (concat (.start :: classes.map .char)) line = true ↔ ∃ xs rest, line = xs ++ rest ∧
      List.Forall₂ (fun accepts c => accepts c = true) classes xs := by
  constructor
  · intro matched
    obtain ⟨q, found⟩ := Option.isSome_iff_exists.mp matched
    rw [firstMatch_anchored] at found
    obtain ⟨xs, spelled, split⟩ := spells_of_mem_run (List.mem_of_mem_head? found)
    exact ⟨xs, q.rest, split, spelled.classes⟩
  · rintro ⟨xs, rest, rfl, accepted⟩
    have leads : Leads (concat (classes.map .char ++ [])) ⟨[], xs ++ rest, []⟩
        ⟨xs.reverse ++ [], rest, []⟩ := leads_chars accepted leads_concat_nil
    rw [List.append_nil] at leads
    rw [test, firstMatch_of_leads leads]
    rfl

theorem firstMatch_text {cs rest : List Char} (leads : Leads (concat rs) ⟨cs.reverse, rest, []⟩ q) :
    firstMatch (concat (.start :: text cs :: rs)) (cs ++ rest) = some q := by
  rw [← List.append_nil cs.reverse] at leads
  exact firstMatch_of_leads (Leads.cons leads_text leads)

/-- An anchored text that clashes with the start of the line. -/
theorem firstMatch_clash {cs ds rest : List Char} (differ : clash cs ds = true) :
    firstMatch (concat (.start :: text cs :: rs)) (ds ++ rest) = none := by
  have refused : run (concat (text cs :: rs)) ⟨[], ds ++ rest, []⟩ = [] :=
    run_seq_nil (run_text_clash differ)
  rw [firstMatch_anchored, refused]
  rfl

end Anchored

end Regex
