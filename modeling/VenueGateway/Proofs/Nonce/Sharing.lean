import Mathlib.Data.List.Range
import VenueGateway.Proofs.Channel.Exchange

/-! # Callers that share a counter

Any number of callers may have one counter, and each of them asks for nonces and looks at the next one
whenever it likes. An access is one step: nothing comes between its look at the counter and the change it
makes. Whatever the order of the accesses, the nonces that are issued follow each other without a gap from
the seed on, each goes to one caller, and the limit is not among them. Once a caller was refused, all are.
-/

namespace VenueGateway.NonceCounter

variable {κ : Type}

/-- What a caller wants of a counter: a nonce of its own, or a look at the next one. -/
inductive Ask
  | take
  | peek
deriving DecidableEq

/-- An access to a counter: who asked for what, what the answer was, and the counter that is left. -/
structure Access (κ : Type) where
  caller : κ
  ask : Ask
  answer : Except Failure Nat
  after : NonceCounter

/-- What comes of an access. -/
def serve (counter : NonceCounter) (caller : κ) : Ask → Access κ
  | .take =>
    match counter.take with
    | .ok (nonce, after) => ⟨caller, .take, .ok nonce, after⟩
    | .error failure => ⟨caller, .take, .error failure, counter⟩
  | .peek => ⟨caller, .peek, .ok counter.next.val, counter⟩

/-- What comes of a schedule, which lists the accesses of all callers in the order in which they happen.
Whatever each caller asks for by itself, every interleaving of it is a schedule. -/
def history (counter : NonceCounter) : List (κ × Ask) → List (Access κ)
  | [] => []
  | (caller, ask) :: later =>
    let access := counter.serve caller ask
    access :: access.after.history later

/-- The nonce that an access issues to its caller. -/
def Access.issued? (access : Access κ) : Option Nat :=
  match access.ask, access.answer with
  | .take, .ok nonce => some nonce
  | _, _ => none

/-- The nonces that are issued, first to last. -/
def issued (accesses : List (Access κ)) : List Nat := accesses.filterMap Access.issued?

def takeCount (schedule : List (κ × Ask)) : Nat := schedule.countP fun turn => turn.2 = .take

/-- What holds of all accesses to a counter that begins with a seed. An access is known by those before
it. -/
structure SharedFrom [DecidableEq κ] (seed : Nat) (schedule : List (κ × Ask))
    (accesses : List (Access κ)) : Prop where
  answered : accesses.map (fun access => (access.caller, access.ask)) = schedule
  consecutive : issued accesses = List.range' seed (min (takeCount schedule) (limit - seed))
  increasing : ∀ caller, (issued (accesses.filter (·.caller = caller))).Pairwise (· < ·)
  above : ∀ before access after, accesses = before ++ access :: after →
    ∀ nonce ∈ access.issued?, ∀ earlier ∈ issued before, earlier < nonce
  below_limit : ∀ nonce ∈ issued accesses, nonce < limit
  spent : ∀ before access after failure, accesses = before ++ access :: after →
    access.ask = .take → access.answer = .error failure →
    ∀ other ∈ access :: after, other.after.next.val = limit ∧
      (other.ask = .take → ∃ detail, other.answer = .error (.configuration detail))
  foreseen : ∀ before access after, accesses = before ++ access :: after → access.ask = .peek →
    ∃ value, access.answer = .ok value ∧ ∀ nonce ∈ (issued after).head?, nonce = value

/-! ## One access -/

variable {counter : NonceCounter} {caller : κ} {access : Access κ}

theorem serve_take_of_hasNext (next : counter.HasNext) :
    counter.serve caller .take = ⟨caller, .take, .ok counter.next.val, counter.advance⟩ := by
  rw [serve, take_of_hasNext next]

theorem serve_take_of_not_hasNext (last : ¬ counter.HasNext) :
    counter.serve caller .take = ⟨caller, .take, .error exhausted, counter⟩ := by
  rw [serve, take_of_not_hasNext last]

/-- What an access to a counter can be. -/
inductive Served (counter : NonceCounter) : Access κ → Prop
  | seen (caller : κ) : Served counter ⟨caller, .peek, .ok counter.next.val, counter⟩
  | issued (caller : κ) : counter.HasNext →
    Served counter ⟨caller, .take, .ok counter.next.val, counter.advance⟩
  | refused (caller : κ) : ¬ counter.HasNext →
    Served counter ⟨caller, .take, .error exhausted, counter⟩

theorem served_serve (counter : NonceCounter) (caller : κ) (ask : Ask) :
    counter.Served (counter.serve caller ask) := by
  cases ask with
  | peek => exact .seen caller
  | take =>
    by_cases next : counter.HasNext
    · rw [serve_take_of_hasNext next]
      exact .issued caller next
    · rw [serve_take_of_not_hasNext next]
      exact .refused caller next

theorem serve_asks (counter : NonceCounter) (caller : κ) (ask : Ask) :
    ((counter.serve caller ask).caller, (counter.serve caller ask).ask) = (caller, ask) := by
  cases ask with
  | peek => rfl
  | take =>
    by_cases next : counter.HasNext
    · rw [serve_take_of_hasNext next]
    · rw [serve_take_of_not_hasNext next]

/-- An access never takes the counter back. -/
theorem Served.next_le (served : counter.Served access) :
    counter.next.val ≤ access.after.next.val := by
  cases served with
  | seen => exact le_rfl
  | issued caller next =>
    rw [advance_next_of_hasNext next]
    exact Nat.le_succ _
  | refused => exact le_rfl

/-- What is issued is the next nonce, and the counter has gone beyond it. -/
theorem Served.of_issued {nonce : Nat} (served : counter.Served access)
    (given : nonce ∈ access.issued?) : nonce = counter.next.val ∧ nonce < access.after.next.val := by
  cases served with
  | seen => cases given
  | issued caller next =>
    cases given
    refine ⟨rfl, ?_⟩
    rw [advance_next_of_hasNext next]
    exact Nat.lt_succ_self _
  | refused => cases given

theorem Served.of_refused {failure : Failure} (served : counter.Served access)
    (take : access.ask = .take) (refused : access.answer = .error failure) : ¬ counter.HasNext := by
  cases served with
  | seen => cases take
  | issued => cases refused
  | refused caller last => exact last

/-- Where nothing is left, nobody gets anything, and the counter stays. -/
theorem Served.of_not_hasNext (served : counter.Served access) (last : ¬ counter.HasNext) :
    access.after = counter ∧ (access.ask = .take → access.answer = .error exhausted) := by
  cases served with
  | seen => exact ⟨rfl, nofun⟩
  | issued caller next => exact absurd next last
  | refused => exact ⟨rfl, fun _ => rfl⟩

/-- Whoever looks sees the next nonce, and leaves it. -/
theorem Served.of_peek (served : counter.Served access) (peek : access.ask = .peek) :
    access.answer = .ok counter.next.val ∧ access.after = counter := by
  cases served with
  | seen => exact ⟨rfl, rfl⟩
  | issued => cases peek
  | refused => cases peek

/-! ## All accesses -/

theorem history_asks (counter : NonceCounter) (schedule : List (κ × Ask)) :
    (counter.history schedule).map (fun access => (access.caller, access.ask)) = schedule := by
  induction schedule generalizing counter with
  | nil => rfl
  | cons turn later ih => rw [history, List.map_cons, serve_asks, ih]

/-- Nonces are issued without a gap, one for each time that one is asked for, up to the limit. -/
theorem issued_history (counter : NonceCounter) (schedule : List (κ × Ask)) :
    issued (counter.history schedule) =
      List.range' counter.next.val (min (takeCount schedule) (limit - counter.next.val)) := by
  induction schedule generalizing counter with
  | nil =>
    rw [takeCount, List.countP_nil, Nat.zero_min]
    rfl
  | cons turn later ih =>
    obtain ⟨caller, ask⟩ := turn
    cases ask with
    | peek => exact ih counter
    | take =>
      have count : takeCount ((caller, Ask.take) :: later) = takeCount later + 1 :=
        List.countP_cons_of_pos rfl
      rw [history, count]
      by_cases next : counter.HasNext
      · rw [serve_take_of_hasNext next]
        change counter.next.val :: issued (counter.advance.history later) = _
        rw [ih, advance_next_of_hasNext next, ← List.range'_succ]
        rw [HasNext] at next
        congr 1
        omega
      · rw [serve_take_of_not_hasNext next]
        change issued (counter.history later) = _
        rw [ih, next_eq_limit next, Nat.sub_self, Nat.min_zero, Nat.min_zero]

theorem of_mem_history_of_not_hasNext (last : ¬ counter.HasNext) {schedule : List (κ × Ask)}
    (listed : access ∈ counter.history schedule) :
    access.after.next.val = limit ∧ (access.ask = .take → access.answer = .error exhausted) := by
  induction schedule with
  | nil => cases listed
  | cons turn later ih =>
    obtain ⟨same, refused⟩ := (counter.served_serve turn.1 turn.2).of_not_hasNext last
    rw [history, same] at listed
    rcases List.mem_cons.mp listed with rfl | listed
    · rw [same]
      exact ⟨next_eq_limit last, refused⟩
    · exact ih listed

/-- Every access finds the counter above all nonces that were issued before it. The bound is about the
counter that the access finds, as the counter moves on with every access before. -/
theorem exists_reached {schedule : List (κ × Ask)} {before after : List (Access κ)}
    (split : counter.history schedule = before ++ access :: after) :
    ∃ (reached : NonceCounter) (later : List (κ × Ask)), reached.Served access ∧
      after = access.after.history later ∧ counter.next.val ≤ reached.next.val ∧
      ∀ nonce ∈ issued before, nonce < reached.next.val := by
  induction before generalizing counter schedule with
  | nil =>
    cases schedule with
    | nil => cases split
    | cons turn later =>
      rw [history, List.nil_append, List.cons.injEq] at split
      obtain ⟨rfl, rfl⟩ := split
      exact ⟨counter, later, served_serve .., rfl, le_rfl, nofun⟩
  | cons first before ih =>
    cases schedule with
    | nil => cases split
    | cons turn later =>
      rw [history, List.cons_append, List.cons.injEq] at split
      obtain ⟨rfl, split⟩ := split
      have served := counter.served_serve turn.1 turn.2
      obtain ⟨reached, rest, reachedServed, left, moved, below⟩ := ih split
      refine ⟨reached, rest, reachedServed, left, served.next_le.trans moved, ?_⟩
      intro nonce listed
      rw [issued, List.filterMap_cons] at listed
      cases given : (counter.serve turn.1 turn.2).issued? with
      | none =>
        rw [given] at listed
        exact below nonce listed
      | some first =>
        rw [given] at listed
        rcases List.mem_cons.mp listed with rfl | listed
        · exact (served.of_issued given).2.trans_le moved
        · exact below nonce listed

/-- Callers that share a counter are issued the numbers from its seed up to the limit, one after the other
and each of them once. Each nonce is above all that were issued before, and is the one that was seen by
whoever looked last. Once a nonce is refused, none is issued anymore. -/
theorem shared_history [DecidableEq κ] (seed : Fin UInt64.size) (schedule : List (κ × Ask)) :
    SharedFrom seed.val schedule ((⟨seed⟩ : NonceCounter).history schedule) := by
  have consecutive := issued_history ⟨seed⟩ schedule
  refine ⟨history_asks _ _, consecutive, ?increasing, ?above, ?below_limit, ?spent, ?foreseen⟩
  case increasing =>
    intro caller
    have own : (issued (((⟨seed⟩ : NonceCounter).history schedule).filter (·.caller = caller))).Sublist
        (issued ((⟨seed⟩ : NonceCounter).history schedule)) := List.filter_sublist.filterMap _
    rw [consecutive] at own
    exact (List.pairwise_lt_range' 1).sublist own
  case above =>
    intro before access after split nonce given earlier listed
    obtain ⟨reached, -, served, -, -, below⟩ := exists_reached split
    rw [(served.of_issued given).1]
    exact below earlier listed
  case below_limit =>
    intro nonce listed
    rw [consecutive, List.mem_range'_1] at listed
    omega
  case spent =>
    intro before access after failure split take refused other listed
    obtain ⟨reached, later, served, rfl, -⟩ := exists_reached split
    have last := served.of_refused take refused
    obtain ⟨same, refusal⟩ := served.of_not_hasNext last
    rcases List.mem_cons.mp listed with rfl | listed
    · exact ⟨same ▸ next_eq_limit last, fun take => ⟨_, refusal take⟩⟩
    · rw [same] at listed
      obtain ⟨stays, refusals⟩ := of_mem_history_of_not_hasNext last listed
      exact ⟨stays, fun take => ⟨_, refusals take⟩⟩
  case foreseen =>
    intro before access after split peek
    obtain ⟨reached, later, served, rfl, -⟩ := exists_reached split
    obtain ⟨answer, same⟩ := served.of_peek peek
    refine ⟨_, answer, ?_⟩
    intro nonce next
    rw [same, issued_history, List.head?_range'] at next
    split at next
    · cases next
    · exact (Option.some.inj next).symm

/-- Two callers at the last nonce: one of them sees it, the other one gets it, and from then on both are
refused. -/
example : ((⟨⟨limit - 1, by decide⟩⟩ : NonceCounter).history
      [(true, .peek), (false, .take), (true, .take), (false, .take)]).map Access.answer =
    [.ok (limit - 1), .ok (limit - 1), .error exhausted, .error exhausted] := by
  decide +kernel

end VenueGateway.NonceCounter
