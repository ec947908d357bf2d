import GracefulStop.Proofs.Cluster.Answers
import GracefulStop.Proofs.Cluster.Ends
import GracefulStop.Proofs.Cluster.Quorum
import GracefulStop.Proofs.Retry.Deadlines
import GracefulStop.Proofs.Run.Limits

/-!
# How long the members are awaited

A wait for the members looks at its bound only after an answer. Where nodes answer at once an answer takes
as long as the backoffs that come before it. So the wait is over when its bound and a pause have passed,
and the backoffs of its last round.
-/

namespace GracefulStop

theorem Duration.ceilMillis_mono {first second : Duration} (ordered : first ≤ second) :
    first.ceilMillis ≤ second.ceilMillis := by
  simp only [le_def, ceilMillis, ofMillis] at *
  omega

theorem Duration.ceilMillis_add_le (first second : Duration) :
    (first + second).ceilMillis ≤ first.ceilMillis + second.ceilMillis := by
  simp only [le_def, nanos_add, ceilMillis, ofMillis]
  omega

theorem Duration.ceilMillis_ceilMillis (length : Duration) :
    length.ceilMillis.ceilMillis = length.ceilMillis := by
  simp only [ceilMillis, ofMillis, mk.injEq]
  omega

/-- A sleep ends in the millisecond in which its length has passed. -/
theorem wakeTime_le_ceilMillis (now length : Duration) :
    wakeTime now length ≤ (now + length).ceilMillis := by
  unfold wakeTime
  split
  · rename_i empty
    apply Nat.le_trans _ (Duration.le_ceilMillis _)
    simp only [Duration.nanos_add]
    omega
  · apply Duration.ceilMillis_mono
    simp only [Duration.le_def, Duration.nanos_add, Duration.nanos_min]
    omega

/-- What so many backoffs take, each up to a whole millisecond. -/
def BackoffPlan.span (plan : BackoffPlan) (count : Nat) : Duration :=
  ⟨((List.range count).map fun index => (plan.nth index).ceilMillis.nanos).sum⟩

section

variable {State Answer : Type} {world : World State}

/-- What is answered at the first look takes no time. -/
theorem Action.clock_of_query {node : Node} {request : Request} {run last : Run State}
    {answer : Except QueryError Response}
    (instant : Prompts .zero (world.query node request))
    (ended : query world node request none run = (some answer, last)) : last.clock = run.clock := by
  rcases bind_eq_some.mp ended with ⟨_, asked, notes, ended⟩
  cases notes
  rcases noted_eq_some ended with ⟨between, awaited, rfl⟩
  rcases bind_eq_some.mp awaited with ⟨began, _, ⟨⟩, polled⟩
  rcases instant.answering ⟨run.clock, run.clock, 0⟩ run.state (Nat.le_refl _) with ⟨found, done⟩
  rw [looks_eq_succ world, poll_succ] at polled
  have looked : (world.query node request ⟨run.clock, run.clock, 0⟩ run.state).1 = .done found := done
  dsimp only [Run.note] at polled
  rw [looked] at polled
  cases polled
  rfl

variable {plan : BackoffPlan} {retryable : QueryError → Bool}
  {attempt : Action State (Except QueryError Answer)} {run last : Run State}
  {result : Except QueryError Answer}

/-- Attempts that have come to a result, from one on before which the backoffs have not added up to the
deadline. The induction is on how many are left until they have. -/
theorem attempts_of_attemptsFrom {start left : Nat}
    (enough : plan.deadline ≤ plan.slept (start + left))
    (ended : attemptsFrom world plan retryable attempt (plan.slept start) (plan.nth start)
      (plan.shortest_le_nth start) none run = (some result, last)) :
    ∃ outcomes count, count ≤ left ∧ outcomes.length = count + 1 ∧
      Attempts world attempt run outcomes ((List.range' start count).map plan.nth) last ∧
      (settles retryable result = true ∨ plan.deadline ≤ plan.slept (start + count)) := by
  induction left generalizing start run with
  | zero =>
      rcases came : attempt none run with ⟨_ | outcome, after⟩
      · rw [attemptsFrom, Action.bind_of_eq_none came] at ended
        cases ended
      · rw [Nat.add_zero] at enough
        rw [attemptsFrom_of_spent came enough] at ended
        cases ended
        exact ⟨[result], 0, Nat.le_refl 0, rfl, .once came, .inr enough⟩
  | succ left ih =>
      rcases came : attempt none run with ⟨_ | outcome, after⟩
      · rw [attemptsFrom, Action.bind_of_eq_none came] at ended
        cases ended
      cases settled : settles retryable outcome with
      | true =>
          rw [attemptsFrom_of_settled came settled] at ended
          cases ended
          exact ⟨[result], 0, Nat.zero_le _, rfl, .once came, .inl settled⟩
      | false =>
          by_cases spent : plan.deadline ≤ plan.slept start
          · rw [attemptsFrom_of_spent came spent] at ended
            cases ended
            exact ⟨[result], 0, Nat.zero_le _, rfl, .once came, .inr spent⟩
          · rcases Action.sleep_eq_some world (plan.nth start) after with ⟨slept, sleeps, _⟩
            rw [attemptsFrom_of_unsettled came settled spent sleeps] at ended
            rw [Nat.add_comm left, ← Nat.add_assoc] at enough
            rcases ih enough (by rw [plan.slept_succ]; exact ended) with
              ⟨outcomes, count, few, length, attempts, ends⟩
            refine ⟨outcome :: outcomes, count + 1, Nat.succ_le_succ few, ?_,
              .again came sleeps attempts, ?_⟩
            · rw [List.length_cons, length]
            · rwa [Nat.add_comm count, ← Nat.add_assoc]

/-- Attempts that have come to a result: no more backoffs came before than are spent, and all of them did if
the result does not settle the matter. -/
theorem attempts_of_repeatAttempts {spent : Nat} (spends : plan.Spends spent)
    (ended : repeatAttempts world plan retryable attempt none run = (some result, last)) :
    ∃ outcomes count, count ≤ spent ∧ outcomes.length = count + 1 ∧
      Attempts world attempt run outcomes ((List.range count).map plan.nth) last ∧
      (settles retryable result = false → count = spent) := by
  have enough : plan.deadline ≤ plan.slept (0 + spent) := by
    rw [Nat.zero_add]
    exact spends.1
  rw [repeatAttempts] at ended
  rcases attempts_of_attemptsFrom enough (plan.slept_zero ▸ ended) with
    ⟨outcomes, count, few, length, attempts, ends⟩
  rw [← List.range_eq_range'] at attempts
  refine ⟨outcomes, count, few, length, attempts, fun unsettled => ?_⟩
  rw [unsettled, Nat.zero_add] at ends
  exact Nat.le_antisymm few (spends.2 (ends.resolve_left Bool.false_ne_true))

/-- Attempts that take no time end when the sleeps between them have passed. -/
theorem Attempts.clock_le {outcomes : List (Except QueryError Answer)} {lengths : List Duration}
    (atOnce : ∀ {run last outcome}, attempt none run = (some outcome, last) → last.clock = run.clock)
    (attempts : Attempts world attempt run outcomes lengths last) :
    last.clock.ceilMillis.nanos ≤
      run.clock.ceilMillis.nanos + (lengths.map fun length => length.ceilMillis.nanos).sum := by
  induction attempts with
  | once came =>
      rw [atOnce came]
      exact Nat.le_add_right _ _
  | @again run after slept last outcome length outcomes lengths came sleeps rest ih =>
      have wakes : slept.clock.ceilMillis ≤ run.clock.ceilMillis + length.ceilMillis := by
        rw [Action.clock_of_sleep sleeps, atOnce came]
        have woken := Duration.ceilMillis_mono (wakeTime_le_ceilMillis run.clock length)
        rw [Duration.ceilMillis_ceilMillis] at woken
        exact Nat.le_trans woken (Duration.ceilMillis_add_le _ _)
      simp only [Duration.le_def, Duration.nanos_add, List.map_cons, List.sum_cons] at *
      omega

end

/-- A policy whose statement is answered at once takes as long as its backoffs. -/
theorem RetryPolicy.execute_of_instant {State : Type} {world : World State} {policy : RetryPolicy}
    {node : Node} {statement : String} {params : List Json} {run last : Run State} {spent : Nat}
    {result : Except QueryError Response} (spends : policy.plan.Spends spent)
    (instant : Prompts .zero (world.query node (.single statement params)))
    (ended : policy.execute world node statement params none run = (some result, last)) :
    ∃ count, count ≤ spent ∧ (settles policy.retryable result = false → count = spent) ∧
      last.clock.ceilMillis ≤ run.clock.ceilMillis + policy.plan.span count ∧
      (run.since last).filterMap Event.asked? =
        List.replicate (count + 1) (node, .single statement params) := by
  rcases attempts_of_repeatAttempts spends ended with ⟨outcomes, count, few, length, attempts, full⟩
  have later := attempts.clock_le (Action.clock_of_query instant)
  rw [List.map_map] at later
  refine ⟨count, few, full, later, ?_⟩
  rw [attempts.asked.2, length]

namespace Harness

variable {State : Type} {world : World State} {harness : Harness} {run last : Run State}
  {statement : String} {params : List Json} {answer : Except ClusterError Response}

theorem clock_of_ensureRunning {handles : List Handle} {limit : Option Instant}
    {result : Except ClusterError Unit}
    (looks : ensureRunning world handles limit run = (some result, last)) :
    last.clock = run.clock := by
  induction handles generalizing run with
  | nil =>
      cases looks
      rfl
  | cons handle rest ih =>
      unfold ensureRunning at looks
      split at looks
      · exact ih looks
      · rcases Action.bind_eq_some.mp looks with ⟨running, checked, checks, looks⟩
        cases checks
        split at looks
        · have same := ih looks
          exact same
        · cases looks
          rfl

/-- A statement that is executed is sent to a node that is picked, if there is one. -/
inductive Sends (world : World State) (harness : Harness) (statement : String) (params : List Json)
    (run : Run State) : Except ClusterError Response → Run State → Prop
  | none {answers : List (Node × Bool)} {last : Run State}
      (picks : Picks world harness none run (.error .noLiveNode) answers last) :
      Sends world harness statement params run (.error .noLiveNode) last
  | one {node : Node} {answers : List (Node × Bool)} {chosen last : Run State}
      {outcome : Except QueryError Response}
      (picks : Picks world harness none run (.ok node) answers chosen)
      (came : harness.policy.execute world node statement params none chosen = (some outcome, last)) :
      Sends world harness statement params run (outcome.mapError .query) last

theorem sends_of_execute
    (ended : harness.execute world statement params none run = (some answer, last)) :
    Sends world harness statement params run answer last := by
  rcases Action.bind_eq_some.mp ended with ⟨picked, chosen, picks, ended⟩
  rcases picks_of_pickLive picks with ⟨answers, picks⟩
  cases picked with
  | error error =>
      cases picks.failing _ rfl
      cases ended
      exact .none picks
  | ok node =>
      rcases Action.bind_eq_some.mp ended with ⟨outcome, reached, came, ended⟩
      cases outcome <;>
        · cases ended
          exact .one picks came

/-- Looking at members asks none of them. -/
theorem asked_of_looks {Member : Type} (members : List Member) (node : Member → Node)
    (running : Member → Bool) :
    (members.map fun member => Event.checked (node member) (running member)).filterMap
      Event.asked? = [] := by
  rw [List.filterMap_map, List.filterMap_eq_nil_iff]
  exact fun _ _ => rfl

theorem asked_of_picks {picked : Except ClusterError Node} {answers : List (Node × Bool)}
    (picks : Picks world harness none run picked answers last) :
    (run.since last).filterMap Event.asked? = [] := by
  rw [picks.written, List.filterMap_append, asked_of_looks, List.nil_append]
  cases picked <;> rfl

/-- How often a statement was sent again. -/
def repeats (run last : Run State) : Nat := ((run.since last).filterMap Event.asked?).length - 1

variable {spent : Nat}

theorem Sends.takes (sends : Sends world harness statement params run answer last)
    (spends : harness.policy.plan.Spends spent)
    (instant : ∀ node, Prompts .zero (world.query node (.single statement params))) :
    repeats run last ≤ spent ∧
      last.clock.ceilMillis ≤ run.clock.ceilMillis + harness.policy.plan.span (repeats run last) ∧
      ∀ cause, answer = .error (.query cause) → harness.policy.retryable cause = true →
        repeats run last = spent := by
  cases sends with
  | none picks =>
      have silent : repeats run last = 0 := by
        rw [repeats, asked_of_picks picks]
        rfl
      rw [silent, picks.atOnce]
      exact ⟨Nat.zero_le _, Nat.le_add_right _ _, nofun⟩
  | @one node answers chosen last outcome picks came =>
      rcases RetryPolicy.execute_of_instant spends (instant node) came with
        ⟨count, few, full, later, asked⟩
      have looks : Run.Course world (Deed.Within Deed.Looks) run chosen :=
        harness.follows_pickLive.course picks.ended
      have asks : Run.Course world (Deed.Within fun _ => True) chosen last :=
        (harness.policy.follows_execute trivial).course came
      have same : repeats run last = count := by
        rw [repeats, looks.since_trans asks, List.filterMap_append, asked_of_picks picks, asked,
          List.nil_append, List.length_replicate, Nat.add_sub_cancel]
      rw [same, ← picks.atOnce]
      refine ⟨few, later, fun cause failed worth => full ?_⟩
      cases outcome with
      | ok response => cases failed
      | error error =>
          cases failed
          simp [settles, worth]

/-- A statement that was executed was answered, unless no node could be picked. -/
theorem Sends.answered (sends : Sends world harness statement params run answer last) :
    (answer = .error .noLiveNode ∧ (harness.members ≠ [] →
        ∃ node, .checked node false ∈ run.since last)) ∨
      ∃ node outcome, answer = outcome.mapError .query ∧
        .answered node (.single statement params) outcome ∈ run.since last := by
  cases sends with
  | @none answers last picks =>
      refine .inl ⟨rfl, fun several => ?_⟩
      have looked : answers ≠ [] := by
        rintro rfl
        exact several (List.map_eq_nil_iff.mp picks.members.symm)
      rcases List.exists_mem_of_ne_nil answers looked with ⟨answer, among⟩
      have down := picks.none.mp rfl answer among
      refine ⟨answer.1, ?_⟩
      rw [picks.written, ← down]
      exact List.mem_append_left _ (List.mem_map_of_mem among)
  | @one node answers chosen last outcome picks came =>
      have looks : Run.Course world (Deed.Within Deed.Looks) run chosen :=
        harness.follows_pickLive.course picks.ended
      have asks : (Action.query world node (.single statement params)).Follows world
          (Deed.Within fun _ => True) := Action.follows_query trivial
      rcases last_of_attemptsFrom asks came with ⟨between, earlier, ended⟩
      rcases Action.since_query ended with ⟨meanwhile, written, _⟩
      refine .inr ⟨node, outcome, rfl, ?_⟩
      rw [looks.since_trans (earlier.trans (asks.course ended)), earlier.since_trans (asks.course ended),
        written]
      simp

/-! ## The last round -/

variable {round : Round State} {rounds : List (Round State)} {result : Except ClusterError Unit}
  {longest : Option Duration} {began : Instant} {bound : Duration}

/-- The moment by which a wait is over, but for the backoffs of its last round. -/
def due (harness : Harness) (began : Instant) (bound : Duration) : Instant :=
  (began + bound + harness.quorumPoll).ceilMillis

theorem course_of_ensureRunning {before looked : Run State} {up : Except ClusterError Unit}
    (looks : ensureRunning world harness.handles none before = (some up, looked)) :
    Run.Course world (fun _ => True) before looked :=
  ((follows_ensureRunning harness.handles).course looks :
    Run.Course world (Deed.Within (Deed.Asks (.single membershipQuery []))) before looked).any

theorem Polls.courses (polls : harness.Polls world none round answer) :
    Run.Course world (fun _ => True) round.before round.looked ∧
      Run.Course world (fun _ => True) round.looked round.after :=
  ⟨course_of_ensureRunning polls.looks,
    ((harness.follows_execute membershipQuery []).course polls.asks).any⟩

theorem Polls.takes (polls : harness.Polls world none round answer)
    (spends : harness.policy.plan.Spends spent)
    (instant : ∀ node, Prompts .zero (world.query node (.single membershipQuery []))) :
    repeats round.before round.after ≤ spent ∧
      round.after.clock.ceilMillis ≤ round.before.clock.ceilMillis +
        harness.policy.plan.span (repeats round.before round.after) ∧
      ∀ cause, answer = .error (.query cause) → harness.policy.retryable cause = true →
        repeats round.before round.after = spent := by
  rcases polls.courses with ⟨looks, asks⟩
  have quiet : (round.before.since round.looked).filterMap Event.asked? = [] := by
    rw [polls.allUp, asked_of_looks]
  have same : repeats round.before round.after = repeats round.looked round.after := by
    rw [repeats, looks.since_trans asks, List.filterMap_append, quiet, List.nil_append, repeats]
  rw [same, ← clock_of_ensureRunning polls.looks]
  exact (sends_of_execute polls.asks).takes spends instant

theorem Misses.asked {member : Handle} (misses : harness.Misses world none round member) :
    (round.before.since round.after).filterMap Event.asked? = [] := by
  rcases misses.firstDown with ⟨up, rest, _, found⟩
  rw [misses.stays, found, List.filterMap_append, asked_of_looks]
  rfl

/-- The round that ends a wait takes as long as the backoffs in it. -/
theorem Closes.takes (closes : harness.Closes world none longest began round result)
    (spends : harness.policy.plan.Spends spent)
    (instant : ∀ node, Prompts .zero (world.query node (.single membershipQuery []))) :
    repeats round.before round.after ≤ spent ∧
      round.after.clock.ceilMillis ≤ round.before.clock.ceilMillis +
        harness.policy.plan.span (repeats round.before round.after) ∧
      ∀ cause, result = .error (.query cause) → harness.policy.retryable cause = true →
        repeats round.before round.after = spent := by
  cases closes with
  | missed misses =>
      have silent : repeats round.before round.after = 0 := by
        rw [repeats, misses.asked]
        rfl
      rw [silent, misses.stays, clock_of_ensureRunning misses.looks]
      exact ⟨Nat.zero_le _, Nat.le_add_right _ _, nofun⟩
  | failed polls =>
      rcases polls.takes spends instant with ⟨few, later, full⟩
      exact ⟨few, later, fun cause failed => full cause (by rw [Except.error.inj failed])⟩
  | joined polls whole =>
      rcases polls.takes spends instant with ⟨few, later, _⟩
      exact ⟨few, later, nofun⟩
  | late polls other bounded past =>
      rcases polls.takes spends instant with ⟨few, later, _⟩
      exact ⟨few, later, nofun⟩

/-- A pause that comes before a wait has lasted as long as it may ends in time. -/
theorem onTime_sleep {slept : Run State} (going : run.clock - began < bound)
    (sleeps : Action.sleep world harness.quorumPoll none run = (some (), slept)) :
    slept.clock ≤ harness.due began bound := by
  have woken := wakeTime_le_ceilMillis run.clock harness.quorumPoll
  rw [Action.clock_of_sleep sleeps]
  refine Nat.le_trans woken (Duration.ceilMillis_mono ?_)
  simp only [Duration.le_def, Duration.lt_def, Duration.nanos_add, Duration.nanos_sub] at *
  omega

/-- The last round of a wait begins in time. -/
theorem Awaits.ending (awaits : harness.Awaits world none (some bound) began run rounds result last)
    (onTime : run.clock ≤ harness.due began bound) :
    ∃ ending, rounds.getLast? = some ending ∧ ending.after = last ∧
      harness.Closes world none (some bound) began ending result ∧
      ending.before.clock ≤ harness.due began bound ∧
      Run.Course world (fun _ => True) run ending.before := by
  induction awaits with
  | @ended round result closes => exact ⟨round, rfl, rfl, closes, onTime, .refl⟩
  | @again round response rounds slept last result continues sleeps rest ih =>
      rcases ih (onTime_sleep (continues.going bound rfl) sleeps) with
        ⟨ending, ends, after, closes, early, course⟩
      have pauses : Run.Course world (fun _ => True) round.after slept :=
        (Action.follows_sleep _).course sleeps
      rcases continues.polls.courses with ⟨looks, asks⟩
      refine ⟨ending, ?_, after, closes, early, looks.trans (asks.trans (pauses.trans course))⟩
      rw [List.getLast?_cons, ends]
      rfl

theorem Closes.course (closes : harness.Closes world none longest began round result) :
    Run.Course world (fun _ => True) round.before round.after := by
  have asks : ∀ {answer}, harness.Polls world none round answer →
      Run.Course world (fun _ => True) round.before round.after :=
    fun polls => polls.courses.1.trans polls.courses.2
  cases closes with
  | missed misses =>
      rw [misses.stays]
      exact course_of_ensureRunning misses.looks
  | failed polls => exact asks polls
  | joined polls whole => exact asks polls
  | late polls other bounded past => exact asks polls

/-- Events with which a wait goes on: a member that is running, another number of members, an error that
is worth another attempt. -/
def keepsWaiting (harness : Harness) : Event → Bool
  | .checked _ running => running
  | .answered _ _ (.ok response) => response.rowCount != harness.memberCount
  | .answered _ _ (.error error) => harness.policy.retryable error
  | _ => true

theorem Closes.timeout_of_keepsWaiting
    (closes : harness.Closes world none (some bound) began round result)
    (several : harness.members ≠ [])
    (waiting : ∀ event ∈ round.before.since round.after, harness.keepsWaiting event = true) :
    (∃ seen, result = .error (.quorumTimeout seen harness.memberCount bound)) ∨
      ∃ cause, result = .error (.query cause) ∧ harness.policy.retryable cause = true := by
  have later : ∀ {answer}, harness.Polls world none round answer →
      ∀ event ∈ round.looked.since round.after, harness.keepsWaiting event = true := by
    intro answer polls event among
    rcases polls.courses with ⟨looks, asks⟩
    apply waiting
    rw [looks.since_trans asks]
    exact List.mem_append_right _ among
  cases closes with
  | @missed member misses =>
      rcases misses.firstDown with ⟨up, rest, _, found⟩
      have down := waiting (.checked member.node false) (by simp [misses.stays, found])
      cases down
  | failed polls =>
      rcases (sends_of_execute polls.asks).answered with ⟨_, down⟩ | ⟨node, outcome, same, answered⟩
      · rcases down several with ⟨node, among⟩
        cases later polls _ among
      · cases outcome with
        | ok response => cases same
        | error cause =>
            cases same
            exact .inr ⟨cause, rfl, later polls _ answered⟩
  | joined polls whole =>
      rcases (sends_of_execute polls.asks).answered with ⟨same, _⟩ | ⟨node, outcome, same, answered⟩
      · cases same
      · cases outcome with
        | error cause => cases same
        | ok response =>
            cases same
            have other := later polls _ answered
            simp [keepsWaiting, whole] at other
  | late polls other bounded past =>
      cases bounded
      exact .inl ⟨_, rfl⟩

/-- A wait for the members whose statements are answered at once comes to a result. When it does, its bound
has passed by no more than a pause and the backoffs of its last round, of which there are no more than are
spent. If every member was running, other numbers of members were reported and the errors were worth another
attempt, then it is given up, unless in its last round the backoffs were spent. -/
theorem bound_contract (harness : Harness) (world : World State) (bound : Duration) (run : Run State)
    (positive : 0 < harness.quorumPoll.nanos)
    (instant : ∀ node, Prompts .zero (world.query node (.single membershipQuery []))) :
    ∃ spent rounds ending result last,
      IsLeast {count | harness.policy.deadline ≤ harness.policy.plan.slept count} spent ∧
      harness.awaitQuorum world (some bound) none run = (some result, last) ∧
      harness.Awaits world none (some bound) run.clock run rounds result last ∧
      rounds.getLast? = some ending ∧ repeats ending.before ending.after ≤ spent ∧
      last.clock ≤ (run.clock + bound + harness.quorumPoll).ceilMillis +
        harness.policy.plan.span (repeats ending.before ending.after) ∧
      (harness.members ≠ [] → (∀ event ∈ run.since last, harness.keepsWaiting event = true) →
        (∃ seen, result = .error (.quorumTimeout seen harness.memberCount bound)) ∨
          ∃ cause, result = .error (.query cause) ∧ harness.policy.retryable cause = true ∧
            repeats ending.before ending.after = spent) := by
  have asks : (harness.execute world membershipQuery []).Ends :=
    harness.ends_execute_of_query fun node =>
      Action.ends_bind (Action.ends_note _) fun _ =>
        Action.ends_noted (Action.ends_await (instant node) (Nat.zero_le _)) _
  rcases ends_awaitQuorum asks positive bound run with ⟨result, last, ended⟩
  rcases awaits_of_quorumRounds ended with ⟨rounds, _, awaits⟩
  rcases harness.policy.plan.exists_spends with ⟨spent, spends, _⟩
  have onTime : run.clock ≤ harness.due run.clock bound := by
    apply Nat.le_trans _ (Duration.le_ceilMillis _)
    simp only [Duration.nanos_add]
    omega
  rcases awaits.ending onTime with ⟨ending, ends, rfl, closes, early, course⟩
  rcases closes.takes spends instant with ⟨few, later, full⟩
  refine ⟨spent, rounds, ending, result, ending.after, spends, ended, awaits, ends, few, ?_, ?_⟩
  · have whole : ending.before.clock.ceilMillis ≤ harness.due run.clock bound := by
      have rounded := Duration.ceilMillis_mono early
      rwa [due, Duration.ceilMillis_ceilMillis] at rounded
    have reached := Duration.le_ceilMillis ending.after.clock
    simp only [Duration.le_def, Duration.nanos_add, due] at *
    omega
  · intro several waiting
    have asksLast : Run.Course world (fun _ => True) ending.before ending.after := closes.course
    have among : ∀ event ∈ ending.before.since ending.after, harness.keepsWaiting event = true := by
      intro event among
      apply waiting
      rw [course.since_trans asksLast]
      exact List.mem_append_right _ among
    rcases closes.timeout_of_keepsWaiting several among with late | ⟨cause, same, worth⟩
    · exact .inl late
    · exact .inr ⟨cause, same, worth, full cause same worth⟩

/-- A pair whose statements are repeated after ten seconds, once. -/
def patientPair : Harness :=
  { waitingPair with policy := .forTransient (.ofMillis 10000) 2.0 (.ofMillis 10000) }

/-- A cluster state that is out of date, and then lacks one of two nodes. -/
def lagging : Nat → Except QueryError Response
  | 0 => .error (.sql none "Node n1 not found in cluster state")
  | _ + 1 => .ok (.affected 1)

theorem prompts_reciting (outcomes : Nat → Except QueryError Response) (node : Node)
    (request : Request) : Prompts .zero ((World.reciting outcomes).query node request) where
  going _ _ := nofun
  pausing _ _ _ := nofun
  answering _ made _ := ⟨outcomes made, rfl⟩

theorem bound_contract_of_patientPair :
    ∃ result last,
      patientPair.awaitQuorum (World.reciting lagging) (some (.ofMillis 100)) none waitingStart =
        (some result, last) ∧
      last.clock ≤ .ofMillis 200 + .ofMillis 10000 ∧
      ((∃ seen, result = .error (.quorumTimeout seen 2 (.ofMillis 100))) ∨
        ∃ cause, result = .error (.query cause)) := by
  rcases bound_contract patientPair (World.reciting lagging) (.ofMillis 100) waitingStart (by decide)
    (fun node => prompts_reciting lagging node _) with
    ⟨spent, rounds, ending, result, last, spends, ended, _, _, few, inTime, timeout⟩
  have once : spent ≤ 1 := by
    apply spends.2
    change patientPair.policy.deadline ≤ patientPair.policy.plan.slept 1
    rw [BackoffPlan.slept_succ, BackoffPlan.slept_zero]
    decide
  have pauses : patientPair.policy.plan.span (repeats ending.before ending.after) ≤
      .ofMillis 10000 := by
    rcases Nat.le_one_iff_eq_zero_or_eq_one.mp (Nat.le_trans few once) with none | one
    · rw [none]
      decide
    · rw [one]
      decide
  have waiting : ((waitingStart.since (patientPair.awaitQuorum (World.reciting lagging)
      (some (.ofMillis 100)) none waitingStart).2).all patientPair.keepsWaiting) = true := by
    decide +kernel
  rw [ended, List.all_eq_true] at waiting
  refine ⟨result, last, ended, Nat.le_trans inTime (Nat.add_le_add_left pauses _), ?_⟩
  rcases timeout (by decide) waiting with late | ⟨cause, same, _⟩
  · exact .inl late
  · exact .inr ⟨cause, same⟩

/-- The wait is over long after its bound and a pause have passed, and where every error is worth another
attempt it may end with the last of them. -/
theorem late_of_patientPair :
    (patientPair.awaitQuorum (World.reciting lagging) (some (.ofMillis 100)) none waitingStart).1 =
        some (.error (.quorumTimeout 1 2 (.ofMillis 100))) ∧
      (patientPair.awaitQuorum (World.reciting lagging) (some (.ofMillis 100)) none
        waitingStart).2.clock = .ofMillis 10000 ∧
      waitingStart.clock + .ofMillis 100 + patientPair.quorumPoll = .ofMillis 200 ∧
      (patientPair.awaitQuorum (World.reciting fun _ => lagging 0) (some (.ofMillis 100)) none
        waitingStart).1 =
        some (.error (.query (.sql none "Node n1 not found in cluster state"))) ∧
      ((waitingStart.since (patientPair.awaitQuorum (World.reciting fun _ => lagging 0)
        (some (.ofMillis 100)) none waitingStart).2).all patientPair.keepsWaiting) = true := by
  decide +kernel

end Harness

end GracefulStop
