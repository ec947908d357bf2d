import GracefulStop.Proofs.Run.Answers
import GracefulStop.Proofs.Run.Loads
import GracefulStop.Proofs.Run.Prompt
import GracefulStop.Retry.Attempts
import Mathlib.Algebra.BigOperators.Group.Finset.Basic
import Mathlib.Data.Nat.Find
import Mathlib.Order.Bounds.Basic

/-!
# How often a statement is attempted

Every backoff is at least a millisecond, so that what is left of the deadline shrinks from attempt to
attempt, whatever the product of a backoff and the factor rounds to. The attempts end with the first
outcome that settles the matter, or with the first attempt before which the backoffs have added up to
the deadline.
-/

namespace GracefulStop

namespace BackoffPlan

variable (plan : BackoffPlan)

/-- What so many backoffs add up to. -/
def slept (count : Nat) : Duration := ⟨∑ index ∈ Finset.range count, (plan.nth index).nanos⟩

/-- The number of backoffs after which there is no other attempt. -/
def Spends (count : Nat) : Prop := IsLeast {count | plan.deadline ≤ plan.slept count} count

@[simp]
theorem slept_zero : plan.slept 0 = .zero := by
  simp [slept, Duration.zero]

@[simp]
theorem slept_succ (count : Nat) : plan.slept (count + 1) = plan.slept count + plan.nth count := by
  simp only [slept, Finset.sum_range_succ]
  rfl

theorem clamp_le (length least greatest : Duration) (ordered : least ≤ greatest) :
    length.clamp least greatest ≤ greatest := by
  simp only [Duration.clamp, Duration.le_def, Duration.lt_def] at *
  split
  · omega
  · split
    · omega
    · omega

theorem next_le_cap (current : Duration) : plan.next current ≤ plan.cap := by
  unfold next
  split
  · exact clamp_le _ _ _ plan.shortest_le_cap
  · exact Nat.le_refl plan.cap.nanos

theorem shortest_le_nth (index : Nat) : shortest ≤ plan.nth index := by
  cases index with
  | zero => exact plan.shortest_le_first
  | succ index => exact plan.shortest_le_next _

theorem nth_le_cap (index : Nat) : plan.nth index ≤ plan.cap := by
  cases index with
  | zero => exact clamp_le _ _ _ plan.shortest_le_cap
  | succ index => exact plan.next_le_cap _

/-- Every backoff brings the deadline nearer by a millisecond. -/
theorem ofMillis_le_slept (count : Nat) : .ofMillis count ≤ plan.slept count := by
  induction count with
  | zero => exact Nat.zero_le _
  | succ count ih =>
      have longer : 1 * 1000000 ≤ (plan.nth count).nanos := plan.shortest_le_nth count
      rw [slept_succ, Duration.le_def, Duration.nanos_add, Duration.ofMillis, Nat.succ_mul]
      rw [Nat.one_mul] at longer
      exact Nat.add_le_add ih longer

theorem deadline_le_slept : plan.deadline ≤ plan.slept plan.deadline.ceilMillis.millis := by
  have enough := plan.ofMillis_le_slept plan.deadline.ceilMillis.millis
  simp only [Duration.le_def, Duration.ofMillis, Duration.millis, Duration.ceilMillis] at *
  omega

/-- The backoffs are spent after no more of them than the deadline has milliseconds, and they have not
gone far beyond it. -/
theorem exists_spends :
    ∃ count, plan.Spends count ∧ count ≤ plan.deadline.ceilMillis.millis ∧
      plan.slept count < plan.deadline + plan.cap := by
  have some : ∃ count, plan.deadline ≤ plan.slept count := ⟨_, plan.deadline_le_slept⟩
  refine ⟨Nat.find some, ⟨Nat.find_spec some, fun count => Nat.find_min' some⟩, ?_, ?_⟩
  · exact Nat.find_min' some plan.deadline_le_slept
  · have positive : shortest ≤ plan.cap := plan.shortest_le_cap
    cases least : Nat.find some with
    | zero =>
        simp only [slept_zero, Duration.zero, shortest, Duration.ofMillis, Duration.lt_def,
          Duration.le_def, Duration.nanos_add] at *
        omega
    | succ count =>
        have early : ¬plan.deadline ≤ plan.slept count := Nat.find_min some (by omega)
        have bounded := plan.nth_le_cap count
        rw [slept_succ]
        simp only [Duration.lt_def, Duration.le_def, Duration.nanos_add] at *
        omega

end BackoffPlan

section

variable {State Answer : Type}

/-- An outcome after which there is no other attempt: an answer, or an error that is not worth one. -/
def settles (retryable : QueryError → Bool) : Except QueryError Answer → Bool
  | .ok _ => true
  | .error error => !retryable error

/-- Attempts with their outcomes, and the lengths of the sleeps between them. -/
inductive Attempts (world : World State) (attempt : Action State (Except QueryError Answer)) :
    Run State → List (Except QueryError Answer) → List Duration → Run State → Prop
  | once {run last : Run State} {outcome : Except QueryError Answer}
      (came : attempt none run = (some outcome, last)) : Attempts world attempt run [outcome] [] last
  | again {run after slept last : Run State} {outcome : Except QueryError Answer} {length : Duration}
      {outcomes : List (Except QueryError Answer)} {lengths : List Duration}
      (came : attempt none run = (some outcome, after))
      (sleeps : Action.sleep world length none after = (some (), slept))
      (rest : Attempts world attempt slept outcomes lengths last) :
      Attempts world attempt run (outcome :: outcomes) (length :: lengths) last

variable {world : World State} {plan : BackoffPlan} {retryable : QueryError → Bool}
  {attempt : Action State (Except QueryError Answer)} {waited backoff : Duration}
  {enough : BackoffPlan.shortest ≤ backoff} {run after slept last : Run State}
  {outcome : Except QueryError Answer}

theorem attemptsFrom_of_settled (came : attempt none run = (some outcome, last))
    (settled : settles retryable outcome = true) :
    attemptsFrom world plan retryable attempt waited backoff enough none run =
      (some outcome, last) := by
  rw [attemptsFrom, Action.bind_of_eq_some came]
  cases outcome with
  | ok answer => rfl
  | error error =>
      have fatal : retryable error = false := by simpa [settles] using settled
      simp only [fatal, Bool.false_eq_true, if_false]
      rfl

theorem attemptsFrom_of_spent (came : attempt none run = (some outcome, last))
    (spent : plan.deadline ≤ waited) :
    attemptsFrom world plan retryable attempt waited backoff enough none run =
      (some outcome, last) := by
  rw [attemptsFrom, Action.bind_of_eq_some came]
  cases outcome with
  | ok answer => rfl
  | error error =>
      dsimp only
      split <;> rfl

theorem attemptsFrom_of_unsettled (came : attempt none run = (some outcome, after))
    (unsettled : settles retryable outcome = false) (left : ¬plan.deadline ≤ waited)
    (sleeps : Action.sleep world backoff none after = (some (), slept)) :
    attemptsFrom world plan retryable attempt waited backoff enough none run =
      attemptsFrom world plan retryable attempt (waited + backoff) (plan.next backoff)
        (plan.shortest_le_next backoff) none slept := by
  rw [attemptsFrom, Action.bind_of_eq_some came]
  cases outcome with
  | ok answer => cases unsettled
  | error error =>
      have worth : retryable error = true := by simpa [settles] using unsettled
      simp only [worth, if_true, dif_neg left]
      exact Action.bind_of_eq_some sleeps

end

/-- What an event says was asked of a node. -/
def Event.asked? : Event → Option (Node × Request)
  | .asked node request => some (node, request)
  | _ => none

theorem Event.asked?_of_work {event : Event} (work : event.deed = .work) : event.asked? = none := by
  cases event <;> first | rfl | cases work

theorem asked_of_work {events : List Event} (work : ∀ event ∈ events, event.deed = .work) :
    events.filterMap Event.asked? = [] := by
  rw [List.filterMap_eq_nil_iff]
  exact fun event member => Event.asked?_of_work (work event member)

section

variable {State : Type} {world : World State} {node : Node} {request : Request}

/-- A node that answers what is asked of it with given outcomes, one after another. When so many of them
have been given is up to the surroundings, if only a sleep does not count. -/
structure World.Recites (world : World State) (node : Node) (request : Request)
    (outcomes : Nat → Except QueryError Response) (made : Nat → Run State → Prop) : Prop where
  answers : ∀ {count run}, made count run → ∃ last,
    Action.query world node request none run = (some (outcomes count), last) ∧ made (count + 1) last
  rests : ∀ {count run length}, made count run → made count (Action.sleep world length none run).2

theorem Attempts.asked {run last : Run State} {outcomes : List (Except QueryError Response)}
    {lengths : List Duration}
    (attempts : Attempts world (Action.query world node request) run outcomes lengths last) :
    Run.Course world (fun _ => True) run last ∧
      (run.since last).filterMap Event.asked? = List.replicate outcomes.length (node, request) := by
  have asks : (Action.query world node request).Follows world (Deed.Within fun _ => True) :=
    Action.follows_query trivial
  induction attempts with
  | once came =>
      rcases Action.since_query came with ⟨meanwhile, written, work⟩
      refine ⟨(asks.course came).any, ?_⟩
      rw [written]
      simp [asked_of_work work, Event.asked?]
  | @again run after slept last outcome length outcomes lengths came sleeps rest ih =>
      rcases ih with ⟨later, askedLater⟩
      rcases Action.since_query came with ⟨meanwhile, written, work⟩
      have asking : Run.Course world (Deed.Within fun _ => True) run after := asks.course came
      have sleeping : Run.Course world (fun _ => False) after slept :=
        (Action.follows_sleep length).course sleeps
      have quiet : (after.since slept).filterMap Event.asked? = [] :=
        asked_of_work fun event member => (sleeping.of_mem_since member).resolve_left not_false
      refine ⟨asking.any.trans (sleeping.any.trans later), ?_⟩
      rw [asking.since_trans (sleeping.any.trans later), sleeping.since_trans later, written,
        List.filterMap_append, List.filterMap_append, List.filterMap_append, quiet, askedLater]
      simp [asked_of_work work, Event.asked?, List.replicate_succ]

variable {outcomes : Nat → Except QueryError Response} {made : Nat → Run State → Prop}
  {retryable : QueryError → Bool}

/-- From any attempt on, where so many are left that neither settle the matter nor come when the deadline
is spent. The induction is on how many are left, and the sum and the length of the backoffs go along. -/
theorem attemptsFrom_of_recites (plan : BackoffPlan)
    (recites : world.Recites node request outcomes made)
    {start left : Nat} {run : Run State} (given : made start run)
    (unsettled : ∀ index < start + left, settles retryable (outcomes index) = false)
    (unspent : ∀ index < start + left, ¬plan.deadline ≤ plan.slept index)
    (ends : settles retryable (outcomes (start + left)) = true ∨
      plan.deadline ≤ plan.slept (start + left)) :
    ∃ last,
      attemptsFrom world plan retryable (Action.query world node request) (plan.slept start)
        (plan.nth start) (plan.shortest_le_nth start) none run =
          (some (outcomes (start + left)), last) ∧
      Attempts world (Action.query world node request) run
        ((List.range' start (left + 1)).map outcomes) ((List.range' start left).map plan.nth) last := by
  induction left generalizing start run with
  | zero =>
      rcases recites.answers given with ⟨last, came, _⟩
      refine ⟨last, ?_, .once came⟩
      rcases ends with settled | spent
      · exact attemptsFrom_of_settled came settled
      · exact attemptsFrom_of_spent came spent
  | succ left ih =>
      rcases recites.answers given with ⟨after, came, givenAfter⟩
      rcases Action.sleep_eq_some world (plan.nth start) after with ⟨slept, sleeps, _⟩
      have givenSlept : made (start + 1) slept := by
        have rested : made (start + 1) (Action.sleep world (plan.nth start) none after).2 :=
          recites.rests givenAfter
        rwa [sleeps] at rested
      have shift : start + (left + 1) = start + 1 + left := by omega
      rw [shift] at unsettled unspent ends ⊢
      rcases ih givenSlept unsettled unspent ends with ⟨last, ended, attempts⟩
      refine ⟨last, ?_, .again came sleeps attempts⟩
      rw [attemptsFrom_of_unsettled came (unsettled start (by omega)) (unspent start (by omega)) sleeps]
      rw [plan.slept_succ] at ended
      exact ended

end

/-- The attempts end with the first outcome that settles the matter, or when the backoffs are spent. -/
structure Stops (settled : Nat → Bool) (spent stop : Nat) : Prop where
  inTime : stop ≤ spent
  unsettled : ∀ index < stop, settled index = false
  ends : settled stop = true ∨ stop = spent

section

variable {settled : Nat → Bool} {spent stop first : Nat}

theorem exists_stops (settled : Nat → Bool) (spent : Nat) : ∃ stop, Stops settled spent stop := by
  have some : ∃ stop, settled stop = true ∨ stop = spent := ⟨spent, .inr rfl⟩
  refine ⟨Nat.find some, Nat.find_min' some (.inr rfl), ?_, Nat.find_spec some⟩
  intro index early
  have going := Nat.find_min some early
  rw [not_or, Bool.not_eq_true] at going
  exact going.1

theorem Stops.eq_min (stops : Stops settled spent stop)
    (least : IsLeast {index | settled index = true} first) : stop = min first spent := by
  have inTime := stops.inTime
  have notAfter : stop ≤ first := by
    refine Nat.le_of_not_lt fun late => ?_
    have settles : settled first = true := least.1
    rw [stops.unsettled first late] at settles
    cases settles
  rcases stops.ends with settles | atEnd
  · have notBefore : first ≤ stop := least.2 settles
    omega
  · omega

theorem Stops.eq_spent (stops : Stops settled spent stop) (never : ∀ index, settled index = false) :
    stop = spent := by
  apply stops.ends.resolve_left
  simp [never stop]

end

variable {State : Type}

/-- Where a node answers the attempts with given outcomes, a policy ends with the first of them that
settles the matter, or with the one that comes when its backoffs are spent, whichever is earlier. Between
the attempts it sleeps the backoffs in their order, which are spent after finitely many of them. -/
theorem RetryPolicy.execute_contract (policy : RetryPolicy) (world : World State) (node : Node)
    (statement : String) (params : List Json) {outcomes : Nat → Except QueryError Response}
    {made : Nat → Run State → Prop} {run : Run State}
    (recites : world.Recites node (.single statement params) outcomes made) (given : made 0 run) :
    (BackoffPlan.shortest ≤ policy.plan.cap ∧ ∀ grow index,
      .ofMillis 1 ≤ BackoffPlan.nth { policy.plan with grow } index ∧
        BackoffPlan.nth { policy.plan with grow } index ≤ max policy.deadline (.ofMillis 1)) ∧
    ∃ spent stop last,
      IsLeast {count | policy.deadline ≤ policy.plan.slept count} spent ∧
      spent ≤ policy.deadline.ceilMillis.millis ∧
      policy.plan.slept spent < policy.deadline + max policy.deadline (.ofMillis 1) ∧
      (∀ first, IsLeast {index | settles policy.retryable (outcomes index) = true} first →
        stop = min first spent) ∧
      ((∀ index, settles policy.retryable (outcomes index) = false) → stop = spent) ∧
      policy.execute world node statement params none run = (some (outcomes stop), last) ∧
      Attempts world (Action.query world node (.single statement params)) run
        ((List.range (stop + 1)).map outcomes) ((List.range stop).map policy.plan.nth) last ∧
      (run.since last).filterMap Event.asked? =
        List.replicate (stop + 1) (node, .single statement params) := by
  refine ⟨⟨policy.plan.shortest_le_cap, fun grow index => ?_⟩, ?_⟩
  · exact ⟨BackoffPlan.shortest_le_nth _ index, BackoffPlan.nth_le_cap _ index⟩
  · rcases policy.plan.exists_spends with ⟨spent, spends, bounded, near⟩
    rcases exists_stops (fun index => settles policy.retryable (outcomes index)) spent with
      ⟨stop, stops⟩
    have unspent : ∀ index < 0 + stop, ¬policy.deadline ≤ policy.plan.slept index := by
      intro index early enough
      have least := spends.2 enough
      have inTime := stops.inTime
      omega
    have ends : settles policy.retryable (outcomes (0 + stop)) = true ∨
        policy.deadline ≤ policy.plan.slept (0 + stop) := by
      rw [Nat.zero_add]
      apply stops.ends.imp_right
      rintro rfl
      exact spends.1
    rcases attemptsFrom_of_recites policy.plan recites given (by simpa using stops.unsettled) unspent
      ends with ⟨last, ended, attempts⟩
    rw [Nat.zero_add, BackoffPlan.slept_zero] at ended
    rw [← List.range_eq_range', ← List.range_eq_range'] at attempts
    refine ⟨spent, stop, last, spends, bounded, near, fun _ => stops.eq_min, stops.eq_spent, ended,
      attempts, ?_⟩
    simpa using attempts.asked.2

/-- Surroundings that answer every statement at once, with the next of given outcomes. -/
def World.reciting (outcomes : Nat → Except QueryError Response) : World Nat where
  launch _ _ made := (.ok (), made)
  connect _ _ made := (.ok (), made)
  record _ _ made := (.ok (), made)
  portInUse _ _ made := (false, made)
  start _ _ made := (.done (.ok ()), made)
  stop _ _ made := (.ok (), made)
  signal _ _ made := (.ok (), made)
  wait _ _ _ made := (.done (.ok (some 0)), made)
  isRunning _ _ made := (true, made)
  query _ _ _ made := (.done (outcomes made), made + 1)
  draw _ made := (0, made)

theorem World.recites_reciting (outcomes : Nat → Except QueryError Response) (node : Node)
    (request : Request) :
    (World.reciting outcomes).Recites node request outcomes
      fun count run => run.state = count ∧ run.Idle where
  answers := by
    rintro count run ⟨rfl, idle⟩
    refine ⟨{ (run.note (.asked node request)) with state := run.state + 1 }.note
      (.answered node request (outcomes run.state)), ?_, rfl, idle⟩
    refine Action.bind_eq_some.mpr ⟨(), run.note (.asked node request), rfl, ?_⟩
    refine Action.bind_eq_some.mpr ⟨outcomes run.state,
      { (run.note (.asked node request)) with state := run.state + 1 }, ?_, rfl⟩
    exact Action.await_of_done rfl
  rests := by
    rintro count run length ⟨rfl, idle⟩
    simp only [Action.sleep]
    split
    · exact ⟨rfl, idle⟩
    · rw [idle.advance]
      exact ⟨rfl, idle⟩

/-- A node whose cluster state stays out of date, and says each time for how many statements. -/
def staleAnswers (count : Nat) : Except QueryError Response :=
  .error (.sql (some count) "Node n1 not found in cluster state")

/-- Repeats whatever failed, until a single backoff has taken the whole deadline. The factor is no
number. -/
def briefPolicy : RetryPolicy := ⟨.ofMillis 10, 0.0 / 0.0, .ofMillis 10, fun _ => true⟩

theorem RetryPolicy.execute_contract_of_brief :
    ∃ last, briefPolicy.execute (World.reciting staleAnswers) default "SELECT 1" [] none
        (.start 0 ⟨42000, 44000, false⟩) = (some (staleAnswers 1), last) ∧
      ((Run.start 0 ⟨42000, 44000, false⟩).since last).filterMap Event.asked? =
        [(default, .single "SELECT 1" []), (default, .single "SELECT 1" [])] := by
  have idle : (Run.start 0 ⟨42000, 44000, false⟩).Idle := by simp [Run.Idle, Run.Rests, Run.start]
  rcases briefPolicy.execute_contract (World.reciting staleAnswers) default "SELECT 1" []
    (World.recites_reciting staleAnswers default _) ⟨rfl, idle⟩ with
    ⟨_, spent, stop, last, least, _, _, _, exhausted, ended, _, asked⟩
  have single : IsLeast {count | briefPolicy.deadline ≤ briefPolicy.plan.slept count} 1 := by
    constructor
    · change briefPolicy.deadline ≤ briefPolicy.plan.slept 1
      rw [BackoffPlan.slept_succ, BackoffPlan.slept_zero]
      decide
    · intro count enough
      change briefPolicy.deadline ≤ briefPolicy.plan.slept count at enough
      cases count with
      | zero =>
          rw [BackoffPlan.slept_zero] at enough
          exact absurd enough (by decide)
      | succ count => exact Nat.le_add_left 1 count
  cases least.unique single
  cases exhausted fun _ => rfl
  exact ⟨last, ended, asked⟩

end GracefulStop
