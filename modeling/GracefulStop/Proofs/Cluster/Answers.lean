import GracefulStop.Proofs.Cluster.Course
import GracefulStop.Proofs.Run.Answers

/-!
# What a cluster has been asked

Whatever an operation of a cluster has come to, the events that it rests on have happened: the answer
that is returned is the answer of a node that was found running and had not left, and so is every
answer on the way.
-/

namespace GracefulStop

variable {State : Type} {world : World State} {limit : Option Instant} {run last : Run State}

/-- The answer to a request is the last thing that happens. -/
theorem Action.passed_of_query {node : Node} {request : Request} {response : Response}
    (ended : query world node request limit run = (some (.ok response), last)) :
    Run.Passed world [(· = .asked node request), (· = .answered node request (.ok response))]
      run last := by
  have course : Run.Course world (Deed.Within (· = .ask node request)) run last :=
    (follows_query (by rfl)).course ended
  obtain ⟨meanwhile, written, _⟩ := since_query ended
  refine ⟨course.any, ?_⟩
  rw [written]
  have first : InOrder [(· = .asked node request)] [.asked node request] :=
    .single List.mem_cons_self rfl
  have second : InOrder [(· = .answered node request (.ok response))]
      (meanwhile ++ [.answered node request (.ok response)]) := .single (by simp) rfl
  exact first.append second

/-- An answer comes of the last attempt. -/
theorem last_of_attemptsFrom {Answer : Type} {plan : BackoffPlan} {retryable : QueryError → Bool}
    {attempt : Action State (Except QueryError Answer)} {may : Deed → Prop}
    (follows : attempt.Follows world may) {waited backoff : Duration}
    {enough : BackoffPlan.shortest ≤ backoff} {result : Except QueryError Answer}
    (ended : attemptsFrom world plan retryable attempt waited backoff enough limit run =
      (some result, last)) :
    ∃ between, Run.Course world may run between ∧ attempt limit between = (some result, last) := by
  induction waited, backoff, enough using attemptsFrom.induct plan generalizing run with
  | case1 waited backoff enough ih =>
      rw [attemptsFrom] at ended
      obtain ⟨answer, between, endedAttempt, ended⟩ := Action.bind_eq_some.mp ended
      have once : result = answer ∧ between = last →
          ∃ between, Run.Course world may run between ∧
            attempt limit between = (some result, last) := by
        rintro ⟨rfl, rfl⟩
        exact ⟨run, .refl, endedAttempt⟩
      cases answer with
      | ok answer =>
          obtain ⟨rfl, rfl⟩ := Action.pure_eq_some.mp ended
          exact once ⟨rfl, rfl⟩
      | error error =>
          dsimp only at ended
          split at ended
          · split at ended
            · obtain ⟨rfl, rfl⟩ := Action.pure_eq_some.mp ended
              exact once ⟨rfl, rfl⟩
            · obtain ⟨_, slept, endedSleep, ended⟩ := Action.bind_eq_some.mp ended
              obtain ⟨reached, onward, endedLast⟩ := ih ‹_› ended
              exact ⟨reached, ((follows.course endedAttempt).trans
                ((Action.follows_sleep backoff).course endedSleep)).trans onward, endedLast⟩
          · obtain ⟨rfl, rfl⟩ := Action.pure_eq_some.mp ended
            exact once ⟨rfl, rfl⟩

/-- The answer to a statement is the last thing that happens. -/
theorem RetryPolicy.passed_of_execute {policy : RetryPolicy} {node : Node} {statement : String}
    {params : List Json} {response : Response}
    (ended : policy.execute world node statement params limit run = (some (.ok response), last)) :
    Run.Passed world
      [(· = .asked node (.single statement params)),
        (· = .answered node (.single statement params) (.ok response))] run last := by
  have follows : (Action.query world node (.single statement params)).Follows world
      (Deed.Within fun _ => True) := Action.follows_query trivial
  obtain ⟨between, course, endedLast⟩ := last_of_attemptsFrom follows ended
  exact .after course (Action.passed_of_query endedLast)

/-- Whenever a node has answered well in the course of an action, the action has come to that
answer. -/
def Action.Tells (action : Action State (Except QueryError Response)) : Prop :=
  ∀ limit run node request response,
    .answered node request (.ok response) ∈ run.since (action limit run).2 →
    (action limit run).1 = some (.ok response)

/-- A request tells its answer, and has none if it is cut off. -/
theorem Action.tells_query (node : Node) (request : Request) :
    (query world node request).Tells := by
  intro limit run answering answered response member
  have waits : Run.Course world (· = .ask node request) (run.note (.asked node request))
      (await world (world.query node request) limit (run.note (.asked node request))).2 :=
    follows_await (World.Touch.ask node request) (by rfl) limit _
  have asking : note (.asked node request) limit run =
      (some (), run.note (.asked node request)) := rfl
  rcases awaited : await world (world.query node request) limit (run.note (.asked node request))
    with ⟨_ | result, between⟩
  · have cutOff : query world node request limit run = (none, between) :=
      (bind_of_eq_some asking).trans (bind_of_eq_none awaited)
    have asks : Run.Course world (fun _ => True) run (run.note (.asked node request)) :=
      .single (.note trivial nofun)
    rw [awaited] at waits
    rw [cutOff, asks.since_trans waits, Run.since_note] at member
    rcases List.mem_append.mp member with early | late
    · cases List.mem_singleton.mp early
    · rcases waits.of_mem_since late with ⟨⟨⟩⟩ | ⟨⟨⟩⟩
  · have ended : query world node request limit run =
        (some result, between.note (.answered node request result)) :=
      (bind_of_eq_some asking).trans (bind_of_eq_some awaited)
    obtain ⟨meanwhile, written, work⟩ := since_query ended
    rw [ended] at member ⊢
    simp only [written, List.cons_append, List.mem_cons, List.mem_append, List.not_mem_nil,
      or_false] at member
    rcases member with ⟨⟨⟩⟩ | early | ⟨⟨⟩⟩
    · cases work _ early
    · rfl

/-- Whoever has slept tells as much as before. -/
theorem Action.Tells.afterSleep {action : Action State (Except QueryError Response)}
    (tells : action.Tells) {may : Deed → Prop} (follows : action.Follows world may)
    (length : Duration) : (sleep world length >>= fun _ => action).Tells := by
  intro limit run node request response member
  have sleeps : Run.Course world (fun _ => False) run (sleep world length limit run).2 :=
    follows_sleep length limit run
  rcases slept : sleep world length limit run with ⟨_ | _, awake⟩
  · rw [slept] at sleeps
    rw [bind_of_eq_none slept] at member
    rcases sleeps.of_mem_since member with ⟨⟨⟩⟩ | ⟨⟨⟩⟩
  · rw [slept] at sleeps
    rw [bind_of_eq_some slept] at member ⊢
    rw [sleeps.since_trans (follows limit awake)] at member
    rcases List.mem_append.mp member with early | late
    · rcases sleeps.of_mem_since early with ⟨⟨⟩⟩ | ⟨⟨⟩⟩
    · exact tells limit awake node request response late

/-- Attempts tell the answers of all of them. -/
theorem tells_attemptsFrom {plan : BackoffPlan} {retryable : QueryError → Bool}
    {attempt : Action State (Except QueryError Response)} (tells : attempt.Tells)
    {may : Deed → Prop} (follows : attempt.Follows world may) (waited backoff : Duration)
    (enough : BackoffPlan.shortest ≤ backoff) :
    (attemptsFrom world plan retryable attempt waited backoff enough).Tells := by
  induction waited, backoff, enough using attemptsFrom.induct plan with
  | case1 waited backoff enough ih =>
      intro limit run node request response member
      rw [attemptsFrom] at member ⊢
      have course := follows limit run
      have told := tells limit run node request response
      rcases attempted : attempt limit run with ⟨_ | answer, between⟩
      · rw [attempted] at told
        rw [Action.bind_of_eq_none attempted] at member ⊢
        exact told member
      · rw [attempted] at course told
        rw [Action.bind_of_eq_some attempted] at member ⊢
        cases answer with
        | ok answer => exact told member
        | error error =>
            have silent : .answered node request (.ok response) ∉ run.since between := by
              intro early
              cases told early
            dsimp only at member ⊢
            split at member <;> rename_i worthwhile
            · split at member <;> rename_i spent
              · exact absurd member silent
              · rw [if_pos worthwhile, dif_neg spent]
                have followsRest : (attemptsFrom world plan retryable attempt (waited + backoff)
                    (plan.next backoff) (plan.shortest_le_next backoff)).Follows world may :=
                  follows_attemptsFrom follows _ _ _
                have onward := Action.follows_bind (Action.follows_sleep backoff)
                  (fun _ => followsRest) limit between
                rw [course.since_trans onward] at member
                exact (ih spent).afterSleep followsRest backoff limit between node request response
                  ((List.mem_append.mp member).resolve_left silent)
            · exact absurd member silent

/-- Executing a statement tells the answers of all attempts, and has none if it is cut off. -/
theorem RetryPolicy.tells_execute (policy : RetryPolicy) (node : Node) (statement : String)
    (params : List Json) : (policy.execute world node statement params).Tells :=
  tells_attemptsFrom (Action.tells_query node _)
    (Action.follows_query trivial : Action.Follows world (Deed.Within fun _ => True) _) _ _ _

/-- The answer that is waited for is the last thing that happens, and it is as expected. -/
theorem Verifier.passed_of_rounds {verifier : Verifier} {node : Node} {query : ShardQuery}
    {began : Instant} {lastRowCount : Option Int} {tries : Nat} {response : Response}
    (ended : verifier.rounds world node query began lastRowCount tries limit run =
      (some (.ok response), last)) :
    query.predicate.holds response.rowCount = true ∧
      Run.Passed world
        [(· = .asked node (.single query.statement [])),
          (· = .answered node (.single query.statement []) (.ok response))] run last := by
  induction tries generalizing run lastRowCount with
  | zero => exact absurd ended Action.stall_ne_some
  | succ tries ih =>
      unfold Verifier.rounds at ended
      obtain ⟨_, _, endedNow, ended⟩ := Action.bind_eq_some.mp ended
      cases endedNow
      obtain ⟨outcome, between, endedOnce, ended⟩ := Action.bind_eq_some.mp ended
      have once : Run.Course world (Deed.Within fun _ => True) run between :=
        (Action.follows_within _ (verifier.policy.follows_execute trivial)).course endedOnce
      cases reading : read query lastRowCount outcome with
      | settled settled =>
          rw [reading] at ended
          obtain ⟨same, rfl⟩ := Action.pure_eq_some.mp ended
          cases same
          cases outcome with
          | none => cases reading
          | some outcome =>
              cases outcome with
              | error error =>
                  simp only [read] at reading
                  split at reading <;> cases reading
              | ok answer =>
                  simp only [read] at reading
                  split at reading
                  · cases reading
                    obtain ⟨sooner, endedQuery⟩ := Action.of_within_eq_some endedOnce
                    exact ⟨‹_›, RetryPolicy.passed_of_execute endedQuery⟩
                  · cases reading
      | failed error =>
          rw [reading] at ended
          obtain ⟨⟨⟩, _⟩ := Action.pure_eq_some.mp ended
      | unsettled lastRowCount =>
          rw [reading] at ended
          obtain ⟨_, _, endedNow, ended⟩ := Action.bind_eq_some.mp ended
          cases endedNow
          split at ended
          · obtain ⟨⟨⟩, _⟩ := Action.pure_eq_some.mp ended
          · obtain ⟨_, slept, endedSleep, ended⟩ := Action.bind_eq_some.mp ended
            have sleeps : Run.Course world (fun _ => True) between slept :=
              (Action.follows_sleep _).course endedSleep
            obtain ⟨holds, passed⟩ := ih ended
            exact ⟨holds, .after (once.any.trans sleeps) passed⟩

/-- The answer that is waited for is the last thing that happens, and it is as expected. -/
theorem Verifier.passed_of_awaitInvariant {verifier : Verifier} {node : Node} {query : ShardQuery}
    {response : Response}
    (ended : verifier.awaitInvariant world node query limit run = (some (.ok response), last)) :
    query.predicate.holds response.rowCount = true ∧
      Run.Passed world
        [(· = .asked node (.single query.statement [])),
          (· = .answered node (.single query.statement []) (.ok response))] run last := by
  obtain ⟨_, _, endedNow, ended⟩ := Action.bind_eq_some.mp ended
  cases endedNow
  exact passed_of_rounds ended

/-- What happened in time happened in the course of the action itself. -/
theorem Action.mem_since_of_within {Result : Type} {length : Duration} {action : Action State Result}
    {result : Option Result} {may : Deed → Prop} (follows : action.Follows world may)
    (ended : within world length action limit run = (some result, last)) {event : Event}
    (member : event ∈ run.since last) (still : event.deed ≠ .work) :
    ∃ sooner, event ∈ run.since (action sooner run).2 ∧ (action sooner run).1 = result := by
  have inside : ∀ sooner moment, event ∈ run.since ((action sooner run).2.advance world moment) →
      event ∈ run.since (action sooner run).2 := by
    intro sooner moment later
    have passes : Run.Course world (fun _ => False) (action sooner run).2
        ((action sooner run).2.advance world moment) := .advance moment _
    rw [(follows sooner run).since_trans passes] at later
    rcases List.mem_append.mp later with here | late
    · exact here
    · rcases passes.of_mem_since late with ⟨⟨⟩⟩ | work
      exact absurd work still
  cases limit with
  | none =>
      simp only [within] at ended
      split at ended <;> rename_i came <;> cases ended
      · exact ⟨_, by rw [came]; exact member, by rw [came]⟩
      · exact ⟨_, by simpa only [came] using inside _ _ (by rw [came]; exact member), by rw [came]⟩
  | some limit =>
      simp only [within] at ended
      split at ended <;> rename_i came
      · cases ended
        exact ⟨_, by rw [came]; exact member, by rw [came]⟩
      · split at ended <;> cases ended
        exact ⟨_, by simpa only [came] using inside _ _ (by rw [came]; exact member), by rw [came]⟩

/-- A wait ends well with the first answer that is as expected. -/
theorem Verifier.ok_of_mem_since {verifier : Verifier} {node : Node} {query : ShardQuery}
    {began : Instant} {lastRowCount : Option Int} {tries : Nat}
    {result : Except VerifyError Response}
    (ended : verifier.rounds world node query began lastRowCount tries limit run =
      (some result, last)) {answering : Node} {request : Request} {response : Response}
    (member : .answered answering request (.ok response) ∈ run.since last)
    (holds : query.predicate.holds response.rowCount = true) : ∃ found, result = .ok found := by
  induction tries generalizing run lastRowCount with
  | zero => exact absurd ended Action.stall_ne_some
  | succ tries ih =>
      unfold Verifier.rounds at ended
      obtain ⟨_, _, endedNow, ended⟩ := Action.bind_eq_some.mp ended
      cases endedNow
      obtain ⟨outcome, between, endedOnce, ended⟩ := Action.bind_eq_some.mp ended
      have follows : (verifier.policy.execute world node query.statement []).Follows world
          (Deed.Within fun _ => True) := verifier.policy.follows_execute trivial
      have once := (Action.follows_within _ follows).course endedOnce
      have early : .answered answering request (.ok response) ∈ run.since between →
          outcome = some (.ok response) := by
        intro here
        obtain ⟨sooner, inside, same⟩ :=
          Action.mem_since_of_within follows endedOnce here (by rintro ⟨⟩)
        rw [← same]
        exact verifier.policy.tells_execute node query.statement [] _ _ _ _ _ inside
      cases reading : read query lastRowCount outcome with
      | settled settled =>
          rw [reading] at ended
          obtain ⟨rfl, rfl⟩ := Action.pure_eq_some.mp ended
          exact ⟨settled, rfl⟩
      | failed error =>
          rw [reading] at ended
          obtain ⟨rfl, rfl⟩ := Action.pure_eq_some.mp ended
          rw [early member] at reading
          simp [read, holds] at reading
      | unsettled lastRowCount =>
          have silent : .answered answering request (.ok response) ∉ run.since between := by
            intro here
            rw [early here] at reading
            simp [read, holds] at reading
          rw [reading] at ended
          obtain ⟨_, _, endedNow, ended⟩ := Action.bind_eq_some.mp ended
          cases endedNow
          split at ended
          · obtain ⟨rfl, rfl⟩ := Action.pure_eq_some.mp ended
            exact absurd member silent
          · obtain ⟨_, slept, endedSleep, ended⟩ := Action.bind_eq_some.mp ended
            have sleeps : Run.Course world (fun _ => False) between slept :=
              (Action.follows_sleep _).course endedSleep
            have onward : Run.Course world (Deed.Within fun _ => True) slept last :=
              (verifier.follows_rounds trivial _ _ _).course ended
            rw [once.since_trans (sleeps.any.trans onward.any), sleeps.since_trans onward] at member
            refine ih ended ?_
            rcases List.mem_append.mp ((List.mem_append.mp member).resolve_left silent) with
              asleep | late
            · rcases sleeps.of_mem_since asleep with ⟨⟨⟩⟩ | ⟨⟨⟩⟩
            · exact late

/-- Whatever comes of a statement, its first attempt comes first. -/
theorem RetryPolicy.asked_of_execute {policy : RetryPolicy} {node : Node} {statement : String}
    {params : List Json} {result : Except QueryError Response}
    (ended : policy.execute world node statement params limit run = (some result, last)) :
    ∃ later, run.since last = .asked node (.single statement params) :: later := by
  unfold execute repeatAttempts at ended
  rw [attemptsFrom] at ended
  obtain ⟨answer, between, endedQuery, ended⟩ := Action.bind_eq_some.mp ended
  have follows : (Action.query world node (.single statement params)).Follows world
      (Deed.Within fun _ => True) := Action.follows_query trivial
  obtain ⟨meanwhile, written, _⟩ := Action.since_query endedQuery
  have onward : Run.Course world (Deed.Within fun _ => True) between last := by
    cases answer with
    | ok answer =>
        obtain ⟨_, rfl⟩ := Action.pure_eq_some.mp ended
        exact .refl
    | error error =>
        dsimp only at ended
        split at ended
        · split at ended
          · obtain ⟨_, rfl⟩ := Action.pure_eq_some.mp ended
            exact .refl
          · exact (Action.follows_bind (Action.follows_sleep _) fun _ =>
              follows_attemptsFrom follows _ _ _).course ended
        · obtain ⟨_, rfl⟩ := Action.pure_eq_some.mp ended
          exact .refl
  rw [(follows.course endedQuery).since_trans onward, written]
  exact ⟨_, rfl⟩

namespace Harness

/-- A node that is taken for live has not left and was found running. -/
theorem checked_of_liveNodes {handles : List Handle} {live : List Node}
    (ended : liveNodes world handles limit run = (some live, last)) {node : Node}
    (member : node ∈ live) :
    ∃ handle ∈ handles, handle.node = node ∧ handle.decommissioned = false ∧
      .checked node true ∈ run.since last := by
  induction handles generalizing run live with
  | nil =>
      obtain ⟨rfl, _⟩ := Action.pure_eq_some.mp ended
      cases member
  | cons handle rest ih =>
      obtain ⟨isLive, between, endedCheck, ended⟩ := Action.bind_eq_some.mp ended
      obtain ⟨others, restRun, endedRest, ended⟩ := Action.bind_eq_some.mp ended
      obtain ⟨rfl, rfl⟩ := Action.pure_eq_some.mp ended
      have checks : Run.Course world (Deed.Within fun _ => True) run between :=
        (handle.follows_isLive trivial).course endedCheck
      have onward : Run.Course world (Deed.Within fun _ => True) between restRun :=
        (follows_liveNodes fun _ _ => trivial).course endedRest
      have inRest : node ∈ others → ∃ handle' ∈ handle :: rest, handle'.node = node ∧
          handle'.decommissioned = false ∧ .checked node true ∈ run.since restRun := by
        intro memberRest
        obtain ⟨found, memberFound, same, stays, checked⟩ := ih endedRest memberRest
        refine ⟨found, List.mem_cons_of_mem _ memberFound, same, stays, ?_⟩
        rw [checks.since_trans onward]
        exact List.mem_append_right _ checked
      cases isLive with
      | false => exact inRest member
      | true =>
          rcases List.mem_cons.mp member with rfl | memberRest
          · unfold Handle.isLive at endedCheck
            split at endedCheck
            · obtain ⟨⟨⟩, _⟩ := Action.pure_eq_some.mp endedCheck
            · rename_i stays
              refine ⟨handle, List.mem_cons_self, rfl, by simpa using stays, ?_⟩
              rw [checks.since_trans onward, Action.since_isRunning endedCheck]
              simp
          · exact inRest memberRest

/-- A node that has been picked has not left and was found running. -/
theorem passed_of_pickLive {harness : Harness} {node : Node}
    (ended : harness.pickLive world limit run = (some (.ok node), last)) :
    ∃ handle ∈ harness.handles, handle.node = node ∧ handle.decommissioned = false ∧
      Run.Passed world [(· = .checked node true), (· = .picked node)] run last := by
  obtain ⟨live, between, endedLive, ended⟩ := Action.bind_eq_some.mp ended
  have looks : Run.Course world (Deed.Within fun _ => True) run between :=
    (follows_liveNodes fun _ _ => trivial).course endedLive
  obtain ⟨picked, drawn, endedDraw, ended⟩ := Action.bind_eq_some.mp ended
  have draws : Run.Course world (Deed.Within fun _ => True) between drawn :=
    (Action.follows_pickOne trivial live).course endedDraw
  cases picked with
  | none => obtain ⟨⟨⟩, _⟩ := Action.pure_eq_some.mp ended
  | some chosen =>
      obtain ⟨_, noted, endedNote, ended⟩ := Action.bind_eq_some.mp ended
      obtain ⟨same, rfl⟩ := Action.pure_eq_some.mp ended
      cases same
      have among : node ∈ live := by
        have found : (world.draw.oneOf live between.state).1 = some node :=
          Option.some.inj (congrArg Prod.fst endedDraw)
        exact List.mem_of_getElem? found
      obtain ⟨handle, member, same, stays, checked⟩ := checked_of_liveNodes endedLive among
      refine ⟨handle, member, same, stays, ?_⟩
      have notes : Run.Course world (Deed.Within fun _ => True) drawn noted :=
        (Action.follows_note trivial (by nofun)).course endedNote
      have picked : .picked node ∈ drawn.since noted := by
        cases endedNote
        simp
      exact Run.Passed.trans (.of_event looks checked) (.after draws (.of_event notes picked))

/-- The answer to a statement is the answer of a node that had not left and was found running. -/
theorem passed_of_execute {harness : Harness} {statement : String} {params : List Json}
    {response : Response}
    (ended : harness.execute world statement params limit run = (some (.ok response), last)) :
    ∃ handle ∈ harness.handles, handle.decommissioned = false ∧
      Run.Passed world
        [(· = .checked handle.node true), (· = .picked handle.node),
          (· = .asked handle.node (.single statement params)),
          (· = .answered handle.node (.single statement params) (.ok response))] run last := by
  obtain ⟨picked, between, endedPick, ended⟩ := Action.bind_eq_some.mp ended
  cases picked with
  | error error => obtain ⟨⟨⟩, _⟩ := Action.pure_eq_some.mp ended
  | ok node =>
      obtain ⟨handle, member, rfl, stays, passedPick⟩ := passed_of_pickLive endedPick
      obtain ⟨result, answered, endedQuery, ended⟩ := Action.bind_eq_some.mp ended
      cases result with
      | error error => obtain ⟨⟨⟩, _⟩ := Action.pure_eq_some.mp ended
      | ok answer =>
          obtain ⟨same, rfl⟩ := Action.pure_eq_some.mp ended
          cases same
          exact ⟨handle, member, stays, passedPick.trans (RetryPolicy.passed_of_execute endedQuery)⟩

/-- Where some node is found live, one of those that are is picked. -/
theorem mem_of_pickLive {harness : Harness} {result : Except ClusterError Node} {found : List Node}
    (ended : harness.pickLive world limit run = (some result, last))
    (look : (liveNodes world harness.handles limit run).1 = some found) (live : found ≠ []) :
    ∃ node ∈ found, result = .ok node := by
  obtain ⟨nodes, checked, endedLook, ended⟩ := Action.bind_eq_some.mp ended
  rw [endedLook] at look
  cases look
  obtain ⟨drawn, drawnRun, endedDraw, ended⟩ := Action.bind_eq_some.mp ended
  obtain ⟨node, member, same⟩ := Draw.exists_of_oneOf world.draw live checked.state
  have drew : drawn = some node :=
    (Option.some.inj (congrArg Prod.fst endedDraw)).symm.trans same
  subst drew
  obtain ⟨_, _, _, ended⟩ := Action.bind_eq_some.mp ended
  obtain ⟨rfl, _⟩ := Action.pure_eq_some.mp ended
  exact ⟨node, member, rfl⟩

/-- Where some node is found live, a statement is sent to one that is, and before that nodes are only
looked at. -/
theorem asked_of_execute {harness : Harness} {statement : String} {params : List Json}
    {answer : Except ClusterError Response} {found : List Node}
    (ended : harness.execute world statement params limit run = (some answer, last))
    (look : (liveNodes world harness.handles limit run).1 = some found) (live : found ≠ []) :
    ∃ node ∈ found, ∃ looked later,
      run.since last = looked ++ .asked node (.single statement params) :: later ∧
      ∀ event ∈ looked, event.deed.Looks ∨ event.deed = .work := by
  obtain ⟨picked, between, endedPick, ended⟩ := Action.bind_eq_some.mp ended
  have looks := harness.follows_pickLive.course endedPick
  obtain ⟨node, member, rfl⟩ := mem_of_pickLive endedPick look live
  obtain ⟨result, answered, endedQuery, ended⟩ := Action.bind_eq_some.mp ended
  obtain ⟨later, written⟩ := RetryPolicy.asked_of_execute endedQuery
  have same : last = answered := by
    cases result <;> exact (Action.pure_eq_some.mp ended).2.symm
  have asks : Run.Course world (Deed.Within fun _ => True) between answered :=
    (harness.policy.follows_execute trivial).course endedQuery
  refine ⟨node, member, run.since between, later, ?_, fun event early => looks.of_mem_since early⟩
  rw [same, looks.since_trans asks, written]

/-- A wait for the members ends well only with an answer that reports all of them. -/
theorem passed_of_quorumRounds {harness : Harness} {expected : Nat} {time : Option Duration}
    {began : Instant} {tries : Nat}
    (ended : harness.quorumRounds world expected time began tries limit run =
      (some (.ok ()), last)) :
    ∃ handle ∈ harness.handles, ∃ response : Response, response.rowCount = expected ∧
      Run.Passed world [(· = .answered handle.node (.single membershipQuery []) (.ok response))]
        run last := by
  induction tries generalizing run with
  | zero => exact absurd ended Action.stall_ne_some
  | succ tries ih =>
      unfold quorumRounds at ended
      obtain ⟨ensured, ensuredRun, endedEnsure, ended⟩ := Action.bind_eq_some.mp ended
      have ensures := (@follows_ensureRunning _ world harness.handles
        (.single membershipQuery [])).course endedEnsure
      cases ensured with
      | error error => obtain ⟨⟨⟩, _⟩ := Action.pure_eq_some.mp ended
      | ok _ =>
          obtain ⟨result, answeredRun, endedExecute, ended⟩ := Action.bind_eq_some.mp ended
          have executes := (harness.follows_execute _ _).course endedExecute
          cases result with
          | error error => obtain ⟨⟨⟩, _⟩ := Action.pure_eq_some.mp ended
          | ok response =>
              dsimp only at ended
              split at ended
              · rename_i reported
                obtain ⟨_, rfl⟩ := Action.pure_eq_some.mp ended
                obtain ⟨handle, member, _, passed⟩ := passed_of_execute endedExecute
                obtain ⟨_, memberEvent, rfl⟩ := passed.order.exists_of_mem
                  (List.mem_of_getElem? (i := 3) rfl)
                exact ⟨handle, member, response, reported,
                  .after ensures (.of_event executes memberEvent)⟩
              · obtain ⟨_, _, endedNow, ended⟩ := Action.bind_eq_some.mp ended
                cases endedNow
                cases found : isOver time (answeredRun.clock - began) with
                | some longest =>
                    rw [found] at ended
                    obtain ⟨⟨⟩, _⟩ := Action.pure_eq_some.mp ended
                | none =>
                    rw [found] at ended
                    obtain ⟨_, slept, endedSleep, ended⟩ := Action.bind_eq_some.mp ended
                    have sleeps : Run.Course world (fun _ => True) answeredRun slept :=
                      (Action.follows_sleep _).course endedSleep
                    obtain ⟨handle, member, response, reported, passed⟩ := ih ended
                    exact ⟨handle, member, response, reported,
                      .after ((ensures.any.trans executes.any).trans sleeps) passed⟩

/-- A wait for the members ends well only with an answer that reports all of them. -/
theorem passed_of_awaitQuorum {harness : Harness} {time : Option Duration}
    (ended : harness.awaitQuorum world time limit run = (some (.ok ()), last)) :
    ∃ handle ∈ harness.handles, ∃ response : Response, response.rowCount = harness.memberCount ∧
      Run.Passed world [(· = .answered handle.node (.single membershipQuery []) (.ok response))]
        run last := by
  obtain ⟨_, _, endedNow, ended⟩ := Action.bind_eq_some.mp ended
  cases endedNow
  exact passed_of_quorumRounds ended

/-- A node that has left was told to and then waited for, with an exit code. -/
theorem passed_of_leave {node : Node} {timeout : Duration} {code : Int}
    (ended : leave world node timeout limit run = (some (.ok code), last)) :
    Run.Passed world
      [(· = .signalled node (.ok ())), (· = .waited node timeout (.ok (some code)))]
      run last := by
  obtain ⟨signalled, between, endedSignal, ended⟩ := Action.bind_eq_some.mp ended
  have signals : Run.Course world (Deed.Within fun _ => True) run between :=
    (Action.follows_signalNode trivial).course endedSignal
  cases signalled with
  | error error => obtain ⟨⟨⟩, _⟩ := Action.pure_eq_some.mp ended
  | ok _ =>
      obtain ⟨waited, exited, endedWait, ended⟩ := Action.bind_eq_some.mp ended
      have waits : Run.Course world (Deed.Within fun _ => True) between exited :=
        (Action.follows_waitForNode trivial).course endedWait
      rcases waited with error | (_ | exitCode)
      · obtain ⟨⟨⟩, _⟩ := Action.pure_eq_some.mp ended
      · obtain ⟨⟨⟩, _⟩ := Action.pure_eq_some.mp ended
      · obtain ⟨same, rfl⟩ := Action.pure_eq_some.mp ended
        cases same
        obtain ⟨meanwhile, written, _⟩ := Action.since_waitForNode endedWait
        refine Run.Passed.trans (.of_event signals ?_) (.of_event waits ?_)
        · simp [Action.since_signalNode endedSignal]
        · simp [written]

/-- A node whose exit has been seen has left. -/
theorem ok_of_mem_since_leave {node : Node} {timeout : Duration} {result : Except ClusterError Int}
    (ended : leave world node timeout limit run = (some result, last)) {waiting : Node}
    {longest : Duration} {code : Int}
    (member : .waited waiting longest (.ok (some code)) ∈ run.since last) : result = .ok code := by
  obtain ⟨signalled, between, endedSignal, ended⟩ := Action.bind_eq_some.mp ended
  have signals : Run.Course world (Deed.Within (· = .signal node)) run between :=
    (Action.follows_signalNode (by rfl)).course endedSignal
  have silent : .waited waiting longest (.ok (some code)) ∉ run.since between := by
    intro early
    rcases signals.of_mem_since early with ⟨⟨⟩⟩ | ⟨⟨⟩⟩
  cases signalled with
  | error error =>
      obtain ⟨rfl, rfl⟩ := Action.pure_eq_some.mp ended
      exact absurd member silent
  | ok _ =>
      obtain ⟨waited, exited, endedWait, ended⟩ := Action.bind_eq_some.mp ended
      have waits : Run.Course world (Deed.Within fun _ => True) between exited :=
        (Action.follows_waitForNode trivial).course endedWait
      obtain ⟨meanwhile, written, work⟩ := Action.since_waitForNode endedWait
      have seen : run.since exited = run.since between ++
          (meanwhile ++ [.waited node timeout waited]) := by
        rw [signals.since_trans waits, written]
      have same : last = exited → waited = .ok (some code) := by
        rintro rfl
        rw [seen] at member
        rcases List.mem_append.mp ((List.mem_append.mp member).resolve_left silent) with early | here
        · cases work _ early
        · cases List.mem_singleton.mp here
          rfl
      rcases waited with error | (_ | exitCode)
      · obtain ⟨rfl, rfl⟩ := Action.pure_eq_some.mp ended
        cases same rfl
      · obtain ⟨rfl, rfl⟩ := Action.pure_eq_some.mp ended
        cases same rfl
      · obtain ⟨rfl, rfl⟩ := Action.pure_eq_some.mp ended
        cases same rfl
        rfl

/-- A node that leaves stays among the nodes. -/
@[simp]
theorem nodes_markLeft (harness : Harness) (index : Nat) :
    (harness.markLeft index).handles.map Handle.node = harness.handles.map Handle.node := by
  refine List.ext_getElem? fun other => ?_
  simp only [markLeft, List.getElem?_map, List.getElem?_modify]
  cases harness.handles[other]? with
  | none => rfl
  | some handle =>
      simp only [Option.map_eq_map, Option.map_some]
      split <;> rfl

/-- The node at an index is marked once it has left. -/
theorem decommission_eq_some {harness left : Harness} {index : Nat} {timeout : Duration}
    {result : Except ClusterError Int}
    (ended : harness.decommission world index timeout limit run = (some (result, left), last)) :
    (∃ error, result = .error error ∧ left = harness ∧ last = run) ∨
      ∃ node, harness.node? index = .ok node ∧
        leave world node timeout limit run = (some result, last) ∧
        left = if result.isOk then harness.markLeft index else harness := by
  unfold decommission at ended
  cases found : harness.node? index with
  | error error =>
      rw [found] at ended
      cases ended
      exact .inl ⟨error, rfl, rfl, rfl⟩
  | ok node =>
      rw [found] at ended
      obtain ⟨answer, between, endedLeave, ended⟩ := Action.bind_eq_some.mp ended
      refine .inr ⟨node, rfl, ?_⟩
      cases answer with
      | ok code =>
          cases ended
          exact ⟨endedLeave, rfl⟩
      | error error =>
          cases ended
          exact ⟨endedLeave, rfl⟩

end Harness

end GracefulStop
