import GracefulStop.Proofs.Cluster.Quorum
import GracefulStop.Proofs.KeyMap
import GracefulStop.Proofs.Text.Utf8

/-!
# What a push of settings comes to

The settings of a map are set one after another in the order of their keys. A statement may be sent
several times, but it succeeds once at most, and only after its success the next one is sent. So at every
moment those that were set are the first ones of the map.
-/

namespace GracefulStop

variable {State : Type} {world : World State} {may : Deed → Prop} {run between last : Run State}
  {limit : Option Instant}

/-- The request that sets a setting. -/
def Harness.setting (entry : String × Json) : Request :=
  .single (settingStatement entry.1) [entry.2]

theorem Text.enclosed_injective (front back : String) :
    Function.Injective fun text => front ++ text ++ back := by
  intro text other same
  have chars := congrArg String.toList same
  simp only [String.toList_append] at chars
  exact String.toList_inj.mp (List.append_cancel_left (List.append_cancel_right chars))

theorem Harness.settingStatement_injective : Function.Injective settingStatement :=
  Text.enclosed_injective _ _

theorem Harness.setting_injective : Function.Injective setting := by
  rintro ⟨key, value⟩ ⟨other, given⟩ same
  simp only [setting, Request.single.injEq, List.cons.injEq, and_true] at same
  rw [settingStatement_injective same.1, same.2]

/-- The request that an event says has succeeded. -/
def Event.taken? : Event → Option Request
  | .answered _ request (.ok _) => some request
  | _ => none

/-- The requests that have succeeded between two moments, in their order. -/
def Run.taken (run last : Run State) : List Request := (run.since last).filterMap Event.taken?

@[simp]
theorem Run.taken_self (run : Run State) : run.taken run = [] := by
  simp [taken]

theorem Run.Course.taken_trans {might : Deed → Prop} (first : Course world may run between)
    (second : Course world might between last) :
    run.taken last = run.taken between ++ between.taken last := by
  rw [taken, first.since_trans second, List.filterMap_append]
  rfl

/-- A request has succeeded if some node has answered it well. -/
theorem Run.mem_taken {request : Request} : request ∈ run.taken last ↔
    ∃ node response, .answered node request (.ok response) ∈ run.since last := by
  rw [taken, List.mem_filterMap]
  constructor
  · rintro ⟨event, member, same⟩
    cases event with
    | answered node asked result =>
        cases result with
        | error error => cases same
        | ok response =>
            cases same
            exact ⟨node, response, member⟩
    | _ => cases same
  · rintro ⟨node, response, member⟩
    exact ⟨_, member, rfl⟩

theorem Run.taken_eq_nil (none : ∀ node request response,
    .answered node request (.ok response) ∉ run.since last) : run.taken last = [] := by
  rw [List.eq_nil_iff_forall_not_mem]
  intro request member
  rcases mem_taken.mp member with ⟨node, response, answered⟩
  exact none node request response answered

theorem Run.Course.taken_of_silent (course : Course world (Deed.Within Deed.Silent) run last) :
    run.taken last = [] := by
  apply taken_eq_nil
  intro node request response member
  rcases course.of_mem_since member with silent | work
  · exact silent node request rfl
  · cases work

/-- What has succeeded if an action that makes one request has come to this. -/
def took {Error : Type} (request : Request) : Option (Except Error Response) → List Request
  | some (.ok _) => [request]
  | _ => []

/-- An action that makes a request until it succeeds, and once it has succeeded ends with the answer. -/
structure Action.Takes {Error : Type} (world : World State) (request : Request)
    (action : Action State (Except Error Response)) : Prop where
  follows : action.Follows world fun _ => True
  taken : ∀ limit run, run.taken (action limit run).2 = took request (action limit run).1

namespace Action

theorem Takes.of_eq {Error : Type} {request : Request} {action : Action State (Except Error Response)}
    (takes : action.Takes world request) {outcome : Option (Except Error Response)}
    (ended : action limit run = (outcome, last)) : run.taken last = took request outcome := by
  have taken := takes.taken limit run
  rwa [ended] at taken

theorem takes_query (node : Node) (request : Request) :
    (query world node request).Takes world request where
  follows := by
    have asks : (query world node request).Follows world (Deed.Within fun _ => True) :=
      follows_query trivial
    exact asks.mono fun _ _ => trivial
  taken := by
    intro limit run
    have tells := (tells_query node request : (query world node request).Tells) limit run
    rcases ended : query world node request limit run with ⟨_ | error | response, last⟩
    · rw [ended] at tells
      exact Run.taken_eq_nil fun _ _ _ member => nomatch tells _ _ _ member
    · rw [ended] at tells
      exact Run.taken_eq_nil fun _ _ _ member => nomatch tells _ _ _ member
    · rcases since_query ended with ⟨meanwhile, written, work⟩
      have nothing : meanwhile.filterMap Event.taken? = [] := by
        rw [List.filterMap_eq_nil_iff]
        intro event member
        cases event with
        | answered other asked result => cases work _ member
        | _ => rfl
      rw [Run.taken, written, List.cons_append, List.filterMap_cons_none rfl, List.filterMap_append,
        nothing]
      rfl

/-- What is done before, if nothing is asked, changes nothing. -/
theorem takes_bind {Result Error : Type} {request : Request} {first : Action State Result}
    {next : Result → Action State (Except Error Response)}
    (silent : first.Follows world (Deed.Within Deed.Silent))
    (takes : ∀ result, (next result).Takes world request) : (first >>= next).Takes world request where
  follows := follows_bind (silent.mono fun _ _ => trivial) fun result => (takes result).follows
  taken := by
    intro limit run
    have before := silent limit run
    rcases came : first limit run with ⟨_ | result, between⟩
    · rw [came] at before
      rw [bind_of_eq_none came]
      exact before.taken_of_silent
    · rw [came] at before
      rw [bind_of_eq_some came, before.taken_trans ((takes result).follows limit between),
        before.taken_of_silent]
      exact (takes result).taken limit between

theorem takes_error {Error : Type} (error : Error) (request : Request) :
    (pure (.error error) : Action State (Except Error Response)).Takes world request :=
  ⟨follows_pure _, fun _ run => run.taken_self⟩

/-- An answer is passed on. -/
theorem takes_passed {First Error : Type} {request : Request}
    {first : Action State (Except First Response)}
    {next : Except First Response → Action State (Except Error Response)}
    (takes : first.Takes world request)
    (passes : ∀ response, next (.ok response) = pure (.ok response))
    (others : ∀ error, (next (.error error)).Takes world request) :
    (first >>= next).Takes world request where
  follows := by
    refine follows_bind takes.follows fun result => ?_
    cases result with
    | ok response =>
        rw [passes]
        exact follows_pure _
    | error error => exact (others error).follows
  taken := by
    intro limit run
    have before := takes.follows limit run
    have taken := takes.taken limit run
    rcases came : first limit run with ⟨_ | error | response, between⟩
    · rw [came] at taken
      rw [bind_of_eq_none came]
      exact taken
    · rw [came] at before taken
      rw [bind_of_eq_some came, before.taken_trans ((others error).follows limit between), taken]
      exact (others error).taken limit between
    · rw [came] at taken
      rw [bind_of_eq_some came, passes]
      exact taken

end Action

/-- However often a request is made, it succeeds once at most. -/
theorem takes_attemptsFrom {plan : BackoffPlan} {retryable : QueryError → Bool} {request : Request}
    {attempt : Action State (Except QueryError Response)} (takes : attempt.Takes world request)
    (waited backoff : Duration) (enough : BackoffPlan.shortest ≤ backoff) :
    (attemptsFrom world plan retryable attempt waited backoff enough).Takes world request := by
  induction waited, backoff, enough using attemptsFrom.induct plan with
  | case1 waited backoff enough ih =>
      rw [attemptsFrom]
      refine Action.takes_passed takes (fun _ => rfl) fun error => ?_
      dsimp only
      split
      · split
        · exact Action.takes_error error request
        · exact Action.takes_bind ((Action.follows_sleep backoff).mono fun _ => False.elim) fun _ => ih ‹_›
      · exact Action.takes_error error request

namespace Harness

theorem takes_execute (harness : Harness) (statement : String) (params : List Json) :
    (harness.execute world statement params).Takes world (.single statement params) := by
  refine Action.takes_bind (harness.follows_pickLive.mono Deed.silent_of_looks) fun picked => ?_
  cases picked with
  | error error => exact Action.takes_error error _
  | ok node =>
      have asks : (harness.policy.execute world node statement params).Takes world
          (.single statement params) := takes_attemptsFrom (Action.takes_query node _) _ _ _
      exact Action.takes_passed asks (fun _ => rfl) fun error => Action.takes_error _ _

/-! ## One setting -/

/-- What the refusal of a statement rests on: it is how the node has answered it the last time. -/
theorem answered_of_execute {policy : RetryPolicy} {node : Node} {statement : String}
    {params : List Json} {cause : QueryError}
    (ended : policy.execute world node statement params limit run = (some (.error cause), last)) :
    ∃ earlier, run.since last = earlier ++ [.answered node (.single statement params) (.error cause)] := by
  have follows : (Action.query world node (.single statement params)).Follows world
      (Deed.Within fun _ => True) := Action.follows_query trivial
  rcases last_of_attemptsFrom follows ended with ⟨between, course, answers⟩
  rcases Action.since_query answers with ⟨meanwhile, written, _⟩
  refine ⟨run.since between ++ .asked node (.single statement params) :: meanwhile, ?_⟩
  rw [course.since_trans (follows.course answers), written, List.append_assoc]

/-- How a push breaks off at an entry: no node is found live, and nothing is sent, or the node that was
picked refuses the statement after all attempts. -/
inductive BreaksOff (world : World State) (harness : Harness) (limit : Option Instant)
    (entry : String × Json) (reached last : Run State) : ClusterError → Prop
  | nobody {answers : List (Node × Bool)}
      (picks : Picks world harness limit reached (.error .noLiveNode) answers last) :
      BreaksOff world harness limit entry reached last .noLiveNode
  | refused {node : Node} {chosen : Run State} {cause : QueryError} {earlier : List Event}
      (picked : harness.pickLive world limit reached = (some (.ok node), chosen))
      (executed : harness.policy.execute world node (settingStatement entry.1) [entry.2] limit chosen =
        (some (.error cause), last))
      (answered : chosen.since last = earlier ++ [.answered node (setting entry) (.error cause)]) :
      BreaksOff world harness limit entry reached last (.query cause)

theorem breaksOff_of_execute {harness : Harness} {entry : String × Json} {error : ClusterError}
    (ended : harness.execute world (settingStatement entry.1) [entry.2] limit run =
      (some (.error error), last)) : BreaksOff world harness limit entry run last error := by
  rcases Action.bind_eq_some.mp ended with ⟨picked, chosen, picks, endedAll⟩
  cases picked with
  | error other =>
      cases endedAll
      rcases picks_of_pickLive picks with ⟨answers, found⟩
      cases found.failing _ rfl
      exact .nobody found
  | ok node =>
      rcases Action.bind_eq_some.mp endedAll with ⟨outcome, _, executed, endedAll⟩
      cases outcome with
      | ok response => cases endedAll
      | error cause =>
          cases endedAll
          rcases answered_of_execute executed with ⟨earlier, answered⟩
          exact .refused picks executed answered

/-! ## All settings -/

/-- What a push of settings has come to: these were set, and these are missing. -/
structure Pushed (world : World State) (harness : Harness) (limit : Option Instant)
    (settings : KeyMap Json) (run last : Run State) (outcome : Option (Except ClusterError Unit))
    (done missing : KeyMap Json) : Prop where
  split : done ++ missing = settings
  /-- The statements of those that were set have succeeded, each once, and no other. -/
  taken : run.taken last = done.map setting
  /-- No statement was sent for an entry after the first that is missing. -/
  asked : ∀ node request, .asked node request ∈ run.since last →
    ∃ entry, (entry ∈ done ∨ missing.head? = some entry) ∧ request = setting entry
  whole : outcome = some (.ok ()) ↔ missing = []
  broken : ∀ error, outcome = some (.error error) → ∃ entry rest reached, missing = entry :: rest ∧
    Run.Course world (fun _ => True) run reached ∧ run.taken reached = done.map setting ∧
      BreaksOff world harness limit entry reached last error

/-- A push that is over with its first entry. -/
theorem pushed_of_first {harness : Harness} {entry : String × Json} {rest : KeyMap Json}
    {outcome : Option (Except ClusterError Unit)} (failed : outcome ≠ some (.ok ()))
    (course : Run.Course world (Deed.Within (Deed.Asks (setting entry))) run last)
    (nothing : run.taken last = [])
    (broken : ∀ error, outcome = some (.error error) →
      BreaksOff world harness limit entry run last error) :
    Pushed world harness limit (entry :: rest) run last outcome [] (entry :: rest) where
  split := rfl
  taken := nothing
  asked := by
    intro node request member
    rcases course.of_mem_since member with asks | work
    · exact ⟨entry, .inr rfl, asks⟩
    · cases work
  whole := by simp [failed]
  broken error same := ⟨entry, rest, run, rfl, .refl, run.taken_self, broken error same⟩

/-- One more entry has been set before. -/
theorem Pushed.cons {harness : Harness} {entry : String × Json} {rest done missing : KeyMap Json}
    {outcome : Option (Except ClusterError Unit)}
    (course : Run.Course world (Deed.Within (Deed.Asks (setting entry))) run between)
    (once : run.taken between = [setting entry])
    (onward : Run.Course world (fun _ => True) between last)
    (pushed : Pushed world harness limit rest between last outcome done missing) :
    Pushed world harness limit (entry :: rest) run last outcome (entry :: done) missing where
  split := by rw [List.cons_append, pushed.split]
  taken := by
    rw [course.taken_trans onward, once, pushed.taken]
    rfl
  asked := by
    intro node request member
    rw [course.since_trans onward] at member
    rcases List.mem_append.mp member with early | late
    · rcases course.of_mem_since early with asks | work
      · exact ⟨entry, .inl List.mem_cons_self, asks⟩
      · cases work
    · rcases pushed.asked node request late with ⟨other, among | next, same⟩
      · exact ⟨other, .inl (List.mem_cons_of_mem _ among), same⟩
      · exact ⟨other, .inr next, same⟩
  whole := pushed.whole
  broken := by
    intro error same
    rcases pushed.broken error same with ⟨other, others, reached, split, reaches, before, breaks⟩
    refine ⟨other, others, reached, split, course.any.trans reaches, ?_, breaks⟩
    rw [course.taken_trans reaches, once, before]
    rfl

/-- The keys whose statements have succeeded are those that were set. -/
theorem Pushed.succeeded_iff {harness : Harness} {settings done missing : KeyMap Json}
    {outcome : Option (Except ClusterError Unit)}
    (pushed : Pushed world harness limit settings run last outcome done missing) (key : String) :
    (∃ node params response,
      .answered node (.single (settingStatement key) params) (.ok response) ∈ run.since last) ↔
        ∃ value, (key, value) ∈ done := by
  constructor
  · rintro ⟨node, params, response, member⟩
    have among := Run.mem_taken.mpr ⟨node, response, member⟩
    rw [pushed.taken] at among
    rcases List.mem_map.mp among with ⟨⟨set, value⟩, listed, same⟩
    cases settingStatement_injective (congrArg Request.statement same)
    exact ⟨value, listed⟩
  · rintro ⟨value, listed⟩
    have among : setting (key, value) ∈ run.taken last :=
      pushed.taken ▸ List.mem_map_of_mem listed
    rcases Run.mem_taken.mp among with ⟨node, response, member⟩
    exact ⟨node, [value], response, member⟩

theorem exists_pushed (world : World State) (harness : Harness) (settings : KeyMap Json)
    (limit : Option Instant) (run : Run State) : ∃ done missing,
      Pushed world harness limit settings run (harness.pushSettings world settings limit run).2
        (harness.pushSettings world settings limit run).1 done missing := by
  induction settings generalizing run with
  | nil =>
      have nothing : run.since (harness.pushSettings world [] limit run).2 = [] := run.since_self
      refine ⟨[], [], rfl, run.taken_self, by simp [nothing], ⟨fun _ => rfl, fun _ => rfl⟩, ?_⟩
      rintro error ⟨⟩
  | cons entry rest ih =>
      have follows : (harness.execute world (settingStatement entry.1) [entry.2]).Follows world
          (Deed.Within (Deed.Asks (setting entry))) := harness.follows_execute _ _
      have takes : (harness.execute world (settingStatement entry.1) [entry.2]).Takes world
          (setting entry) := harness.takes_execute _ _
      unfold pushSettings
      rcases came : harness.execute world (settingStatement entry.1) [entry.2] limit run with
        ⟨_ | error | response, between⟩
      · rw [Action.bind_of_eq_none came]
        exact ⟨[], _, pushed_of_first (by simp) (follows.course came) (takes.of_eq came)
          (by simp)⟩
      · rw [Action.bind_of_eq_some came]
        have failed : some (Except.error error) ≠ some (.ok ()) := by simp
        refine ⟨[], _, pushed_of_first failed (follows.course came) (takes.of_eq came) ?_⟩
        rintro _ ⟨⟩
        exact breaksOff_of_execute came
      · rw [Action.bind_of_eq_some came]
        rcases ih between with ⟨done, missing, pushed⟩
        have onward : Run.Course world (Deed.Within (Deed.Sets rest)) between
            (harness.pushSettings world rest limit between).2 :=
          harness.follows_pushSettings rest limit between
        exact ⟨_, missing, pushed.cons (follows.course came) (takes.of_eq came) onward.any⟩

end Harness

end GracefulStop
