import GracefulStop.Proofs.Cluster.Routing

/-!
# What a wait for the members comes to

A wait for the members goes round after round. In each round the members are looked at, up to the first
that is not running. Only where all of them are running a statement asks for the members, and only its
answer decides how the wait goes on: it is over if all of them are reported, or if it has lasted as long
as it may, and otherwise there is another round after a pause.

A wait makes no more rounds than a number that is given to it. What it comes to is the same whatever the
number is, if it is not smaller than the number of rounds.
-/

namespace GracefulStop

/-- A sleep of some length that is not cut off goes on into another millisecond. -/
theorem Action.millis_of_sleep {State : Type} {world : World State} {length : Duration}
    {limit : Option Instant} {run slept : Run State} (positive : 0 < length.nanos)
    (sleeps : sleep world length limit run = (some (), slept)) :
    run.clock.millis < slept.clock.millis := by
  rcases sleep_eq_some world length run with ⟨woken, wakes, _, passed⟩
  have same : sleep world length none run = (some (), slept) := by
    cases limit with
    | none => exact sleeps
    | some moment =>
        simp only [sleep, Nat.ne_of_gt positive, if_false] at sleeps ⊢
        split at sleeps
        · exact sleeps
        · cases sleeps
  cases wakes.symm.trans same
  exact passed positive

namespace Harness

/-- The nodes that have not left. -/
def members (harness : Harness) : List Handle :=
  harness.handles.filter fun handle => !handle.decommissioned

variable {State : Type}

/-- One round of a wait: the run at its beginning, the one in which the members have been looked at, what
the statement came to, if it was executed, and the run at its end. -/
structure Round (State : Type) where
  before : Run State
  looked : Run State
  answer : Option (Except ClusterError Response)
  after : Run State

namespace Round

/-- Every member was found running. -/
def AllUp (round : Round State) (harness : Harness) : Prop :=
  round.before.since round.looked =
    harness.members.map fun member => .checked member.node true

/-- A member was found not running, and those before it were found running. -/
def FirstDown (round : Round State) (harness : Harness) (member : Handle) : Prop :=
  ∃ up rest, harness.members = up ++ member :: rest ∧
    round.before.since round.looked =
      up.map (fun other => .checked other.node true) ++ [.checked member.node false]

/-- So many members were reported. -/
def Reports (round : Round State) (count : Int) : Prop :=
  ∃ response, round.answer = some (.ok response) ∧ response.rowCount = count

end Round

variable {world : World State} {harness : Harness} {limit : Option Instant}
  {longest : Option Duration} {began : Instant} {run after last : Run State}
  {result : Except ClusterError Unit}

/-! ## One round -/

/-- A look at a member is one event, and then come those of the looks at the others. -/
theorem since_of_looks {handle : Handle} {rest : List Handle} {running : Bool}
    {checked looked : Run State}
    (checks : Action.isRunning world handle.node limit run = (some running, checked))
    (looks : ensureRunning world rest limit checked = (some result, looked)) :
    run.since looked = .checked handle.node running :: checked.since looked := by
  have first : Run.Course world (Deed.Within fun _ => True) run checked :=
    (Action.follows_isRunning trivial).course checks
  have others : Run.Course world (Deed.Within (Deed.Asks (.single membershipQuery []))) checked looked :=
    (follows_ensureRunning rest).course looks
  rw [first.since_trans others, Action.since_isRunning checks]
  rfl

/-- The members are looked at in their order, up to the first that is not running. -/
theorem looks_of_ensureRunning (world : World State) (handles : List Handle)
    (limit : Option Instant) (run : Run State) :
    ∃ looked, (ensureRunning world handles limit run = (some (.ok ()), looked) ∧
        run.since looked = (handles.filter fun handle => !handle.decommissioned).map
          fun member => .checked member.node true) ∨
      ∃ up member rest, (handles.filter fun handle => !handle.decommissioned) =
          up ++ member :: rest ∧
        ensureRunning world handles limit run =
          (some (.error (.nodeNotRunning member.name)), looked) ∧
        run.since looked =
          up.map (fun other => .checked other.node true) ++ [.checked member.node false] := by
  induction handles generalizing run with
  | nil => exact ⟨run, Or.inl ⟨rfl, by simp⟩⟩
  | cons handle rest ih =>
      unfold ensureRunning
      cases marked : handle.decommissioned with
      | true => simpa [marked] using ih run
      | false =>
          rcases checks : Action.isRunning world handle.node limit run with
            ⟨_ | running, checked⟩
          · cases checks
          simp only [Bool.false_eq_true, if_false, Action.bind_of_eq_some checks]
          rw [List.filter_cons_of_pos (by simp [marked])]
          cases running with
          | true =>
              rcases ih checked with ⟨looked, ⟨ended, written⟩ |
                ⟨up, member, others, split, ended, written⟩⟩
              · refine ⟨looked, Or.inl ⟨ended, ?_⟩⟩
                rw [since_of_looks checks ended, written]
                rfl
              · refine ⟨looked, Or.inr ⟨handle :: up, member, others, ?_, ended, ?_⟩⟩
                · rw [split]
                  rfl
                · rw [since_of_looks checks ended, written]
                  rfl
          | false =>
              exact ⟨checked, Or.inr ⟨[], handle, _, rfl, rfl, Action.since_isRunning checks⟩⟩

/-- A round in which all members are running: the statement is executed. -/
structure Polls (world : World State) (harness : Harness) (limit : Option Instant)
    (round : Round State) (answer : Except ClusterError Response) : Prop where
  looks : ensureRunning world harness.handles limit round.before = (some (.ok ()), round.looked)
  allUp : round.AllUp harness
  asks : harness.execute world membershipQuery [] limit round.looked = (some answer, round.after)
  answered : round.answer = some answer

/-- A round in which a member is not running: nothing is executed. -/
structure Misses (world : World State) (harness : Harness) (limit : Option Instant)
    (round : Round State) (member : Handle) : Prop where
  looks : ensureRunning world harness.handles limit round.before =
    (some (.error (.nodeNotRunning member.name)), round.looked)
  firstDown : round.FirstDown harness member
  silent : round.answer = none
  stays : round.after = round.looked

/-- What a round brings a wait to that began at some moment. -/
inductive Closes (world : World State) (harness : Harness) (limit : Option Instant)
    (longest : Option Duration) (began : Instant) (round : Round State) :
    Except ClusterError Unit → Prop
  | missed {member : Handle} (misses : harness.Misses world limit round member) :
      Closes world harness limit longest began round (.error (.nodeNotRunning member.name))
  | failed {error : ClusterError} (polls : harness.Polls world limit round (.error error)) :
      Closes world harness limit longest began round (.error error)
  | joined {response : Response} (polls : harness.Polls world limit round (.ok response))
      (whole : response.rowCount = harness.memberCount) :
      Closes world harness limit longest began round (.ok ())
  | late {response : Response} {bound : Duration}
      (polls : harness.Polls world limit round (.ok response))
      (other : response.rowCount ≠ harness.memberCount) (bounded : longest = some bound)
      (spent : bound ≤ round.after.clock - began) :
      Closes world harness limit longest began round
        (.error (.quorumTimeout response.rowCount harness.memberCount bound))

/-- A round after which there is another one: not all members are reported, and the wait has not lasted as
long as it may. -/
structure Continues (world : World State) (harness : Harness) (limit : Option Instant)
    (longest : Option Duration) (began : Instant) (round : Round State) (response : Response) :
    Prop where
  polls : harness.Polls world limit round (.ok response)
  other : response.rowCount ≠ harness.memberCount
  going : ∀ bound, longest = some bound → round.after.clock - began < bound

/-- The rounds of a wait that began at some moment, and what it comes to. -/
inductive Awaits (world : World State) (harness : Harness) (limit : Option Instant)
    (longest : Option Duration) (began : Instant) :
    Run State → List (Round State) → Except ClusterError Unit → Run State → Prop
  | ended {round : Round State} {result : Except ClusterError Unit}
      (closes : harness.Closes world limit longest began round result) :
      Awaits world harness limit longest began round.before [round] result round.after
  | again {round : Round State} {response : Response} {rounds : List (Round State)}
      {slept last : Run State} {result : Except ClusterError Unit}
      (continues : harness.Continues world limit longest began round response)
      (sleeps : Action.sleep world harness.quorumPoll limit round.after = (some (), slept))
      (rest : Awaits world harness limit longest began slept rounds result last) :
      Awaits world harness limit longest began round.before (round :: rounds) result last

/-! ## Rounds and their number -/

/-- How a wait goes on after the statement has been executed. -/
def afterPoll (world : World State) (harness : Harness) (longest : Option Duration)
    (began : Instant) (tries : Nat) : Except ClusterError Response →
      Action State (Except ClusterError Unit)
  | .error error => pure (.error error)
  | .ok response =>
    if response.rowCount = harness.memberCount then pure (.ok ())
    else do
      match isOver longest ((← Action.now) - began) with
      | some bound => pure (.error (.quorumTimeout response.rowCount harness.memberCount bound))
      | none =>
        Action.sleep world harness.quorumPoll
        harness.quorumRounds world harness.memberCount longest began tries

theorem isOver_eq_some {bound elapsed : Duration} :
    isOver longest elapsed = some bound ↔ longest = some bound ∧ bound ≤ elapsed := by
  simp [isOver, Option.filter_eq_some_iff]

theorem isOver_eq_none {elapsed : Duration} :
    isOver longest elapsed = none ↔ ∀ bound, longest = some bound → elapsed < bound := by
  simp [isOver, Option.filter_eq_none_iff]

section

variable {tries : Nat} {round : Round State} {answer : Except ClusterError Response}
  {response : Response} {slept : Run State}

theorem quorumRounds_of_polls (polls : harness.Polls world limit round answer) :
    harness.quorumRounds world harness.memberCount longest began (tries + 1) limit round.before =
      harness.afterPoll world longest began tries answer limit round.after := by
  rw [quorumRounds, Action.bind_of_eq_some polls.looks]
  exact Action.bind_of_eq_some polls.asks

/-- How a wait goes on where not all members are reported. -/
theorem afterPoll_of_other (other : response.rowCount ≠ harness.memberCount) :
    harness.afterPoll world longest began tries (.ok response) limit after =
      (match isOver longest (after.clock - began) with
        | some bound => pure (.error (.quorumTimeout response.rowCount harness.memberCount bound))
        | none => do
          Action.sleep world harness.quorumPoll
          harness.quorumRounds world harness.memberCount longest began tries :
        Action State (Except ClusterError Unit)) limit after := by
  rw [afterPoll, if_neg other]
  rfl

theorem quorumRounds_of_closes (closes : harness.Closes world limit longest began round result) :
    harness.quorumRounds world harness.memberCount longest began (tries + 1) limit round.before =
      (some result, round.after) := by
  cases closes with
  | missed misses =>
      rw [quorumRounds, Action.bind_of_eq_some misses.looks, misses.stays]
      rfl
  | failed polls => exact quorumRounds_of_polls polls
  | joined polls whole =>
      rw [quorumRounds_of_polls polls, afterPoll, if_pos whole]
      rfl
  | late polls other bounded spent =>
      rw [quorumRounds_of_polls polls, afterPoll_of_other other,
        isOver_eq_some.mpr ⟨bounded, spent⟩]
      rfl

theorem quorumRounds_of_continues
    (continues : harness.Continues world limit longest began round response)
    (sleeps : Action.sleep world harness.quorumPoll limit round.after = (some (), slept)) :
    harness.quorumRounds world harness.memberCount longest began (tries + 1) limit round.before =
      harness.quorumRounds world harness.memberCount longest began tries limit slept := by
  rw [quorumRounds_of_polls continues.polls, afterPoll_of_other continues.other,
    isOver_eq_none.mpr continues.going]
  exact Action.bind_of_eq_some sleeps

/-- A wait that comes to a result has made a round, which has ended it or is followed by others. -/
theorem round_of_quorumRounds
    (ended : harness.quorumRounds world harness.memberCount longest began (tries + 1) limit run =
      (some result, last)) :
    ∃ round : Round State, round.before = run ∧
      ((∃ other, harness.Closes world limit longest began round other) ∨
        ∃ response, harness.Continues world limit longest began round response) := by
  rcases looks_of_ensureRunning world harness.handles limit run with
    ⟨looked, ⟨looks, allUp⟩ | ⟨up, member, others, split, looks, firstDown⟩⟩
  · rcases came : harness.execute world membershipQuery [] limit looked with ⟨_ | answer, after⟩
    · rw [quorumRounds, Action.bind_of_eq_some looks] at ended
      cases (Action.bind_of_eq_none came).symm.trans ended
    refine ⟨⟨run, looked, some answer, after⟩, rfl, ?_⟩
    have polls : harness.Polls world limit ⟨run, looked, some answer, after⟩ answer :=
      ⟨looks, allUp, came, rfl⟩
    rcases answer with error | response
    · exact Or.inl ⟨_, .failed polls⟩
    by_cases whole : response.rowCount = harness.memberCount
    · exact Or.inl ⟨_, .joined polls whole⟩
    cases late : isOver longest (after.clock - began) with
    | some bound =>
        rcases isOver_eq_some.mp late with ⟨bounded, spent⟩
        exact Or.inl ⟨_, .late polls whole bounded spent⟩
    | none => exact Or.inr ⟨response, polls, whole, isOver_eq_none.mp late⟩
  · refine ⟨⟨run, looked, none, looked⟩, rfl, Or.inl ⟨_, .missed ⟨looks, ?_, rfl, rfl⟩⟩⟩
    exact ⟨up, others, split, firstDown⟩

end

/-- What a wait comes to, it comes to by rounds, and no more of them than are allowed. The induction is on
that number. -/
theorem awaits_of_quorumRounds {tries : Nat}
    (ended : harness.quorumRounds world harness.memberCount longest began tries limit run =
      (some result, last)) :
    ∃ rounds, rounds.length ≤ tries ∧
      harness.Awaits world limit longest began run rounds result last := by
  induction tries generalizing run with
  | zero => exact absurd ended Action.stall_ne_some
  | succ tries ih =>
      rcases round_of_quorumRounds ended with ⟨round, rfl, ⟨other, closes⟩ | ⟨response, continues⟩⟩
      · cases (quorumRounds_of_closes closes).symm.trans ended
        exact ⟨[round], Nat.succ_le_succ (Nat.zero_le _), .ended closes⟩
      · rcases sleeps : Action.sleep world harness.quorumPoll limit round.after with ⟨_ | _, slept⟩
        · rw [quorumRounds_of_polls continues.polls, afterPoll_of_other continues.other,
            isOver_eq_none.mpr continues.going] at ended
          cases (Action.bind_of_eq_none sleeps).symm.trans ended
        · rw [quorumRounds_of_continues continues sleeps] at ended
          rcases ih ended with ⟨rounds, few, awaits⟩
          exact ⟨round :: rounds, Nat.succ_le_succ few, .again continues sleeps awaits⟩

/-- Where rounds enough are allowed, a wait comes to what its rounds bring it to. -/
theorem quorumRounds_of_awaits {rounds : List (Round State)} {tries : Nat}
    (awaits : harness.Awaits world limit longest began run rounds result last)
    (enough : rounds.length ≤ tries) :
    harness.quorumRounds world harness.memberCount longest began tries limit run =
      (some result, last) := by
  induction awaits generalizing tries with
  | ended closes =>
      obtain ⟨fewer, rfl⟩ := Nat.exists_eq_add_of_le' enough
      exact quorumRounds_of_closes closes
  | again continues sleeps rest ih =>
      obtain ⟨fewer, rfl⟩ := Nat.exists_eq_add_of_le' enough
      exact (quorumRounds_of_continues continues sleeps).trans (ih (Nat.le_add_left _ fewer))

theorem quorumRounds_eq_some {tries : Nat} :
    harness.quorumRounds world harness.memberCount longest began tries limit run =
        (some result, last) ↔
      ∃ rounds, rounds.length ≤ tries ∧
        harness.Awaits world limit longest began run rounds result last := by
  constructor
  · exact awaits_of_quorumRounds
  · rintro ⟨rounds, enough, awaits⟩
    exact quorumRounds_of_awaits awaits enough

/-! ## What a round says -/

theorem error_of_execute {statement : String} {params : List Json} {error : ClusterError}
    (ended : harness.execute world statement params limit run = (some (.error error), last)) :
    error = .noLiveNode ∨ ∃ cause, error = .query cause := by
  rcases Action.bind_eq_some.mp ended with ⟨picked, between, picks, endedAll⟩
  cases picked with
  | error other =>
      cases endedAll
      rcases picks_of_pickLive picks with ⟨answers, picks⟩
      exact Or.inl (picks.failing _ rfl)
  | ok node =>
      rcases Action.bind_eq_some.mp endedAll with ⟨outcome, _, _, endedAll⟩
      cases outcome with
      | error cause =>
          cases endedAll
          exact Or.inr ⟨cause, rfl⟩
      | ok response => cases endedAll

section

variable {round : Round State} {answer : Except ClusterError Response} {member other : Handle}
  {response : Response} {count : Int}

theorem Round.AllUp.not_firstDown (allUp : round.AllUp harness) (member : Handle) :
    ¬round.FirstDown harness member := by
  rintro ⟨up, rest, split, found⟩
  have down : .checked member.node false ∈ round.before.since round.looked := by simp [found]
  rw [allUp] at down
  rcases List.mem_map.mp down with ⟨other, _, same⟩
  injection same with _ flag
  cases flag

theorem Round.FirstDown.name_eq (first : round.FirstDown harness member)
    (second : round.FirstDown harness other) : other.name = member.name := by
  rcases first with ⟨up, rest, _, found⟩
  rcases second with ⟨upOther, restOther, _, foundOther⟩
  have ends := congrArg List.getLast? (found.symm.trans foundOther)
  simp only [List.getLast?_concat, Option.some.injEq, Event.checked.injEq, and_true] at ends
  rw [Handle.name, Handle.name, ends]

theorem Polls.reports_iff (polls : harness.Polls world limit round (.ok response)) :
    round.Reports count ↔ response.rowCount = count := by
  constructor
  · rintro ⟨reported, answered, same⟩
    cases polls.answered.symm.trans answered
    exact same
  · exact fun same => ⟨response, polls.answered, same⟩

theorem Polls.not_reports {error : ClusterError}
    (polls : harness.Polls world limit round (.error error)) :
    ¬round.Reports count := by
  rintro ⟨response, answered, _⟩
  cases polls.answered.symm.trans answered

theorem Misses.not_reports (misses : harness.Misses world limit round member) :
    ¬round.Reports count := by
  rintro ⟨response, answered, _⟩
  cases misses.silent.symm.trans answered

/-- A wait ends well exactly with a round in which all members are reported, and in that round all of them
were found running. -/
theorem Closes.ok_iff (closes : harness.Closes world limit longest began round result) :
    result = .ok () ↔ round.AllUp harness ∧ round.Reports harness.memberCount := by
  cases closes with
  | missed misses => simp [misses.not_reports]
  | failed polls => simp [polls.not_reports]
  | joined polls whole => simp [polls.allUp, polls.reports_iff, whole]
  | late polls other bounded spent => simp [polls.reports_iff, other]

/-- A wait fails at a member that is not running exactly with a round in which that is the first that was
found so. -/
theorem Closes.notRunning_iff (closes : harness.Closes world limit longest began round result)
    (name : String) :
    result = .error (.nodeNotRunning name) ↔
      ∃ member, round.FirstDown harness member ∧ member.name = name := by
  have running : ∀ {answer}, harness.Polls world limit round answer →
      ¬∃ member, round.FirstDown harness member ∧ member.name = name := by
    rintro answer polls ⟨member, firstDown, _⟩
    exact polls.allUp.not_firstDown member firstDown
  cases closes with
  | @missed first misses =>
      simp only [Except.error.injEq, ClusterError.nodeNotRunning.injEq]
      constructor
      · exact fun same => ⟨first, misses.firstDown, same⟩
      · rintro ⟨member, firstDown, rfl⟩
        exact firstDown.name_eq misses.firstDown
  | @failed error polls =>
      have other : error ≠ .nodeNotRunning name := by
        rintro rfl
        rcases error_of_execute polls.asks with same | ⟨cause, same⟩ <;> cases same
      simpa [other] using running polls
  | joined polls whole => simpa using running polls
  | late polls other bounded spent => simpa using running polls

/-- A wait is given up only after a statement that reported another number of members, when it has lasted
as long as it may. -/
theorem Closes.late_of_timeout (closes : harness.Closes world limit longest began round result)
    {seen : Int} {expected : Nat} {bound : Duration}
    (timedOut : result = .error (.quorumTimeout seen expected bound)) :
    longest = some bound ∧ expected = harness.memberCount ∧ seen ≠ expected ∧
      round.AllUp harness ∧ round.Reports seen ∧ bound ≤ round.after.clock - began := by
  cases closes with
  | missed misses => cases timedOut
  | @failed error polls =>
      cases timedOut
      rcases error_of_execute polls.asks with same | ⟨cause, same⟩ <;> cases same
  | joined polls whole => cases timedOut
  | late polls other bounded spent =>
      cases timedOut
      exact ⟨bounded, rfl, other, polls.allUp, polls.reports_iff.mpr rfl, spent⟩

end

/-! ## All rounds -/

section

variable {round ending : Round State} {rounds : List (Round State)} {member : Handle}
  {response : Response} {answer : Except ClusterError Response} {bound : Duration}

theorem clock_le_of_looks {handles : List Handle}
    (looks : ensureRunning world handles limit run = (some result, last)) :
    run.clock ≤ last.clock := by
  have course : Run.Course world (Deed.Within (Deed.Asks (.single membershipQuery []))) run last :=
    (follows_ensureRunning handles).course looks
  exact course.clock_le

theorem Polls.clock_le (polls : harness.Polls world limit round answer) :
    round.before.clock ≤ round.after.clock := by
  have asks := (harness.follows_execute membershipQuery []).course polls.asks
  exact Nat.le_trans (clock_le_of_looks polls.looks) asks.clock_le

theorem Closes.clock_le (closes : harness.Closes world limit longest began round result) :
    round.before.clock ≤ round.after.clock := by
  cases closes with
  | missed misses =>
      rw [misses.stays]
      exact clock_le_of_looks misses.looks
  | failed polls => exact polls.clock_le
  | joined polls _ => exact polls.clock_le
  | late polls _ _ _ => exact polls.clock_le

/-- In a round in which a member is found not running no statement is sent. -/
theorem Closes.unasked (closes : harness.Closes world limit longest began round result)
    (firstDown : round.FirstDown harness member) (node : Node) (request : Request) :
    .asked node request ∉ round.before.since round.after := by
  have running : ∀ {answer}, ¬harness.Polls world limit round answer :=
    fun polls => polls.allUp.not_firstDown member firstDown
  cases closes with
  | missed misses =>
      rcases firstDown with ⟨up, rest, _, found⟩
      rw [misses.stays, found]
      simp
  | failed polls => exact absurd polls running
  | joined polls _ => exact absurd polls running
  | late polls _ _ _ => exact absurd polls running

/-- The last round of a wait ends it, and each of the others is followed by another one. -/
theorem Awaits.split (awaits : harness.Awaits world limit longest began run rounds result last) :
    ∃ earlier ending, rounds = earlier ++ [ending] ∧ last = ending.after ∧
      harness.Closes world limit longest began ending result ∧
      ∀ round ∈ earlier, ∃ response, harness.Continues world limit longest began round response := by
  induction awaits with
  | @ended round result closes => exact ⟨[], round, rfl, rfl, closes, by simp⟩
  | @again round response rounds slept last result continues sleeps rest ih =>
      rcases ih with ⟨earlier, ending, rfl, rfl, closes, others⟩
      exact ⟨round :: earlier, ending, rfl, rfl, closes,
        List.forall_mem_cons.mpr ⟨⟨response, continues⟩, others⟩⟩

/-- A member can be found not running only in the last round. -/
theorem eq_ending_of_firstDown {earlier : List (Round State)}
    (others : ∀ round ∈ earlier, ∃ response,
      harness.Continues world limit longest began round response)
    (among : round ∈ earlier ++ [ending]) (firstDown : round.FirstDown harness member) :
    round = ending := by
  rcases List.mem_append.mp among with early | same
  · rcases others round early with ⟨response, continues⟩
    exact absurd firstDown (continues.polls.allUp.not_firstDown member)
  · exact List.mem_singleton.mp same

theorem Awaits.clock_le (awaits : harness.Awaits world limit longest began run rounds result last) :
    run.clock ≤ last.clock := by
  induction awaits with
  | ended closes => exact closes.clock_le
  | again continues sleeps rest ih =>
      have slept : Run.Course world (fun _ => True) _ _ := (Action.follows_sleep _).course sleeps
      exact Nat.le_trans continues.polls.clock_le (Nat.le_trans slept.clock_le ih)

/-- Where a pause takes time, a wait that may last only so long makes at most a round for every
millisecond of that, and the last one. -/
theorem Awaits.length_le
    (awaits : harness.Awaits world limit (some bound) began run rounds result last)
    (positive : 0 < harness.quorumPoll.nanos) :
    rounds.length ≤ (began + bound).millis + 1 - run.clock.millis + 1 := by
  induction awaits with
  | ended closes => exact Nat.succ_le_succ (Nat.zero_le _)
  | @again round response rounds slept last result continues sleeps rest ih =>
      have passed := Action.millis_of_sleep positive sleeps
      have later := Duration.millis_le_of_le continues.polls.clock_le
      have left : round.after.clock.millis ≤ (began + bound).millis := by
        have going := continues.going bound rfl
        refine Duration.millis_le_of_le ?_
        simp only [Duration.le_def, Duration.lt_def, Duration.nanos_sub, Duration.nanos_add] at *
        omega
      rw [List.length_cons]
      omega

theorem Awaits.length_le_roundLimit
    (awaits : harness.Awaits world limit (some bound) run.clock run rounds result last)
    (positive : 0 < harness.quorumPoll.nanos) : rounds.length ≤ roundLimit (some bound) := by
  have few := awaits.length_le positive
  have rounding := Duration.millis_add_le run.clock bound
  have patient := Action.patience_pos
  simp only [roundLimit, Option.map_some, Option.getD_some]
  omega

theorem Awaits.ok_iff (awaits : harness.Awaits world limit longest began run rounds result last) :
    result = .ok () ↔ ∃ ending, rounds.getLast? = some ending ∧ ending.AllUp harness ∧
      ending.Reports harness.memberCount := by
  rcases awaits.split with ⟨earlier, ending, rfl, _, closes, _⟩
  simp [closes.ok_iff]

theorem Awaits.notRunning_iff
    (awaits : harness.Awaits world limit longest began run rounds result last) (name : String) :
    result = .error (.nodeNotRunning name) ↔
      ∃ round ∈ rounds, ∃ member, round.FirstDown harness member ∧ member.name = name := by
  rcases awaits.split with ⟨earlier, ending, rfl, _, closes, others⟩
  rw [closes.notRunning_iff]
  constructor
  · exact fun found => ⟨ending, by simp, found⟩
  · rintro ⟨round, among, member, firstDown, named⟩
    cases eq_ending_of_firstDown others among firstDown
    exact ⟨member, firstDown, named⟩

theorem Awaits.unasked (awaits : harness.Awaits world limit longest began run rounds result last)
    (among : round ∈ rounds) (firstDown : round.FirstDown harness member) (node : Node)
    (request : Request) : .asked node request ∉ round.before.since round.after := by
  rcases awaits.split with ⟨earlier, ending, rfl, _, closes, others⟩
  cases eq_ending_of_firstDown others among firstDown
  exact closes.unasked firstDown node request

theorem Awaits.late_of_timeout {seen : Int} {expected : Nat}
    (awaits : harness.Awaits world limit longest run.clock run rounds
      (.error (.quorumTimeout seen expected bound)) last) :
    longest = some bound ∧ expected = harness.memberCount ∧ seen ≠ expected ∧
      (∃ ending, rounds.getLast? = some ending ∧ ending.AllUp harness ∧ ending.Reports seen) ∧
      run.clock + bound ≤ last.clock := by
  have later := awaits.clock_le
  rcases awaits.split with ⟨earlier, ending, rfl, rfl, closes, _⟩
  rcases closes.late_of_timeout rfl with ⟨bounded, same, other, allUp, reports, spent⟩
  refine ⟨bounded, same, other, ⟨ending, List.getLast?_concat, allUp, reports⟩, ?_⟩
  simp only [Duration.le_def, Duration.nanos_sub, Duration.nanos_add] at *
  omega

/-- A first round in which all members are running and reported is the only one. -/
theorem awaitQuorum_of_whole {looked : Run State}
    (looks : ensureRunning world harness.handles limit run = (some (.ok ()), looked))
    (asks : harness.execute world membershipQuery [] limit looked = (some (.ok response), after))
    (whole : response.rowCount = harness.memberCount) :
    harness.awaitQuorum world longest limit run = (some (.ok ()), after) := by
  have rounds : harness.quorumRounds world harness.memberCount longest run.clock
      (roundLimit longest) limit run = (some (.ok ()), after) := by
    rw [roundLimit, quorumRounds, Action.bind_of_eq_some looks]
    dsimp only
    rw [Action.bind_of_eq_some asks]
    dsimp only
    rw [if_pos whole]
    rfl
  exact rounds

end

/-! ## What a wait comes to -/

/-- A wait for the members, whatever becomes of them meanwhile, comes to a result exactly by rounds that
bring it there. It ends well exactly if in its last round every member was found running and all of them
were reported. It fails at a member that is not running exactly if in some round that member was the first
that was found so, and in such a round no statement is sent. It is given up only if it may not last
forever, after a statement that reported another number of members, and when it has lasted as long as it
may. Members that are reported at once are never waited for, and no node is marked as left. -/
theorem quorum_contract (world : World State) (harness : Harness) (longest : Option Duration)
    (limit : Option Instant) (run : Run State) :
    (∀ result last, harness.awaitQuorum world longest limit run = (some result, last) ↔
      ∃ rounds, rounds.length ≤ roundLimit longest ∧
        harness.Awaits world limit longest run.clock run rounds result last) ∧
    (∀ tries result last,
      harness.quorumRounds world harness.memberCount longest run.clock tries limit run =
          (some result, last) ↔
        ∃ rounds, rounds.length ≤ tries ∧
          harness.Awaits world limit longest run.clock run rounds result last) ∧
    (∀ rounds result last, harness.Awaits world limit longest run.clock run rounds result last →
      (result = .ok () ↔ ∃ ending, rounds.getLast? = some ending ∧ ending.AllUp harness ∧
        ending.Reports harness.memberCount) ∧
      (∀ name, result = .error (.nodeNotRunning name) ↔
        ∃ round ∈ rounds, ∃ member, round.FirstDown harness member ∧ member.name = name) ∧
      (∀ round ∈ rounds, ∀ member, round.FirstDown harness member →
        ∀ node request, .asked node request ∉ round.before.since round.after) ∧
      (∀ seen expected bound, result = .error (.quorumTimeout seen expected bound) →
        longest = some bound ∧ expected = harness.memberCount ∧ seen ≠ expected ∧
        (∃ ending, rounds.getLast? = some ending ∧ ending.AllUp harness ∧ ending.Reports seen) ∧
        run.clock + bound ≤ last.clock) ∧
      (longest.isSome → 0 < harness.quorumPoll.nanos → rounds.length ≤ roundLimit longest)) ∧
    (∀ looked after response,
      ensureRunning world harness.handles limit run = (some (.ok ()), looked) →
      harness.execute world membershipQuery [] limit looked = (some (.ok response), after) →
      response.rowCount = harness.memberCount →
      harness.awaitQuorum world longest limit run = (some (.ok ()), after)) ∧
    (∀ outcome last,
      (Order.awaitQuorum longest).perform world harness limit run = (outcome, last) →
      outcome.getD harness = harness) := by
  refine ⟨fun result last => quorumRounds_eq_some, fun tries result last => quorumRounds_eq_some,
    fun rounds result last awaits => ?_, fun looked after response => awaitQuorum_of_whole,
    fun outcome last => Order.getD_of_pure⟩
  refine ⟨awaits.ok_iff, awaits.notRunning_iff, fun round among member => awaits.unasked among,
    ?_, ?_⟩
  · rintro seen expected bound rfl
    exact awaits.late_of_timeout
  · intro bounded positive
    cases longest with
    | none => cases bounded
    | some bound => exact awaits.length_le_roundLimit positive

/-- A cluster of two nodes, whose members are asked for every tenth of a second. -/
def waitingPair : Harness where
  name := "pair"
  transportRange := ⟨42000, 42001⟩
  handles := [0, 1].map fun serial =>
    { node := ⟨{ (default : NodeSpec) with name := NodeSpec.nodeName "pair" serial }, serial⟩ }
  policy := .never
  startAttempts := 1
  quorumPoll := .ofMillis 100

/-- Surroundings in which nodes are running or not and so many members are reported. -/
def reporting (count : Int) (running : Node → Bool) : World Nat :=
  { World.reciting fun _ => .ok (.affected count) with
    isRunning := fun node _ made => (running node, made) }

/-- Nothing has been asked so far. -/
def waitingStart : Run Nat := .start 0 ⟨42000, 44000, false⟩

/-- Where only one of two nodes has joined, the wait is given up; where both have, it ends well even if no
time is left; and where the second is not running, nothing is sent. -/
theorem quorum_contract_of_pair :
    (∃ rounds last, waitingPair.Awaits (reporting 1 fun _ => true) none (some (.ofMillis 150))
        waitingStart.clock waitingStart rounds (.error (.quorumTimeout 1 2 (.ofMillis 150))) last ∧
      rounds.length ≤ roundLimit (some (.ofMillis 150)) ∧
      (∃ ending, rounds.getLast? = some ending ∧ ending.AllUp waitingPair ∧ ending.Reports 1) ∧
      waitingStart.clock + .ofMillis 150 ≤ last.clock) ∧
    (∃ last, waitingPair.awaitQuorum (reporting 2 fun _ => true) (some .zero) none waitingStart =
        (some (.ok ()), last) ∧
      ((Order.awaitQuorum (some .zero)).perform (reporting 2 fun _ => true) waitingPair none
        waitingStart).1.getD waitingPair = waitingPair) ∧
    ∃ rounds last, waitingPair.Awaits (reporting 2 fun node => node.serial = 0) none none
        waitingStart.clock waitingStart rounds (.error (.nodeNotRunning "crate_pair_1")) last ∧
      ∃ round ∈ rounds, ∃ member, round.FirstDown waitingPair member ∧
        member.name = "crate_pair_1" ∧
        ∀ node request, .asked node request ∉ round.before.since round.after := by
  refine ⟨?late, ?whole, ?down⟩
  case late =>
    have given : (waitingPair.awaitQuorum (reporting 1 fun _ => true) (some (.ofMillis 150)) none
        waitingStart).1 = some (.error (.quorumTimeout 1 2 (.ofMillis 150))) := by
      decide +kernel
    rcases quorum_contract (reporting 1 fun _ => true) waitingPair (some (.ofMillis 150)) none
      waitingStart with ⟨comes, _, meaning, _⟩
    rcases (comes _ _).mp (Prod.ext given rfl) with ⟨rounds, _, awaits⟩
    rcases meaning _ _ _ awaits with ⟨_, _, _, late, few⟩
    rcases late _ _ _ rfl with ⟨_, _, _, ending, later⟩
    exact ⟨rounds, _, awaits, few rfl (by decide), ending, later⟩
  case whole =>
    let looked := (ensureRunning (reporting 2 fun _ => true) waitingPair.handles none waitingStart).2
    have running : (ensureRunning (reporting 2 fun _ => true) waitingPair.handles none
        waitingStart).1 = some (.ok ()) := by
      decide +kernel
    have reported : ((waitingPair.execute (reporting 2 fun _ => true) membershipQuery [] none
        looked).1.bind Except.toOption).map Response.rowCount = some waitingPair.memberCount := by
      decide +kernel
    rcases asks : waitingPair.execute (reporting 2 fun _ => true) membershipQuery [] none looked with
      ⟨_ | (error | response), after⟩ <;> rw [asks] at reported
    · cases reported
    · cases reported
    rcases quorum_contract (reporting 2 fun _ => true) waitingPair (some .zero) none waitingStart
      with ⟨_, _, _, whole, keeps⟩
    exact ⟨after, whole looked after response (Prod.ext running rfl) asks (Option.some.inj reported),
      keeps _ _ rfl⟩
  case down =>
    have given : (waitingPair.awaitQuorum (reporting 2 fun node => node.serial = 0) none none
        waitingStart).1 = some (.error (.nodeNotRunning "crate_pair_1")) := by
      decide +kernel
    rcases quorum_contract (reporting 2 fun node => node.serial = 0) waitingPair none none
      waitingStart with ⟨comes, _, meaning, _⟩
    rcases (comes _ _).mp (Prod.ext given rfl) with ⟨rounds, _, awaits⟩
    rcases meaning _ _ _ awaits with ⟨_, notRunning, unasked, _⟩
    rcases (notRunning _).mp rfl with ⟨round, among, member, firstDown, named⟩
    exact ⟨rounds, _, awaits, round, among, member, firstDown, named,
      unasked round among member firstDown⟩

end Harness

end GracefulStop
