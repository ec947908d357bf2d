import GracefulStop.Proofs.Cluster.Leaving

/-!
# What asking a node to leave comes to

To make a node leave, its process is called at most twice: it is asked to leave, and if that went well
it is waited for. These two calls decide the outcome, and nothing else of the cluster is touched.
-/

namespace GracefulStop

variable {State : Type} {world : World State}

/-- Whether an event is a call on the process of a node. -/
def Event.isCall : Event → Bool
  | .launched _ _ => true
  | .started _ _ => true
  | .stopped _ _ => true
  | .signalled _ _ => true
  | .waited _ _ _ => true
  | .checked _ _ => true
  | _ => false

/-- The calls on processes in the course of a run. -/
def Run.calls (before after : Run State) : List Event := (before.since after).filter Event.isCall

/-- Surroundings are touched by what is done, never by what is written down. -/
theorem World.Touch.about {deed : Deed} {now : Instant} {before after : State}
    (touch : world.Touch deed now before after) : deed.about = deed := by
  cases touch <;> rfl

theorem Event.not_isCall_of_work {event : Event} (work : event.deed = .work) : event.isCall = false := by
  cases event <;> first | rfl | cases work

namespace Run

variable {may might : Deed → Prop} {run between last : Run State}

@[simp]
theorem calls_self (run : Run State) : run.calls run = [] := by
  simp [calls]

theorem calls_trans (first : Course world may run between) (second : Course world might between last) :
    run.calls last = run.calls between ++ between.calls last := by
  rw [calls, first.since_trans second, List.filter_append, calls, calls]

theorem calls_of_meanwhile {meanwhile : List Event} {event : Event}
    (written : run.since last = meanwhile ++ [event]) (work : ∀ event ∈ meanwhile, event.deed = .work)
    (call : event.isCall = true) : run.calls last = [event] := by
  have silent : meanwhile.filter Event.isCall = [] := by
    rw [List.filter_eq_nil_iff]
    intro event member
    rw [Event.not_isCall_of_work (work event member)]
    exact Bool.false_ne_true
  rw [calls, written, List.filter_append, silent, List.filter_cons_of_pos call]
  rfl

end Run

namespace Harness

variable {node : Node} {timeout : Duration} {limit : Option Instant} {run last : Run State}

/-- The calls by which a node is made to leave, and what they come to. Nothing comes of them if the
wait is cut off. -/
inductive Departs (node : Node) (timeout : Duration) :
    List Event → Option (Except ClusterError Int) → Prop
  | refused (error : ClusterError) :
      Departs node timeout [.signalled node (.error error)] (some (.error error))
  | cut : Departs node timeout [.signalled node (.ok ())] none
  | broken (error : ClusterError) :
      Departs node timeout [.signalled node (.ok ()), .waited node timeout (.error error)]
        (some (.error error))
  | stays :
      Departs node timeout [.signalled node (.ok ()), .waited node timeout (.ok none)]
        (some (.error (.decommissionTimeout node.name timeout)))
  | left (code : Int) :
      Departs node timeout [.signalled node (.ok ()), .waited node timeout (.ok (some code))]
        (some (.ok code))

namespace Departs

variable {calls : List Event} {outcome : Option (Except ClusterError Int)}

theorem ok_iff (departs : Departs node timeout calls outcome) (code : Int) :
    outcome = some (.ok code) ↔ .waited node timeout (.ok (some code)) ∈ calls := by
  cases departs <;> simp [eq_comm]

theorem error_iff (departs : Departs node timeout calls outcome) (error : ClusterError) :
    outcome = some (.error error) ↔
      .signalled node (.error error) ∈ calls ∨ .waited node timeout (.error error) ∈ calls ∨
        .waited node timeout (.ok none) ∈ calls ∧ error = .decommissionTimeout node.name timeout := by
  cases departs <;> simp [eq_comm]

theorem ne_nil (departs : Departs node timeout calls outcome) : calls ≠ [] := by
  cases departs <;> exact List.cons_ne_nil _ _

end Departs

theorem calls_signalNode {result : Except ClusterError Unit}
    (ended : Action.signalNode world node limit run = (some result, last)) :
    run.calls last = [.signalled node result] := by
  rw [Run.calls, Action.since_signalNode ended]
  rfl

theorem calls_waitForNode {result : Except ClusterError (Option Int)}
    (ended : Action.waitForNode world node timeout limit run = (some result, last)) :
    run.calls last = [.waited node timeout result] := by
  rcases Action.since_waitForNode ended with ⟨meanwhile, written, work⟩
  exact Run.calls_of_meanwhile written work rfl

/-- A wait that is cut off is not written down. -/
theorem calls_of_cut (ended : Action.waitForNode world node timeout limit run = (none, last)) :
    run.calls last = [] := by
  rcases awaited : Action.await world (world.wait node timeout) limit run with ⟨_ | result, between⟩
  · cases ended.symm.trans (Action.bind_of_eq_none awaited)
    have course : Run.Course world (· = .wait node timeout) run last :=
      (Action.follows_await (.wait node timeout) (by rfl)).course awaited
    rw [Run.calls, List.filter_eq_nil_iff]
    intro event member
    rcases course.of_mem_since member with wrote | work
    · cases wrote
    · rw [Event.not_isCall_of_work work]
      exact Bool.false_ne_true
  · cases ended.symm.trans (Action.bind_of_eq_some awaited)

theorem departs_leave {outcome : Option (Except ClusterError Int)}
    (ended : leave world node timeout limit run = (outcome, last)) :
    Departs node timeout (run.calls last) outcome := by
  rcases signalled : Action.signalNode world node limit run with ⟨_ | (error | ⟨⟩), asked⟩
  · cases signalled
  · cases ended.symm.trans (Action.bind_of_eq_some signalled)
    rw [calls_signalNode signalled]
    exact .refused error
  · replace ended := (Action.bind_of_eq_some signalled).symm.trans ended
    have first : Run.Course world (Deed.Within fun _ => True) run asked :=
      (Action.follows_signalNode trivial).course signalled
    rcases waited : Action.waitForNode world node timeout limit asked with ⟨_ | result, between⟩
    all_goals
      have second : Run.Course world (Deed.Within fun _ => True) asked between :=
        (Action.follows_waitForNode trivial).course waited
    · cases ended.symm.trans (Action.bind_of_eq_none waited)
      rw [Run.calls_trans first second, calls_signalNode signalled, calls_of_cut waited]
      exact .cut
    · replace ended := ended.symm.trans (Action.bind_of_eq_some waited)
      rcases result with error | (_ | code)
      all_goals
        cases ended
        rw [Run.calls_trans first second, calls_signalNode signalled, calls_waitForNode waited]
      · exact .broken error
      · exact .stays
      · exact .left code

theorem leave_of_exit {asked : Run State} {code : Int}
    (signalled : Action.signalNode world node limit run = (some (.ok ()), asked))
    (waited : Action.waitForNode world node timeout limit asked = (some (.ok (some code)), last)) :
    leave world node timeout limit run = (some (.ok code), last) :=
  (Action.bind_of_eq_some signalled).trans (Action.bind_of_eq_some waited)

/-- A cluster after one of its nodes was asked to leave. -/
structure Marks (harness : Harness) (index : Nat) (outcome : Option (Except ClusterError Int))
    (left : Harness) : Prop where
  rest : left = { harness with handles := left.handles }
  others : ∀ other, other ≠ index → left.handles[other]? = harness.handles[other]?
  here : ∀ handle, harness.handles[index]? = some handle → ∃ marked,
    left.handles[index]? = some marked ∧ marked.node = handle.node ∧
      (marked.decommissioned = true ↔
        handle.decommissioned = true ∨ ∃ code, outcome = some (.ok code))

theorem marks_self {harness : Harness} {index : Nat} {outcome : Option (Except ClusterError Int)}
    (failed : ∀ code, outcome ≠ some (.ok code)) : harness.Marks index outcome harness where
  rest := rfl
  others _ _ := rfl
  here handle found := ⟨handle, found, rfl, by simp [failed]⟩

theorem marks_markLeft (harness : Harness) (index : Nat) (code : Int) :
    harness.Marks index (some (.ok code)) (harness.markLeft index) where
  rest := rfl
  others other different := List.getElem?_modify_ne _ _ (Ne.symm different)
  here handle found := by
    refine ⟨{ handle with decommissioned := true }, ?_, rfl, by simp⟩
    simp [markLeft, found]

theorem markLeft_markLeft (harness : Harness) (index : Nat) :
    (harness.markLeft index).markLeft index = harness.markLeft index := by
  have again : (fun handle : Handle => { handle with decommissioned := true }) ∘
      (fun handle : Handle => { handle with decommissioned := true }) =
        fun handle : Handle => { handle with decommissioned := true } := rfl
  rw [markLeft, markLeft, List.modify_modify_eq, again]

theorem node?_eq_ok {harness : Harness} {index : Nat} {handle : Handle}
    (found : harness.handles[index]? = some handle) : harness.node? index = .ok handle.node := by
  rw [node?, found]

theorem decommission_of_outside {harness : Harness} {index : Nat}
    (outside : harness.handles.length ≤ index) :
    harness.decommission world index timeout limit run =
      (some (.error (.nodeNotFound index), harness), run) := by
  have missing : harness.node? index = .error (.nodeNotFound index) := by
    rw [node?, List.getElem?_eq_none outside]
  rw [decommission, missing]
  rfl

/-- Whatever a node is asked, the cluster is as it was unless the node has left. -/
theorem decommission_cases {harness : Harness} {index : Nat} {node : Node}
    (found : harness.node? index = .ok node) (timeout : Duration) (limit : Option Instant)
    (run : Run State) :
    ∃ outcome left last, leave world node timeout limit run = (outcome, last) ∧
      harness.decommission world index timeout limit run = (outcome.map (·, left), last) ∧
      harness.Marks index outcome left ∧
      ((∀ code, outcome ≠ some (.ok code)) ∨ left = harness.markLeft index) := by
  rcases came : leave world node timeout limit run with ⟨_ | (error | code), last⟩
  · refine ⟨none, harness, last, rfl, ?_, marks_self (by simp), .inl (by simp)⟩
    rw [decommission, found]
    exact Action.bind_of_eq_none came
  · exact ⟨_, harness, last, rfl, decommission_of_leave found came, marks_self (by simp), .inl (by simp)⟩
  · exact ⟨_, _, last, rfl, decommission_of_leave found came, harness.marks_markLeft index code, .inr rfl⟩

/-- For every cluster, node and time, whatever the processes of its nodes do, and also if the call is cut
off: no process is called if and only if there is no node at the index. Else the node is asked to leave
and perhaps waited for, which decides the outcome. The mark of the node is set if it was or if an exit
code is given, and nothing else changes. A second call gives an exit code that is reported again. -/
theorem decommission_frame (world : World State) (harness : Harness) (index : Nat) (timeout : Duration)
    (limit : Option Instant) (run : Run State) :
    ∃ outcome left last,
      harness.decommission world index timeout limit run = (outcome.map (·, left), last) ∧
      (outcome = some (.error (.nodeNotFound index)) ∧ run.calls last = [] ↔
        harness.handles.length ≤ index) ∧
      (harness.handles.length ≤ index → left = harness ∧ last = run) ∧
      ∀ handle, harness.handles[index]? = some handle →
        Departs handle.node timeout (run.calls last) outcome ∧
        (∀ code, outcome = some (.ok code) ↔
          .waited handle.node timeout (.ok (some code)) ∈ run.calls last) ∧
        (∀ error, outcome = some (.error error) ↔
          .signalled handle.node (.error error) ∈ run.calls last ∨
          .waited handle.node timeout (.error error) ∈ run.calls last ∨
          .waited handle.node timeout (.ok none) ∈ run.calls last ∧
            error = .decommissionTimeout handle.name timeout) ∧
        harness.Marks index outcome left ∧
        Run.Course world (Deed.Within (Deed.Leaves handle.node timeout)) run last ∧
        (∀ (View : Type) (view : State → View),
          (∀ deed now before after, Deed.Leaves handle.node timeout deed ∨ deed = .work →
            world.Touch deed now before after → view after = view before) →
          view last.state = view run.state) ∧
        ∀ code, outcome = some (.ok code) → ∀ longest limit again asked final,
          Action.signalNode world handle.node limit again = (some (.ok ()), asked) →
          Action.waitForNode world handle.node longest limit asked = (some (.ok (some code)), final) →
          left.decommission world index longest limit again = (some (.ok code, left), final) := by
  by_cases outside : harness.handles.length ≤ index
  · refine ⟨some (.error (.nodeNotFound index)), harness, run, decommission_of_outside outside, ?_, ?_, ?_⟩
    · simp [outside]
    · exact fun _ => ⟨rfl, rfl⟩
    · intro handle found
      rw [List.getElem?_eq_none outside] at found
      cases found
  · obtain ⟨handle, stands⟩ : ∃ handle, harness.handles[index]? = some handle :=
      ⟨_, List.getElem?_eq_getElem (Nat.lt_of_not_le outside)⟩
    rcases harness.decommission_cases (node?_eq_ok stands) timeout limit run with
      ⟨outcome, left, last, leaves, decommissions, marks, unmarked⟩
    have departs := departs_leave leaves
    have course := (follows_leave handle.node timeout).course leaves
    refine ⟨outcome, left, last, decommissions, ?_, fun out => absurd out outside, ?_⟩
    · simp [outside, departs.ne_nil]
    · intro handle' stands'
      cases stands.symm.trans stands'
      refine ⟨departs, departs.ok_iff, departs.error_iff, marks, course, ?_, ?_⟩
      · intro View view kept
        refine course.view_eq view fun deed now before after allowed touch => ?_
        rw [Deed.Within, touch.about] at allowed
        exact kept deed now before after allowed touch
      -- The second call finds the same node behind the marked handle, and marks it in vain.
      · rintro code rfl longest limit again asked final signalled waited
        rcases unmarked with failed | rfl
        · exact absurd rfl (failed code)
        · rcases marks.here handle stands with ⟨marked, standsMarked, same, _⟩
          have found := node?_eq_ok standsMarked
          rw [same] at found
          rw [decommission_of_leave found (leave_of_exit signalled waited), markLeft_markLeft]
          rfl

/-- Where nodes are processes of a host, the process of every other node stays what it was. -/
theorem lookup_of_leave {Rest : Type} {launcher : Launcher}
    {ask : Node → Request → Look → Premises Rest →
      Progress (Except QueryError Response) × Premises Rest} {draw : Draw Rest}
    (ages : ∀ node request look (premises : Premises Rest),
      premises.Ages (ask node request look premises).2)
    {run last : Run (Premises Rest)} {outcome : Option (Except ClusterError Int)}
    (ended : leave (launcher.world ask draw) node timeout limit run = (outcome, last)) {serial : Nat}
    (other : serial ≠ node.serial) :
    last.state.processes.lookup serial = run.state.processes.lookup serial := by
  have course := (follows_leave node timeout).course ended
  refine course.view_eq (fun premises => premises.processes.lookup serial) ?_
  intro deed now before after allowed touch
  rw [Deed.Within, touch.about] at allowed
  cases touch with
  | signal =>
      obtain rfl := allowed.resolve_right (by simp)
      exact (Premises.lookup_setProcess _ _ _ _).trans (if_neg other)
  | wait =>
      obtain ⟨rfl, rfl⟩ := allowed.resolve_right (by simp)
      exact (Premises.lookup_setProcess _ _ _ _).trans (if_neg other)
  | workerAsk => exact congrArg (List.lookup serial) (ages _ _ _ before).processes
  | workerDraw => rfl
  | _ => exact (allowed.elim id (by simp)).elim

end Harness

end GracefulStop
