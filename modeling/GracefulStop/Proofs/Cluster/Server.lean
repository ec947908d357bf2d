import GracefulStop.Proofs.Cluster.Departure
import GracefulStop.Proofs.Cluster.Ends
import GracefulStop.Proofs.Cluster.Settings

/-!
# Settings on a server

A server overwrites a setting when a statement sets it. What a push leaves behind is then the map over
what there was before, and pushing the map again changes nothing. A push that breaks off has changed
settings of the map only, so that another push, if it succeeds, leaves behind the same as if there had
been no other.

Meanwhile the workers of workloads send statements of their own, but none of those sets a setting.
-/

namespace GracefulStop

variable {State : Type} {world : World State} {may : Deed → Prop} {run last : Run State}
  {limit : Option Instant}

/-! ## Statements of others -/

/-- A request that sets no setting. -/
def Request.Spares (request : Request) : Prop := ∀ entry, request ≠ Harness.setting entry

/-- Nobody waits for the answer to a request that sets a setting. -/
def Load.Spares (load : Load) : Prop :=
  ∀ slot ∈ load.slots, ∀ call, slot.call = some call → call.request.Spares

def Run.Spares (run : Run State) : Prop := ∀ load ∈ run.loads, load.Spares

/-- A run that one without workloads has led to. -/
def Run.Reached (world : World State) (run : Run State) : Prop :=
  ∃ base, base.loads = [] ∧ Course world (fun _ => True) base run

theorem Text.enclosed_ne_of_take {front back rest more tail last : String} (count : Nat)
    (inFront : count ≤ front.toList.length) (inBack : count ≤ back.toList.length)
    (unlike : front.toList.take count ≠ back.toList.take count) :
    front ++ rest ++ tail ≠ back ++ more ++ last := by
  intro same
  have chars := congrArg (fun text => text.toList.take count) same
  simp only [String.toList_append, List.append_assoc, List.take_append_of_le_length inFront,
    List.take_append_of_le_length inBack] at chars
  exact unlike chars

/-- The statements of workloads set no setting, as one can tell from their first letters. -/
theorem OperationKind.statement_ne (kind : OperationKind) (table key : String) :
    kind.statement table ≠ Harness.settingStatement key := by
  unfold Harness.settingStatement
  cases kind <;> unfold OperationKind.statement <;> dsimp only <;>
    exact Text.enclosed_ne_of_take 3 (by decide +kernel) (by decide +kernel) (by decide +kernel)

theorem OperationKind.spares_statement (kind : OperationKind) (table : String) (params : List Json) :
    (Request.single (kind.statement table) params).Spares :=
  fun entry same => kind.statement_ne table entry.1 (congrArg Request.statement same)

namespace World

/-- What a server holds as its settings, where a statement that sets one overwrites it and no other. A
statement that fails may have been done or not. -/
structure Server (world : World State) where
  /-- The value of a setting, if it was set. -/
  value : State → String → Option Json
  taken : ∀ node key given look state response,
    (world.query node (Harness.setting (key, given)) look state).1 = .done (.ok response) →
      value (world.query node (Harness.setting (key, given)) look state).2 key = some given
  own : ∀ node key given look state other, other ≠ key →
    value (world.query node (Harness.setting (key, given)) look state).2 other = value state other
  spared : ∀ node request look state, request.Spares →
    value (world.query node request look state).2 = value state
  rest : ∀ deed now before after, world.Touch deed now before after →
    (∀ node request, deed ≠ .ask node request) → deed ≠ .work → value after = value before

namespace Server

variable (server : world.Server) {key : String}

/-- A statement for another setting, or for none, leaves a setting as it is. -/
theorem kept_of_query {request : Request} (other : ∀ given, request ≠ Harness.setting (key, given))
    (node : Node) (look : Look) (state : State) :
    server.value (world.query node request look state).2 key = server.value state key := by
  by_cases spares : request.Spares
  · exact congrFun (server.spared node request look state spares) key
  · unfold Request.Spares at spares
    push Not at spares
    rcases spares with ⟨⟨set, given⟩, rfl⟩
    refine server.own node set given look state key ?_
    rintro rfl
    exact other given rfl

/-! ## What workers do -/

theorem spares_await {load : Load} {index : Nat} {slot : WorkerSlot} (spares : load.Spares)
    (waits : ∀ call, slot.call = some call → call.request.Spares) : (load.await index slot).Spares := by
  intro other member
  rcases List.mem_or_eq_of_mem_set member with old | rfl
  · exact spares other old
  · exact waits

theorem kept_of_lookAtCall {load : Load} {call : PendingCall} (spares : load.Spares)
    (spared : call.request.Spares) (worker : WorkerLabel) (run : Run State) :
    (load.lookAtCall world worker call run).1.Spares ∧
      server.value (load.lookAtCall world worker call run).2.state = server.value run.state := by
  have kept := server.spared load.node call.request call.look run.state spared
  rcases answer : world.query load.node call.request call.look run.state with ⟨progress, state⟩
  rw [answer] at kept
  have waits : ∀ due look other, (⟨due, some { call with look }⟩ : WorkerSlot).call = some other →
      other.request.Spares := by
    rintro due look _ ⟨⟩
    exact spared
  cases progress with
  | done result =>
      simp only [Load.lookAtCall, answer]
      exact ⟨spares_await spares (by simp), kept⟩
  | pause length =>
      simp only [Load.lookAtCall, answer]
      exact ⟨spares_await spares (waits _ _), kept⟩
  | stalled =>
      simp only [Load.lookAtCall, answer]
      exact ⟨spares_await spares (waits _ call.look), kept⟩

theorem kept_of_goOn {load : Load} (spares : load.Spares) (position index : Nat)
    (run : Run State) :
    (load.goOn world position index run).1.Spares ∧
      server.value (load.goOn world position index run).2.state = server.value run.state := by
  unfold Load.goOn
  split
  · rename_i worker slot stands place
    split
    · rename_i call waiting
      exact server.kept_of_lookAtCall spares
        (spares slot (List.mem_of_getElem? place) call waiting) ⟨position, index, worker.kind⟩ run
    · have drawn : world.Touches .draw run.clock run.state
          (worker.kind.params world.draw run.state).2 :=
        worker.kind.touches_params (fun bound state => .draw bound run.clock state) run.state
      have kept : server.value (worker.kind.params world.draw run.state).2 = server.value run.state :=
        World.view_of_touches (fun before after touched =>
          server.rest _ _ before after touched (by simp) (by simp)) drawn
      rcases draws : worker.kind.params world.draw run.state with ⟨params, state⟩
      rw [draws] at kept
      dsimp only
      split
      · let call : PendingCall :=
          ⟨.single (worker.kind.statement load.table) params, ⟨run.clock, run.clock, 0⟩⟩
        have sparesLooked : (load.perform (Workload.lookSteps index)).Spares := spares
        have spared : call.request.Spares := worker.kind.spares_statement load.table params
        rcases server.kept_of_lookAtCall sparesLooked spared ⟨position, index, worker.kind⟩ _ with
          ⟨sparesAfter, keptAfter⟩
        exact ⟨sparesAfter, keptAfter.trans kept⟩
      · exact ⟨spares, rfl⟩
  · exact ⟨spares, rfl⟩

theorem kept_of_work (spares : run.Spares) (due : Instant) (position index : Nat) :
    (run.work world due position index).Spares ∧
      server.value (run.work world due position index).state = server.value run.state := by
  unfold Run.work
  cases stands : run.loads[position]? with
  | none => exact ⟨spares, rfl⟩
  | some load =>
      let moved : Run State := { run with clock := max run.clock due }
      have went := load.went_goOn world position index moved
      rcases server.kept_of_goOn (spares load (List.mem_of_getElem? stands)) position index moved
        with ⟨sparesLoad, kept⟩
      refine ⟨fun other member => ?_, kept⟩
      rcases List.mem_or_eq_of_mem_set member with old | rfl
      · exact spares other (went.loads ▸ old)
      · exact sparesLoad

/-! ## What happens in a course -/

/-- What does not set a setting leaves it as it is. -/
theorem kept_of_touch {deed : Deed} {now : Instant} {before after : State}
    (touched : world.Touch deed now before after) (aside : deed ≠ .work)
    (unset : ∀ node given, deed ≠ .ask node (Harness.setting (key, given))) :
    server.value after key = server.value before key := by
  by_cases asks : ∃ node request, deed = .ask node request
  · rcases asks with ⟨node, request, rfl⟩
    cases touched with
    | ask node request look =>
        exact server.kept_of_query (fun given same => unset node given (same ▸ rfl)) node look before
  · have quiet : ∀ node request, deed ≠ .ask node request :=
      fun node request same => asks ⟨node, request, same⟩
    exact congrFun (server.rest deed now before after touched quiet aside) key

include server

theorem spares_stride (stride : Run.Stride world may run last) (spares : run.Spares) : last.Spares := by
  cases stride with
  | load allowed =>
      intro load member
      rcases List.mem_append.mp member with old | new
      · exact spares load old
      · rw [List.mem_singleton.mp new]
        intro slot among call waits
        rcases List.mem_map.mp among with ⟨_, _, rfl⟩
        cases waits
  | @steer moved steps allowed ofCaller =>
      intro load member
      rcases List.mem_iff_getElem?.mp member with ⟨position, stands⟩
      rw [List.getElem?_modify] at stands
      rcases Option.map_eq_some_iff.mp stands with ⟨before, stood, rfl⟩
      have sparesBefore := spares before (List.mem_of_getElem? stood)
      split <;> exact sparesBefore
  | work next => exact (server.kept_of_work spares _ _ _).1
  | _ => exact spares

theorem spares_course (course : Run.Course world may run last) (spares : run.Spares) : last.Spares := by
  induction course with
  | refl => exact spares
  | tail _ stride ih => exact server.spares_stride stride ih

theorem spares_of_reached (reached : run.Reached world) : run.Spares := by
  rcases reached with ⟨base, none, course⟩
  have sparesBase : base.Spares := by simp [Run.Spares, none]
  exact server.spares_course course sparesBase

/-- What a course does not set stays as it is. -/
theorem kept_of_stride (stride : Run.Stride world may run last) (spares : run.Spares)
    (aside : ¬may .work) (unset : ∀ node given, ¬may (.ask node (Harness.setting (key, given)))) :
    server.value last.state key = server.value run.state key := by
  cases stride with
  | touch allowed touched =>
      refine server.kept_of_touch touched (fun same => aside (same ▸ allowed)) fun node given same => ?_
      exact unset node given (same ▸ allowed)
  | work next => exact congrFun (server.kept_of_work spares _ _ _).2 key
  | _ => rfl

theorem kept_of_course (course : Run.Course world may run last) (spares : run.Spares)
    (aside : ¬may .work) (unset : ∀ node given, ¬may (.ask node (Harness.setting (key, given)))) :
    server.value last.state key = server.value run.state key := by
  induction course with
  | refl => rfl
  | tail first stride ih =>
      exact (server.kept_of_stride stride (server.spares_course first spares) aside unset).trans ih

end Server

end World

/-- What is done apart from setting settings. -/
def Deed.Spares : Deed → Prop
  | .ask _ request => request.Spares
  | .work => False
  | _ => True

namespace Harness

variable (server : world.Server) {harness : Harness} {settings : KeyMap Json} {key : String}

/-- A setting has the value that it was given by a statement that has succeeded. -/
theorem value_of_execute {given : Json} {response : Response}
    (ended : harness.execute world (settingStatement key) [given] limit run =
      (some (.ok response), last)) : server.value last.state key = some given := by
  rcases Action.bind_eq_some.mp ended with ⟨picked, chosen, _, ended⟩
  cases picked with
  | error error => cases ended
  | ok node =>
      rcases Action.bind_eq_some.mp ended with ⟨outcome, _, executed, ended⟩
      cases outcome with
      | error error => cases ended
      | ok answer =>
          cases ended
          have follows : (Action.query world node (setting (key, given))).Follows world
              (Deed.Within fun _ => True) := Action.follows_query trivial
          rcases last_of_attemptsFrom follows executed with ⟨between, _, answers⟩
          rcases Action.bind_eq_some.mp answers with ⟨_, asked, _, answers⟩
          rcases Action.noted_eq_some answers with ⟨answered, awaited, rfl⟩
          rcases Action.bind_eq_some.mp awaited with ⟨began, _, looked, polled⟩
          cases looked
          rcases Action.found_of_poll (World.Touch.ask node (setting (key, given))) polled with
            ⟨found, moment, _, _, came, rfl⟩
          exact server.taken node key given moment found.state _ came

/-- The settings of a map, and where it has none, what there was before. -/
def overlaid (settings : KeyMap Json) (before : String → Option Json) (key : String) : Option Json :=
  (settings.lookup key).or (before key)

/-- Whatever comes of a push, what is not in the map stays as it is. -/
theorem kept_of_pushSettings {outcome : Option (Except ClusterError Unit)} (sorted : settings.IsSorted)
    (spares : run.Spares) (ended : harness.pushSettings world settings limit run = (outcome, last))
    (absent : settings.lookup key = none) :
    server.value last.state key = server.value run.state key := by
  have course := (harness.follows_pushSettings settings).course ended
  refine server.kept_of_course course spares ?_ ?_
  · rintro ⟨entry, _, ⟨⟩⟩
  · rintro node given ⟨entry, member, same⟩
    cases setting_injective same
    cases absent.symm.trans (sorted.mem_iff.mp member)

/-- What a push leaves behind that has succeeded. -/
theorem overlaid_of_pushSettings (sorted : settings.IsSorted) (spares : run.Spares)
    (ended : harness.pushSettings world settings limit run = (some (.ok ()), last)) :
    server.value last.state = overlaid settings (server.value run.state) := by
  induction settings generalizing run with
  | nil =>
      cases ended
      rfl
  | cons entry rest ih =>
      rcases entry with ⟨key, given⟩
      have above := (List.pairwise_cons.mp sorted).1
      have sortedRest : KeyMap.IsSorted rest := (List.pairwise_cons.mp sorted).2
      rcases Action.bind_eq_some.mp ended with ⟨result, between, sets, ended⟩
      cases result with
      | error error => cases ended
      | ok response =>
          have course := (harness.follows_execute (settingStatement key) [given]).course sets
          have onward := ih sortedRest (server.spares_course course spares) ended
          rw [onward]
          funext other
          rw [overlaid, overlaid, KeyMap.lookup_cons]
          split_ifs with same
          · subst same
            have unlisted : List.lookup other rest = none := by
              cases found : List.lookup other rest with
              | none => rfl
              | some value =>
                  have later := above _ (sortedRest.mem_iff.mpr found)
                  exact absurd later (String.lt_irrefl other)
            rw [unlisted, value_of_execute server sets]
            rfl
          · have kept : server.value between.state other = server.value run.state other := by
              refine server.kept_of_course course spares (by rintro ⟨⟩) fun node value asks => ?_
              have keys := congrArg Request.statement asks
              exact same (settingStatement_injective keys)
            rw [kept]

/-- Whatever the surroundings answer and whichever nodes are running: the settings that a push has set are
the first ones of the map in the order of the octets of their keys, each by one statement that has
succeeded, with its value as the only parameter. The push succeeds exactly if these are all. Otherwise it
comes to the error of the first that is missing, or is cut off, and no statement is sent for any setting
after that one. In surroundings that answer in time it comes to a result.

Where a server overwrites settings, another push of the map that succeeds changes nothing after one that
has succeeded, and after one that has broken off it leaves behind the same as a single one. -/
theorem push_contract (world : World State) (harness : Harness) {settings : KeyMap Json}
    (sorted : settings.IsSorted) :
    (settings.Pairwise fun entry other => entry.1.toUTF8.toList < other.1.toUTF8.toList) ∧
    (∀ limit run outcome last, harness.pushSettings world settings limit run = (outcome, last) →
      ∃ done missing, Pushed world harness limit settings run last outcome done missing ∧
        ∀ key, (∃ node params response,
          .answered node (.single (settingStatement key) params) (.ok response) ∈ run.since last) ↔
            ∃ value, (key, value) ∈ done) ∧
    (∀ latest, world.Prompt latest → ∀ run, ∃ result last,
      harness.pushSettings world settings none run = (some result, last)) ∧
    ∀ (server : world.Server) (again : Harness) (limit later : Option Instant)
      (run first between second : Run State) (outcome : Option (Except ClusterError Unit)),
      run.Reached world →
      harness.pushSettings world settings limit run = (outcome, first) →
      Run.Course world (Deed.Within Deed.Spares) first between →
      again.pushSettings world settings later between = (some (.ok ()), second) →
      (outcome = some (.ok ()) → server.value second.state = server.value first.state) ∧
      ∀ (limit : Option Instant) (other last : Run State), other.Reached world →
        server.value other.state = server.value run.state →
        harness.pushSettings world settings limit other = (some (.ok ()), last) →
        server.value second.state = server.value last.state := by
  refine ⟨sorted.imp fun less => Text.lt_iff_toUTF8_lt.mp less, ?_, ?_, ?_⟩
  · intro limit run outcome last ended
    rcases exists_pushed world harness settings limit run with ⟨done, missing, pushed⟩
    rw [ended] at pushed
    exact ⟨done, missing, pushed, pushed.succeeded_iff⟩
  · intro latest prompt run
    exact harness.ends_pushSettings prompt settings run
  · intro server again limit later run first between second outcome reached endedFirst course endedSecond
    have spares : run.Spares := server.spares_of_reached reached
    have sparesFirst := server.spares_course
      ((harness.follows_pushSettings settings).course endedFirst) spares
    have keptBetween : server.value between.state = server.value first.state := by
      funext key
      refine server.kept_of_course course sparesFirst id fun node given asks => ?_
      exact asks (key, given) rfl
    have left := overlaid_of_pushSettings server sorted (server.spares_course course sparesFirst)
      endedSecond
    rw [keptBetween] at left
    -- A push changes only what the second one sets anyway.
    have leftAll : server.value second.state = overlaid settings (server.value run.state) := by
      rw [left]
      funext key
      unfold overlaid
      cases found : settings.lookup key with
      | some value => rfl
      | none => rw [kept_of_pushSettings server sorted spares endedFirst found]
    refine ⟨fun succeeded => ?_, fun limit other last reachedOther same ended => ?_⟩
    · rw [succeeded] at endedFirst
      rw [leftAll, overlaid_of_pushSettings server sorted spares endedFirst]
    · rw [leftAll, ← same]
      exact (overlaid_of_pushSettings server sorted (server.spares_of_reached reachedOther) ended).symm

end Harness

/-! ## A server -/

/-- Surroundings that keep the parameter of every statement that has one. One statement is refused, which
is told by how many there were before. -/
def World.keeping (refused : Nat) : World (Nat × List (String × Json)) where
  launch _ _ state := (.ok (), state)
  connect _ _ state := (.ok (), state)
  record _ _ state := (.ok (), state)
  portInUse _ _ state := (false, state)
  start _ _ state := (.done (.ok ()), state)
  stop _ _ state := (.ok (), state)
  signal _ _ state := (.ok (), state)
  wait _ _ _ state := (.done (.ok (some 0)), state)
  isRunning _ _ state := (true, state)
  query _ request _ state :=
    if state.1 = refused then (.done (.error (.sql none "refused")), state.1 + 1, state.2)
    else match request with
      | .single statement [given] =>
        (.done (.ok (.affected 1)), state.1 + 1, (statement, given) :: state.2)
      | _ => (.done (.ok (.affected 0)), state.1 + 1, state.2)
  draw _ state := (0, state)

/-- What is kept for the statement that sets a setting is the value of this setting. -/
def World.keeper (refused : Nat) : (World.keeping refused).Server where
  value state key := state.2.lookup (Harness.settingStatement key)
  taken := by
    intro node key given look state response came
    simp only [World.keeping, Harness.setting] at came ⊢
    split at came
    · cases came
    · rw [if_neg ‹_›]
      exact List.lookup_cons_self
  own := by
    intro node key given look state other different
    have unlike : Harness.settingStatement other ≠ Harness.settingStatement key :=
      fun same => different (Harness.settingStatement_injective same)
    simp only [World.keeping, Harness.setting]
    split
    · rfl
    · rw [KeyMap.lookup_cons, if_neg unlike]
  spared := by
    intro node request look state spares
    funext key
    simp only [World.keeping]
    split
    · rfl
    · split
      · rename_i statement given
        have unlike : Harness.settingStatement key ≠ statement := by
          rintro rfl
          exact spares (key, given) rfl
        rw [KeyMap.lookup_cons, if_neg unlike]
      · rfl
  rest := by
    intro deed now before after touched quiet aside
    cases touched with
    | ask node request => exact absurd rfl (quiet node request)
    | workerAsk => exact absurd rfl aside
    | _ => rfl

namespace Harness

/-- Of two settings the second is refused. When they are pushed once more, both are set as if they had
been pushed only once. -/
theorem push_contract_of_pair :
    let settings : KeyMap Json := [("a", .int 1), ("b", .int 2)]
    let begun : Run (Nat × List (String × Json)) := .start (0, []) ⟨42000, 44000, false⟩
    let fresh : Run (Nat × List (String × Json)) := .start (2, []) ⟨42000, 44000, false⟩
    ∃ first second once,
      waitingPair.pushSettings (.keeping 1) settings none begun =
        (some (.error (.query (.sql none "refused"))), first) ∧
      waitingPair.pushSettings (.keeping 1) settings none first = (some (.ok ()), second) ∧
      waitingPair.pushSettings (.keeping 1) settings none fresh = (some (.ok ()), once) ∧
      (World.keeper 1).value second.state = (World.keeper 1).value once.state := by
  intro settings begun fresh
  have sorted : KeyMap.IsSorted settings := List.pairwise_pair.mpr (by decide +kernel)
  let first := (waitingPair.pushSettings (.keeping 1) settings none begun).2
  have failed : (waitingPair.pushSettings (.keeping 1) settings none begun).1 =
      some (.error (.query (.sql none "refused"))) := by
    decide +kernel
  have done : (waitingPair.pushSettings (.keeping 1) settings none first).1 = some (.ok ()) := by
    decide +kernel
  have single : (waitingPair.pushSettings (.keeping 1) settings none fresh).1 = some (.ok ()) := by
    decide +kernel
  have contract := (push_contract (.keeping 1) waitingPair sorted).2.2.2 (World.keeper 1) waitingPair
    none none begun first first _ _ ⟨begun, rfl, .refl⟩ (Prod.ext failed rfl) .refl (Prod.ext done rfl)
  exact ⟨first, _, _, Prod.ext failed rfl, Prod.ext done rfl, Prod.ext single rfl,
    contract.2 none fresh _ ⟨fresh, rfl, .refl⟩ rfl (Prod.ext single rfl)⟩

end Harness

end GracefulStop
