import GracefulStop.Proofs.Workload.Barrier

/-!
# The records of a workload

Every call that ends badly owes a record: an error that is not benign, or the news that the call
broke off. Whatever the order of the steps, the caller who stops a workload takes exactly the records
that are owed, those of one worker in the order of its calls.

The invariant is an account: what a worker has put among the records and what it still carries to them
make up what it owes.
-/

namespace GracefulStop

/-- The records that a call of a worker of some kind owes. -/
def CallOutcome.records (kind : OperationKind) : CallOutcome → List WorkloadError
  | .returned (.ok _) => []
  | .returned (.error error) => if kind.isBenign error then [] else [.query kind error]
  | .panicked message => [.panicked kind message]

namespace WorkerPhase

/-- The records that a worker of some kind carries. -/
def carried (kind : OperationKind) : WorkerPhase → List WorkloadError
  | .returned error => Workload.recordOf kind error
  | .counted error => Workload.recordOf kind error
  | .broken message => [.panicked kind message]
  | _ => []

/-- Whether a worker has a return to count. -/
def isReturned : WorkerPhase → Bool
  | .returned _ => true
  | _ => false

/-- Whether a worker sends no statement any more. -/
def isOver : WorkerPhase → Bool
  | .broken _ => true
  | .leaving => true
  | .finished => true
  | _ => false

end WorkerPhase

namespace Workload

/-- The calls that end in the course of steps, each with its worker. -/
def calls (steps : List Step) : List (Nat × CallOutcome) :=
  steps.filterMap fun
    | .answer index outcome => some (index, outcome)
    | _ => none

/-- How the calls of one worker end in the course of steps. -/
def callsOf (index : Nat) (steps : List Step) : List CallOutcome :=
  ((calls steps).filter (·.1 == index)).map Prod.snd

/-- The records that workers owe in the course of steps, each with its worker. -/
def owed (workers : List Worker) (steps : List Step) : List (Nat × WorkloadError) :=
  (calls steps).flatMap fun (index, outcome) =>
    match workers[index]? with
    | some worker => (outcome.records worker.kind).map (index, ·)
    | none => []

/-- The records that the worker at an index carries, if there is one. -/
def carriedBy (workload : Workload) (index : Nat) : List (Nat × WorkloadError) :=
  match workload.workers[index]? with
  | some worker => (worker.phase.carried worker.kind).map (index, ·)
  | none => []

@[simp]
theorem calls_append (first second : List Step) :
    calls (first ++ second) = calls first ++ calls second := by
  simp [calls]

@[simp]
theorem callsOf_append (index : Nat) (first second : List Step) :
    callsOf index (first ++ second) = callsOf index first ++ callsOf index second := by
  simp [callsOf]

@[simp]
theorem owed_append (workers : List Worker) (first second : List Step) :
    owed workers (first ++ second) = owed workers first ++ owed workers second := by
  simp [owed]

/-- What a worker carries after its call is what the call owes. -/
theorem carried_phaseAfter (kind : OperationKind) (outcome : CallOutcome) :
    (phaseAfter outcome).carried kind = outcome.records kind := by
  unfold phaseAfter
  split <;> rfl

/-- A worker that moves on stays of its kind. -/
theorem kinds_setPhase {workload : Workload} {index : Nat} {kind : OperationKind}
    {before : WorkerPhase} (after : WorkerPhase)
    (stands : workload.workers[index]? = some ⟨kind, before⟩) :
    (workload.setPhase index after).workers.map Worker.kind =
      workload.workers.map Worker.kind := by
  apply List.ext_getElem?
  intro other
  rw [List.getElem?_map, List.getElem?_map, getElem?_setPhase after stands other]
  split
  · subst other
    rw [stands]
    rfl
  · rfl

/-- Records with a worker of their own, filtered by worker. -/
theorem filter_map_owner (owner index : Nat) (records : List WorkloadError) :
    (records.map (owner, ·)).filter (·.1 == index) =
      if index = owner then records.map (owner, ·) else [] := by
  by_cases same : index = owner
  · subst index
    have all : records.filter (fun _ => true) = records := List.filter_eq_self.mpr (by simp)
    simp [List.filter_map, Function.comp_def, all]
  · simp [List.filter_map, Function.comp_def, same, Ne.symm same]

/-- A worker moves on. If what it adds to the entries and carries afterwards is what it carried before
and what is now owed, then entries and carried records still make up what is owed. -/
theorem balance_setPhase {workload : Workload} {index : Nat} {kind : OperationKind}
    {before : WorkerPhase} (after : WorkerPhase) {entries owing : List (Nat × WorkloadError)}
    (added raised : List WorkloadError)
    (stands : workload.workers[index]? = some ⟨kind, before⟩)
    (balanced : added ++ after.carried kind = before.carried kind ++ raised)
    (balance : ∀ other, entries.filter (·.1 == other) ++ workload.carriedBy other =
      owing.filter (·.1 == other)) (other : Nat) :
    (entries ++ added.map (index, ·)).filter (·.1 == other) ++
        (workload.setPhase index after).carriedBy other =
      (owing ++ raised.map (index, ·)).filter (·.1 == other) := by
  have earlier := balance other
  simp only [carriedBy] at earlier ⊢
  rw [getElem?_setPhase after stands other, List.filter_append, List.filter_append,
    filter_map_owner, filter_map_owner]
  by_cases same : other = index
  · subst other
    simp only [stands] at earlier
    simp only [if_true, ← earlier, List.append_assoc, ← List.map_append, balanced]
  · simpa [same] using earlier

/-- The account of a workload after steps. Of every worker, what stands among the records and what is
carried to them is what is owed; the returns that are counted and those that are to be counted are
all returns; and of the calls of a worker only the last one may have broken off, after which the
worker is over. -/
structure Account (first : Workload) (steps : List Step) (workload : Workload) : Prop where
  kinds : workload.workers.map Worker.kind = first.workers.map Worker.kind
  records : ∃ entries : List (Nat × WorkloadError),
    entries.map Prod.snd = workload.collected ++ workload.errors ∧
      ∀ index, entries.filter (·.1 == index) ++ workload.carriedBy index =
        (owed first.workers steps).filter (·.1 == index)
  returns : workload.operations + workload.workers.countP (·.phase.isReturned) =
    (calls steps).countP (·.2.isReturn)
  single : ∀ index, (callsOf index steps).Pairwise fun earlier _ => earlier.isReturn = true
  going : ∀ index worker, workload.workers[index]? = some worker → worker.phase.isOver = false →
    ∀ outcome ∈ callsOf index steps, outcome.isReturn = true

/-- The account of a workload that is about to start. -/
theorem account_start (kinds : List OperationKind) (perKind : Nat) :
    Account (start kinds perKind) [] (start kinds perKind) where
  kinds := rfl
  records := by
    refine ⟨[], rfl, ?_⟩
    intro index
    simp only [carriedBy]
    split
    · rename_i worker stands
      have member := List.mem_of_getElem? stands
      simp only [start, List.mem_flatMap, List.mem_replicate] at member
      obtain ⟨kind, _, _, rfl⟩ := member
      rfl
    · rfl
  returns := by
    simp only [start, calls, List.filterMap_nil, List.countP_nil, Nat.zero_add,
      List.countP_eq_zero, List.mem_flatMap, List.mem_replicate]
    rintro worker ⟨kind, _, _, rfl⟩
    simp [WorkerPhase.isReturned]
  single := by simp [callsOf, calls]
  going := by simp [callsOf, calls]

namespace Account

variable {first workload : Workload} {steps : List Step}

/-- The kind of a worker is the one it started with. -/
theorem starter (account : Account first steps workload) {index : Nat} {worker : Worker}
    (stands : workload.workers[index]? = some worker) :
    ∃ phase, first.workers[index]? = some ⟨worker.kind, phase⟩ := by
  have kinds := congrArg (·[index]?) account.kinds
  simp only [List.getElem?_map, stands, Option.map_some] at kinds
  cases started : first.workers[index]? with
  | none => simp [started] at kinds
  | some starter =>
      rw [started] at kinds
      simp only [Option.map_some, Option.some.injEq] at kinds
      exact ⟨starter.phase, by rw [kinds]⟩

/-- A worker takes a step other than the end of a call. What it adds to the records and carries
afterwards is what it carried before. -/
theorem silent (account : Account first steps workload) (after : WorkerPhase)
    (added : List WorkloadError) (counts : Nat) {step : Step} (quiet : calls [step] = [])
    {index : Nat} {kind : OperationKind} {before : WorkerPhase} {next : Workload}
    (stands : workload.workers[index]? = some ⟨kind, before⟩)
    (workers : next.workers = (workload.setPhase index after).workers)
    (records : next.collected ++ next.errors = workload.collected ++ workload.errors ++ added)
    (operations : next.operations = workload.operations + counts)
    (balanced : added ++ after.carried kind = before.carried kind)
    (counted : counts + after.isReturned.toNat = before.isReturned.toNat)
    (onward : after.isOver = false → before.isOver = false) :
    Account first (steps ++ [step]) next where
  kinds := by rw [workers, kinds_setPhase after stands, account.kinds]
  records := by
    obtain ⟨entries, written, balance⟩ := account.records
    refine ⟨entries ++ added.map (index, ·), ?_, ?_⟩
    · have text : (added.map (index, ·)).map Prod.snd = added := by simp [Function.comp_def]
      rw [List.map_append, text, written, records]
    · intro other
      have settled :=
        balance_setPhase after added [] stands (by simpa using balanced) balance other
      have carried : next.carriedBy other = (workload.setPhase index after).carriedBy other := by
        simp only [carriedBy, workers]
      have owes : owed first.workers [step] = [] := by simp [owed, quiet]
      rw [carried, owed_append, owes]
      exact settled
  returns := by
    have moved := countP_setPhase after stands WorkerPhase.isReturned
    have earlier := account.returns
    rw [calls_append, quiet, List.append_nil, workers, operations]
    omega
  single := by simpa [callsOf, quiet] using account.single
  going := by
    intro other worker found goesOn
    have earlier : callsOf other (steps ++ [step]) = callsOf other steps := by
      simp [callsOf, quiet]
    rw [earlier]
    rw [workers] at found
    have place := (getElem?_setPhase after stands other).symm.trans found
    split at place
    · subst other
      cases place
      exact account.going _ _ stands (onward goesOn)
    · exact account.going other worker place goesOn

/-- The call of a worker ends. The worker carries what the call owes. -/
theorem answer (account : Account first steps workload) {index : Nat} {kind : OperationKind}
    {outcome : CallOutcome} (stands : workload.workers[index]? = some ⟨kind, .calling⟩) :
    Account first (steps ++ [.answer index outcome])
      (workload.setPhase index (phaseAfter outcome)) where
  kinds := (kinds_setPhase _ stands).trans account.kinds
  records := by
    obtain ⟨entries, written, balance⟩ := account.records
    obtain ⟨phase, started⟩ := account.starter stands
    have settled := balance_setPhase (phaseAfter outcome) [] (outcome.records kind) stands
      (carried_phaseAfter kind outcome) balance
    refine ⟨entries, written, ?_⟩
    intro other
    have raised : owed first.workers [.answer index outcome] =
        (outcome.records kind).map (index, ·) := by
      simp [owed, calls, started]
    rw [owed_append, raised]
    simpa using settled other
  returns := by
    have moved := countP_setPhase (phaseAfter outcome) stands WorkerPhase.isReturned
    have earlier := account.returns
    have single : (phaseAfter outcome).isReturned = outcome.isReturn := by
      unfold phaseAfter
      split <;> rfl
    rw [single] at moved
    have counted : (calls [.answer index outcome]).countP (·.2.isReturn) =
        outcome.isReturn.toNat := by
      cases isReturn : outcome.isReturn <;> simp [calls, isReturn]
    have before : WorkerPhase.calling.isReturned.toNat = 0 := rfl
    rw [calls_append, List.countP_append, counted]
    simp only [setPhase] at moved earlier ⊢
    omega
  single := by
    intro other
    rw [callsOf_append, List.pairwise_append]
    refine ⟨account.single other, ?_, ?_⟩
    · by_cases same : index = other <;> simp [callsOf, calls, same]
    · intro earlier member last lastMember
      by_cases same : index = other
      · subst other
        exact account.going index _ stands rfl earlier member
      · simp [callsOf, calls, same] at lastMember
  going := by
    intro other worker found goesOn last member
    have place := (getElem?_setPhase _ stands other).symm.trans found
    rw [callsOf_append, List.mem_append] at member
    split at place
    · subst other
      cases place
      rcases member with earlier | now
      · exact account.going _ _ stands rfl last earlier
      · have same : last = outcome := by simpa [callsOf, calls] using now
        subst last
        cases outcome with
        | returned result => rfl
        | panicked message => cases goesOn
    · rename_i different
      have none : callsOf other [.answer index outcome] = [] := by
        simp [callsOf, calls, Ne.symm different]
      rw [none] at member
      exact account.going other worker place goesOn last (by simpa using member)

/-- A step of the caller that hands nothing over. -/
theorem caller (account : Account first steps workload) {step : Step} (quiet : calls [step] = [])
    {next : Workload} (workers : next.workers = workload.workers)
    (operations : next.operations = workload.operations)
    (records : next.collected ++ next.errors = workload.collected ++ workload.errors) :
    Account first (steps ++ [step]) next where
  kinds := by rw [workers, account.kinds]
  records := by
    obtain ⟨entries, written, balance⟩ := account.records
    refine ⟨entries, written.trans records.symm, ?_⟩
    intro index
    have carried : next.carriedBy index = workload.carriedBy index := by
      simp [carriedBy, workers]
    simpa [owed, quiet, carried] using balance index
  returns := by simpa [quiet, workers, operations] using account.returns
  single := by simpa [callsOf, quiet] using account.single
  going := by simpa [callsOf, quiet, workers] using account.going

/-- Every move keeps the account. -/
theorem move (account : Account first steps workload) {step : Step} {next : Workload}
    (moved : workload.Move step next) : Account first (steps ++ [step]) next := by
  cases moved with
  | look stands =>
      refine account.silent _ [] 0 rfl stands rfl (List.append_nil _).symm rfl ?_ ?_ fun _ => rfl
      · split <;> rfl
      · split <;> rfl
  | answer stands => exact account.answer stands
  | @count index kind error stands =>
      exact account.silent (.counted error) [] 1 rfl stands rfl
        (List.append_nil _).symm rfl rfl rfl fun _ => rfl
  | recordReturn stands =>
      exact account.silent .ready (recordOf _ _) 0 rfl stands rfl
        (List.append_assoc _ _ _).symm rfl (List.append_nil _) rfl fun _ => rfl
  | recordBreak stands =>
      exact account.silent .leaving [.panicked _ _] 0 rfl stands rfl
        (List.append_assoc _ _ _).symm rfl rfl rfl nofun
  | arrive stands =>
      exact account.silent .finished [] 0 rfl stands rfl
        (List.append_nil _).symm rfl rfl rfl nofun
  | lower away => exact account.caller rfl rfl rfl (by simp [collected, away])
  | meet lowered => exact account.caller rfl rfl rfl (by simp [collected, lowered])
  | collect waiting opened => exact account.caller rfl rfl rfl (by simp [collected, waiting])

end Account

/-- The account holds in the course of every run. -/
theorem account_of_replay? {kinds : List OperationKind} {perKind : Nat} {steps : List Step}
    {workload : Workload} (replayed : (start kinds perKind).replay? steps = some workload) :
    Account (start kinds perKind) steps workload :=
  replay?_induction (fun steps workload => Account (start kinds perKind) steps workload)
    (account_start kinds perKind) (fun _ _ _ _ account moved => account.move moved) replayed

/-- Lists that agree worker by worker hold the same records. -/
theorem perm_of_filter_eq {first second : List (Nat × WorkloadError)}
    (agree : ∀ index, first.filter (·.1 == index) = second.filter (·.1 == index)) :
    first.Perm second := by
  rw [List.perm_iff_count]
  rintro ⟨index, record⟩
  have counted : ∀ records : List (Nat × WorkloadError),
      records.count (index, record) = (records.filter (·.1 == index)).count (index, record) := by
    intro records
    rw [List.count_filter (by simp)]
  rw [counted first, counted second, agree index]

/-- Only errors that are not benign are owed. -/
theorem not_benign_of_owed {workers : List Worker} {steps : List Step} {index : Nat}
    {kind : OperationKind} {error : QueryError}
    (member : (index, .query kind error) ∈ owed workers steps) : kind.isBenign error = false := by
  simp only [owed, List.mem_flatMap] at member
  obtain ⟨⟨caller, outcome⟩, _, owes⟩ := member
  dsimp only at owes
  split at owes
  · simp only [List.mem_map, Prod.mk.injEq] at owes
    obtain ⟨record, recorded, _, rfl⟩ := owes
    unfold CallOutcome.records at recorded
    split at recorded
    · cases recorded
    · split at recorded
      · cases recorded
      · rename_i notBenign
        simp only [List.mem_singleton, WorkloadError.query.injEq] at recorded
        obtain ⟨rfl, rfl⟩ := recorded
        simpa using notBenign
    · simp at recorded
  · cases owes

/-- Stopping a workload conserves its records. Whatever the kinds, the number of workers, the ends of
their calls and the order of all steps: the caller who is back from stopping has exactly the records
that the calls owe, those of each worker in the order of its calls, and none of them is benign; of
the calls of a worker only the last one may have broken off; the operations are the calls that
returned; and no step of anybody is possible any more. -/
theorem stop_conserves_records (kinds : List OperationKind) (perKind : Nat) (steps : List Step)
    (workload : Workload) (errors : List WorkloadError)
    (replayed : (start kinds perKind).replay? steps = some workload)
    (stopped : workload.caller = .served errors) :
    errors.Perm ((owed (start kinds perKind).workers steps).map Prod.snd) ∧
      (∃ entries : List (Nat × WorkloadError), entries.map Prod.snd = errors ∧
        ∀ index, entries.filter (·.1 == index) =
          (owed (start kinds perKind).workers steps).filter (·.1 == index)) ∧
      (∀ kind error, .query kind error ∈ errors → kind.isBenign error = false) ∧
      (∀ index, (callsOf index steps).Pairwise fun earlier _ => earlier.isReturn = true) ∧
      workload.operations = (calls steps).countP (·.2.isReturn) ∧
      ∀ step, workload.step? step = none := by
  have assembled := assembled_of_replay? replayed
  have account := account_of_replay? replayed
  obtain ⟨opened, taken⟩ := assembled.served errors stopped
  have ended : ∀ {index : Nat} {worker : Worker}, workload.workers[index]? = some worker →
      worker.phase = .finished :=
    fun stands => assembled.finished_of_open opened (List.mem_of_getElem? stands)
  have nothingCarried : ∀ index, workload.carriedBy index = [] := by
    intro index
    simp only [carriedBy]
    split
    · rename_i stands
      rw [ended stands]
      rfl
    · rfl
  obtain ⟨entries, written, balance⟩ := account.records
  have complete : entries.map Prod.snd = errors := by
    rw [written, taken]
    simp [collected, stopped]
  have settled : ∀ index, entries.filter (·.1 == index) =
      (owed (start kinds perKind).workers steps).filter (·.1 == index) := by
    intro index
    simpa [nothingCarried] using balance index
  have permuted := perm_of_filter_eq settled
  have counted : workload.workers.countP (·.phase.isReturned) = 0 := by
    rw [List.countP_eq_zero]
    intro worker member
    rw [assembled.finished_of_open opened member]
    simp [WorkerPhase.isReturned]
  refine ⟨complete ▸ permuted.map Prod.snd, ⟨entries, complete, settled⟩, ?_, account.single, ?_,
    assembled.step?_eq_none stopped⟩
  · intro kind error member
    rw [← complete, List.mem_map] at member
    obtain ⟨⟨index, record⟩, entry, same⟩ := member
    dsimp only at same
    subst same
    exact not_benign_of_owed (permuted.mem_iff.mp entry)
  · have returns := account.returns
    rw [counted] at returns
    exact returns

/-- A race of two workers with the caller: one of them meets a benign error and breaks off while the
flag is down, the other one fails once. -/
def race : List Step :=
  [.look 0, .look 1, .answer 0 (.returned (.error (.sql (some 4041) "gone"))), .count 0, .record 0,
    .look 0, .answer 1 (.returned (.error (.transport "reset"))), .lower, .count 1, .record 1,
    .look 1, .meet, .arrive 1, .answer 0 (.panicked "overflow"), .record 0, .arrive 0, .collect]

/-- The caller has the failure and the break of the race, of two returns. -/
theorem stop_conserves_records_of_race :
    ∃ workload errors, (start [.delete, .insert] 1).replay? race = some workload ∧
      workload.caller = .served errors ∧
      errors = [.query .insert (.transport "reset"), .panicked .delete "overflow"] ∧
      errors.Perm ((owed (start [.delete, .insert] 1).workers race).map Prod.snd) ∧
      workload.operations = (calls race).countP (·.2.isReturn) ∧
      workload.step? .lower = none := by
  have conserved := stop_conserves_records [.delete, .insert] 1 race
    ⟨[⟨.delete, .finished⟩, ⟨.insert, .finished⟩], false, [], 2, ⟨3, 3⟩,
      .served [.query .insert (.transport "reset"), .panicked .delete "overflow"]⟩
    [.query .insert (.transport "reset"), .panicked .delete "overflow"] (by decide) rfl
  obtain ⟨permuted, _, _, _, operations, returned⟩ := conserved
  exact ⟨_, _, by decide, rfl, rfl, permuted, operations, returned _⟩

end Workload

end GracefulStop
