import GracefulStop.Proofs.Port.Ranges

/-!
# The size of what is handed out

A pool counts the ports that are asked for modulo `2 ^ 32`. As long as the arithmetic of the cursor has
room for the sum, a call is therefore served like one for the remainder, except that an error names the
number that was asked for. Where the number is its own remainder, a range that is handed out has as many
ports as were asked for.
-/

namespace GracefulStop

/-- The same error, where so many ports were wanted. -/
def ClusterError.wanting (size : Nat) : ClusterError → ClusterError
  | .portsExhausted _ next stop => .portsExhausted size next stop
  | error => error

namespace PortPool

@[simp]
theorem cursorSize_cursorSize (size : Nat) : cursorSize (cursorSize size) = cursorSize size :=
  Nat.mod_mod size (2 ^ 32)

@[simp]
theorem rangeSize_cursorSize (size : Nat) : rangeSize (cursorSize size) = rangeSize size := by
  simp only [rangeSize, cursorSize]
  omega

theorem cursorSize_lt (size : Nat) : cursorSize size < 2 ^ 32 := Nat.mod_lt size (by decide)

theorem cursorSize_of_lt {size : Nat} (narrow : size < 2 ^ 32) : cursorSize size = size :=
  Nat.mod_eq_of_lt narrow

theorem ne_zero_of_cursorSize {size : Nat} (positive : cursorSize size ≠ 0) : size ≠ 0 := by
  rintro rfl
  exact positive rfl

/-- Below the end of a pool, sizes are the same in both arithmetics. -/
theorem rangeSize_of_fits {pool : PortPool} {size : Nat} (small : pool.stop < 2 ^ 16)
    (fits : ¬pool.cursor + cursorSize size > pool.stop) : rangeSize size = cursorSize size := by
  rw [← rangeSize_cursorSize]
  apply Nat.mod_eq_of_lt
  omega

section

variable {State : Type} (probe : Nat → State → Bool × State)

/-- Only the remainder of a size counts, except in an error. -/
theorem reserveFrom_remainder (size : Nat) (pool : PortPool) (state : State) :
    reserveFrom probe size pool state =
      ((reserveFrom probe (cursorSize size) pool state).1.mapError (.wanting size),
        (reserveFrom probe (cursorSize size) pool state).2) := by
  fun_induction reserveFrom probe size pool state with
  | case1 pool state full =>
      rw [reserveFrom, cursorSize_cursorSize, if_pos full]
      rfl
  | case2 pool state fits cut between skipped looked ih =>
      conv_rhs => rw [reserveFrom, cursorSize_cursorSize, if_neg fits, rangeSize_cursorSize]
      rw [dite_eq_ite] at looked
      simp only [cut] at looked
      simp only [looked]
      exact ih
  | case3 pool state fits cut between looked =>
      conv_rhs => rw [reserveFrom, cursorSize_cursorSize, if_neg fits, rangeSize_cursorSize]
      rw [dite_eq_ite] at looked
      simp only [cut] at looked
      simp only [looked]
      rfl

variable {probe} {size : Nat} {pool after : PortPool} {state final : State} {error : ClusterError}

/-- A call fails for no other reason than that too few ports are left. -/
theorem exhausted_of_reserveFrom
    (reserved : reserveFrom probe size pool state = (.error error, after, final)) :
    ∃ next, error = .portsExhausted size next pool.stop := by
  fun_induction reserveFrom probe size pool state with
  | case1 pool state full =>
      cases reserved
      exact ⟨_, rfl⟩
  | case2 pool state fits cut between skipped looked ih => exact ih reserved
  | case3 pool state fits cut between looked => cases reserved

end

variable {pool : PortPool}

theorem exhausted_of_serve (small : pool.stop < 2 ^ 16) (call : Call)
    (several : call.demand.size ≠ 0) {error : ClusterError}
    (failed : (pool.serve call).result = .error error) :
    ∃ next, error = .portsExhausted call.demand.size next pool.stop := by
  have reserved := reserve_of_serve small call
  rw [reserve, if_neg several, failed] at reserved
  exact exhausted_of_reserveFrom reserved

theorem serve_of_full (small : pool.stop < 2 ^ 16) (call : Call) (several : call.demand.size ≠ 0)
    (full : pool.stop < pool.cursor + cursorSize call.demand.size) :
    (pool.serve call).result =
      .error (.portsExhausted call.demand.size pool.cursor pool.stop) := by
  have reserved := reserve_of_serve small call
  rw [reserve, if_neg several, reserveFrom, if_pos full] at reserved
  exact (congrArg Prod.fst reserved).symm

/-- A call is served like one for the remainder of its size. -/
theorem serve_remainder {size : Nat} (positive : cursorSize size ≠ 0)
    (inUse : Sights → Nat → Bool) :
    pool.serve ⟨.range size, inUse⟩ =
      { pool.serve ⟨.range (cursorSize size), inUse⟩ with
        result := (pool.serve ⟨.range (cursorSize size), inUse⟩).result.mapError (.wanting size) } := by
  simp only [serve, reserve, if_neg positive, if_neg (ne_zero_of_cursorSize positive)]
  rw [reserveFrom_remainder]

/-- As long as the arithmetic of the cursor has room for it, a call for any number of ports is given a
range of just as many between the cursor and the end of the pool, or fails with that number; it fails
where fewer are left. A larger number counts as its remainder only, as long as there is room for that:
the range that is handed out for it has as many ports as the remainder says, and not as many as were
asked for. -/
theorem size_of_serve (pool : PortPool) (small : pool.stop < 2 ^ 16)
    (inUse : Sights → Nat → Bool) :
    (∀ size, 1 ≤ size → pool.cursor + size < 2 ^ 32 →
      let served := pool.serve ⟨.range size, inUse⟩
      ((∃ range, served.result = .ok range ∧ range.length = size ∧ pool.cursor ≤ range.first ∧
          range.first ≤ range.last ∧ range.last < pool.stop) ∨
        ∃ next, served.result = .error (.portsExhausted size next pool.stop)) ∧
      (pool.stop < pool.cursor + size →
        served.result = .error (.portsExhausted size pool.cursor pool.stop))) ∧
    ∀ size, cursorSize size ≠ 0 → pool.cursor + cursorSize size < 2 ^ 32 →
      let counted := pool.serve ⟨.range (cursorSize size), inUse⟩
      pool.serve ⟨.range size, inUse⟩ =
        { counted with result := counted.result.mapError (.wanting size) } ∧
      ∀ range, (pool.serve ⟨.range size, inUse⟩).result = .ok range →
        range.length = cursorSize size := by
  constructor
  · intro size positive held served
    have sameSize : cursorSize size = size := cursorSize_of_lt (by omega)
    have narrow : size < 2 ^ 32 := by omega
    have several : size ≠ 0 := Nat.ne_of_gt positive
    constructor
    · cases outcome : served.result with
      | ok range =>
          have sound : Served.Sound pool.cursor pool.stop pool.probing ⟨.range size, inUse⟩ served
              range := sound_of_serve small narrow outcome
          exact Or.inl ⟨range, rfl, sound.size, sound.above, sound.ascending, sound.below⟩
      | error error =>
          rcases exhausted_of_serve small ⟨.range size, inUse⟩ several outcome with ⟨next, rfl⟩
          exact Or.inr ⟨next, rfl⟩
    · intro full
      apply serve_of_full small ⟨.range size, inUse⟩ several
      simpa only [Demand.size, sameSize] using full
  · intro size positive _ counted
    have same : pool.serve ⟨.range size, inUse⟩ =
        { counted with result := counted.result.mapError (.wanting size) } :=
      serve_remainder positive inUse
    refine ⟨same, ?_⟩
    intro range granted
    rw [same] at granted
    cases outcome : counted.result with
    | ok other =>
        have sound : Served.Sound pool.cursor pool.stop pool.probing
            ⟨.range (cursorSize size), inUse⟩ counted other :=
          sound_of_serve small (cursorSize_lt size) outcome
        rw [outcome] at granted
        cases granted
        exact sound.size
    | error error =>
        rw [outcome] at granted
        cases granted

/-- Of the hundred ports from 100 to 199, all are asked for, one too many, and `2 ^ 32 + 3`. -/
theorem size_of_serve_of_hundred :
    let serve (size : Nat) := (⟨100, 200, false⟩ : PortPool).serve ⟨.range size, fun _ _ => false⟩
    ((∃ range, (serve 100).result = .ok range ∧ range.length = 100 ∧ 100 ≤ range.first ∧
        range.first ≤ range.last ∧ range.last < 200) ∨
      ∃ next, (serve 100).result = .error (.portsExhausted 100 next 200)) ∧
    (serve 101).result = .error (.portsExhausted 101 100 200) ∧
    (serve (2 ^ 32 + 3)).result = (serve 3).result.mapError (.wanting (2 ^ 32 + 3)) := by
  intro serve
  have sizes := size_of_serve ⟨100, 200, false⟩ (by decide) fun _ _ => false
  have whole := sizes.1 100 (by decide) (by decide)
  have beyond := sizes.1 101 (by decide) (by decide)
  have oversized := sizes.2 (2 ^ 32 + 3) (by decide) (by decide)
  exact ⟨whole.1, beyond.2 (by decide), congrArg Served.result oversized.1⟩

/-- Where `2 ^ 32 + 3` ports are asked for and a hundred are left, three are handed out. -/
theorem three_of_oversized :
    ((⟨100, 200, false⟩ : PortPool).serve ⟨.range (2 ^ 32 + 3), fun _ _ => false⟩).result =
        .ok ⟨100, 102⟩ ∧
      (⟨100, 102⟩ : PortRange).length = 3 ∧ 3 ≠ 2 ^ 32 + 3 ∧ 200 < 100 + (2 ^ 32 + 3) := by
  cbv

end PortPool

end GracefulStop
