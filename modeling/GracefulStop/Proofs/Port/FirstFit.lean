import GracefulStop.Proofs.Port.Sizes
import Mathlib.Order.Bounds.Basic

/-!
# Where a range is found

While a call lasts, the same ports may be in use all the time. A probing pool then hands out the first
range from its cursor on that has none of them: the cursor goes on behind the first port in use that it
meets, and every range that begins before the cursor has that port.

A call that finds no range leaves the cursor where it came to rest, with too few ports left. That is
where it was before only if nothing was skipped.
-/

namespace GracefulStop

namespace PortPool

/-! ## Ports in use all the time -/

/-- A call during which the same ports are in use all the time. -/
def Call.steady (busy : Nat → Bool) (demand : Demand) : Call := ⟨demand, fun _ => busy⟩

/-- The ports in use that a pool takes notice of. -/
def shuns (pool : PortPool) (busy : Nat → Bool) (port : Nat) : Bool := pool.probing && busy port

/-- So many ports of a pool in a row, behind its cursor and none of them in use. -/
structure Free (pool : PortPool) (busy : Nat → Bool) (count first : Nat) : Prop where
  above : pool.cursor ≤ first
  below : first + count ≤ pool.stop
  idle : ∀ port, first ≤ port → port < first + count → busy port = false

/-- A place for the cursor from which too few ports are left: where it is, or right behind a port in
use. -/
structure Short (pool : PortPool) (busy : Nat → Bool) (count next : Nat) : Prop where
  above : pool.cursor ≤ next
  past : pool.stop < next + count
  behind : next = pool.cursor ∨ busy (next - 1) = true

/-- How a call for so many ports ends: with the first range of free ports, or at the first place from
which too few are left. -/
inductive Settles (pool : PortPool) (busy : Nat → Bool) (size : Nat) :
    Except ClusterError PortRange → PortPool → Prop
  | granted {first : Nat} (least : IsLeast {first | pool.Free busy (cursorSize size) first} first) :
      Settles pool busy size (.ok (.ofLength first (cursorSize size)))
        { pool with cursor := first + cursorSize size }
  | exhausted {next : Nat} (none : ∀ first, ¬pool.Free busy (cursorSize size) first)
      (least : IsLeast {next | pool.Short busy (cursorSize size) next} next) :
      Settles pool busy size (.error (.portsExhausted size next pool.stop))
        { pool with cursor := next }

variable {busy : Nat → Bool} {pool : PortPool}

/-- No range of free ports begins at a port in use or close before it. -/
theorem free_skip {count skipped first : Nat} (inUse : busy (pool.cursor + skipped) = true)
    (near : skipped < count) :
    ({ pool with cursor := pool.cursor + skipped + 1 } : PortPool).Free busy count first ↔
      pool.Free busy count first := by
  constructor
  · intro free
    have above := free.above
    dsimp only at above
    exact ⟨by omega, free.below, free.idle⟩
  · intro free
    have above := free.above
    refine ⟨?_, free.below, free.idle⟩
    refine Nat.lt_of_not_le fun before => ?_
    rw [free.idle (pool.cursor + skipped) before (by omega)] at inUse
    cases inUse

/-- Where ports enough are left, the cursor comes to rest behind the first port in use, or later. -/
theorem short_skip {count skipped next : Nat} (fits : pool.cursor + count ≤ pool.stop)
    (inUse : busy (pool.cursor + skipped) = true)
    (idle : ∀ offset < skipped, busy (pool.cursor + offset) = false) :
    ({ pool with cursor := pool.cursor + skipped + 1 } : PortPool).Short busy count next ↔
      pool.Short busy count next := by
  constructor
  · intro short
    have above := short.above
    dsimp only at above
    refine ⟨by omega, short.past, Or.inr ?_⟩
    rcases short.behind with here | behind
    · rw [here]
      exact inUse
    · exact behind
  · intro short
    have above := short.above
    have past := short.past
    rcases short.behind with here | behind
    · omega
    · refine ⟨Nat.lt_of_not_le fun before => ?_, short.past, Or.inr behind⟩
      have early : busy (pool.cursor + (next - 1 - pool.cursor)) = false := by
        apply idle
        omega
      rw [Nat.add_sub_cancel' (by omega), behind] at early
      cases early

/-- The ports are looked at in their order, up to the first in use. -/
theorem firstBusy_steady (busy : Nat → Bool) (first count skipped : Nat) (seen : Sights) :
    (firstBusy (look fun _ => busy) first count skipped seen).1 =
      (List.range' skipped count).find? fun offset => busy (first + offset) := by
  induction count generalizing skipped seen with
  | zero => rfl
  | succ count ih =>
      rw [List.range'_succ]
      cases inUse : busy (first + skipped) with
      | true => simp [firstBusy, look, inUse]
      | false =>
          rw [List.find?_cons_of_neg (by simp [inUse])]
          simp only [firstBusy, look, inUse]
          exact ih (skipped + 1) _

/-- What is looked at is what the pool takes notice of. -/
theorem found_of_probing {count : Nat} {seen between : Sights} {found : Option Nat}
    (looked : (if pool.probing then firstBusy (look fun _ => busy) pool.cursor count 0 seen
      else (none, seen)) = (found, between)) :
    (List.range' 0 count).find? (fun offset => pool.shuns busy (pool.cursor + offset)) = found := by
  unfold shuns
  split at looked
  · rename_i probing
    have steady := firstBusy_steady busy pool.cursor count 0 seen
    rw [looked] at steady
    simp [probing, ← steady]
  · rename_i blind
    cases looked
    simp [blind]

/-- A call ends as it would have ended from where the cursor has come to. -/
theorem Settles.of_skip {size moved : Nat} {after : PortPool}
    {result : Except ClusterError PortRange}
    (free : ∀ first, ({ pool with cursor := moved } : PortPool).Free busy (cursorSize size) first ↔
      pool.Free busy (cursorSize size) first)
    (short : ∀ next, ({ pool with cursor := moved } : PortPool).Short busy (cursorSize size) next ↔
      pool.Short busy (cursorSize size) next)
    (settles : ({ pool with cursor := moved } : PortPool).Settles busy size result after) :
    pool.Settles busy size result after := by
  cases settles with
  | granted least =>
      simp only [free] at least
      exact .granted least
  | exhausted none least =>
      simp only [free] at none
      simp only [short] at least
      exact .exhausted none least

/-- The induction follows the skips. What a skip leaves out are neither free ranges nor places at which
the cursor could rest. -/
theorem settles_of_reserveFrom {size : Nat} {seen final : Sights} {after : PortPool}
    {result : Except ClusterError PortRange} (small : pool.stop < 2 ^ 16)
    (positive : cursorSize size ≠ 0)
    (reserved : reserveFrom (look fun _ => busy) size pool seen = (result, after, final)) :
    pool.Settles (pool.shuns busy) size result after := by
  fun_induction reserveFrom (look fun _ => busy) size pool seen with
  | case1 pool seen full =>
      cases reserved
      refine .exhausted ?_ ⟨⟨Nat.le_refl _, full, Or.inl rfl⟩, fun next short => short.above⟩
      intro first free
      have above := free.above
      have below := free.below
      omega
  | case2 pool seen fits cut between skipped looked ih =>
      have sameSize := rangeSize_of_fits small fits
      have found := found_of_probing looked
      rw [List.find?_range'_eq_some] at found
      rcases found with ⟨inUse, near, idle⟩
      have close : skipped < cursorSize size := by
        simp only [cut, PortRange.length_ports, PortRange.ofLength, sameSize,
          List.mem_range'_1] at near
        omega
      have passed : ∀ offset < skipped, pool.shuns busy (pool.cursor + offset) = false := by
        intro offset early
        simpa using idle offset (Nat.zero_le offset) early
      exact Settles.of_skip (fun first => free_skip inUse close)
        (fun next => short_skip (Nat.le_of_not_lt fits) inUse passed) (ih small reserved)
  | case3 pool seen fits cut between looked =>
      simp only [Prod.mk.injEq] at reserved
      rcases reserved with ⟨rfl, rfl, _⟩
      have sameSize := rangeSize_of_fits small fits
      have none := found_of_probing looked
      rw [List.find?_eq_none] at none
      simp only [cut, sameSize]
      refine .granted ⟨⟨Nat.le_refl _, Nat.le_of_not_lt fits, ?_⟩, fun first free => free.above⟩
      intro port above below
      have idle := none (port - pool.cursor)
      rw [Nat.add_sub_cancel' above, Bool.not_eq_true] at idle
      apply idle
      simp only [cut, PortRange.length_ports, PortRange.ofLength, sameSize, List.mem_range'_1]
      omega

theorem settles_of_serve (small : pool.stop < 2 ^ 16) {demand : Demand}
    (positive : cursorSize demand.size ≠ 0) :
    pool.Settles (pool.shuns busy) demand.size (pool.serve (.steady busy demand)).result
      (pool.serve (.steady busy demand)).pool := by
  have reserved := reserve_of_serve small (.steady busy demand)
  rw [reserve, Call.steady, if_neg (ne_zero_of_cursorSize positive)] at reserved
  exact settles_of_reserveFrom small positive reserved

namespace Settles

variable {size wanted next stop first : Nat} {after : PortPool}
  {result : Except ClusterError PortRange}

theorem of_least (settles : pool.Settles busy size result after)
    (least : IsLeast {first | pool.Free busy (cursorSize size) first} first) :
    result = .ok (.ofLength first (cursorSize size)) ∧
      after = { pool with cursor := first + cursorSize size } := by
  cases settles with
  | granted found =>
      rw [found.unique least]
      exact ⟨rfl, rfl⟩
  | exhausted none _ => exact absurd least.1 (none first)

theorem free (settles : pool.Settles busy size result after) {range : PortRange}
    (granted : result = .ok range) : pool.Free busy (cursorSize size) range.first := by
  cases settles with
  | granted least =>
      cases granted
      exact least.1
  | exhausted none _ => cases granted

theorem exhausted_iff (settles : pool.Settles busy size result after) :
    (∃ next, result = .error (.portsExhausted size next pool.stop)) ↔
      ∀ first, ¬pool.Free busy (cursorSize size) first := by
  cases settles with
  | granted least =>
      constructor
      · rintro ⟨next, failed⟩
        cases failed
      · exact fun none => absurd least.1 (none _)
  | exhausted none _ => exact ⟨fun _ => none, fun _ => ⟨_, rfl⟩⟩

theorem of_exhausted (settles : pool.Settles busy size result after)
    (failed : result = .error (.portsExhausted wanted next stop)) :
    after = { pool with cursor := next } ∧
      IsLeast {next | pool.Short busy (cursorSize size) next} next := by
  cases settles with
  | granted least => cases failed
  | exhausted _ least =>
      cases failed
      exact ⟨rfl, least⟩

end Settles

/-! ## Calls that find a range -/

/-- What came of a call, and where the cursor is afterwards. -/
def Served.answer (served : Served) : Except ClusterError PortRange × Nat :=
  (served.result, served.pool.cursor)

/-- The answer to a call for so many ports where no port is passed by. -/
def straight (cursor stop size : Nat) : Except ClusterError PortRange × Nat :=
  if size = 0 then (.error (.invalidNodeCount 0), cursor)
  else if cursor + cursorSize size > stop then (.error (.portsExhausted size cursor stop), cursor)
  else (.ok (.ofLength cursor (rangeSize size)), cursor + cursorSize size)

theorem straight_of_reserveFrom {size : Nat} {seen final : Sights} {after : PortPool}
    {result : Except ClusterError PortRange} (clear : ∀ port, pool.shuns busy port = false)
    (several : size ≠ 0)
    (reserved : reserveFrom (look fun _ => busy) size pool seen = (result, after, final)) :
    (result, after.cursor) = straight pool.cursor pool.stop size := by
  fun_induction reserveFrom (look fun _ => busy) size pool seen with
  | case1 pool seen full =>
      cases reserved
      rw [straight, if_neg several, if_pos full]
  | case2 pool seen fits cut between skipped looked ih =>
      have found := found_of_probing looked
      rw [List.find?_range'_eq_some, clear] at found
      cases found.1
  | case3 pool seen fits cut between looked =>
      cases reserved
      rw [straight, if_neg several, if_neg fits]

theorem answer_of_clear (small : pool.stop < 2 ^ 16) (clear : ∀ port, pool.shuns busy port = false)
    (demand : Demand) :
    (pool.serve (.steady busy demand)).answer = straight pool.cursor pool.stop demand.size := by
  have reserved := reserve_of_serve small (.steady busy demand)
  rw [reserve, Call.steady] at reserved
  by_cases several : demand.size = 0
  · rw [if_pos several] at reserved
    simp only [Prod.mk.injEq] at reserved
    rcases reserved with ⟨result, after, _⟩
    rw [straight, if_pos several, Served.answer, Call.steady, ← result, ← after]
  · rw [if_neg several] at reserved
    exact straight_of_reserveFrom clear several reserved

/-- Pools with the same ports left that pass no port by give the same answers. -/
theorem answers_of_clear (other : PortPool) {others : Nat → Bool} (small : pool.stop < 2 ^ 16)
    (sameCursor : other.cursor = pool.cursor) (sameStop : other.stop = pool.stop)
    (clear : ∀ port, pool.shuns busy port = false)
    (clearOther : ∀ port, other.shuns others port = false) (demands : List Demand) :
    (pool.serveAll (demands.map (.steady busy))).map Served.answer =
      (other.serveAll (demands.map (.steady others))).map Served.answer := by
  induction demands generalizing pool other with
  | nil => rfl
  | cons demand rest ih =>
      have advances := pool.advances_serve (.steady busy demand)
      have advancesOther := other.advances_serve (.steady others demand)
      have answer := answer_of_clear small clear demand
      have answerOther := answer_of_clear (sameStop ▸ small) clearOther demand
      rw [sameCursor, sameStop, ← answer] at answerOther
      simp only [List.map_cons, serveAll, answerOther, List.cons.injEq, true_and]
      apply ih
      · rw [advances.stop]
        exact small
      · exact congrArg Prod.snd answerOther
      · rw [advances.stop, advancesOther.stop, sameStop]
      · intro port
        rw [shuns, advances.probing]
        exact clear port
      · intro port
        rw [shuns, advancesOther.probing]
        exact clearOther port

/-- Of all ranges of as many ports as are asked for, from the cursor of a probing pool on and with none
of them in use, the first one is handed out, and the cursor goes on behind it; a call fails exactly where
there is none. Where no port is in use at all, a probing pool answers any calls like one that does not
probe. -/
theorem serve_first_fit (pool : PortPool) (small : pool.stop < 2 ^ 16)
    (probing : pool.probing = true) (busy : Nat → Bool) (demand : Demand)
    (positive : 1 ≤ demand.size) (narrow : demand.size < 2 ^ 31) :
    (∀ first, IsLeast {first | pool.Free busy demand.size first} first →
      (pool.serve (.steady busy demand)).result = .ok (.ofLength first demand.size) ∧
      (pool.serve (.steady busy demand)).pool = { pool with cursor := first + demand.size }) ∧
    ((∃ next, (pool.serve (.steady busy demand)).result =
        .error (.portsExhausted demand.size next pool.stop)) ↔
      ∀ first, ¬pool.Free busy demand.size first) ∧
    ∀ (others : Nat → Bool) (demands : List Demand),
      (pool.serveAll (demands.map (.steady fun _ => false))).map Served.answer =
        (({ pool with probing := false } : PortPool).serveAll (demands.map (.steady others))).map
          Served.answer := by
  have sameSize : cursorSize demand.size = demand.size := cursorSize_of_lt (by omega)
  have heeds : pool.shuns busy = busy := by
    funext port
    simp [shuns, probing]
  have settles := @settles_of_serve busy pool small demand (by omega)
  rw [heeds] at settles
  refine ⟨?_, ?_, ?_⟩
  · intro first least
    have granted := @Settles.of_least _ _ _ first _ _ settles
    rw [sameSize] at granted
    exact granted least
  · have exhausted := settles.exhausted_iff
    rwa [sameSize] at exhausted
  · intro others demands
    apply answers_of_clear { pool with probing := false } small rfl rfl
    · simp [shuns]
    · simp [shuns]

/-- Of the ports from 10 to 15, those in use are 11 and 13. -/
def scattered (port : Nat) : Bool := port = 11 || port = 13

/-- No range of several of these ports is free before port 14. -/
theorem behind_of_free_scattered {count first : Nat} (several : 2 ≤ count)
    (free : (⟨10, 16, true⟩ : PortPool).Free scattered count first) : 14 ≤ first := by
  have above : 10 ≤ first := free.above
  refine Nat.le_of_not_lt fun before => ?_
  by_cases early : first ≤ 11
  · cases free.idle 11 early (by omega)
  · cases free.idle 13 (by omega) (by omega)

theorem least_free_scattered :
    IsLeast {first | (⟨10, 16, true⟩ : PortPool).Free scattered 2 first} 14 := by
  refine ⟨⟨by decide, by decide, ?_⟩, fun first => behind_of_free_scattered (Nat.le_refl 2)⟩
  intro port above _
  simp only [scattered, Bool.or_eq_false_iff, decide_eq_false_iff_not]
  omega

theorem serve_first_fit_of_scattered :
    ((⟨10, 16, true⟩ : PortPool).serve (.steady scattered (.range 2))).result = .ok ⟨14, 15⟩ ∧
      ((⟨10, 16, true⟩ : PortPool).serve (.steady scattered (.range 2))).pool = ⟨16, 16, true⟩ ∧
      ∃ next, ((⟨10, 16, true⟩ : PortPool).serve (.steady scattered (.range 3))).result =
        .error (.portsExhausted 3 next 16) := by
  have two := serve_first_fit ⟨10, 16, true⟩ (by decide) rfl scattered (.range 2) (by decide)
    (by decide)
  have three := serve_first_fit ⟨10, 16, true⟩ (by decide) rfl scattered (.range 3) (by decide)
    (by decide)
  have granted := two.1 14 least_free_scattered
  refine ⟨granted.1, granted.2, three.2.1.mpr fun first free => ?_⟩
  have behind := behind_of_free_scattered (by decide) free
  have below : first + 3 ≤ 16 := free.below
  omega

/-! ## Calls that find none -/

/-- Pools that answer all calls alike have the same cursor: it is named where too many ports are asked
for. -/
theorem cursor_eq_of_results {other : PortPool} (small : pool.stop < 2 ^ 16)
    (sameStop : other.stop = pool.stop)
    (alike : ∀ calls, (other.serveAll calls).map Served.result =
      (pool.serveAll calls).map Served.result) : other.cursor = pool.cursor := by
  let call : Call := ⟨.range (pool.stop + 1), fun _ _ => false⟩
  have whole : cursorSize (pool.stop + 1) = pool.stop + 1 := cursorSize_of_lt (by omega)
  have past (cursor : Nat) : pool.stop < cursor + cursorSize call.demand.size := by
    simp only [call, Demand.size, whole]
    omega
  have full := serve_of_full small call (Nat.succ_ne_zero _) (past _)
  have fullOther := serve_of_full (sameStop ▸ small) call (Nat.succ_ne_zero _) (sameStop ▸ past _)
  have same := alike [call]
  simp only [serveAll, List.map_cons, List.map_nil, full, fullOther, List.cons.injEq,
    Except.error.injEq, ClusterError.portsExhausted.injEq] at same
  exact same.1.2.1

/-- The free ranges of a pool whose cursor has gone on are those behind the cursor. -/
theorem free_of_later {moved count first : Nat} (later : pool.cursor ≤ moved) :
    ({ pool with cursor := moved } : PortPool).Free busy count first ↔
      pool.Free busy count first ∧ moved ≤ first := by
  constructor
  · intro free
    exact ⟨⟨Nat.le_trans later free.above, free.below, free.idle⟩, free.above⟩
  · rintro ⟨free, behind⟩
    exact ⟨behind, free.below, free.idle⟩

/-- The cursor has not moved exactly where no port was looked at that could be skipped. -/
theorem eq_cursor_iff {count next : Nat}
    (least : IsLeast {next | pool.Short (pool.shuns busy) count next} next) :
    next = pool.cursor ↔ pool.probing = false ∨ pool.stop < pool.cursor + count := by
  have past := least.1.past
  constructor
  · rintro rfl
    exact Or.inr past
  · rintro (blind | full)
    · rcases least.1.behind with here | behind
      · exact here
      · simp [shuns, blind] at behind
    · exact Nat.le_antisymm (least.2 ⟨Nat.le_refl _, full, Or.inl rfl⟩) least.1.above

/-- A later call gets what it would have got without the skips, if that begins behind them. -/
theorem result_of_later (small : pool.stop < 2 ^ 16) {moved first : Nat}
    (later : pool.cursor ≤ moved) {demand : Demand} (positive : cursorSize demand.size ≠ 0)
    (least : IsLeast {first | pool.Free (pool.shuns busy) (cursorSize demand.size) first} first) :
    (({ pool with cursor := moved } : PortPool).serve (.steady busy demand)).result =
        (pool.serve (.steady busy demand)).result ↔ moved ≤ first := by
  have granted := ((settles_of_serve small positive).of_least least).1
  have moves := @settles_of_serve busy { pool with cursor := moved } small demand positive
  rw [granted]
  constructor
  · intro same
    exact (moves.free same).above
  · intro behind
    refine (moves.of_least ⟨(free_of_later later).mpr ⟨least.1, behind⟩, ?_⟩).1
    intro other free
    exact least.2 ((free_of_later later).mp free).1

/-- As long as the arithmetic of the cursor has room for its size, a call that finds no range leaves the
cursor at the first place from which too few ports are left: where it was, or right behind a port in use.
So nothing is lost where ports are not looked at, or where there were too few of them from the start, and
only there do all later calls give the same results as if the call had not been made. A later call for
which there is a free range gets the same as if the call had not been made exactly where that range begins
behind the place that the cursor has come to. -/
theorem later_of_exhausted (pool : PortPool) (small : pool.stop < 2 ^ 16) (busy : Nat → Bool)
    (demand : Demand) (positive : cursorSize demand.size ≠ 0)
    (_room : pool.cursor + cursorSize demand.size < 2 ^ 32) {wanted next stop : Nat}
    (failed : (pool.serve (.steady busy demand)).result =
      .error (.portsExhausted wanted next stop)) :
    let after := (pool.serve (.steady busy demand)).pool
    after = { pool with cursor := next } ∧
      IsLeast {next | pool.Short (pool.shuns busy) (cursorSize demand.size) next} next ∧
      (after = pool ↔ pool.probing = false ∨ pool.stop < pool.cursor + cursorSize demand.size) ∧
      ((∀ calls, (after.serveAll calls).map Served.result =
          (pool.serveAll calls).map Served.result) ↔
        pool.probing = false ∨ pool.stop < pool.cursor + cursorSize demand.size) ∧
      ∀ later first, cursorSize later.size ≠ 0 →
        IsLeast {first | pool.Free (pool.shuns busy) (cursorSize later.size) first} first →
        ((after.serve (.steady busy later)).result = (pool.serve (.steady busy later)).result ↔
          next ≤ first) := by
  intro after
  rcases (settles_of_serve small positive).of_exhausted failed with ⟨moved, least⟩
  change after = { pool with cursor := next } at moved
  have still := eq_cursor_iff least
  have same : after = pool ↔ next = pool.cursor := by
    rw [moved]
    constructor
    · exact congrArg PortPool.cursor
    · rintro rfl
      rfl
  refine ⟨moved, least, same.trans still, ?_, ?_⟩
  · rw [← still, ← same]
    constructor
    · intro alike
      have sameStop : after.stop = pool.stop := by rw [moved]
      have moves := cursor_eq_of_results small sameStop alike
      rw [moved] at moves
      exact same.mpr moves
    · intro unchanged calls
      rw [unchanged]
  · intro later first positiveLater leastLater
    rw [moved]
    exact result_of_later small least.1.above positiveLater leastLater

/-- A call for three ports finds none, and the next single port is the one at which the cursor has come
to rest. -/
theorem later_of_exhausted_of_scattered :
    let pool : PortPool := ⟨10, 16, true⟩
    let after := (pool.serve (.steady scattered (.range 3))).pool
    (pool.serve (.steady scattered (.range 3))).result = .error (.portsExhausted 3 14 16) ∧
      after = ⟨14, 16, true⟩ ∧
      ((after.serve (.steady scattered (.range 2))).result =
        (pool.serve (.steady scattered (.range 2))).result) ∧
      ¬∀ calls, (after.serveAll calls).map Served.result =
        (pool.serveAll calls).map Served.result := by
  intro pool after
  have failed : (pool.serve (.steady scattered (.range 3))).result =
      .error (.portsExhausted 3 14 16) := by cbv
  have least : IsLeast {first | pool.Free scattered 2 first} 14 := least_free_scattered
  rcases later_of_exhausted pool (by decide) scattered (.range 3) (by decide) (by decide) failed
    with
    ⟨moved, _, _, alike, later⟩
  refine ⟨failed, moved, (later (.range 2) 14 (by decide) least).mpr (Nat.le_refl 14), ?_⟩
  rw [alike]
  simp [pool, Demand.size, cursorSize]

/-- With ports 11 and 13 of those from 10 to 15 in use, a call for three ports that finds none takes the
free ports 10 and 12 away from the later calls. -/
theorem single_after_scattered :
    let pool : PortPool := ⟨10, 16, true⟩
    let failed := pool.serve (.steady scattered (.range 3))
    failed.result = .error (.portsExhausted 3 14 16) ∧
      (pool.serve (.steady scattered .single)).result = .ok ⟨10, 10⟩ ∧
      (failed.pool.serve (.steady scattered .single)).result = .ok ⟨14, 14⟩ := by
  cbv

end PortPool

end GracefulStop
