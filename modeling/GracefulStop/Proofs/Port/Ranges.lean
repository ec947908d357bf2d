import GracefulStop.Port.Pool
import Mathlib.Data.List.Forall2
import Mathlib.Data.List.Nodup

/-!
# Ranges that a pool hands out

The cursor of a pool never goes back, and every range that is handed out lies between the cursor
before and the cursor after. So no two ranges share a port, whoever asks for them and however often
ports come into use and out of use while a call looks at them.

Nobody else gets at a pool while it serves a call. Calls of several users, however they come in
between each other, are therefore one sequence of calls. What is in use is up to the surroundings of
each single look: it may depend on everything that the call has seen before.
-/

namespace GracefulStop

namespace PortRange

/-- Two ranges that share no port. -/
structure Apart (range other : PortRange) : Prop where
  overlaps : range.overlaps other = false
  overlapped : other.overlaps range = false
  disjoint : ∀ port, range.contains port = true → other.contains port = false

theorem contains_iff {range : PortRange} {port : Nat} :
    range.contains port = true ↔ range.first ≤ port ∧ port ≤ range.last := by
  simp [contains]

theorem not_contains_of_lt {range : PortRange} {port : Nat} (before : port < range.first) :
    range.contains port = false := by
  simp [contains, Nat.not_le_of_lt before]

theorem apart_of_lt {range other : PortRange} (before : range.last < other.first) :
    range.Apart other := by
  constructor
  · simp [PortRange.overlaps]
    omega
  · simp [PortRange.overlaps]
    omega
  · intro port inside
    rw [contains_iff] at inside
    apply not_contains_of_lt
    omega

theorem length_ports (range : PortRange) : range.ports.length = range.last + 1 - range.first := by
  simp [ports]

theorem mem_ports {range : PortRange} {port : Nat} :
    port ∈ range.ports ↔ range.contains port = true := by
  simp only [ports, contains_iff, List.mem_map, List.mem_range]
  constructor
  · rintro ⟨offset, inside, rfl⟩
    omega
  · intro inside
    exact ⟨port - range.first, by omega, by omega⟩

theorem nodup_ports (range : PortRange) : range.ports.Nodup :=
  List.Nodup.map (fun _ _ same => Nat.add_left_cancel same) List.nodup_range

end PortRange

namespace PortPool

/-- A pool after some calls: the same ports, but the cursor may have moved on. -/
structure Advances (pool after : PortPool) : Prop where
  stop : after.stop = pool.stop
  probing : after.probing = pool.probing
  cursor : pool.cursor ≤ after.cursor

theorem Advances.refl (pool : PortPool) : pool.Advances pool := ⟨rfl, rfl, Nat.le_refl _⟩

theorem Advances.trans {pool between after : PortPool} (first : pool.Advances between)
    (second : between.Advances after) : pool.Advances after :=
  ⟨second.stop.trans first.stop, second.probing.trans first.probing,
    Nat.le_trans first.cursor second.cursor⟩

/-- A range of some size that has been cut off the ports of a pool. -/
structure Cut (pool : PortPool) (size : Nat) (range : PortRange) (after : PortPool) : Prop where
  advances : pool.Advances after
  above : pool.cursor ≤ range.first
  ascending : range.first ≤ range.last
  size : range.first + size = range.last + 1
  next : after.cursor = range.last + 1
  below : after.cursor ≤ pool.stop

theorem Cut.length {pool after : PortPool} {size : Nat} {range : PortRange}
    (cut : pool.Cut size range after) : range.length = size := by
  have total := cut.size
  have ascending := cut.ascending
  unfold PortRange.length
  omega

theorem Cut.of_advances {pool between after : PortPool} {size : Nat} {range : PortRange}
    (advances : pool.Advances between) (cut : between.Cut size range after) :
    pool.Cut size range after where
  advances := advances.trans cut.advances
  above := Nat.le_trans advances.cursor cut.above
  ascending := cut.ascending
  size := cut.size
  next := cut.next
  below := advances.stop ▸ cut.below

theorem Cut.eq_single {pool after : PortPool} {range : PortRange} (cut : pool.Cut 1 range after) :
    range = ⟨range.first, range.first⟩ := by
  have total := cut.size
  rcases range with ⟨first, last⟩
  simp only [PortRange.mk.injEq, true_and] at total ⊢
  omega

theorem cut_ofLength {pool : PortPool} {size : Nat} (small : pool.stop < 2 ^ 16)
    (positive : size ≠ 0) (narrow : size < 2 ^ 32)
    (fits : ¬pool.cursor + cursorSize size > pool.stop) :
    pool.Cut size (.ofLength pool.cursor (rangeSize size))
      { pool with cursor := pool.cursor + cursorSize size } := by
  have sameCursor : cursorSize size = size := Nat.mod_eq_of_lt narrow
  rw [sameCursor] at fits ⊢
  have sameRange : rangeSize size = size := Nat.mod_eq_of_lt (by omega)
  rw [sameRange]
  refine ⟨⟨rfl, rfl, ?_⟩, ?_, ?_, ?_, ?_, ?_⟩ <;> simp only [PortRange.ofLength] <;> omega

section Reserve

variable {State : Type} (probe : Nat → State → Bool × State)

theorem advances_reserveFrom (size : Nat) (pool : PortPool) (state : State) :
    pool.Advances (reserveFrom probe size pool state).2.1 := by
  fun_induction reserveFrom probe size pool state with
  | case1 pool state full => exact .refl pool
  | case2 pool state fits cut between skipped looked ih =>
      apply Advances.trans _ ih
      refine ⟨rfl, rfl, ?_⟩
      dsimp only
      omega
  | case3 pool state fits cut between looked =>
      refine ⟨rfl, rfl, ?_⟩
      dsimp only
      omega

theorem advances_reserve (size : Nat) (pool : PortPool) (state : State) :
    pool.Advances (reserve probe size pool state).2.1 := by
  unfold reserve
  split
  · exact .refl pool
  · exact advances_reserveFrom probe size pool state

theorem advances_next (pool : PortPool) (state : State) :
    pool.Advances (next probe pool state).2.1 := by
  have reserved := advances_reserve probe 1 pool state
  unfold next
  split <;> simp_all

variable {probe} {size : Nat} {pool after : PortPool} {state final : State} {range : PortRange}

theorem cut_of_reserveFrom (small : pool.stop < 2 ^ 16) (positive : size ≠ 0)
    (narrow : size < 2 ^ 32)
    (reserved : reserveFrom probe size pool state = (.ok range, after, final)) :
    pool.Cut size range after := by
  fun_induction reserveFrom probe size pool state with
  | case1 pool state full => cases reserved
  | case2 pool state fits cut between skipped looked ih =>
      apply Cut.of_advances _ (ih small reserved)
      refine ⟨rfl, rfl, ?_⟩
      dsimp only
      omega
  | case3 pool state fits cut between looked =>
      simp only [Prod.mk.injEq, Except.ok.injEq] at reserved
      rcases reserved with ⟨rfl, rfl, _⟩
      exact cut_ofLength small positive narrow fits

theorem cut_of_reserve (small : pool.stop < 2 ^ 16) (narrow : size < 2 ^ 32)
    (reserved : reserve probe size pool state = (.ok range, after, final)) :
    pool.Cut size range after := by
  unfold reserve at reserved
  split at reserved
  · cases reserved
  · rename_i positive
    exact cut_of_reserveFrom small positive narrow reserved

/-- A single port is a range of its own. -/
theorem reserve_of_next {result : Except ClusterError Nat} (small : pool.stop < 2 ^ 16)
    (reserved : next probe pool state = (result, after, final)) :
    reserve probe 1 pool state = (result.map fun port => ⟨port, port⟩, after, final) := by
  unfold next at reserved
  split at reserved
  · rename_i range rest found
    cases reserved
    have cut := cut_of_reserve small (by omega) found
    rw [found, Except.map, ← cut.eq_single]
  · rename_i error rest found
    cases reserved
    exact found

theorem cut_of_next {port : Nat} (small : pool.stop < 2 ^ 16)
    (reserved : next probe pool state = (.ok port, after, final)) :
    pool.Cut 1 ⟨port, port⟩ after :=
  cut_of_reserve small (by omega) (reserve_of_next small reserved)

end Reserve

/-! ## What a call sees -/

/-- What a call has seen so far, the latest first: ports, and whether they were in use. -/
abbrev Sights := List (Nat × Bool)

/-- Looks at a port and keeps in mind what was seen. -/
def look (inUse : Sights → Nat → Bool) (port : Nat) (seen : Sights) : Bool × Sights :=
  (inUse seen port, (port, inUse seen port) :: seen)

variable {inUse : Sights → Nat → Bool}

/-- What so many looks have seen, from some port on behind others that were skipped. They end at the
first port in use, and if there is none each port was seen free. -/
structure Looked (probing : Bool) (first skipped count : Nat) (seen : Sights) (busy : Option Nat)
    (after : Sights) : Prop where
  kept : ∀ sight ∈ seen, sight ∈ after
  known : ∀ port, (port, true) ∈ after →
    (port, true) ∈ seen ∨ ∃ found, busy = some found ∧ port = first + found
  ended : ∀ found, busy = some found → (first + found, true) ∈ after ∧ found < skipped + count
  free : probing = true → busy = none → ∀ port, first + skipped ≤ port →
    port < first + skipped + count → (port, false) ∈ after

theorem looked_of_firstBusy {first count skipped : Nat} {seen after : Sights} {busy : Option Nat}
    (found : firstBusy (look inUse) first count skipped seen = (busy, after)) :
    Looked true first skipped count seen busy after := by
  induction count generalizing skipped seen with
  | zero =>
      cases found
      refine ⟨fun _ member => member, fun _ member => Or.inl member, nofun, ?_⟩
      intro _ _ port above below
      omega
  | succ count ih =>
      cases inUseNow : inUse seen (first + skipped) with
      | true =>
          simp only [firstBusy, look, inUseNow] at found
          cases found
          constructor
          · exact fun _ member => List.mem_cons_of_mem _ member
          · intro port member
            simp only [List.mem_cons, Prod.mk.injEq, and_true] at member
            rcases member with here | before
            · exact Or.inr ⟨skipped, rfl, here⟩
            · exact Or.inl before
          · rintro _ ⟨⟩
            exact ⟨List.mem_cons_self, by omega⟩
          · exact nofun
      | false =>
          simp only [firstBusy, look, inUseNow] at found
          have looked := ih found
          constructor
          · exact fun _ member => looked.kept _ (List.mem_cons_of_mem _ member)
          · intro port member
            rcases looked.known port member with before | here
            · left
              simpa using before
            · exact Or.inr here
          · intro stop same
            rcases looked.ended stop same with ⟨member, near⟩
            exact ⟨member, by omega⟩
          · intro probing none port above below
            by_cases here : port = first + skipped
            · subst here
              exact looked.kept _ List.mem_cons_self
            · apply looked.free probing none port <;> omega

/-- Where ports are not looked at, nothing is seen. -/
theorem looked_of_probing {probing : Bool} {first count : Nat} {seen after : Sights}
    {busy : Option Nat}
    (found : (if probing then firstBusy (look inUse) first count 0 seen else (none, seen)) =
      (busy, after)) :
    Looked probing first 0 count seen busy after := by
  split at found
  · rename_i on
    rw [on]
    exact looked_of_firstBusy found
  · rename_i off
    cases found
    exact ⟨fun _ member => member, fun _ member => Or.inl member, nofun, fun on => absurd on off⟩

/-- A range that was cut after looks at its ports: none of them was seen in use, and if the pool looks
at ports each of them was seen free. -/
structure Clear (pool : PortPool) (seen : Sights) (range : PortRange) : Prop where
  idle : ∀ port, (port, true) ∈ seen → range.contains port = false
  free : pool.probing = true → ∀ port, range.contains port = true → (port, false) ∈ seen

theorem clear_ofLength {pool : PortPool} {length : Nat} {seen final : Sights}
    (passed : ∀ port, (port, true) ∈ seen → port < pool.cursor)
    (looked : Looked pool.probing pool.cursor 0
      (PortRange.ofLength pool.cursor length).ports.length seen none final) :
    pool.Clear final (.ofLength pool.cursor length) := by
  constructor
  · intro port member
    rcases looked.known port member with before | ⟨found, none, _⟩
    · have early : port < pool.cursor := passed port before
      exact PortRange.not_contains_of_lt early
    · cases none
  · intro probing port inside
    rw [PortRange.contains_iff] at inside
    have total := PortRange.length_ports (.ofLength pool.cursor length)
    simp only [PortRange.ofLength] at inside total
    apply looked.free probing rfl port
    · omega
    · simp only [PortRange.ofLength, total]
      omega

/-- The cursor has passed every port that was seen in use, so that the range behind it has none. -/
theorem clear_of_reserveFrom {size : Nat} {pool after : PortPool} {seen final : Sights}
    {range : PortRange} (passed : ∀ port, (port, true) ∈ seen → port < pool.cursor)
    (reserved : reserveFrom (look inUse) size pool seen = (.ok range, after, final)) :
    pool.Clear final range := by
  fun_induction reserveFrom (look inUse) size pool seen with
  | case1 pool seen full => cases reserved
  | case2 pool seen fits cut between skipped looked ih =>
      have clear := ih ?_ reserved
      · exact ⟨clear.idle, clear.free⟩
      · intro port member
        dsimp only
        rcases (looked_of_probing looked).known port member with before | ⟨found, same, here⟩
        · have early := passed port before
          omega
        · cases same
          omega
  | case3 pool seen fits cut between looked =>
      simp only [Prod.mk.injEq, Except.ok.injEq] at reserved
      rcases reserved with ⟨rfl, _, rfl⟩
      exact clear_ofLength passed (looked_of_probing looked)

theorem clear_of_reserve {size : Nat} {pool after : PortPool} {final : Sights} {range : PortRange}
    (reserved : reserve (look inUse) size pool [] = (.ok range, after, final)) :
    pool.Clear final range := by
  unfold reserve at reserved
  split at reserved
  · cases reserved
  · apply clear_of_reserveFrom _ reserved
    simp

/-- So many ports in a row from some port on, of which one was seen in use. -/
def Sights.Blocks (seen : Sights) (first size : Nat) : Prop :=
  ∃ port, (port, true) ∈ seen ∧ first ≤ port ∧ port < first + size

/-- Of every range of some size that was passed by, from the cursor on, a port was seen in use. Where
no range was handed out, all of them were passed by. -/
def FirstFit (pool : PortPool) (size : Nat) (seen : Sights)
    (result : Except ClusterError PortRange) : Prop :=
  ∀ first, pool.cursor ≤ first → first + size ≤ pool.stop →
    (∀ range, result = .ok range → first < range.first) → seen.Blocks first size

theorem seen_of_reserveFrom {size : Nat} {pool after : PortPool} {seen final : Sights}
    {result : Except ClusterError PortRange}
    (reserved : reserveFrom (look inUse) size pool seen = (result, after, final)) :
    ∀ sight ∈ seen, sight ∈ final := by
  fun_induction reserveFrom (look inUse) size pool seen with
  | case1 pool seen full =>
      cases reserved
      exact fun _ member => member
  | case2 pool seen fits cut between skipped looked ih =>
      exact fun sight member => ih reserved sight ((looked_of_probing looked).kept sight member)
  | case3 pool seen fits cut between looked =>
      cases reserved
      exact (looked_of_probing looked).kept

/-- The cursor skips a port only up to the next one that is in use. -/
theorem firstFit_of_reserveFrom {size : Nat} {pool after : PortPool} {seen final : Sights}
    {result : Except ClusterError PortRange} (small : pool.stop < 2 ^ 16) (positive : size ≠ 0)
    (narrow : size < 2 ^ 32)
    (reserved : reserveFrom (look inUse) size pool seen = (result, after, final)) :
    pool.FirstFit size final result := by
  have sameCursor : cursorSize size = size := Nat.mod_eq_of_lt narrow
  fun_induction reserveFrom (look inUse) size pool seen with
  | case1 pool seen full =>
      intro first above below
      omega
  | case2 pool seen fits cut between skipped looked ih =>
      intro first above below passedBy
      by_cases behind : pool.cursor + skipped < first
      · exact ih small reserved first behind below passedBy
      · have sameRange : rangeSize size = size := Nat.mod_eq_of_lt (by omega)
        rcases (looked_of_probing looked).ended skipped rfl with ⟨busy, near⟩
        refine ⟨pool.cursor + skipped, seen_of_reserveFrom reserved _ busy, by omega, ?_⟩
        simp only [cut, PortRange.length_ports, PortRange.ofLength, sameRange] at near
        omega
  | case3 pool seen fits cut between looked =>
      simp only [Prod.mk.injEq] at reserved
      rcases reserved with ⟨rfl, _, _⟩
      intro first above below passedBy
      exact absurd (passedBy _ rfl) (Nat.not_lt_of_le above)

theorem firstFit_of_reserve {size : Nat} {pool after : PortPool} {final : Sights}
    {result : Except ClusterError PortRange} (small : pool.stop < 2 ^ 16) (positive : size ≠ 0)
    (narrow : size < 2 ^ 32) (reserved : reserve (look inUse) size pool [] = (result, after, final)) :
    pool.FirstFit size final result := by
  rw [reserve, if_neg positive] at reserved
  exact firstFit_of_reserveFrom small positive narrow reserved

/-! ## Calls -/

/-- What a user asks a pool for. -/
inductive Demand where
  | range (size : Nat)
  | single
  deriving DecidableEq, Repr

/-- How many ports are asked for. -/
def Demand.size : Demand → Nat
  | range size => size
  | single => 1

/-- A call of a user, with what is in use when it looks at a port after what it has seen. -/
structure Call where
  demand : Demand
  inUse : Sights → Nat → Bool

/-- A call that was served: the pool before it, what came of it, what it has seen, and the pool after
it. -/
structure Served where
  before : PortPool
  result : Except ClusterError PortRange
  seen : Sights
  pool : PortPool

/-- The range that was handed out. A single port is a range of its own. -/
def Served.range? (served : Served) : Option PortRange := served.result.toOption

theorem Served.range?_eq_some {served : Served} {range : PortRange} :
    served.range? = some range ↔ served.result = .ok range := by
  cases outcome : served.result <;> simp [range?, outcome, Except.toOption]

/-- Serves a call. -/
def serve (pool : PortPool) (call : Call) : Served :=
  match call.demand with
  | .range size =>
    let (result, after, seen) := pool.reserve (look call.inUse) size []
    ⟨pool, result, seen, after⟩
  | .single =>
    let (result, after, seen) := pool.next (look call.inUse) []
    ⟨pool, result.map fun port => ⟨port, port⟩, seen, after⟩

/-- Serves calls one after another. -/
def serveAll (pool : PortPool) : List Call → List Served
  | [] => []
  | call :: rest => pool.serve call :: (pool.serve call).pool.serveAll rest

theorem advances_serve (pool : PortPool) (call : Call) : pool.Advances (pool.serve call).pool := by
  unfold serve
  split
  · exact advances_reserve _ _ pool []
  · exact advances_next _ pool []

variable {pool : PortPool} {call : Call} {range : PortRange}

/-- A call is served by a reservation of as many ports as it asks for. -/
theorem reserve_of_serve (small : pool.stop < 2 ^ 16) (call : Call) :
    pool.reserve (look call.inUse) call.demand.size [] =
      ((pool.serve call).result, (pool.serve call).pool, (pool.serve call).seen) := by
  unfold serve
  cases call.demand with
  | range size => rfl
  | single => exact reserve_of_next small rfl

theorem cut_of_serve (small : pool.stop < 2 ^ 16) (narrow : call.demand.size < 2 ^ 32)
    (granted : (pool.serve call).result = .ok range) :
    pool.Cut call.demand.size range (pool.serve call).pool := by
  have reserved := reserve_of_serve small call
  rw [granted] at reserved
  exact cut_of_reserve small narrow reserved

theorem clear_of_serve (small : pool.stop < 2 ^ 16)
    (granted : (pool.serve call).result = .ok range) : pool.Clear (pool.serve call).seen range := by
  have reserved := reserve_of_serve small call
  rw [granted] at reserved
  exact clear_of_reserve reserved

/-- A range lies between two bounds, has the size that was asked for, and none of its ports was seen in
use; if ports are looked at, each of its ports was seen free. -/
structure Served.Sound (start stop : Nat) (probing : Bool) (call : Call) (served : Served)
    (range : PortRange) : Prop where
  above : start ≤ range.first
  ascending : range.first ≤ range.last
  below : range.last < stop
  size : range.length = call.demand.size
  idle : ∀ port, (port, true) ∈ served.seen → range.contains port = false
  free : probing = true → ∀ port, range.contains port = true → (port, false) ∈ served.seen

/-- A call passes a range by only where it sees one of its ports in use. -/
def Served.Fits (call : Call) (served : Served) : Prop :=
  served.before.FirstFit call.demand.size served.seen served.result

theorem before_serve (pool : PortPool) (call : Call) : (pool.serve call).before = pool := by
  unfold serve
  split <;> rfl

theorem fits_of_serve (small : pool.stop < 2 ^ 16) (positive : 1 ≤ call.demand.size)
    (narrow : call.demand.size < 2 ^ 32) : Served.Fits call (pool.serve call) := by
  rw [Served.Fits, before_serve]
  exact firstFit_of_reserve small (Nat.ne_of_gt positive) narrow (reserve_of_serve small call)

theorem sound_of_serve (small : pool.stop < 2 ^ 16) (narrow : call.demand.size < 2 ^ 32)
    (granted : (pool.serve call).result = .ok range) :
    Served.Sound pool.cursor pool.stop pool.probing call (pool.serve call) range := by
  have cut := cut_of_serve small narrow granted
  have clear := clear_of_serve small granted
  have next := cut.next
  have below := cut.below
  refine ⟨cut.above, cut.ascending, ?_, cut.length, clear.idle, clear.free⟩
  omega

theorem sound_of_serveAll (small : pool.stop < 2 ^ 16) {calls : List Call}
    (narrow : ∀ call ∈ calls, call.demand.size < 2 ^ 32) {start : Nat} (passed : start ≤ pool.cursor) :
    List.Forall₂ (fun call served => ∀ range, served.result = .ok range →
      Served.Sound start pool.stop pool.probing call served range) calls (pool.serveAll calls) := by
  induction calls generalizing pool with
  | nil => exact .nil
  | cons call rest ih =>
      have advances := pool.advances_serve call
      apply List.Forall₂.cons
      · intro range granted
        have sound := sound_of_serve small (narrow call List.mem_cons_self) granted
        exact { sound with above := Nat.le_trans passed sound.above }
      · rw [← advances.stop, ← advances.probing]
        apply ih
        · rw [advances.stop]
          exact small
        · intro other member
          exact narrow other (List.mem_cons_of_mem _ member)
        · exact Nat.le_trans passed advances.cursor

theorem fits_of_serveAll (small : pool.stop < 2 ^ 16) {calls : List Call}
    (narrow : ∀ call ∈ calls, 1 ≤ call.demand.size ∧ call.demand.size < 2 ^ 32) :
    List.Forall₂ Served.Fits calls (pool.serveAll calls) := by
  induction calls generalizing pool with
  | nil => exact .nil
  | cons call rest ih =>
      rcases narrow call List.mem_cons_self with ⟨positive, narrowFirst⟩
      apply List.Forall₂.cons (fits_of_serve small positive narrowFirst)
      apply ih
      · rw [(pool.advances_serve call).stop]
        exact small
      · intro other member
        exact narrow other (List.mem_cons_of_mem _ member)

theorem above_of_serveAll (small : pool.stop < 2 ^ 16) {calls : List Call}
    (narrow : ∀ call ∈ calls, call.demand.size < 2 ^ 32)
    (member : range ∈ (pool.serveAll calls).filterMap Served.range?) : pool.cursor ≤ range.first := by
  have sound := sound_of_serveAll small narrow (Nat.le_refl pool.cursor)
  rw [List.mem_filterMap] at member
  rcases member with ⟨served, among, granted⟩
  rcases List.mem_iff_getElem.mp among with ⟨index, inside, rfl⟩
  have each := (List.forall₂_iff_get.mp sound).2 index (sound.length_eq ▸ inside) inside
  exact (each range (Served.range?_eq_some.mp granted)).above

theorem cursors_of_serveAll (pool : PortPool) (calls : List Call) :
    (pool.cursor :: (pool.serveAll calls).map (·.pool.cursor)).Pairwise (· ≤ ·) := by
  induction calls generalizing pool with
  | nil => simp [serveAll]
  | cons call rest ih =>
      have later := ih (pool.serve call).pool
      have step := (pool.advances_serve call).cursor
      rw [serveAll, List.map_cons]
      refine List.pairwise_cons.mpr ⟨?_, later⟩
      intro cursor member
      rcases List.mem_cons.mp member with rfl | afterwards
      · exact step
      · exact Nat.le_trans step ((List.pairwise_cons.mp later).1 cursor afterwards)

theorem apart_of_serveAll (small : pool.stop < 2 ^ 16) {calls : List Call}
    (narrow : ∀ call ∈ calls, call.demand.size < 2 ^ 32) :
    ((pool.serveAll calls).filterMap Served.range?).Pairwise PortRange.Apart := by
  induction calls generalizing pool with
  | nil => exact .nil
  | cons call rest ih =>
      have advances := pool.advances_serve call
      have smallThen : (pool.serve call).pool.stop < 2 ^ 16 := by
        rw [advances.stop]
        exact small
      have narrowRest : ∀ other ∈ rest, other.demand.size < 2 ^ 32 := by
        intro other member
        exact narrow other (List.mem_cons_of_mem _ member)
      have apartRest := ih smallThen narrowRest
      rw [serveAll]
      cases granted : (pool.serve call).result with
      | error error =>
          rw [List.filterMap_cons_none (by simp [Served.range?, granted, Except.toOption])]
          exact apartRest
      | ok range =>
          rw [List.filterMap_cons_some (Served.range?_eq_some.mpr granted)]
          refine List.pairwise_cons.mpr ⟨?_, apartRest⟩
          intro later member
          have cut := cut_of_serve small (narrow call List.mem_cons_self) granted
          have above := above_of_serveAll smallThen narrowRest member
          rw [cut.next] at above
          apply PortRange.apart_of_lt
          omega

/-- Whatever users ask a pool for, in whatever order, and whatever is in use when they look: the ranges
they get are pairwise apart; each lies between the first and the last port of the pool, has the size
that was asked for and no port that its call saw in use; and the cursor never goes back. A call passes
a range by only where it sees one of its ports in use, and fails only where it has passed all by. -/
theorem ranges_apart (pool : PortPool) (small : pool.stop < 2 ^ 16) (calls : List Call)
    (narrow : ∀ call ∈ calls, 1 ≤ call.demand.size ∧ call.demand.size < 2 ^ 31) :
    ((pool.serveAll calls).filterMap Served.range?).Pairwise PortRange.Apart ∧
      List.Forall₂ (fun call served => ∀ range, served.result = .ok range →
        Served.Sound pool.cursor pool.stop pool.probing call served range)
        calls (pool.serveAll calls) ∧
      (pool.cursor :: (pool.serveAll calls).map (·.pool.cursor)).Pairwise (· ≤ ·) ∧
      List.Forall₂ Served.Fits calls (pool.serveAll calls) := by
  have narrower : ∀ call ∈ calls, 1 ≤ call.demand.size ∧ call.demand.size < 2 ^ 32 := by
    intro call member
    have bounds := narrow call member
    omega
  have below : ∀ call ∈ calls, call.demand.size < 2 ^ 32 :=
    fun call member => (narrower call member).2
  refine ⟨apart_of_serveAll small below, ?_, cursors_of_serveAll pool calls,
    fits_of_serveAll small narrower⟩
  exact sound_of_serveAll small below (Nat.le_refl pool.cursor)

/-- Three calls for the ports from 10 to 15. When the first one looks, port 11 is in use, and port 12
comes into use meanwhile. -/
def rush : List Call :=
  [⟨.range 2, fun seen port => port = 11 || seen.length = 2⟩, ⟨.single, fun _ _ => false⟩,
    ⟨.range 2, fun _ _ => false⟩]

theorem ranges_apart_of_rush :
    ((⟨10, 16, true⟩ : PortPool).serveAll rush).map Served.range? =
        [some ⟨13, 14⟩, some ⟨15, 15⟩, none] ∧
      (((⟨10, 16, true⟩ : PortPool).serveAll rush).filterMap Served.range?).Pairwise
        PortRange.Apart ∧
      (10 :: ((⟨10, 16, true⟩ : PortPool).serveAll rush).map (·.pool.cursor)).Pairwise (· ≤ ·) := by
  have apart := ranges_apart ⟨10, 16, true⟩ (by decide) rush (by simp [rush, Demand.size])
  exact ⟨by cbv, apart.1, apart.2.2.1⟩

end PortPool

end GracefulStop
