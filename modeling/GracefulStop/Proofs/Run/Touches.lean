import GracefulStop.Proofs.Run.Course
import GracefulStop.Workload.Operation

/-!
# Lots and ports

Drawing lots and looking for free ports asks the surroundings a number of times that depends on their
answers, but each time for the same thing.
-/

namespace GracefulStop

variable {State : Type} {world : World State} {deed : Deed} {now : Instant}

section Lots

variable (drawn : ∀ bound state, world.Touch deed now state (world.draw bound state).2)
include drawn

namespace Draw

theorem touches_below (bound : Nat) (state : State) :
    world.Touches deed now state (world.draw.below bound state).2 :=
  .single (drawn bound state)

theorem touches_oneOf {Item : Type} (items : List Item) (state : State) :
    world.Touches deed now state (world.draw.oneOf items state).2 :=
  touches_below drawn items.length state

theorem touches_takeOut {Item : Type} (count : Nat) (items : List Item) (state : State) :
    world.Touches deed now state (world.draw.takeOut count items state).2 := by
  induction count generalizing items state with
  | zero => exact .refl
  | succ count ih =>
      have first := touches_below drawn items.length state
      rcases below : world.draw.below items.length state with ⟨index, between⟩
      rw [below] at first
      simp only [takeOut, below]
      cases items[index]? with
      | none => exact first
      | some item => exact first.trans (ih _ _)

theorem touches_shuffle {Item : Type} (items : List Item) (state : State) :
    world.Touches deed now state (world.draw.shuffle items state).2 :=
  touches_takeOut drawn items.length items state

end Draw

theorem touches_shuffledName (state : State) :
    world.Touches deed now state (shuffledName world.draw state).2 :=
  Draw.touches_shuffle drawn nameAlphabet state

/-- The parameters of a statement are drawn. -/
theorem OperationKind.touches_params (kind : OperationKind) (state : State) :
    world.Touches deed now state (kind.params world.draw state).2 := by
  cases kind with
  | select => exact .refl
  | insert =>
      have first := Draw.touches_below drawn (2 ^ 31) state
      rcases below : world.draw.below (2 ^ 31) state with ⟨id, between⟩
      rw [below] at first
      simp only [params, below]
      exact first.trans (touches_shuffledName drawn between)
  | delete => exact touches_shuffledName drawn state

end Lots

/-- One of several items is drawn. -/
theorem Draw.exists_of_oneOf {Item : Type} (draw : Draw State) {items : List Item}
    (several : items ≠ []) (state : State) : ∃ item ∈ items, (draw.oneOf items state).1 = some item := by
  have inside : (draw items.length state).1 % items.length < items.length :=
    Nat.mod_lt _ (List.length_pos_iff.mpr several)
  exact ⟨_, List.getElem_mem inside, List.getElem?_eq_getElem inside⟩

namespace PortPool

theorem touches_firstBusy (first count skipped : Nat) (state : State) :
    world.Touches .reserve now state
      (firstBusy (world.portInUse now) first count skipped state).2 := by
  induction count generalizing skipped state with
  | zero => exact .refl
  | succ count ih =>
      have probed : world.Touch .reserve now state (world.portInUse now (first + skipped) state).2 :=
        .reserve _ _ _
      rcases probe : world.portInUse now (first + skipped) state with ⟨busy, between⟩
      rw [probe] at probed
      cases busy with
      | true => simpa only [firstBusy, probe] using .single probed
      | false =>
          simp only [firstBusy, probe]
          exact Relation.ReflTransGen.head probed (ih _ _)

theorem touches_of_probing {pool : PortPool} {count : Nat} {state between : State}
    {busy : Option Nat}
    (looked : (if pool.probing = true then firstBusy (world.portInUse now) pool.cursor count 0 state
      else (none, state)) = (busy, between)) :
    world.Touches .reserve now state between := by
  have probed := @touches_firstBusy State world now pool.cursor count 0 state
  split at looked
  · rwa [looked] at probed
  · cases looked
    exact .refl

theorem touches_reserveFrom (size : Nat) (pool : PortPool) (state : State) :
    world.Touches .reserve now state (reserveFrom (world.portInUse now) size pool state).2.2 := by
  fun_induction reserveFrom (world.portInUse now) size pool state with
  | case1 => exact .refl
  | case2 pool state fits range between skipped looked ih =>
      exact (touches_of_probing looked).trans ih
  | case3 pool state fits range between looked => exact touches_of_probing looked

theorem touches_reserve (size : Nat) (pool : PortPool) (state : State) :
    world.Touches .reserve now state (reserve (world.portInUse now) size pool state).2.2 := by
  unfold reserve
  split
  · exact .refl
  · exact touches_reserveFrom size pool state

theorem touches_next (pool : PortPool) (state : State) :
    world.Touches .reserve now state (next (world.portInUse now) pool state).2.2 := by
  have reserved := @touches_reserve State world now 1 pool state
  unfold next
  split <;> simp_all

end PortPool

end GracefulStop
