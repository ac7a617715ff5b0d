import PoeDhcp.Foundation.Machine

namespace Foundation

universe u v w x

/-! Bounds on runs: how often every party has to get a turn until a task is
done, and how much a run can emit. -/

/-- While the rank is not zero one party owes the next step of the task. No
allowed event raises the rank, and none that leaves it as it is passes the step on
to another party. -/
structure Progress {σ : Type u} {ε : Type v} {ω : Type w}
    (machine : Machine σ ε ω) (party : Type x) where
  Inv : σ → Prop
  Allowed : ε → Prop
  IsTurn : party → ε → Prop
  rank : σ → Nat
  owed : σ → party
  inv_next : ∀ {state event}, Inv state → Allowed event →
    Inv (machine.next state event)
  lowers : ∀ {state event}, Inv state → Allowed event → rank state ≠ 0 →
    IsTurn (owed state) event → rank (machine.next state event) < rank state
  keeps : ∀ {state event}, Inv state → Allowed event →
    rank (machine.next state event) < rank state ∨
      rank (machine.next state event) = rank state ∧
        owed (machine.next state event) = owed state

namespace Progress

variable {σ : Type u} {ε : Type v} {ω : Type w} {party : Type x}
variable {machine : Machine σ ε ω} (progress : Progress machine party)
variable {state : σ}

/-- Every party gets a turn. -/
def Round (events : List ε) : Prop :=
  ∀ who, ∃ event ∈ events, progress.IsTurn who event

theorem run_inv (inv : progress.Inv state) (events : List ε)
    (allowed : ∀ event ∈ events, progress.Allowed event) :
    progress.Inv (machine.exec state events) :=
  machine.exec_induction events state inv fun event member _ held =>
    progress.inv_next held (allowed event member)

theorem run_rank_le (inv : progress.Inv state) (events : List ε)
    (allowed : ∀ event ∈ events, progress.Allowed event) :
    progress.rank (machine.exec state events) ≤ progress.rank state := by
  induction events generalizing state with
  | nil => exact Nat.le_refl _
  | cons event rest ih =>
      obtain ⟨first, later⟩ := List.forall_mem_cons.mp allowed
      have step : progress.rank (machine.next state event) ≤
          progress.rank state := by
        rcases progress.keeps inv first with lower | same
        · exact Nat.le_of_lt lower
        · exact Nat.le_of_eq same.1
      exact Nat.le_trans (ih (progress.inv_next inv first) later) step

/-- A turn of the party that owes the step lowers the rank, whatever happens
before it. -/
theorem run_lowers (inv : progress.Inv state) (events : List ε)
    (allowed : ∀ event ∈ events, progress.Allowed event)
    (open_ : progress.rank state ≠ 0)
    (turn : ∃ event ∈ events, progress.IsTurn (progress.owed state) event) :
    progress.rank (machine.exec state events) < progress.rank state := by
  induction events generalizing state with
  | nil =>
      obtain ⟨event, member, -⟩ := turn
      cases member
  | cons event rest ih =>
      obtain ⟨first, later⟩ := List.forall_mem_cons.mp allowed
      have inv_next := progress.inv_next inv first
      have rest_le := progress.run_rank_le inv_next rest later
      rw [Machine.exec_cons]
      rcases progress.keeps inv first with lower | ⟨sameRank, sameOwed⟩
      · exact Nat.lt_of_le_of_lt rest_le lower
      · obtain ⟨acted, member, acts⟩ := turn
        rcases List.mem_cons.mp member with rfl | inRest
        · exact Nat.lt_of_le_of_lt rest_le
            (progress.lowers inv first open_ acts)
        · rw [← sameRank]
          refine ih inv_next later ?_ ⟨acted, inRest, ?_⟩
          · rw [sameRank]
            exact open_
          · rw [sameOwed]
            exact acts

theorem rounds_rank_le (inv : progress.Inv state) (rounds : List (List ε))
    (allowed : ∀ events ∈ rounds, ∀ event ∈ events, progress.Allowed event)
    (complete : ∀ events ∈ rounds, progress.Round events) :
    progress.rank (machine.exec state rounds.flatten) ≤
      progress.rank state - rounds.length := by
  induction rounds generalizing state with
  | nil => exact Nat.le_refl _
  | cons events rest ih =>
      obtain ⟨first, later⟩ := List.forall_mem_cons.mp allowed
      obtain ⟨round, others⟩ := List.forall_mem_cons.mp complete
      have rest_le := ih (progress.run_inv inv events first) later others
      have lower : progress.rank (machine.exec state events) ≤
          progress.rank state - 1 := by
        by_cases done : progress.rank state = 0
        · have kept := progress.run_rank_le inv events first
          omega
        · have lowered := progress.run_lowers inv events first done
            (round (progress.owed state))
          omega
      rw [List.flatten_cons, Machine.exec_append, List.length_cons]
      omega

/-- After as many rounds as the rank says the task is done. -/
theorem done_of_rounds (inv : progress.Inv state) (rounds : List (List ε))
    (allowed : ∀ events ∈ rounds, ∀ event ∈ events, progress.Allowed event)
    (complete : ∀ events ∈ rounds, progress.Round events)
    (enough : progress.rank state ≤ rounds.length) :
    progress.rank (machine.exec state rounds.flatten) = 0 := by
  have bound := progress.rounds_rank_le inv rounds allowed complete
  omega

end Progress

/-- A run emits no more than a budget that pays for every step. -/
theorem Machine.outputs_length_le {σ : Type u} {ε : Type v} {ω : Type w}
    (machine : Machine σ ε ω) {Inv : σ → Prop} {budget : σ → Nat}
    (events : List ε) (state : σ) (inv : Inv state)
    (step : ∀ event ∈ events, ∀ state, Inv state →
      Inv (machine.next state event) ∧
        (machine.emit state event).length +
          budget (machine.next state event) ≤ budget state) :
    (machine.outputs state events).length ≤ budget state := by
  induction events generalizing state with
  | nil => exact Nat.zero_le _
  | cons event rest ih =>
      obtain ⟨inv_next, paid⟩ := step event (by simp) state inv
      have later := ih (machine.next state event) inv_next
        fun other member => step other (by simp [member])
      rw [Machine.outputs_cons, List.length_append]
      omega

end Foundation
