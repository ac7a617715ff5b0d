import PoeDhcp.Foundation.Machine

namespace Foundation

universe u v w

/-! Forward simulations between machines: each event of the one is matched by
some events of the other, with the same observations. -/

structure Simulation {σ τ : Type u} {ε φ : Type v} {ω : Type w}
    (concrete : Machine σ ε ω) (abstract : Machine τ φ ω) where
  Related : σ → τ → Prop
  step : ∀ {state model} (event : ε), Related state model →
    ∃ events, Related (concrete.next state event)
        (abstract.exec model events) ∧
      abstract.outputs model events = concrete.emit state event

namespace Simulation

variable {σ τ : Type u} {ε φ : Type v} {ω : Type w}
variable {concrete : Machine σ ε ω} {abstract : Machine τ φ ω}

/-- Every run has a run of the abstract machine with the same observations. -/
theorem run (simulation : Simulation concrete abstract) {state : σ} {model : τ}
    (related : simulation.Related state model) (events : List ε) :
    ∃ matching, simulation.Related (concrete.exec state events)
        (abstract.exec model matching) ∧
      abstract.outputs model matching = concrete.outputs state events := by
  induction events generalizing state model with
  | nil => exact ⟨[], related, rfl⟩
  | cons event rest ih =>
      obtain ⟨first, next, observed⟩ := simulation.step event related
      obtain ⟨later, final, observedLater⟩ := ih next
      refine ⟨first ++ later, ?_, ?_⟩
      · rw [Machine.exec_append]
        exact final
      · rw [Machine.outputs_append, observed, observedLater,
          Machine.outputs_cons]

end Simulation

end Foundation
