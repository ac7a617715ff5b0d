import Mathlib.Data.List.Induction
import PoeDhcp.Foundation.Machine

namespace Foundation

universe u v w x

/-! Several copies of a machine that run side by side. -/

/-- An event of the family is at most one event for each member. The observations
carry the index of the member. -/
def Machine.family {σ : Type u} {ε : Type v} {ω : Type w} {φ : Type x}
    (machine : Machine σ ε ω) (route : φ → Nat → Option ε) :
    Machine (List σ) φ (Nat × ω) where
  step states event :=
    (states.mapIdx fun index state =>
        machine.exec state (route event index).toList,
      (states.mapIdx fun index state =>
        (machine.outputs state (route event index).toList).map
          (Prod.mk index)).flatten)

/-- What one member has emitted. -/
def partOf {ω : Type w} (index : Nat) (history : List (Nat × ω)) : List ω :=
  history.filterMap fun entry =>
    if entry.1 = index then some entry.2 else none

theorem mem_partOf {ω : Type w} {index : Nat} {history : List (Nat × ω)}
    {output : ω} :
    output ∈ partOf index history ↔ (index, output) ∈ history := by
  unfold partOf
  rw [List.mem_filterMap]
  constructor
  · intro found
    obtain ⟨⟨place, emitted⟩, member, chosen⟩ := found
    dsimp only at chosen
    split at chosen
    · rename_i same
      rw [← Option.some.inj chosen, ← same]
      exact member
    · cases chosen
  · intro member
    exact ⟨(index, output), member, if_pos rfl⟩

theorem partOf_append {ω : Type w} (index : Nat)
    (first second : List (Nat × ω)) :
    partOf index (first ++ second) =
      partOf index first ++ partOf index second :=
  List.filterMap_append

theorem partOf_tagged {ω : Type w} (index place : Nat) (outputs : List ω) :
    partOf index (outputs.map (Prod.mk place)) =
      if place = index then outputs else [] := by
  induction outputs with
  | nil => simp [partOf]
  | cons output rest ih =>
      rw [List.map_cons, partOf, List.filterMap_cons]
      split
      · rename_i skipped
        have other : place ≠ index := by
          intro same
          simp [same] at skipped
        rw [if_neg other] at ih ⊢
        exact ih
      · rename_i emitted chosen
        dsimp only at chosen
        split at chosen
        · rename_i same
          rw [if_pos same] at ih ⊢
          rw [← Option.some.inj chosen]
          exact congrArg (output :: ·) ih
        · cases chosen

/-- The part of a member is what it emits itself. -/
theorem partOf_mapIdx {σ : Type u} {ω : Type w} (emit : Nat → σ → List ω)
    (index : Nat) (states : List σ) :
    partOf index (states.mapIdx fun place state =>
        (emit place state).map (Prod.mk place)).flatten =
      states[index]?.elim [] (emit index) := by
  induction states using List.reverseRecOn with
  | nil => rfl
  | append_singleton states last ih =>
      rw [List.mapIdx_concat, List.flatten_concat, partOf_append, ih,
        partOf_tagged]
      rcases Nat.lt_trichotomy index states.length with before | same | behind
      · rw [List.getElem?_append_left before, if_neg (Nat.ne_of_gt before),
          List.append_nil]
      · subst same
        simp
      · rw [if_neg (Nat.ne_of_lt behind), List.append_nil]
        have beyond : (states ++ [last])[index]? = none := by
          rw [List.getElem?_eq_none_iff]
          simp only [List.length_append, List.length_singleton]
          omega
        have outside : states[index]? = none :=
          List.getElem?_eq_none_iff.mpr (Nat.le_of_lt behind)
        rw [beyond, outside]

namespace Machine

variable {σ : Type u} {ε : Type v} {ω : Type w} {φ : Type x}
variable (machine : Machine σ ε ω) (route : φ → Nat → Option ε)

/-- The events of one member in a run of the family. -/
def routed (index : Nat) (events : List φ) : List ε :=
  events.flatMap fun event => (route event index).toList

/-- In a run of the family each member makes a run of its own. -/
theorem family_outputs (index : Nat) (states : List σ) (events : List φ) :
    partOf index ((machine.family route).outputs states events) =
      states[index]?.elim [] fun state =>
        machine.outputs state (routed route index events) := by
  induction events generalizing states with
  | nil => cases states[index]? <;> rfl
  | cons event rest ih =>
      have first := partOf_mapIdx (fun place state =>
        machine.outputs state (route event place).toList) index states
      rw [outputs_cons, partOf_append, ih]
      simp only [emit, next, family, List.getElem?_mapIdx] at first ⊢
      rw [first]
      cases states[index]? with
      | none => rfl
      | some state => exact (machine.outputs_append state _ _).symm

end Machine

end Foundation
