import Mathlib.Data.List.Count
import PoeDhcp.Foundation.Machine

namespace Foundation

universe u v w

/-! Accounts of a resource over the runs of a machine. -/

/-- How many units a state holds, and which observations take one and give one
back. -/
structure Account (σ : Type u) (ω : Type w) where
  held : σ → Nat
  takes : ω → Bool
  gives : ω → Bool

namespace Account

variable {σ : Type u} {ε : Type v} {ω : Type w} (account : Account σ ω)
variable (machine : Machine σ ε ω)

def taken (outputs : List ω) : Nat := outputs.countP account.takes

def given (outputs : List ω) : Nat := outputs.countP account.gives

@[simp] theorem taken_nil : account.taken [] = 0 := rfl

@[simp] theorem given_nil : account.given [] = 0 := rfl

@[simp] theorem taken_append (first second : List ω) :
    account.taken (first ++ second) =
      account.taken first + account.taken second :=
  List.countP_append

@[simp] theorem given_append (first second : List ω) :
    account.given (first ++ second) =
      account.given first + account.given second :=
  List.countP_append

/-- Units may be lost, but none comes from nowhere. -/
def Covers (before after : σ) (outputs : List ω) : Prop :=
  account.held after + account.given outputs ≤
    account.held before + account.taken outputs

/-- No unit is lost. -/
def Settles (before after : σ) (outputs : List ω) : Prop :=
  account.held after + account.given outputs =
    account.held before + account.taken outputs

def StepSettles (state : σ) (event : ε) : Prop :=
  account.Settles state (machine.next state event) (machine.emit state event)

variable {account}

theorem Settles.refl (state : σ) : account.Settles state state [] := rfl

theorem Settles.trans {first second third : σ} {early late : List ω}
    (before : account.Settles first second early)
    (after : account.Settles second third late) :
    account.Settles first third (early ++ late) := by
  unfold Settles at before after ⊢
  rw [taken_append, given_append]
  omega

variable {machine}

theorem run_settles {events : List ε} {state : σ}
    (steps : machine.EachStep (account.StepSettles machine) state events) :
    account.Settles state (machine.exec state events)
      (machine.outputs state events) := by
  induction events generalizing state with
  | nil => exact .refl state
  | cons event rest ih => exact Settles.trans steps.1 (ih steps.2)

theorem run_covers
    (covers : ∀ state event, account.Covers state (machine.next state event)
      (machine.emit state event))
    (events : List ε) (state : σ) :
    account.Covers state (machine.exec state events)
      (machine.outputs state events) := by
  induction events generalizing state with
  | nil => exact Nat.le_refl _
  | cons event rest ih =>
      have first := covers state event
      have later := ih (machine.next state event)
      unfold Covers at first later ⊢
      rw [Machine.exec_cons, Machine.outputs_cons, taken_append,
        given_append]
      omega

/-- When no step can make a unit, a run settles exactly when each of its steps
does. -/
theorem run_settles_iff
    (covers : ∀ state event, account.Covers state (machine.next state event)
      (machine.emit state event))
    (events : List ε) (state : σ) :
    account.Settles state (machine.exec state events)
        (machine.outputs state events) ↔
      machine.EachStep (account.StepSettles machine) state events := by
  refine ⟨?_, run_settles⟩
  induction events generalizing state with
  | nil => exact fun _ => trivial
  | cons event rest ih =>
      intro settled
      have first := covers state event
      have later := run_covers covers rest (machine.next state event)
      unfold Settles at settled
      rw [Machine.exec_cons, Machine.outputs_cons, taken_append,
        given_append] at settled
      unfold Covers at first later
      refine ⟨?_, ih _ ?_⟩
      · unfold StepSettles Settles
        omega
      · unfold Settles
        omega

end Account

/-! Handles that stand in slots. -/

section Slots

variable {Slot : Type u} {Handle : Type v} [DecidableEq Handle]

/-- In how many of the slots the handle stands. -/
def heldIn (slots : List Slot) (table : Slot → Option Handle)
    (handle : Handle) : Nat :=
  slots.countP fun slot => table slot = some handle

theorem heldIn_empty {slots : List Slot} {table : Slot → Option Handle}
    (empty : ∀ slot ∈ slots, table slot = none) (handle : Handle) :
    heldIn slots table handle = 0 := by
  refine List.countP_eq_zero.mpr ?_
  intro slot member
  simp [empty slot member]

theorem count_filterMap_slots (slots : List Slot)
    (table : Slot → Option Handle) (handle : Handle) :
    (slots.filterMap table).count handle = heldIn slots table handle := by
  induction slots with
  | nil => rfl
  | cons slot rest ih =>
      rw [heldIn, List.countP_cons, ← heldIn, ← ih]
      cases stands : table slot with
      | none =>
          rw [List.filterMap_cons_none stands]
          simp
      | some other =>
          rw [List.filterMap_cons_some stands, List.count_cons]
          simp

end Slots

end Foundation
