import Mathlib.Data.List.Basic

namespace Foundation

universe u v w

/-! Deterministic machines that emit observations, and the induction rules over
their runs. -/

structure Machine (σ : Type u) (ε : Type v) (ω : Type w) where
  step : σ → ε → σ × List ω

namespace Machine

variable {σ : Type u} {ε : Type v} {ω : Type w} (machine : Machine σ ε ω)

def next (state : σ) (event : ε) : σ :=
  (machine.step state event).1

def emit (state : σ) (event : ε) : List ω :=
  (machine.step state event).2

def exec (state : σ) : List ε → σ
  | [] => state
  | event :: rest => exec (machine.next state event) rest

def outputs (state : σ) : List ε → List ω
  | [] => []
  | event :: rest =>
      machine.emit state event ++ outputs (machine.next state event) rest

@[simp] theorem exec_nil (state : σ) : machine.exec state [] = state := rfl

@[simp] theorem exec_cons (state : σ) (event : ε) (rest : List ε) :
    machine.exec state (event :: rest) =
      machine.exec (machine.next state event) rest := rfl

@[simp] theorem outputs_nil (state : σ) : machine.outputs state [] = [] := rfl

@[simp] theorem outputs_cons (state : σ) (event : ε) (rest : List ε) :
    machine.outputs state (event :: rest) =
      machine.emit state event ++
        machine.outputs (machine.next state event) rest := rfl

theorem exec_append (state : σ) (first second : List ε) :
    machine.exec state (first ++ second) =
      machine.exec (machine.exec state first) second := by
  induction first generalizing state with
  | nil => rfl
  | cons event rest ih => exact ih (machine.next state event)

theorem outputs_append (state : σ) (first second : List ε) :
    machine.outputs state (first ++ second) =
      machine.outputs state first ++
        machine.outputs (machine.exec state first) second := by
  induction first generalizing state with
  | nil => rfl
  | cons event rest ih =>
      simp only [List.cons_append, outputs_cons, exec_cons, List.append_assoc]
      rw [ih]

/-! The history rule: a relation between the state and everything emitted so far
holds of a whole run when the empty history satisfies it and each event keeps
it. -/

theorem history_induction_from {I : σ → List ω → Prop}
    (events : List ε) (state : σ) (history : List ω)
    (hstart : I state history)
    (hstep : ∀ event ∈ events, ∀ state history, I state history →
      I (machine.next state event) (history ++ machine.emit state event)) :
    I (machine.exec state events)
      (history ++ machine.outputs state events) := by
  induction events generalizing state history with
  | nil => simpa using hstart
  | cons event rest ih =>
      have hnext := hstep event (by simp) state history hstart
      have hrest := ih (machine.next state event)
        (history ++ machine.emit state event) hnext
        (fun later hlater => hstep later (by simp [hlater]))
      simpa only [exec_cons, outputs_cons, List.append_assoc] using hrest

theorem history_induction {I : σ → List ω → Prop}
    (events : List ε) (state : σ) (hstart : I state [])
    (hstep : ∀ event ∈ events, ∀ state history, I state history →
      I (machine.next state event) (history ++ machine.emit state event)) :
    I (machine.exec state events) (machine.outputs state events) :=
  machine.history_induction_from events state [] hstart hstep

theorem exec_induction {I : σ → Prop}
    (events : List ε) (state : σ) (hstart : I state)
    (hstep : ∀ event ∈ events, ∀ state, I state →
      I (machine.next state event)) :
    I (machine.exec state events) :=
  machine.history_induction (I := fun state _ => I state) events state
    hstart (fun event hevent state _ => hstep event hevent state)

theorem outputs_induction {I : σ → Prop} {Good : ω → Prop}
    (events : List ε) (state : σ) (hstart : I state)
    (hstep : ∀ event ∈ events, ∀ state, I state →
      I (machine.next state event) ∧
        ∀ output ∈ machine.emit state event, Good output) :
    ∀ output ∈ machine.outputs state events, Good output := by
  have run := machine.history_induction
    (I := fun state history => I state ∧
      ∀ output ∈ history, Good output)
    events state ⟨hstart, by simp⟩
    (fun event hevent state history held => by
      obtain ⟨hnext, hgood⟩ := hstep event hevent state held.1
      refine ⟨hnext, ?_⟩
      intro output member
      rcases List.mem_append.mp member with hold | hnew
      · exact held.2 output hold
      · exact hgood output hnew)
  exact run.2

/-! Properties of all states and of all steps of one run. -/

def AllStates (Good : σ → Prop) (state : σ) : List ε → Prop
  | [] => Good state
  | event :: rest =>
      Good state ∧ AllStates Good (machine.next state event) rest

def EachStep (Good : σ → ε → Prop) (state : σ) : List ε → Prop
  | [] => True
  | event :: rest =>
      Good state event ∧ EachStep Good (machine.next state event) rest

/-- The exactness rule: when, under an invariant, one step keeps a property of
states if and only if the step is harmless, a run has the property in all of
its states if and only if all of its steps are harmless. -/
theorem allStates_iff_eachStep (Inv : σ → Prop) {Good : σ → Prop}
    {Harmless : σ → ε → Prop} (events : List ε) (state : σ)
    (hinv : Inv state) (hgood : Good state)
    (hkeep : ∀ event ∈ events, ∀ state, Inv state →
      Inv (machine.next state event))
    (hexact : ∀ event ∈ events, ∀ state, Inv state → Good state →
      (Good (machine.next state event) ↔ Harmless state event)) :
    machine.AllStates Good state events ↔
      machine.EachStep Harmless state events := by
  induction events generalizing state with
  | nil => exact ⟨fun _ => trivial, fun _ => hgood⟩
  | cons event rest ih =>
      have exact_step := hexact event (by simp) state hinv hgood
      have hinv_next := hkeep event (by simp) state hinv
      have exact_rest := fun hnext => ih _ hinv_next hnext
        (fun later hlater => hkeep later (by simp [hlater]))
        (fun later hlater => hexact later (by simp [hlater]))
      constructor
      · intro states
        obtain ⟨_, later⟩ := states
        have hnext : Good (machine.next state event) := by
          cases rest with
          | nil => exact later
          | cons _ _ => exact later.1
        exact ⟨exact_step.mp hnext, (exact_rest hnext).mp later⟩
      · intro steps
        obtain ⟨harmless, later⟩ := steps
        have hnext := exact_step.mpr harmless
        exact ⟨hgood, (exact_rest hnext).mpr later⟩

theorem eachStep_append {Good : σ → ε → Prop} (first second : List ε)
    (state : σ) :
    machine.EachStep Good state (first ++ second) ↔
      machine.EachStep Good state first ∧
        machine.EachStep Good (machine.exec state first) second := by
  induction first generalizing state with
  | nil => exact (true_and _).symm.to_iff
  | cons event rest ih =>
      rw [List.cons_append, exec_cons]
      refine (and_congr_right fun _ => ih _).trans ?_
      exact and_assoc.symm

/-- Under an invariant of the good steps, a consequence of one good step is one
of each step. -/
theorem eachStep_of_inv (Inv : σ → Prop) {Good Other : σ → ε → Prop}
    (hstep : ∀ state event, Inv state → Good state event →
      Inv (machine.next state event) ∧ Other state event)
    (events : List ε) (state : σ) (hinv : Inv state)
    (good : machine.EachStep Good state events) :
    machine.EachStep Other state events := by
  induction events generalizing state with
  | nil => trivial
  | cons event rest ih =>
      obtain ⟨first, later⟩ := good
      obtain ⟨hnext, other⟩ := hstep state event hinv first
      exact ⟨other, ih _ hnext later⟩

/-- The rule for events that differ in nothing that a step looks at: they lead to
the same state, with observations that look the same. -/
theorem run_congr {β : Type w} (view : ω → β) {Same : ε → ε → Prop}
    (hstep : ∀ state left right, Same left right →
      machine.next state right = machine.next state left ∧
        (machine.emit state right).map view =
          (machine.emit state left).map view)
    {events others : List ε} (same : List.Forall₂ Same events others)
    (state : σ) :
    machine.exec state others = machine.exec state events ∧
      (machine.outputs state others).map view =
        (machine.outputs state events).map view := by
  induction same generalizing state with
  | nil => exact ⟨rfl, rfl⟩
  | cons head tail ih =>
      obtain ⟨hnext, hemit⟩ := hstep state _ _ head
      obtain ⟨hexec, houtputs⟩ := ih (machine.next state _)
      rw [exec_cons, exec_cons, outputs_cons, outputs_cons, List.map_append,
        List.map_append, hnext, hemit]
      exact ⟨hexec, by rw [houtputs]⟩

/-- The rule for two observations of a run: the state remembers enough of the
earlier one. -/
theorem outputs_pairwise (Remembers : σ → ω → Prop) {R : ω → ω → Prop}
    (hkept : ∀ state event output, Remembers state output →
      Remembers (machine.next state event) output)
    (hnew : ∀ state event, ∀ output ∈ machine.emit state event,
      Remembers (machine.next state event) output)
    (hearlier : ∀ state event earlier, Remembers state earlier →
      ∀ output ∈ machine.emit state event, R earlier output)
    (honce : ∀ state event, (machine.emit state event).Pairwise R)
    (events : List ε) (state : σ) :
    (machine.outputs state events).Pairwise R := by
  have run := machine.history_induction
    (I := fun state history => history.Pairwise R ∧
      ∀ output ∈ history, Remembers state output)
    events state ⟨.nil, by simp⟩
    (fun event _ state history held => by
      obtain ⟨ordered, remembered⟩ := held
      refine ⟨List.pairwise_append.mpr ⟨ordered, honce state event, ?_⟩, ?_⟩
      · exact fun earlier hold output hnew =>
          hearlier state event earlier (remembered earlier hold) output hnew
      · intro output member
        rcases List.mem_append.mp member with hold | hlast
        · exact hkept state event output (remembered output hold)
        · exact hnew state event output hlast)
  exact run.1

end Machine

theorem split_snoc {α : Type u} {initial before after : List α}
    {last middle : α}
    (equality : initial ++ [last] = before ++ middle :: after) :
    (before = initial ∧ middle = last) ∨
      ∃ rest, initial = before ++ middle :: rest := by
  rcases List.eq_nil_or_concat after with rfl | ⟨rest, final, rfl⟩
  · have hlast := List.append_inj_right' equality rfl
    have hinitial := List.append_inj_left' equality rfl
    exact Or.inl ⟨hinitial.symm, by simpa using hlast.symm⟩
  · rw [List.concat_eq_append, ← List.cons_append, ← List.append_assoc]
      at equality
    exact Or.inr ⟨rest, List.append_inj_left' equality rfl⟩

end Foundation
