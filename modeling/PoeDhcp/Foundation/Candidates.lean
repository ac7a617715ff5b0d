import Mathlib.Data.List.Basic
import Mathlib.Data.List.Range

namespace Foundation

universe u

/-! Decimal numbers. -/

theorem decimal_injective : Function.Injective (toString : Nat → String) := by
  intro first second same
  have digits : Nat.toDigits 10 first = Nat.toDigits 10 second := by
    simpa only [Nat.toString_eq_repr, Nat.toList_repr] using
      congrArg String.toList same
  have values := congrArg (fun text => Nat.ofDigitChars 10 text 0) digits
  simpa using values

/-! Numbered candidates, and the choice of one in a single pass over a list. -/

namespace Candidates

variable {α : Type u} (candidate : Nat → α)

def run (start count : Nat) : List α :=
  (List.range' start count).map candidate

@[simp] theorem run_zero (start : Nat) : run candidate start 0 = [] := rfl

@[simp] theorem run_succ (start count : Nat) :
    run candidate start (count + 1) =
      candidate start :: run candidate (start + 1) count := by
  simp only [run, List.range'_succ, List.map_cons]

theorem mem_run {start count index : Nat} (lower : start ≤ index)
    (upper : index < start + count) :
    candidate index ∈ run candidate start count :=
  List.mem_map_of_mem (List.mem_range'_1.mpr ⟨lower, upper⟩)

variable [DecidableEq α]

/-- One pass that goes on to the next candidate when it meets the current
one. -/
def pass : List α → Nat → Nat
  | [], index => index
  | head :: rest, index =>
      if head = candidate index then pass rest (index + 1)
      else pass rest index

theorem exists_run_sublist (list : List α) (start : Nat) :
    ∃ count, pass candidate list start = start + count ∧
      (run candidate start count).Sublist list := by
  induction list generalizing start with
  | nil => exact ⟨0, rfl, .slnil⟩
  | cons head rest ih =>
      by_cases hit : head = candidate start
      · obtain ⟨count, last, inside⟩ := ih (start + 1)
        refine ⟨count + 1, ?_, ?_⟩
        · rw [pass, if_pos hit, last]
          omega
        · rw [run_succ, hit]
          exact inside.cons_cons _
      · obtain ⟨count, last, inside⟩ := ih start
        refine ⟨count, ?_, inside.cons _⟩
        rw [pass, if_neg hit, last]

variable {candidate}

theorem le_pass (list : List α) (start : Nat) :
    start ≤ pass candidate list start := by
  obtain ⟨count, last, -⟩ := exists_run_sublist candidate list start
  omega

/-- The pass skips every run of candidates that is in the list in this order. -/
theorem le_pass_of_run_sublist {list : List α} {start count : Nat}
    (inside : (run candidate start count).Sublist list) :
    start + count ≤ pass candidate list start := by
  induction list generalizing start count with
  | nil =>
      cases count with
      | zero => exact Nat.le_refl _
      | succ count =>
          rw [run_succ] at inside
          cases inside
  | cons head rest ih =>
      cases count with
      | zero => exact le_pass _ start
      | succ count =>
          rw [run_succ] at inside
          by_cases hit : head = candidate start
          · rw [hit] at inside
            rw [pass, if_pos hit]
            have later := ih inside.of_cons_cons
            omega
          · rw [pass, if_neg hit]
            cases inside with
            | cons _ inside =>
                rw [← run_succ] at inside
                exact ih inside
            | cons_cons _ _ => exact absurd rfl hit

/-- The pass ends with a candidate that is not in the list exactly when the
candidates before it are there one after the other. -/
theorem pass_notMem_iff (candidate : Nat → α) (list : List α) (start : Nat) :
    candidate (pass candidate list start) ∉ list ↔
      ∃ count, (run candidate start count).Sublist list ∧
        candidate (start + count) ∉ list := by
  constructor
  · intro new
    obtain ⟨count, last, inside⟩ := exists_run_sublist candidate list start
    rw [last] at new
    exact ⟨count, inside, new⟩
  · intro reached
    obtain ⟨count, inside, new⟩ := reached
    obtain ⟨reach, last, longer⟩ := exists_run_sublist candidate list start
    have most := le_pass_of_run_sublist inside
    rw [last] at most ⊢
    by_cases beyond : count < reach
    · exact absurd
        (longer.subset (mem_run candidate (by omega) (by omega))) new
    · have same : reach = count := by omega
      rw [same]
      exact new

theorem pass_run (start count : Nat) :
    pass candidate (run candidate start count) start = start + count := by
  induction count generalizing start with
  | zero => rfl
  | succ count ih =>
      rw [run_succ, pass, if_pos rfl, ih]
      omega

end Candidates

end Foundation
