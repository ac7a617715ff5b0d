import Mathlib.Data.List.Range

namespace Foundation

namespace CyclicSearch

/-! The first free number of a range in cyclic order, and a search for it that
may waste tries on numbers outside of the range. -/

variable (low high last : Nat) (free : Nat → Bool)

/-- The numbers of the range, from the one behind `last` on and around. -/
def order : List Nat :=
  List.range' (last + 1) (high - last) ++ List.range' low (last + 1 - low)

def firstFree : Option Nat := (order low high last).find? free

def inRange (number : Nat) : Bool :=
  free number && decide (low ≤ number) && decide (number ≤ high)

/-- The search goes up to the end of the range, and then makes `tries` tries from
`restart` on. -/
def search (restart tries : Nat) : Option Nat :=
  (List.range' (last + 1) (high - last) ++ List.range' restart tries).find?
    (inRange low high free)

/-- Where the first free number is. -/
inductive Position : Option Nat → Prop
  | above {number} (lower : last < number) (upper : number ≤ high)
      (isFree : free number = true)
      (taken : ∀ other, last < other → other < number →
        free other = false) : Position (some number)
  | below {number} (lower : low ≤ number) (upper : number ≤ last)
      (isFree : free number = true)
      (taken_above : ∀ other, last < other → other ≤ high →
        free other = false)
      (taken : ∀ other, low ≤ other → other < number →
        free other = false) : Position (some number)
  | absent
      (taken_above : ∀ other, last < other → other ≤ high →
        free other = false)
      (taken : ∀ other, low ≤ other → other ≤ last → free other = false) :
      Position none

/-- The first free number is behind the last try. -/
structure Overlooks (restart tries number : Nat) : Prop where
  lower : low ≤ number
  upper : number ≤ last
  isFree : free number = true
  taken_above : ∀ other, last < other → other ≤ high → free other = false
  taken : ∀ other, low ≤ other → other < number → free other = false
  late : restart + tries ≤ number

variable {low high last free}

theorem inRange_iff {number : Nat} :
    inRange low high free number = true ↔
      free number = true ∧ low ≤ number ∧ number ≤ high := by
  simp [inRange, and_assoc]

theorem inRange_of_taken {number : Nat} (taken : free number = false) :
    inRange low high free number = false := by
  simp [inRange, taken]

theorem inRange_of_lt {number : Nat} (outside : number < low) :
    inRange low high free number = false := by
  simp [inRange, outside]

theorem firstFree_position (low high last : Nat) (free : Nat → Bool) :
    Position low high last free (firstFree low high last free) := by
  rw [firstFree, order, List.find?_append]
  cases above : (List.range' (last + 1) (high - last)).find? free with
  | some number =>
      rw [List.find?_range'_eq_some, List.mem_range'_1] at above
      obtain ⟨isFree, bounds, taken⟩ := above
      refine .above (by omega) (by omega) isFree ?_
      intro other lower upper
      simpa using taken other lower upper
  | none =>
      rw [List.find?_range'_eq_none] at above
      have taken_above : ∀ other, last < other → other ≤ high →
          free other = false := by
        intro other lower upper
        simpa using above other lower (by omega)
      rw [Option.none_or]
      cases below : (List.range' low (last + 1 - low)).find? free with
      | some number =>
          rw [List.find?_range'_eq_some, List.mem_range'_1] at below
          obtain ⟨isFree, bounds, taken⟩ := below
          refine .below (by omega) (by omega) isFree taken_above ?_
          intro other lower upper
          simpa using taken other lower upper
      | none =>
          rw [List.find?_range'_eq_none] at below
          refine .absent taken_above ?_
          intro other lower upper
          simpa using below other lower (by omega)

section Search

variable {restart tries number : Nat}

/-- What the search ends with. -/
theorem search_eq_some_iff :
    search low high last free restart tries = some number ↔
      inRange low high free number = true ∧
        ((last < number ∧ ∀ other, last < other → other < number →
            inRange low high free other = false) ∨
          (restart ≤ number ∧ number < restart + tries ∧
            (∀ other, last < other → other ≤ high →
              inRange low high free other = false) ∧
            ∀ other, restart ≤ other → other < number →
              inRange low high free other = false)) := by
  rw [search, List.find?_append, Option.or_eq_some_iff,
    List.find?_range'_eq_some, List.find?_range'_eq_none,
    List.find?_range'_eq_some, List.mem_range'_1, List.mem_range'_1]
  simp only [Bool.not_eq_true']
  constructor
  · intro found
    rcases found with ⟨valid, bounds, taken⟩ | ⟨absent, valid, bounds, taken⟩
    · exact ⟨valid, Or.inl ⟨bounds.1, taken⟩⟩
    · refine ⟨valid, Or.inr ⟨bounds.1, bounds.2, ?_, taken⟩⟩
      intro other lower upper
      exact absent other lower (by omega)
  · intro reached
    obtain ⟨valid, place⟩ := reached
    have upper := (inRange_iff.mp valid).2.2
    rcases place with ⟨lower, taken⟩ | ⟨lower, reached, absent, taken⟩
    · exact Or.inl ⟨valid, by omega, taken⟩
    · refine Or.inr ⟨?_, valid, ⟨lower, reached⟩, taken⟩
      intro other after before
      exact absent other after (by omega)

theorem search_eq_none_iff :
    search low high last free restart tries = none ↔
      ∀ number,
        last < number ∨ (restart ≤ number ∧ number < restart + tries) →
        inRange low high free number = false := by
  rw [search, List.find?_eq_none]
  constructor
  · intro absent number place
    by_contra valid
    rw [Bool.not_eq_false] at valid
    have upper := (inRange_iff.mp valid).2.2
    refine absent number ?_ valid
    rw [List.mem_append, List.mem_range'_1, List.mem_range'_1]
    omega
  · intro taken number member
    rw [List.mem_append, List.mem_range'_1, List.mem_range'_1] at member
    rw [taken number (by omega)]
    exact Bool.false_ne_true

/-! The search in the three positions. -/

theorem search_above (low_le : low ≤ last) (lower : last < number)
    (upper : number ≤ high) (isFree : free number = true)
    (taken : ∀ other, last < other → other < number → free other = false) :
    search low high last free restart tries = some number := by
  rw [search_eq_some_iff]
  refine ⟨inRange_iff.mpr ⟨isFree, by omega, upper⟩, Or.inl ⟨lower, ?_⟩⟩
  intro other after before
  exact inRange_of_taken (taken other after before)

theorem search_below (restart_le : restart ≤ low) (le_high : last ≤ high)
    (lower : low ≤ number) (upper : number ≤ last)
    (isFree : free number = true)
    (taken_above : ∀ other, last < other → other ≤ high → free other = false)
    (taken : ∀ other, low ≤ other → other < number → free other = false)
    (reached : number < restart + tries) :
    search low high last free restart tries = some number := by
  rw [search_eq_some_iff]
  refine ⟨inRange_iff.mpr ⟨isFree, lower, by omega⟩,
    Or.inr ⟨by omega, reached, ?_, ?_⟩⟩
  · intro other after before
    exact inRange_of_taken (taken_above other after before)
  · intro other _ before
    by_cases outside : other < low
    · exact inRange_of_lt outside
    · exact inRange_of_taken (taken other (by omega) before)

theorem search_absent
    (taken_above : ∀ other, last < other → other ≤ high → free other = false)
    (taken : ∀ other, low ≤ other → other ≤ last → free other = false) :
    search low high last free restart tries = none := by
  rw [search_eq_none_iff]
  intro other _
  rw [← Bool.not_eq_true, inRange_iff]
  intro valid
  obtain ⟨isFree, lower, upper⟩ := valid
  by_cases above : last < other
  · rw [taken_above other above upper] at isFree
    cases isFree
  · rw [taken other lower (by omega)] at isFree
    cases isFree

/-- The search finds the first free number exactly when it is not behind the last
try. -/
theorem search_eq_firstFree_iff (restart_le : restart ≤ low)
    (low_le : low ≤ last) (le_high : last ≤ high) :
    search low high last free restart tries =
        firstFree low high last free ↔
      ∀ number, ¬ Overlooks low high last free restart tries number := by
  have position := firstFree_position low high last free
  generalize firstFree low high last free = first at position
  cases position with
  | above lower upper isFree taken =>
      rw [search_above low_le lower upper isFree taken]
      refine iff_of_true rfl ?_
      intro number overlooks
      rw [overlooks.taken_above _ lower upper] at isFree
      cases isFree
  | below lower upper isFree taken_above taken =>
      rename_i number
      constructor
      · intro found other overlooks
        obtain ⟨-, above | behind⟩ := search_eq_some_iff.mp found
        · exact absurd above.1 (Nat.not_lt.mpr upper)
        have reached := behind.2.1
        have late := overlooks.late
        rw [overlooks.taken number lower (by omega)] at isFree
        cases isFree
      · intro notOverlooked
        apply search_below restart_le le_high lower upper isFree taken_above
          taken
        by_contra late
        exact notOverlooked number
          ⟨lower, upper, isFree, taken_above, taken, by omega⟩
  | absent taken_above taken =>
      rw [search_absent taken_above taken]
      refine iff_of_true rfl ?_
      intro number overlooks
      have isFree := overlooks.isFree
      rw [taken number overlooks.lower overlooks.upper] at isFree
      cases isFree

/-- The search ends at another number than `last` exactly when it comes to
one. -/
theorem exists_search_ne_iff :
    (∃ number, search low high last free restart tries = some number ∧
        number ≠ last) ↔
      ∃ number, inRange low high free number = true ∧ number ≠ last ∧
        (last < number ∨ (restart ≤ number ∧ number < restart + tries)) := by
  constructor
  · intro found
    obtain ⟨number, found, other⟩ := found
    obtain ⟨valid, place⟩ := search_eq_some_iff.mp found
    exact ⟨number, valid, other, place.imp And.left fun behind =>
      ⟨behind.1, behind.2.1⟩⟩
  · intro reached
    obtain ⟨number, valid, other, place⟩ := reached
    have upper := (inRange_iff.mp valid).2.2
    cases found : search low high last free restart tries with
    | none =>
        rw [search_eq_none_iff.mp found number place] at valid
        cases valid
    | some first =>
        refine ⟨first, rfl, ?_⟩
        rintro rfl
        obtain ⟨-, above | behind⟩ := search_eq_some_iff.mp found
        · exact absurd above.1 (Nat.lt_irrefl first)
        · obtain ⟨-, -, absent, taken⟩ := behind
          have before : number < first := by
            by_contra after
            rw [absent number (by omega) upper] at valid
            cases valid
          rw [taken number (by omega) before] at valid
          cases valid

theorem search_eq_zero_iff (restart_zero : restart = 0) (some_try : 0 < tries) :
    search low high last free restart tries = some 0 ↔
      inRange low high free 0 = true ∧
        ∀ number, last < number → number ≤ high →
          inRange low high free number = false := by
  subst restart_zero
  rw [search_eq_some_iff]
  constructor
  · intro found
    obtain ⟨valid, above | behind⟩ := found
    · exact absurd above.1 (Nat.not_lt_zero last)
    · exact ⟨valid, behind.2.2.1⟩
  · intro first
    obtain ⟨valid, absent⟩ := first
    refine ⟨valid, Or.inr ⟨Nat.le_refl 0, by omega, absent, ?_⟩⟩
    intro other _ before
    exact absurd before (Nat.not_lt_zero other)

end Search

/-! The result as a number, with 0 for no number. -/

theorem low_le_of_search {restart tries number : Nat}
    (found : search low high last free restart tries = some number) :
    low ≤ number :=
  (inRange_iff.mp (List.find?_some found)).2.1

theorem low_le_of_firstFree {number : Nat} (low_le : low ≤ last)
    (found : firstFree low high last free = some number) : low ≤ number := by
  have position := firstFree_position low high last free
  rw [found] at position
  cases position with
  | above lower => omega
  | below lower => exact lower

theorem eq_of_getD_eq {restart tries : Nat} (positive : 0 < low)
    (low_le : low ≤ last)
    (same : (search low high last free restart tries).getD 0 =
      (firstFree low high last free).getD 0) :
    search low high last free restart tries =
      firstFree low high last free := by
  cases found : search low high last free restart tries with
  | none =>
      cases first : firstFree low high last free with
      | none => rfl
      | some number =>
          have lower := low_le_of_firstFree low_le first
          rw [found, first, Option.getD_none, Option.getD_some] at same
          omega
  | some number =>
      have lower := low_le_of_search found
      cases first : firstFree low high last free with
      | none =>
          rw [found, first, Option.getD_none, Option.getD_some] at same
          omega
      | some other =>
          rw [found, first, Option.getD_some, Option.getD_some] at same
          rw [same]

theorem taken_of_getD_eq_zero (positive : 0 < low) (low_le : low ≤ last)
    (zero : (firstFree low high last free).getD 0 = 0) {number : Nat}
    (lower : low ≤ number) (upper : number ≤ high) : free number = false := by
  cases first : firstFree low high last free with
  | some other =>
      have bound := low_le_of_firstFree low_le first
      rw [first, Option.getD_some] at zero
      omega
  | none =>
      have position := firstFree_position low high last free
      rw [first] at position
      cases position with
      | absent taken_above taken =>
          by_cases above : last < number
          · exact taken_above number above upper
          · exact taken number lower (by omega)

end CyclicSearch

end Foundation
