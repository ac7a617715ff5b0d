import PoeDhcp.Foundation.Machine
import PoeDhcp.Inspection

namespace PoeDhcp

open Foundation

/-! The loop of `FindOptionData` pass by pass, with every byte that it reads and
every value that it gives to its index. -/

inductive ScanState
  | running (i : Nat)
  | ended (result : Option OptionData)
deriving DecidableEq

inductive ScanAccess
  | read (index : Nat)
  | assigned (i : Nat)
deriving DecidableEq

/-- One event is one evaluation of the condition of the loop. -/
def scanMachine (findOptionValue : BYTE) (options : Memory)
    (optionsSize : Nat) : Machine ScanState Unit ScanAccess where
  step state _ :=
    match state with
    | .ended result => (.ended result, [])
    | .running i =>
        if i < optionsSize then
          let currentOptionValue := options i
          if currentOptionValue = optionPad then
            (.running (i + 1), [.read i, .assigned (i + 1)])
          else if optionEnd ≤ currentOptionValue then
            (.ended none, [.read i, .assigned (i + 1)])
          else if findOptionValue = currentOptionValue ∧
              i + 1 < optionsSize then
            (.ended (some ⟨i + 2, (options (i + 1)).toNat⟩),
              [.read i, .assigned (i + 1), .read (i + 1), .assigned (i + 2)])
          else if i + 1 < optionsSize then
            (.running (i + 2 + (options (i + 1)).toNat),
              [.read i, .assigned (i + 1), .read (i + 1), .assigned (i + 2),
                .assigned (i + 2 + (options (i + 1)).toNat)])
          else
            (.running (i + 1), [.read i, .assigned (i + 1)])
        else
          (.ended none, [])

def scanStart (findOptionValue : BYTE) (optionsSize : Nat) : ScanState :=
  if optionEnd ≤ findOptionValue then .ended none
  else if optionsSize > 2 then .running 0
  else .ended none

/-- A byte that is read is one of the options, and the index is at most the
largest length behind them. -/
def ScanAccess.Safe (optionsSize : Nat) : ScanAccess → Prop
  | .read index => index < optionsSize
  | .assigned i => i ≤ optionsSize + 255

section Scan

variable {tag : BYTE} {options : Memory} {optionsSize : Nat}

theorem scan_ended (result : Option OptionData) (passes : List Unit) :
    (scanMachine tag options optionsSize).exec (.ended result) passes =
      .ended result := by
  apply (scanMachine tag options optionsSize).exec_induction
    (I := fun state => state = .ended result)
  · rfl
  · intro pass _ state ended
    rw [ended]
    rfl

theorem scan_next (i : Nat) (pass : Unit) :
    (scanMachine tag options optionsSize).next (.running i) pass =
      if i < optionsSize then
        if options i = optionPad then .running (i + 1)
        else if optionEnd ≤ options i then .ended none
        else if tag = options i ∧ i + 1 < optionsSize then
          .ended (some ⟨i + 2, (options (i + 1)).toNat⟩)
        else if i + 1 < optionsSize then
          .running (i + 2 + (options (i + 1)).toNat)
        else .running (i + 1)
      else .ended none := by
  unfold Machine.next scanMachine
  dsimp only
  split
  · split
    · rfl
    · split
      · rfl
      · split
        · rfl
        · split <;> rfl
  · rfl

/-- Each pass moves the index forward, and so the loop ends. -/
theorem scan_running (i : Nat) {passes : List Unit}
    (enough : optionsSize - i < passes.length) :
    (scanMachine tag options optionsSize).exec (.running i) passes =
      .ended (scanOptions tag options optionsSize i) := by
  induction passes generalizing i with
  | nil => exact absurd enough (Nat.not_lt_zero _)
  | cons pass rest ih =>
      rw [List.length_cons] at enough
      rw [Machine.exec_cons, scan_next, scanOptions_eq]
      split
      · split
        · exact ih (i + 1) (by omega)
        · split
          · exact scan_ended none rest
          · split
            · exact scan_ended _ rest
            · split
              · exact ih _ (by omega)
              · rename_i last
                rw [ih (i + 1) (by omega), scanOptions_eq, if_neg last]
      · exact scan_ended none rest

theorem scan_terminates {passes : List Unit}
    (enough : optionsSize < passes.length) :
    (scanMachine tag options optionsSize).exec (scanStart tag optionsSize)
        passes =
      .ended (findOptionData tag options optionsSize) := by
  rw [findOptionData_eq, scanStart]
  split
  · exact scan_ended none passes
  · split
    · exact scan_running 0 enough
    · exact scan_ended none passes

theorem scan_emit_safe (state : ScanState) (pass : Unit) :
    ∀ access ∈ (scanMachine tag options optionsSize).emit state pass,
      access.Safe optionsSize := by
  unfold Machine.emit scanMachine
  cases state with
  | ended result => simp
  | running i =>
      dsimp only
      split
      · rename_i bound
        have first : ∀ access ∈ [ScanAccess.read i, .assigned (i + 1)],
            access.Safe optionsSize := by
          intro access member
          simp only [List.mem_cons, List.not_mem_nil, or_false] at member
          rcases member with rfl | rfl <;> simp only [ScanAccess.Safe] <;>
            omega
        have second (next : i + 1 < optionsSize) :
            ∀ access ∈ [ScanAccess.read i, .assigned (i + 1),
                .read (i + 1), .assigned (i + 2),
                .assigned (i + 2 + (options (i + 1)).toNat)],
              access.Safe optionsSize := by
          have length := (options (i + 1)).isLt
          intro access member
          simp only [List.mem_cons, List.not_mem_nil, or_false] at member
          rcases member with rfl | rfl | rfl | rfl | rfl <;>
            simp only [ScanAccess.Safe] <;> omega
        split
        · exact first
        · split
          · exact first
          · split
            · rename_i hit
              intro access member
              exact second hit.2 access
                (List.mem_append_left [_] member)
            · split
              · rename_i next
                exact second next
              · exact first
      · simp

theorem scan_safe (state : ScanState) (passes : List Unit) :
    ∀ access ∈ (scanMachine tag options optionsSize).outputs state passes,
      access.Safe optionsSize := by
  have each : ∀ pass ∈ passes, ∀ state, True →
      True ∧ ∀ access ∈
        (scanMachine tag options optionsSize).emit state pass,
          access.Safe optionsSize := by
    intro pass _ state _
    exact ⟨trivial, scan_emit_safe state pass⟩
  exact (scanMachine tag options optionsSize).outputs_induction passes state
    trivial each

/-- A value that has been found starts in the options, or right behind them. -/
def ScanState.Inside (optionsSize : Nat) (state : ScanState) : Prop :=
  ∀ found, state = .ended (some found) → found.offset ≤ optionsSize

theorem scan_next_inside (state : ScanState) (pass : Unit)
    (inside : state.Inside optionsSize) :
    ((scanMachine tag options optionsSize).next state pass).Inside
      optionsSize := by
  cases state with
  | ended result => exact inside
  | running i =>
      rw [scan_next]
      split
      · split
        · intro found ended
          cases ended
        · split
          · intro found ended
            cases ended
          · split
            · rename_i hit
              intro found ended
              cases ended
              exact hit.2
            · split
              · intro found ended
                cases ended
              · intro found ended
                cases ended
      · intro found ended
        cases ended

theorem findOptionData_offset_le {found : OptionData}
    (search : findOptionData tag options optionsSize = some found) :
    found.offset ≤ optionsSize := by
  have inside : ((scanMachine tag options optionsSize).exec
      (scanStart tag optionsSize)
      (List.replicate (optionsSize + 1) ())).Inside optionsSize := by
    apply (scanMachine tag options optionsSize).exec_induction
    · intro found ended
      unfold scanStart at ended
      split at ended
      · cases ended
      · split at ended <;> cases ended
    · exact fun pass _ state inside => scan_next_inside state pass inside
  refine inside found ?_
  rw [scan_terminates (by rw [List.length_replicate]; omega), search]

end Scan

/-- What the scan of an accepted datagram relies on and guarantees. -/
structure ScanIsSafe (datagram : Datagram) (tag : BYTE) (optionsSize : Nat) :
    Prop where
  options : getOptions datagram.readBuffer datagram.bytesReceived =
    some (datagram.options, optionsSize)
  noUnderflow : sizeofDHCPMessage + dhcpMagicCookie.length + optionsSize =
    datagram.bytesReceived
  ends : ∀ passes : List Unit, optionsSize < passes.length →
    (scanMachine tag datagram.options optionsSize).exec
        (scanStart tag optionsSize) passes =
      .ended (findOptionData tag datagram.options optionsSize)
  accesses : ∀ passes : List Unit, ∀ access ∈
    (scanMachine tag datagram.options optionsSize).outputs
      (scanStart tag optionsSize) passes, access.Safe optionsSize
  fits : optionsSize + 255 < 0x80000000
  inside : ∀ found,
    findOptionData tag datagram.options optionsSize = some found →
      found.offset ≤ optionsSize

/-- Every scan of an accepted datagram is safe. -/
theorem scan_isSafe {datagram : Datagram} {request : DHCPMessage}
    (parsed : parseReceiveData datagram.readBuffer datagram.bytesReceived =
      some request) (tag : BYTE) :
    ∃ optionsSize, ScanIsSafe datagram tag optionsSize := by
  have accepted : datagram.isRequest = true := by
    rw [datagram.parseReceiveData_eq] at parsed
    by_contra refused
    rw [if_neg refused] at parsed
    cases parsed
  have long := Datagram.le_of_isRequest accepted
  have bound := datagram.bytesReceived_le
  rw [maxUdpMessageSize] at bound
  refine ⟨datagram.optionsSize, Datagram.getOptions_eq accepted, ?_,
    fun passes enough => scan_terminates enough,
    fun passes => scan_safe _ passes, ?_,
    fun found search => findOptionData_offset_le search⟩
  · rw [Datagram.optionsSize]
    exact Nat.add_sub_of_le long
  · rw [Datagram.optionsSize]
    omega

/-! A host name that is cut off by the end of the datagram. -/

def truncatedMessage : Datagram :=
  .ofBytes (clientMessage 0 [53, 1, 1, optionHostName, 200, 65])
    (fun _ => 0) (clientMessage_bound 0 (by decide))

theorem truncatedMessage_scan_isSafe :
    ∃ optionsSize, ScanIsSafe truncatedMessage optionHostName optionsSize :=
  scan_isSafe
    ((Datagram.parseReceiveData_eq truncatedMessage).trans
      (if_pos (by decide +kernel))) optionHostName

end PoeDhcp
