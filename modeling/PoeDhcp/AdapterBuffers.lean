import PoeDhcp.Model.Adapters

namespace PoeDhcp

open Foundation

/-! The buffers of `GetAdapters`. -/

namespace AdaptersCall

/-- The chain of a call that succeeds. -/
def chain? (call : AdaptersCall) : Option (List IpAdapterInfo) :=
  match call.first, call.second with
  | .success head next, _ => some (head :: next)
  | .bufferOverflow, .success head next => some (head :: next)
  | _, _ => none

end AdaptersCall

def BufferEvent.isMade : BufferEvent → Bool
  | .made _ => true
  | .deleted _ => false

def BufferEvent.isDeleted (event : BufferEvent) : Bool := !event.isMade

namespace NetWorkAdapter

variable {adapter : NetWorkAdapter}

/-- The loop ends behind the chain. -/
theorem readChain_eq (chain : List IpAdapterInfo)
    (adapterInfos : List NetWorkAapterInfo) :
    readChain chain adapterInfos = (adapterInfos ++ chain.map infoOf, []) := by
  induction chain generalizing adapterInfos with
  | nil => rw [readChain, List.map_nil, List.append_nil]
  | cons info next ih =>
      rw [readChain, ih, List.map_cons, List.append_assoc,
        List.singleton_append]

theorem finish_success (buffer : Nat) (head : IpAdapterInfo)
    (next : List IpAdapterInfo) :
    adapter.finish buffer (.success head next) =
      ({ adapter with adapterInfos := (head :: next).map infoOf }, []) := by
  rw [finish, readChain_eq]
  rfl

/-- The buffers from one number on, and what a call does with them. -/
inductive Uses (buffer : Nat) (succeeds : Bool) :
    Nat → List BufferEvent → Prop
  | kept (success : succeeds = true) :
      Uses buffer succeeds (buffer + 1) [.made buffer]
  | returned (failure : succeeds = false) :
      Uses buffer succeeds (buffer + 1) [.made buffer, .deleted buffer]
  | secondKept (success : succeeds = true) :
      Uses buffer succeeds (buffer + 2)
        [.made buffer, .deleted buffer, .made (buffer + 1)]
  | secondReturned (failure : succeeds = false) :
      Uses buffer succeeds (buffer + 2)
        [.made buffer, .deleted buffer, .made (buffer + 1),
          .deleted (buffer + 1)]

/-- What a call leaves. -/
structure Leaves (adapter : NetWorkAdapter) (call : AdaptersCall)
    (result : NetWorkAdapter × List BufferEvent) : Prop where
  infos : result.1.adapterInfos =
    match call.chain? with
    | some chain => chain.map infoOf
    | none => adapter.adapterInfos
  uses : Uses adapter.buffers call.chain?.isSome result.1.buffers result.2

theorem getAdapters_leaves (adapter : NetWorkAdapter) (call : AdaptersCall) :
    Leaves adapter call (adapter.getAdapters call) := by
  obtain ⟨first, second⟩ := call
  unfold getAdapters
  cases first with
  | success head next =>
      dsimp only
      rw [finish_success]
      exact ⟨rfl, .kept rfl⟩
  | failed => exact ⟨rfl, .returned rfl⟩
  | bufferOverflow =>
      cases second with
      | success head next =>
          dsimp only
          rw [finish_success]
          exact ⟨rfl, .secondKept rfl⟩
      | failed => exact ⟨rfl, .secondReturned rfl⟩
      | bufferOverflow => exact ⟨rfl, .secondReturned rfl⟩

/-! What a call counts. -/

section Uses

variable {buffer last : Nat} {succeeds : Bool} {events : List BufferEvent}

theorem Uses.le (uses : Uses buffer succeeds last events) : buffer ≤ last := by
  cases uses <;> omega

/-- One buffer is lost exactly when the call succeeds. -/
theorem Uses.lost (uses : Uses buffer succeeds last events) :
    events.countP BufferEvent.isMade =
      events.countP BufferEvent.isDeleted + succeeds.toNat := by
  cases uses with
  | kept success => rw [success]; rfl
  | returned failure => rw [failure]; rfl
  | secondKept success => rw [success]; rfl
  | secondReturned failure => rw [failure]; rfl

theorem Uses.made (uses : Uses buffer succeeds last events) (number : Nat) :
    events.count (.made number) =
      if buffer ≤ number ∧ number < last then 1 else 0 := by
  cases uses <;>
    simp only [List.count_cons, List.count_nil, beq_iff_eq,
      BufferEvent.made.injEq, reduceCtorEq, if_false] <;>
    split_ifs <;> omega

theorem Uses.deleted_le (uses : Uses buffer succeeds last events)
    (number : Nat) :
    events.count (.deleted number) ≤ events.count (.made number) := by
  cases uses <;>
    simp only [List.count_cons, List.count_nil, beq_iff_eq,
      BufferEvent.made.injEq, BufferEvent.deleted.injEq, reduceCtorEq,
      if_false] <;>
    split_ifs <;> omega

end Uses

end NetWorkAdapter

open NetWorkAdapter

/-! Runs of calls. -/

theorem run_lost (adapter : NetWorkAdapter) (calls : List AdaptersCall) :
    (adapterMachine.outputs adapter calls).countP BufferEvent.isMade =
      (adapterMachine.outputs adapter calls).countP BufferEvent.isDeleted +
        calls.countP (·.chain?.isSome) := by
  induction calls generalizing adapter with
  | nil => rfl
  | cons call rest ih =>
      have first : (adapterMachine.emit adapter call).countP
          BufferEvent.isMade = _ := (getAdapters_leaves adapter call).uses.lost
      rw [Machine.outputs_cons, List.countP_append, List.countP_append,
        List.countP_cons, first, ih]
      have emitted : (adapterMachine.emit adapter call).countP
          BufferEvent.isDeleted =
        (adapter.getAdapters call).2.countP BufferEvent.isDeleted := rfl
      rw [emitted]
      cases call.chain?.isSome with
      | true =>
          rw [if_pos rfl, Bool.toNat_true]
          omega
      | false =>
          rw [if_neg Bool.false_ne_true, Bool.toNat_false]
          omega

theorem run_made (adapter : NetWorkAdapter) (calls : List AdaptersCall)
    (number : Nat) :
    adapter.buffers ≤ (adapterMachine.exec adapter calls).buffers ∧
      (adapterMachine.outputs adapter calls).count (.made number) =
        if adapter.buffers ≤ number ∧
            number < (adapterMachine.exec adapter calls).buffers then 1
        else 0 := by
  induction calls generalizing adapter with
  | nil =>
      refine ⟨Nat.le_refl _, ?_⟩
      rw [Machine.exec_nil, if_neg (by omega)]
      rfl
  | cons call rest ih =>
      have uses := (getAdapters_leaves adapter call).uses
      have grown : adapter.buffers ≤ (adapterMachine.next adapter
        call).buffers := uses.le
      have first : (adapterMachine.emit adapter call).count (.made number) =
          if adapter.buffers ≤ number ∧
              number < (adapterMachine.next adapter call).buffers then 1
          else 0 := uses.made number
      obtain ⟨later, counted⟩ := ih (adapterMachine.next adapter call)
      rw [Machine.exec_cons, Machine.outputs_cons, List.count_append, first,
        counted]
      refine ⟨Nat.le_trans grown later, ?_⟩
      split_ifs <;> omega

theorem run_deleted (adapter : NetWorkAdapter) (calls : List AdaptersCall)
    (number : Nat) :
    (adapterMachine.outputs adapter calls).count (.deleted number) ≤
      (adapterMachine.outputs adapter calls).count (.made number) := by
  induction calls generalizing adapter with
  | nil => exact Nat.le_refl _
  | cons call rest ih =>
      rw [Machine.outputs_cons, List.count_append, List.count_append]
      exact Nat.add_le_add
        ((getAdapters_leaves adapter call).uses.deleted_le number) (ih _)

theorem run_infos (adapter : NetWorkAdapter) (calls : List AdaptersCall) :
    (adapterMachine.exec adapter calls).adapterInfos =
      match (calls.filterMap AdaptersCall.chain?).getLast? with
      | some chain => chain.map infoOf
      | none => adapter.adapterInfos := by
  induction calls generalizing adapter with
  | nil => rfl
  | cons call rest ih =>
      have infos : (adapterMachine.next adapter call).adapterInfos = _ :=
        (getAdapters_leaves adapter call).infos
      rw [Machine.exec_cons, ih, infos, List.filterMap_cons]
      cases (rest.filterMap AdaptersCall.chain?) with
      | nil => cases call.chain? <;> rfl
      | cons chain chains => cases call.chain? <;> rfl

/-- What becomes of the buffers of an object, and what it knows. -/
structure LosesSuccesses (calls : List AdaptersCall) : Prop where
  once : ∀ buffer,
    (adapterMachine.outputs empty calls).count (.made buffer) ≤ 1
  deleted : ∀ buffer,
    (adapterMachine.outputs empty calls).count (.deleted buffer) ≤
      (adapterMachine.outputs empty calls).count (.made buffer)
  lost : (adapterMachine.outputs empty calls).countP BufferEvent.isMade =
    (adapterMachine.outputs empty calls).countP BufferEvent.isDeleted +
      calls.countP (·.chain?.isSome)
  infos : (adapterMachine.exec empty calls).adapterInfos =
    (((calls.filterMap AdaptersCall.chain?).getLast?).getD []).map infoOf

/-- `GetAdapters` deletes no buffer twice and loses exactly one in each call that
succeeds. The adapters are those of the last such call, in their order. -/
theorem getAdapters_losesSuccesses (calls : List AdaptersCall) :
    LosesSuccesses calls where
  once := by
    intro buffer
    rw [(run_made empty calls buffer).2]
    split_ifs <;> omega
  deleted := run_deleted empty calls
  lost := run_lost empty calls
  infos := by
    rw [run_infos]
    cases (calls.filterMap AdaptersCall.chain?).getLast? <;> rfl

end PoeDhcp
