import PoeDhcp.Discovery
import PoeDhcp.Foundation.Progress
import PoeDhcp.Interleaving

namespace PoeDhcp

open Foundation
open DhcpServer

/-! What holds in every interleaving of `Start`, `Stop` and `run`. -/

namespace Threads

variable {state : Threads} {model : DhcpServer}

theorem reach (netAddress : DhcpNetWorkAddr) (turns : List Turn) :
    ∃ events,
      (threadsMachine.exec (create netAddress) turns).Sound ∧
      Follows (threadsMachine.exec (create netAddress) turns)
        (serverMachine.exec (construct netAddress) events) ∧
      serverMachine.outputs (construct netAddress) events =
        threadsMachine.outputs (create netAddress) turns := by
  have start : simulation.Related (create netAddress)
      (construct netAddress) :=
    ⟨sound_create netAddress, follows_create netAddress⟩
  obtain ⟨events, related, observed⟩ := simulation.run start turns
  exact ⟨events, related.1, related.2, observed⟩

/-- What holds of every state that a schedule leads to. -/
def Reached (state : Threads) : Prop :=
  ∃ model, state.Sound ∧ Follows state model

theorem Reached.next (reached : state.Reached) (turn : Turn) :
    (threadsMachine.next state turn).Reached := by
  obtain ⟨model, sound, follows⟩ := reached
  obtain ⟨events, follows_next, -⟩ := turn_matched sound follows turn
  exact ⟨_, sound_next sound follows turn, follows_next⟩

theorem Follows.tables (follows : Follows state model) :
    model.addressesInUse = state.shared.addressesInUse ∧
      model.lastOfferAddress = state.shared.lastOfferAddress := by
  cases follows <;> subst model <;> exact ⟨rfl, rfl⟩

/-- What a server whose calls are single steps shows of the threads. -/
structure Shows (state : Threads) (model : DhcpServer) : Prop where
  table : model.addressesInUse = state.shared.addressesInUse
  last : model.lastOfferAddress = state.shared.lastOfferAddress
  idle : state.owner = .idle → model = state.view

theorem Follows.shows (follows : Follows state model) : Shows state model where
  table := follows.tables.1
  last := follows.tables.2
  idle := by
    intro idle
    cases follows with
    | outside _ same => exact same
    | _ owner =>
        rw [idle] at owner
        cases owner

end Threads

/-- For every schedule: the datagrams are processed as in some run of the server
whose `Start` and `Stop` are single steps. -/
theorem interleaving_refines (netAddress : DhcpNetWorkAddr)
    (turns : List Turn) :
    ∃ events,
      serverMachine.outputs (construct netAddress) events =
        threadsMachine.outputs (.create netAddress) turns ∧
      Threads.Shows (threadsMachine.exec (.create netAddress) turns)
        (serverMachine.exec (construct netAddress) events) := by
  obtain ⟨events, -, follows, observed⟩ := Threads.reach netAddress turns
  exact ⟨events, observed, follows.shows⟩

/-- No schedule makes the server tell an address to two clients, or two addresses
to a client. -/
theorem interleaved_replies (netAddress : DhcpNetWorkAddr)
    (turns : List Turn) :
    ExclusiveReplies netAddress
        (threadsMachine.outputs (.create netAddress) turns) ∧
      StableReplies (threadsMachine.outputs (.create netAddress) turns) := by
  obtain ⟨events, -, -, observed⟩ := Threads.reach netAddress turns
  obtain ⟨book, -, run⟩ := run_simulates netAddress events
  rw [← observed]
  exact ⟨.of_leaseRun run, .of_leaseRun run⟩

/-! The table has one writer. -/

namespace Threads

variable {state : Threads} {model : DhcpServer}

/-- All threads that were ever started. -/
def started (state : Threads) : List LoopPc :=
  state.replaced ++ state.current.toList

def loopCount (state : Threads) : Nat :=
  state.started.countP (·.thread == .looping)

/-- At most one thread is in the loop, and none while the owner is between a
`Stop` and the start of the next thread. No thread waits for itself. -/
structure SingleWriter (state : Threads) : Prop where
  one : state.loopCount ≤ 1
  alone : isAlone state.owner = true → state.loopCount = 0
  notItself : .joiningItself ∉ state.started

theorem Sound.loopCount_eq (sound : state.Sound) :
    state.loopCount =
      state.current.toList.countP (·.thread == .looping) := by
  have ended : state.replaced.countP (·.thread == .looping) = 0 := by
    refine List.countP_eq_zero.mpr ?_
    intro pc member
    rw [sound.replaced pc member]
    exact Bool.false_ne_true
  rw [loopCount, started, List.countP_append, ended, Nat.zero_add]

theorem Sound.singleWriter (sound : state.Sound)
    (follows : Follows state model) : state.SingleWriter where
  one := by
    rw [sound.loopCount_eq]
    refine Nat.le_trans List.countP_le_length ?_
    cases state.current <;> simp
  alone := by
    intro place
    have quiet := follows.quiet_of_place place
    rw [sound.loopCount_eq]
    refine List.countP_eq_zero.mpr ?_
    intro pc member
    rw [quiet pc (Option.mem_toList.mp member)]
    exact Bool.false_ne_true
  notItself := by
    intro member
    rcases List.mem_append.mp member with earlier | last
    · cases sound.replaced _ earlier
    · exact sound.notItself (Option.mem_toList.mp last)

end Threads

/-- In every state of every schedule: the loop of `run` and `InitServer` never
change the lease table at the same time. -/
theorem table_single_writer (netAddress : DhcpNetWorkAddr)
    (turns : List Turn) :
    (threadsMachine.exec (.create netAddress) turns).SingleWriter := by
  obtain ⟨events, sound, follows, -⟩ := Threads.reach netAddress turns
  exact sound.singleWriter follows

/-! A `Stop` lets at most one more datagram through. -/

namespace Threads

variable {state : Threads} {model : DhcpServer}

/-- No call is in progress, or a `Stop` that the owner called itself. -/
def isStopping : OwnerPc → Bool
  | .idle | .stop false | .clear false | .join false => true
  | _ => false

/-- `starting_` is false, and nothing is about to set it. -/
structure Draining (state : Threads) : Prop where
  reached : state.Reached
  cleared : state.shared.starting = false
  stopping : isStopping state.owner = true

/-- The datagrams that a thread processes before it tests `starting_`. -/
def pendingOf : LoopPc → Nat
  | .receiving | .processing .. => 1
  | _ => 0

def pending (state : Threads) : Nat :=
  state.current.elim 0 pendingOf

theorem pending_le (state : Threads) : state.pending ≤ 1 := by
  unfold pending
  cases state.current with
  | none => exact Nat.zero_le 1
  | some pc => cases pc <;> simp [pendingOf]

theorem Quiet.pending_eq (quiet : state.Quiet) : state.pending = 0 := by
  unfold pending
  cases current : state.current with
  | none => rfl
  | some pc =>
      rw [quiet pc current]
      rfl

theorem loopStep_starting (shared : DhcpServer) (reception : Reception)
    (pc : LoopPc) (cleared : shared.starting = false) :
    (loopStep shared reception pc).1.starting = false := by
  cases pc with
  | entered =>
      rw [loopStep]
      split
      · rfl
      · exact cleared
  | testing =>
      rw [loopStep, cleared]
      exact cleared
  | receiving => cases reception <;> exact cleared
  | processing datagram localAlloc sendTo =>
      obtain ⟨table, last, frame⟩ := iteration_frame
        { shared with thread := some .looping } datagram localAlloc
      simp only [loopStep, frame]
      exact cleared
  | joiningItself => exact cleared
  | ended => exact cleared

/-- A statement of `run` after `starting_` was cleared. -/
theorem loopStep_pending (shared : DhcpServer) (reception : Reception)
    (pc : LoopPc) (cleared : shared.starting = false) :
    (loopStep shared reception pc).2.2.length +
      pendingOf (loopStep shared reception pc).2.1 ≤ pendingOf pc := by
  cases pc with
  | entered =>
      rw [loopStep]
      split <;> exact Nat.le_refl 0
  | testing =>
      rw [loopStep, cleared]
      exact Nat.le_refl 0
  | receiving =>
      cases reception with
      | threw => exact Nat.zero_le 1
      | failed => exact Nat.zero_le 1
      | received => exact Nat.le_refl 1
  | processing datagram localAlloc sendTo =>
      rw [loopStep]
      dsimp only
      split <;> exact Nat.le_refl 1
  | joiningItself => exact Nat.le_refl 0
  | ended => exact Nat.le_refl 0

theorem ownerStep_stopping (cleared : state.shared.starting = false)
    (stopping : isStopping state.owner = true) (env : InitEnv) :
    (state.ownerStep env).shared.starting = false ∧
      isStopping (state.ownerStep env).owner = true ∧
      (state.ownerStep env).pending = state.pending := by
  unfold ownerStep
  cases owner : state.owner with
  | idle => exact ⟨cleared, by rw [owner]; rfl, rfl⟩
  | stop restart =>
      cases restart with
      | true =>
          rw [owner] at stopping
          cases stopping
      | false =>
          refine ⟨cleared, ?_, rfl⟩
          dsimp only
          split <;> rfl
  | clear restart =>
      cases restart with
      | true =>
          rw [owner] at stopping
          cases stopping
      | false => exact ⟨rfl, rfl, rfl⟩
  | join restart =>
      cases restart with
      | true =>
          rw [owner] at stopping
          cases stopping
      | false =>
          dsimp only
          split
          · exact ⟨cleared, rfl, rfl⟩
          · exact ⟨cleared, by rw [owner]; rfl, rfl⟩
  | _ =>
      rw [owner] at stopping
      cases stopping

theorem Draining.next (draining : state.Draining) {turn : Turn}
    (noStart : turn ≠ .callStart) :
    (threadsMachine.next state turn).Draining ∧
      (threadsMachine.emit state turn).length +
        (threadsMachine.next state turn).pending ≤ state.pending := by
  have reached := draining.reached.next turn
  cases turn with
  | callStart => exact absurd rfl noStart
  | callStop =>
      by_cases idle : state.owner = .idle
      · have next : threadsMachine.next state .callStop =
            { state with owner := .stop false } := if_pos idle
        rw [next] at reached ⊢
        exact ⟨⟨reached, draining.cleared, rfl⟩, Nat.le_of_eq (Nat.zero_add _)⟩
      · have next : threadsMachine.next state .callStop = state := if_neg idle
        rw [next]
        exact ⟨draining, Nat.le_of_eq (Nat.zero_add _)⟩
  | owner env =>
      obtain ⟨cleared, stopping, kept⟩ :=
        ownerStep_stopping draining.cleared draining.stopping env
      exact ⟨⟨reached, cleared, stopping⟩,
        Nat.le_of_eq ((Nat.zero_add _).trans kept)⟩
  | loop reception =>
      cases current : state.current with
      | none =>
          have idle := loop_none current reception
          rw [Machine.next, Machine.emit, idle]
          exact ⟨draining, Nat.le_of_eq (Nat.zero_add _)⟩
      | some pc =>
          have next := next_loop current reception
          have cleared :=
            loopStep_starting state.shared reception pc draining.cleared
          have paid :=
            loopStep_pending state.shared reception pc draining.cleared
          rw [next] at reached
          rw [next, emit_loop current]
          refine ⟨⟨reached, cleared, draining.stopping⟩, ?_⟩
          simp only [pending, current, Option.elim_some]
          exact paid
  | replaced index reception =>
      obtain ⟨model, sound, -⟩ := draining.reached
      rw [Machine.next, Machine.emit, replaced_idle sound]
      exact ⟨draining, Nat.le_of_eq (Nat.zero_add _)⟩

theorem Draining.outputs_length_le (draining : state.Draining)
    (more : List Turn) (noStart : ∀ turn ∈ more, turn ≠ .callStart) :
    (threadsMachine.outputs state more).length ≤ state.pending :=
  threadsMachine.outputs_length_le more state draining
    fun turn member _ held => held.next (noStart turn member)

theorem Draining.pending_of_idle (draining : state.Draining)
    (idle : state.owner = .idle) : state.pending = 0 := by
  obtain ⟨model, -, follows⟩ := draining.reached
  cases follows with
  | outside _ _ supervised _ =>
      exact (quiet_of_starting supervised draining.cleared).pending_eq
  | _ owner =>
      rw [idle] at owner
      cases owner

end Threads

/-- Once `starting_` is false, at most one more datagram is processed before the
next call of `Start`, and none after `Stop` has returned. -/
theorem stop_drains (netAddress : DhcpNetWorkAddr) (turns more : List Turn)
    (cleared : (threadsMachine.exec (.create netAddress)
      turns).shared.starting = false)
    (stopping : Threads.isStopping (threadsMachine.exec (.create netAddress)
      turns).owner = true)
    (noStart : ∀ turn ∈ more, turn ≠ .callStart) :
    (threadsMachine.outputs (threadsMachine.exec (.create netAddress) turns)
        more).length ≤ 1 ∧
      ((threadsMachine.exec (.create netAddress) turns).owner = .idle →
        threadsMachine.outputs (threadsMachine.exec (.create netAddress) turns)
          more = []) := by
  obtain ⟨events, sound, follows, -⟩ := Threads.reach netAddress turns
  have draining : (threadsMachine.exec (.create netAddress) turns).Draining :=
    ⟨⟨_, sound, follows⟩, cleared, stopping⟩
  have bound := draining.outputs_length_le more noStart
  refine ⟨Nat.le_trans bound (Threads.pending_le _), ?_⟩
  intro idle
  rw [draining.pending_of_idle idle] at bound
  exact List.eq_nil_of_length_eq_zero (Nat.le_zero.mp bound)

/-- The loop waits for a datagram while `starting_` is cleared, and the owner
waits for the loop. -/
def drainTurns : List Turn :=
  [.callStart, .owner sampleEnv, .owner sampleEnv, .owner sampleEnv,
    .owner sampleEnv, .loop .failed, .loop .failed, .callStop,
    .owner sampleEnv, .owner sampleEnv]

theorem stop_drains_discover :
    (threadsMachine.outputs
        (threadsMachine.exec (.create sampleNetAddress) drainTurns)
        [.loop (.received (discoverOf 1) true true),
          .loop .failed]).length ≤ 1 :=
  (stop_drains sampleNetAddress drainTurns
    [.loop (.received (discoverOf 1) true true), .loop .failed] rfl rfl
    (by simp)).1

/-! A call returns when both threads get their turns and `receiveBytes` ends. -/

namespace Threads

variable {state : Threads} {model : DhcpServer}

/-- The two sides of a call: the thread of the owner, and the thread in
`thread_`. -/
inductive Side
  | owner
  | loop

def IsTurnOf : Side → Turn → Prop
  | .owner, turn => ∃ env, turn = .owner env
  | .loop, turn => ∃ reception, turn = .loop reception

/-- How many statements a thread executes after `starting_` was cleared. -/
def work : LoopPc → Nat
  | .receiving => 3
  | .entered | .processing .. => 2
  | .testing => 1
  | .joiningItself | .ended => 0

/-- How many statements are left of a call behind `Stop`. -/
def rankAfterStop (restart : Bool) : Nat :=
  if restart then 3 else 0

/-- How many statements are left of a call, with those of the thread that it
waits for. -/
def callRank (state : Threads) : Nat :=
  match state.owner with
  | .idle => 0
  | .launch => 1
  | .setStarting => 2
  | .initServer => 3
  | .join restart =>
      rankAfterStop restart + 1 + state.current.elim 0 work
  | .clear restart => rankAfterStop restart + 5
  | .stop restart => rankAfterStop restart + 6
  | .start => 10

/-- Who executes the next of these statements. -/
def owes (state : Threads) : Side :=
  match state.owner, state.current with
  | .join _, some .ended => .owner
  | .join _, _ => .loop
  | _, _ => .owner

theorem work_le (pc : LoopPc) : work pc ≤ 3 := by
  cases pc <;> simp [work]

theorem elim_work_le (current : Option LoopPc) : current.elim 0 work ≤ 3 := by
  cases current with
  | none => exact Nat.zero_le 3
  | some pc => exact work_le pc

theorem rankAfterStop_le (restart : Bool) : rankAfterStop restart ≤ 3 := by
  cases restart <;> decide

theorem callRank_le (state : Threads) : state.callRank ≤ 10 := by
  have loop := elim_work_le state.current
  unfold callRank
  cases state.owner with
  | join restart | clear restart | stop restart =>
      have behind := rankAfterStop_le restart
      dsimp only
      omega
  | _ => simp

theorem idle_of_callRank (done : state.callRank = 0) :
    state.owner = .idle := by
  unfold callRank at done
  cases owner : state.owner with
  | idle => rfl
  | _ =>
      rw [owner] at done
      dsimp only at done
      omega

theorem owes_loop (owes : state.owes = .loop) :
    ∃ restart, state.owner = .join restart ∧ state.current ≠ some .ended := by
  unfold Threads.owes at owes
  split at owes
  · cases owes
  · rename_i restart owner waits
    exact ⟨restart, owner, waits⟩
  · cases owes

/-- The owner goes on, unless it waits for a thread. -/
theorem ownerStep_lowers (busy : state.callRank ≠ 0)
    (owes : state.owes = .owner) (env : InitEnv) :
    (state.ownerStep env).callRank < state.callRank := by
  have loop := elim_work_le state.current
  unfold ownerStep
  cases owner : state.owner with
  | idle =>
      rw [callRank, owner] at busy
      exact absurd rfl busy
  | start =>
      dsimp only
      split <;> simp [callRank, owner, rankAfterStop]
  | stop restart =>
      dsimp only
      split
      · simp [callRank, owner]
      · cases restart <;> simp [callRank, owner, afterStop, rankAfterStop]
  | clear restart =>
      simp only [callRank, owner]
      omega
  | join restart =>
      have ended : state.current = some .ended := by
        by_contra waits
        unfold Threads.owes at owes
        rw [owner] at owes
        split at owes <;> simp_all
      simp only [callRank, owner, ended, Option.elim_some, work]
      cases restart <;> simp [afterStop, rankAfterStop]
  | initServer =>
      dsimp only
      split <;> simp [callRank, owner]
  | setStarting => simp [callRank, owner]
  | launch => simp [callRank, owner]

theorem Follows.joined (follows : Follows state model) {restart : Bool}
    (owner : state.owner = .join restart) :
    state.shared.starting = false ∧ ∃ pc, state.current = some pc := by
  cases follows with
  | outside place =>
      rw [owner] at place
      cases place
  | waiting _ _ cleared looping =>
      obtain ⟨pc, current, -⟩ := view_looping_iff.mp looping
      exact ⟨cleared, pc, current⟩
  | finishing _ _ cleared testing => exact ⟨cleared, _, testing⟩
  | finished _ _ cleared ended => exact ⟨cleared, _, ended⟩
  | _ place =>
      rw [owner] at place
      cases place

theorem loopStep_lowers (shared : DhcpServer) (reception : Reception)
    (pc : LoopPc) (cleared : shared.starting = false)
    (socket : pc = .entered → shared.dhcpSocket.isNone = false)
    (other : pc ≠ .joiningItself) (active : pc ≠ .ended) :
    work (loopStep shared reception pc).2.1 < work pc := by
  cases pc with
  | entered =>
      rw [loopStep, socket rfl]
      exact Nat.lt_succ_self 1
  | testing =>
      rw [loopStep, cleared]
      exact Nat.lt_succ_self 0
  | receiving => cases reception <;> simp [loopStep, work]
  | processing datagram localAlloc sendTo =>
      rw [loopStep]
      dsimp only
      split <;> simp [work]
  | joiningItself => exact absurd rfl other
  | ended => exact absurd rfl active

theorem loop_lowers (sound : state.Sound) (follows : Follows state model)
    {restart : Bool} (owner : state.owner = .join restart)
    (waits : state.current ≠ some .ended) (reception : Reception) :
    (threadsMachine.next state (.loop reception)).callRank <
      state.callRank := by
  obtain ⟨cleared, pc, current⟩ := follows.joined owner
  have lower := loopStep_lowers state.shared reception pc cleared
    (fun entered => sound.socket (entered ▸ current))
    (fun itself => sound.notItself (itself ▸ current))
    (fun ended => waits (ended ▸ current))
  rw [next_loop current]
  simp only [callRank, owner, current, Option.elim_some]
  omega

theorem loop_keeps (reception : Reception)
    (apart : ∀ restart, state.owner ≠ .join restart) :
    (threadsMachine.next state (.loop reception)).callRank =
        state.callRank ∧
      (threadsMachine.next state (.loop reception)).owes = state.owes := by
  cases current : state.current with
  | none =>
      rw [Machine.next, loop_none current]
      exact ⟨rfl, rfl⟩
  | some pc =>
      rw [next_loop current]
      unfold callRank owes
      cases owner : state.owner with
      | join restart => exact absurd owner (apart restart)
      | _ => exact ⟨rfl, rfl⟩

theorem turn_lowers (reached : state.Reached)
    {turn : Turn} (busy : state.callRank ≠ 0)
    (isTurn : IsTurnOf state.owes turn) :
    (threadsMachine.next state turn).callRank < state.callRank := by
  obtain ⟨model, sound, follows⟩ := reached
  cases owes : state.owes with
  | owner =>
      rw [owes] at isTurn
      obtain ⟨env, rfl⟩ := isTurn
      exact ownerStep_lowers busy owes env
  | loop =>
      rw [owes] at isTurn
      obtain ⟨reception, rfl⟩ := isTurn
      obtain ⟨restart, owner, waits⟩ := owes_loop owes
      exact loop_lowers sound follows owner waits reception

theorem owner_keeps (env : InitEnv) :
    (state.ownerStep env).callRank < state.callRank ∨
      (state.ownerStep env).callRank = state.callRank ∧
        (state.ownerStep env).owes = state.owes := by
  by_cases done : state.callRank = 0
  · have same : state.ownerStep env = state := by
      rw [ownerStep, idle_of_callRank done]
    rw [same]
    exact Or.inr ⟨rfl, rfl⟩
  · cases owes : state.owes with
    | owner => exact Or.inl (ownerStep_lowers done owes env)
    | loop =>
        obtain ⟨restart, owner, waits⟩ := owes_loop owes
        rw [owner_waits owner waits env]
        exact Or.inr ⟨rfl, owes⟩

theorem turn_keeps (reached : state.Reached)
    {turn : Turn} (noCall : turn ≠ .callStart ∧ turn ≠ .callStop) :
    (threadsMachine.next state turn).callRank < state.callRank ∨
      (threadsMachine.next state turn).callRank = state.callRank ∧
        (threadsMachine.next state turn).owes = state.owes := by
  cases turn with
  | callStart => exact absurd rfl noCall.1
  | callStop => exact absurd rfl noCall.2
  | owner env => exact owner_keeps env
  | loop reception =>
      by_cases joins : ∃ restart, state.owner = .join restart
      · obtain ⟨restart, owner⟩ := joins
        by_cases ended : state.current = some .ended
        · rw [Machine.next, loop_ended ended]
          exact Or.inr ⟨rfl, rfl⟩
        · obtain ⟨model, sound, follows⟩ := reached
          exact Or.inl (loop_lowers sound follows owner ended reception)
      · exact Or.inr (loop_keeps reception fun restart owner =>
          joins ⟨restart, owner⟩)
  | replaced index reception =>
      obtain ⟨model, sound, -⟩ := reached
      rw [Machine.next, replaced_idle sound]
      exact Or.inr ⟨rfl, rfl⟩

def progress : Progress threadsMachine Side where
  Inv := Reached
  Allowed turn := turn ≠ .callStart ∧ turn ≠ .callStop
  IsTurn := IsTurnOf
  rank := callRank
  owed := owes
  inv_next {_ turn} reached _ := reached.next turn
  lowers reached _ busy isTurn := turn_lowers reached busy isTurn
  keeps reached noCall := turn_keeps reached noCall

/-- The schedule gives a turn to the owner and to the loop. -/
def BothSides (turns : List Turn) : Prop :=
  (∃ env, .owner env ∈ turns) ∧ ∃ reception, .loop reception ∈ turns

theorem round_of_bothSides {turns : List Turn} (both : BothSides turns) :
    progress.Round turns := by
  obtain ⟨⟨env, owner⟩, ⟨reception, loop⟩⟩ := both
  intro side
  cases side with
  | owner => exact ⟨_, owner, env, rfl⟩
  | loop => exact ⟨_, loop, reception, rfl⟩

end Threads

/-- Whatever `Start` or `Stop` is doing, it has returned after ten rounds in which
each side gets a turn, however the calls of `receiveBytes` end. -/
theorem calls_return (netAddress : DhcpNetWorkAddr) (turns : List Turn)
    (rounds : List (List Turn)) (enough : 10 ≤ rounds.length)
    (both : ∀ round ∈ rounds, Threads.BothSides round)
    (noCall : ∀ round ∈ rounds, ∀ turn ∈ round,
      turn ≠ .callStart ∧ turn ≠ .callStop) :
    (threadsMachine.exec (.create netAddress)
      (turns ++ rounds.flatten)).owner = .idle := by
  obtain ⟨events, sound, follows, -⟩ := Threads.reach netAddress turns
  rw [Machine.exec_append]
  refine Threads.idle_of_callRank ?_
  refine Threads.progress.done_of_rounds ⟨_, sound, follows⟩ rounds noCall
    (fun round member => Threads.round_of_bothSides (both round member)) ?_
  exact Nat.le_trans (Threads.callRank_le _) enough

/-- The owner was about to join a thread that waits for a datagram. -/
theorem calls_return_stop :
    (threadsMachine.exec (.create sampleNetAddress)
      (drainTurns ++
        (List.replicate 10 [.owner sampleEnv, .loop .failed]).flatten)).owner =
      .idle := by
  refine calls_return sampleNetAddress drainTurns
    (List.replicate 10 [.owner sampleEnv, .loop .failed]) (by simp) ?_ ?_
  · intro round member
    rw [List.eq_of_mem_replicate member]
    exact ⟨⟨sampleEnv, by simp⟩, ⟨.failed, by simp⟩⟩
  · intro round member
    rw [List.eq_of_mem_replicate member]
    simp

end PoeDhcp
