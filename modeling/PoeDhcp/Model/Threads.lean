import PoeDhcp.Model.Run

namespace PoeDhcp

open Foundation

/-! `Start`, `Stop` and `run` statement by statement. The owner's thread and the
threads that execute `run` take turns, and each access to a member takes effect
before the next one. -/

/-- The statement that the owner's thread executes next. `restart` marks a
`Stop` that is called by `Start`. -/
inductive OwnerPc
  | idle
  | start
  | stop (restart : Bool)
  | clear (restart : Bool)
  | join (restart : Bool)
  | initServer
  | setStarting
  | launch
deriving DecidableEq

/-- The statement of `run` that a thread executes next. -/
inductive LoopPc
  | entered
  | testing
  | receiving
  | processing (datagram : Datagram) (localAlloc sendTo : Bool)
  | joiningItself
  | ended

def LoopPc.thread : LoopPc → Thread
  | .ended => .ended
  | _ => .looping

/-- `current` is the thread in `thread_`. `replaced` are the threads that were in
it before: `thread_.reset` does not wait for a thread. -/
structure Threads where
  shared : DhcpServer
  owner : OwnerPc
  current : Option LoopPc
  replaced : List LoopPc

namespace Threads

def create (netAddress : DhcpNetWorkAddr) : Threads where
  shared := .construct netAddress
  owner := .idle
  current := none
  replaced := []

/-- Where the owner's thread goes on behind `Stop`. -/
def afterStop (restart : Bool) : OwnerPc :=
  if restart then .initServer else .idle

/-- One statement of `Start` or `Stop`. A thread that is joined has ended before
the owner goes on. -/
def ownerStep (state : Threads) (env : InitEnv) : Threads :=
  match state.owner with
  | .idle => state
  | .start =>
      { state with
        owner := if state.shared.starting then .stop true else .initServer }
  | .stop restart =>
      { state with
        owner :=
          if state.current.isSome then .clear restart
          else afterStop restart }
  | .clear restart =>
      { state with
        shared := { state.shared with starting := false }
        owner := .join restart }
  | .join restart =>
      match state.current with
      | some .ended => { state with owner := afterStop restart }
      | _ => state
  | .initServer =>
      let (ret, shared) := state.shared.initServer env
      { state with
        shared
        owner := if ret then .setStarting else .idle }
  | .setStarting =>
      { state with
        shared := { state.shared with starting := true }
        owner := .launch }
  | .launch =>
      { state with
        owner := .idle
        current := some .entered
        replaced := state.replaced ++ state.current.toList }

/-- One statement of `run`. Without a socket it calls `Stop`, which joins the
thread that it runs on. -/
def loopStep (shared : DhcpServer) (reception : Reception) :
    LoopPc → DhcpServer × LoopPc × List Handled
  | .entered =>
      if shared.dhcpSocket.isNone then
        ({ shared with starting := false }, .joiningItself, [])
      else
        (shared, .testing, [])
  | .testing =>
      if shared.starting then (shared, .receiving, []) else (shared, .ended, [])
  | .receiving =>
      match reception with
      | .threw => (shared, .ended, [])
      | .failed => (shared, .testing, [])
      | .received datagram localAlloc sendTo =>
          (shared, .processing datagram localAlloc sendTo, [])
  | .processing datagram localAlloc sendTo =>
      let before := { shared with thread := some .looping }
      let result := before.iteration datagram localAlloc
      (result.server,
        if result.sent.isSome && !sendTo then .ended else .testing,
        [⟨before, datagram, localAlloc⟩])
  | .joiningItself => (shared, .joiningItself, [])
  | .ended => (shared, .ended, [])

end Threads

/-- Which thread executes its next statement. A call of `Start` or `Stop` begins
when the one before has returned. -/
inductive Turn
  | callStart
  | callStop
  | owner (env : InitEnv)
  | loop (reception : Reception)
  | replaced (index : Nat) (reception : Reception)

def threadsMachine : Machine Threads Turn Handled where
  step state turn :=
    match turn with
    | .callStart =>
        (if state.owner = .idle then { state with owner := .start } else state,
          [])
    | .callStop =>
        (if state.owner = .idle then { state with owner := .stop false }
          else state,
          [])
    | .owner env => (state.ownerStep env, [])
    | .loop reception =>
        match state.current with
        | none => (state, [])
        | some pc =>
            let (shared, pc, handled) :=
              Threads.loopStep state.shared reception pc
            ({ state with shared, current := some pc }, handled)
    | .replaced index reception =>
        match state.replaced[index]? with
        | none => (state, [])
        | some pc =>
            let (shared, pc, handled) :=
              Threads.loopStep state.shared reception pc
            ({ state with shared, replaced := state.replaced.set index pc },
              handled)

end PoeDhcp
