import PoeDhcp.Discovery

namespace PoeDhcp

open Foundation
open DhcpServer

/-! Whether the receive loop survives. -/

/-- A server that says it is running has its loop. -/
def Available (server : DhcpServer) : Prop :=
  server.isRunning = true → server.thread = some .looping

/-- A call of `receiveBytes` throws, or a reply is sent and `sendTo` throws. -/
def Reception.Throws (server : DhcpServer) : Reception → Prop
  | .threw => True
  | .failed => False
  | .received datagram localAlloc sendTo =>
      (server.iteration datagram localAlloc).sent.isSome = true ∧
        sendTo = false

/-- The running loop meets an exception. -/
def LosesLoop (server : DhcpServer) : Event → Prop
  | .receive reception =>
      server.thread = some .looping ∧ reception.Throws server
  | _ => False

section Step

variable {server : DhcpServer}

theorem receive_looping_iff (looping : server.thread = some .looping)
    (reception : Reception) :
    (server.receive reception).1.thread = some .looping ↔
      ¬ reception.Throws server := by
  cases reception with
  | threw => simp [receive, Reception.Throws]
  | failed => simpa [receive, Reception.Throws] using looping
  | received datagram localAlloc sendTo =>
      obtain ⟨_, _, frame⟩ := iteration_frame server datagram localAlloc
      have kept : (server.iteration datagram localAlloc).server.thread =
          some .looping := by
        rw [frame]
        exact looping
      simp only [receive, Reception.Throws]
      cases (server.iteration datagram localAlloc).sent.isSome <;>
        cases sendTo <;> simp [kept]

theorem Available.launched (available : Available server) :
    server.Launched := by
  intro running missing
  have looping := available running
  rw [missing] at looping
  cases looping

theorem start_available (available : Available server)
    (last : Option Reception) (env : InitEnv) :
    Available (server.start last env).2.1 := by
  intro running
  cases success : env.succeeds with
  | true => rw [start_success success]
  | false =>
      change (server.start last env).2.1.starting = true at running
      rw [start_failure_starting available.launched success] at running
      cases running

theorem next_available_iff (supervised : server.Supervised)
    (available : Available server) (event : Event) :
    Available (serverMachine.next server event) ↔
      ¬ LosesLoop server event := by
  cases event with
  | start last env =>
      exact iff_of_true (start_available available last env) (fun h => h)
  | stop last =>
      refine iff_of_true ?_ (fun h => h)
      intro running
      rw [serverMachine.next_stop, isRunning,
        stop_starting available.launched last] at running
      cases running
  | receive reception =>
      by_cases looping : server.thread = some .looping
      · have running : (server.receive reception).1.isRunning = true :=
          (receive_starting reception).trans (supervised looping)
        rw [serverMachine.next_receive looping, Available]
        simp only [running, true_implies, receive_looping_iff looping,
          LosesLoop, looping, true_and]
      · rw [serverMachine.next_receive_idle looping]
        exact iff_of_true available (fun lost => looping lost.1)

end Step

/-- A server that says it is running has its loop in every state of a run exactly
when the loop never meets an exception. -/
theorem available_iff (netAddress : DhcpNetWorkAddr) (events : List Event) :
    serverMachine.AllStates Available (construct netAddress) events ↔
      serverMachine.EachStep (fun server event => ¬ LosesLoop server event)
        (construct netAddress) events := by
  apply serverMachine.allStates_iff_eachStep Supervised
  · exact construct_supervised netAddress
  · intro running
    cases running
  · exact fun event _ server supervised =>
      serverMachine.next_supervised supervised event
  · exact fun event _ server supervised available =>
      next_available_iff supervised available event

/-- Both kinds of exception leave a server that says it is running without its
loop. -/
theorem loop_lost :
    ¬ serverMachine.AllStates Available (construct sampleNetAddress)
        [.start none sampleEnv, .receive .threw] ∧
      ¬ serverMachine.AllStates Available (construct sampleNetAddress)
        [.start none sampleEnv,
          .receive (.received (discoverOf 7) true false)] := by
  constructor
  · intro states
    obtain ⟨-, -, lost⟩ := states
    have looping := lost (by decide +kernel)
    revert looping
    decide +kernel
  · intro states
    obtain ⟨-, -, lost⟩ := states
    have looping := lost (by decide +kernel)
    revert looping
    decide +kernel

end PoeDhcp
