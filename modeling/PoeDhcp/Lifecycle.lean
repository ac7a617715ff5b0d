import PoeDhcp.Dispatch

namespace PoeDhcp

open Foundation

def InitEnv.succeeds (env : InitEnv) : Bool :=
  env.socketAddress && env.datagramSocket.isSome && env.setBroadcast

/-- The environment in which every call of `initServer` succeeds. -/
def InitEnv.ready (hostName : List BYTE) (socket : Socket) : InitEnv where
  hostName := some hostName
  socketAddress := true
  datagramSocket := some socket
  setBroadcast := true

namespace DhcpServer

variable {server : DhcpServer}

/-! What a step leaves alone. -/

theorem iteration_frame (server : DhcpServer) (datagram : Datagram)
    (localAlloc : Bool) :
    ∃ table last, (server.iteration datagram localAlloc).server =
      { server with addressesInUse := table, lastOfferAddress := last } := by
  refine iteration_rule server datagram localAlloc ?_ ?_
  · exact fun decision _ => ⟨_, _, rfl⟩
  · intro query result _ responds
    cases responds <;> exact ⟨_, _, rfl⟩

theorem iteration_table (server : DhcpServer) (datagram : Datagram)
    (localAlloc : Bool) :
    server.addressesInUse <+:
      (server.iteration datagram localAlloc).server.addressesInUse := by
  refine iteration_rule server datagram localAlloc ?_ ?_
  · exact fun decision _ => List.prefix_refl _
  · intro query result _ responds
    cases responds with
    | grant => exact List.prefix_append _ _
    | _ => exact List.prefix_refl _

theorem receive_frame (server : DhcpServer) (reception : Reception) :
    ∃ thread table last, (server.receive reception).1 =
      { server with
        thread := thread
        addressesInUse := table
        lastOfferAddress := last } := by
  cases reception with
  | threw => exact ⟨_, _, _, rfl⟩
  | failed => exact ⟨_, _, _, rfl⟩
  | received datagram localAlloc sendTo =>
      obtain ⟨table, last, frame⟩ := iteration_frame server datagram localAlloc
      simp only [receive, frame]
      split <;> exact ⟨_, _, _, rfl⟩

theorem receive_table (server : DhcpServer) (reception : Reception) :
    server.addressesInUse <+: (server.receive reception).1.addressesInUse := by
  cases reception with
  | threw => exact List.prefix_refl _
  | failed => exact List.prefix_refl _
  | received datagram localAlloc sendTo =>
      simp only [receive]
      split <;> exact iteration_table server datagram localAlloc

/-! What `stop` can do. -/

/-- The rule for `stop`: there was no thread, or the thread has ended after at
most one more reception. -/
@[elab_as_elim]
theorem stop_rule {motive : DhcpServer × List Handled → Prop}
    (server : DhcpServer) (last : Option Reception)
    (noThread : server.thread = none → motive (server, []))
    (idle : server.thread ≠ none →
      motive ({ server with starting := false, thread := some .ended }, []))
    (busy : ∀ reception, server.thread = some .looping →
      motive
        ({ ({ server with starting := false }.receive reception).1 with
            thread := some .ended },
          ({ server with starting := false }.receive reception).2)) :
    motive (server.stop last) := by
  cases thread : server.thread with
  | none =>
      have stopped : server.stop last = (server, []) := by
        simp only [stop, thread]
      rw [stopped]
      exact noThread thread
  | some status =>
      have idle := idle (by simp [thread])
      cases status with
      | ended =>
          have stopped : server.stop last =
              ({ server with starting := false, thread := some .ended },
                []) := by
            simp only [stop, thread]
          rw [stopped]
          exact idle
      | looping =>
          cases last with
          | none =>
              have stopped : server.stop none =
                  ({ server with starting := false, thread := some .ended },
                    []) := by
                simp only [stop, thread]
              rw [stopped]
              exact idle
          | some reception =>
              have stopped : server.stop (some reception) =
                  ({ ({ server with starting := false }.receive reception).1
                      with thread := some .ended },
                    ({ server with starting := false }.receive
                      reception).2) := by
                simp only [stop, thread]
              rw [stopped]
              exact busy reception thread

theorem stop_not_looping (server : DhcpServer) (last : Option Reception) :
    (server.stop last).1.thread ≠ some .looping := by
  refine stop_rule server last ?_ ?_ ?_
  · intro thread
    simp [thread]
  · intro _
    simp
  · intro reception _
    simp

theorem stop_frame (server : DhcpServer) (last : Option Reception) :
    ∃ thread starting table lastOffer, (server.stop last).1 =
      { server with
        thread := thread
        starting := starting
        addressesInUse := table
        lastOfferAddress := lastOffer } := by
  refine stop_rule server last ?_ ?_ ?_
  · exact fun _ => ⟨_, _, _, _, rfl⟩
  · exact fun _ => ⟨_, _, _, _, rfl⟩
  · intro reception _
    obtain ⟨status, table, lastOffer, frame⟩ :=
      receive_frame { server with starting := false } reception
    rw [frame]
    exact ⟨_, _, _, _, rfl⟩

theorem stop_table (server : DhcpServer) (last : Option Reception) :
    server.addressesInUse <+: (server.stop last).1.addressesInUse := by
  refine stop_rule server last ?_ ?_ ?_
  · exact fun _ => List.prefix_refl _
  · exact fun _ => List.prefix_refl _
  · exact fun reception _ =>
      receive_table { server with starting := false } reception

/-- `Start` stops a running server before it initialises it. -/
def settle (server : DhcpServer) (last : Option Reception) :
    DhcpServer × List Handled :=
  if server.starting then server.stop last else (server, [])

theorem start_eq (server : DhcpServer) (last : Option Reception)
    (env : InitEnv) :
    server.start last env =
      if ((server.settle last).1.initServer env).1 then
        (true,
          launch { ((server.settle last).1.initServer env).2 with
            starting := true },
          (server.settle last).2)
      else
        (false, ((server.settle last).1.initServer env).2,
          (server.settle last).2) := by
  rw [settle]
  unfold start
  cases server.starting <;>
    simp only [Bool.false_eq_true, if_true, if_false] <;>
    split <;> simp_all

/-! What `initServer` can do. -/

def serverEntry (server : DhcpServer) : AddressInUseInformation where
  dwAddrValue := server.serverAddrValue
  pbClientIdentifier := none
  dwClientIdentifierSize := 0

theorem initServer_spec (server : DhcpServer) (env : InitEnv) :
    ∃ socket name,
      server.initServer env =
          (env.succeeds,
            { server with
              dhcpSocket := socket
              serverHostName := name
              addressesInUse :=
                if env.succeeds then
                  server.addressesInUse ++ [server.serverEntry]
                else
                  server.addressesInUse }) ∧
        (env.succeeds = true → socket.isNone = false) := by
  unfold initServer InitEnv.succeeds
  cases env.socketAddress <;> cases env.datagramSocket <;>
    cases env.setBroadcast <;> exact ⟨_, _, rfl, by simp⟩

theorem initServer_result (server : DhcpServer) (env : InitEnv) :
    (server.initServer env).1 = env.succeeds := by
  obtain ⟨socket, name, spec, -⟩ := server.initServer_spec env
  rw [spec]

theorem initServer_frame (server : DhcpServer) (env : InitEnv) :
    ∃ socket name table, (server.initServer env).2 =
      { server with
        dhcpSocket := socket
        serverHostName := name
        addressesInUse := table } := by
  obtain ⟨socket, name, spec, -⟩ := server.initServer_spec env
  rw [spec]
  exact ⟨_, _, _, rfl⟩

theorem initServer_success {env : InitEnv} (success : env.succeeds = true) :
    (server.initServer env).2.addressesInUse =
      server.addressesInUse ++ [server.serverEntry] := by
  obtain ⟨socket, name, spec, -⟩ := server.initServer_spec env
  rw [spec]
  exact if_pos success

theorem initServer_failure {env : InitEnv} (failure : env.succeeds = false) :
    (server.initServer env).2.addressesInUse = server.addressesInUse := by
  obtain ⟨socket, name, spec, -⟩ := server.initServer_spec env
  rw [spec]
  exact if_neg (Bool.eq_false_iff.mp failure)

theorem initServer_table (server : DhcpServer) (env : InitEnv) :
    server.addressesInUse <+: (server.initServer env).2.addressesInUse := by
  cases success : env.succeeds with
  | true =>
      rw [initServer_success success]
      exact List.prefix_append _ _
  | false => simp only [initServer_failure success, List.prefix_refl]

theorem launch_initServer {env : InitEnv} (success : env.succeeds = true) :
    launch { (server.initServer env).2 with starting := true } =
      { (server.initServer env).2 with
        starting := true
        thread := some .looping } := by
  obtain ⟨socket, name, spec, bound⟩ := server.initServer_spec env
  rw [spec]
  simp [launch, bound success]

theorem start_success {env : InitEnv} (success : env.succeeds = true)
    (last : Option Reception) :
    server.start last env =
      (true,
        { ((server.settle last).1.initServer env).2 with
          starting := true
          thread := some .looping },
        (server.settle last).2) := by
  rw [start_eq, if_pos (by rw [initServer_result, success]),
    launch_initServer success]

theorem start_failure {env : InitEnv} (failure : env.succeeds = false)
    (last : Option Reception) :
    server.start last env =
      (false, ((server.settle last).1.initServer env).2,
        (server.settle last).2) := by
  rw [start_eq, if_neg (by rw [initServer_result, failure]; simp)]

theorem settle_frame (server : DhcpServer) (last : Option Reception) :
    ∃ thread starting table lastOffer, (server.settle last).1 =
      { server with
        thread := thread
        starting := starting
        addressesInUse := table
        lastOfferAddress := lastOffer } := by
  unfold settle
  split
  · exact stop_frame server last
  · exact ⟨_, _, _, _, rfl⟩

theorem settle_table (server : DhcpServer) (last : Option Reception) :
    server.addressesInUse <+: (server.settle last).1.addressesInUse := by
  unfold settle
  split
  · exact stop_table server last
  · exact List.prefix_refl _

/-! The server that a processed datagram meets. -/

theorem receive_handled {reception : Reception} {handled : Handled}
    (member : handled ∈ (server.receive reception).2) :
    handled.before = server := by
  cases reception with
  | threw => cases member
  | failed => cases member
  | received datagram localAlloc sendTo =>
      rw [List.mem_singleton.mp member]

theorem stop_handled {last : Option Reception} {handled : Handled} :
    handled ∈ (server.stop last).2 →
      handled.before = { server with starting := false } := by
  refine stop_rule server last ?_ ?_ ?_
  · exact fun _ member => by cases member
  · exact fun _ member => by cases member
  · exact fun reception _ member => receive_handled member

theorem settle_handled {last : Option Reception} {handled : Handled}
    (member : handled ∈ (server.settle last).2) :
    handled.before = { server with starting := false } := by
  unfold settle at member
  split at member
  · exact stop_handled member
  · cases member

/-! A thread in the loop belongs to a server that is running. -/

def Supervised (server : DhcpServer) : Prop :=
  server.thread = some .looping → server.starting = true

theorem construct_supervised (netAddress : DhcpNetWorkAddr) :
    (construct netAddress).Supervised := by
  simp [Supervised, construct]

theorem settle_not_looping (supervised : server.Supervised)
    (last : Option Reception) :
    (server.settle last).1.thread ≠ some .looping := by
  unfold settle
  split
  · exact stop_not_looping server last
  · rename_i stopped
    exact fun looping => stopped (supervised looping)

theorem start_supervised (supervised : server.Supervised)
    (last : Option Reception) (env : InitEnv) :
    (server.start last env).2.1.Supervised := by
  cases success : env.succeeds with
  | true =>
      rw [start_success success]
      exact fun _ => rfl
  | false =>
      rw [start_failure success]
      obtain ⟨socket, name, table, frame⟩ :=
        initServer_frame (server.settle last).1 env
      rw [frame]
      exact fun looping =>
        False.elim (settle_not_looping supervised last looping)

theorem receive_supervised (supervised : server.Supervised)
    (looping : server.thread = some .looping) (reception : Reception) :
    (server.receive reception).1.Supervised := by
  obtain ⟨thread, table, last, frame⟩ := receive_frame server reception
  rw [frame]
  exact fun _ => supervised looping

/-! A running server has a thread, so that `Stop` reaches it. -/

def Launched (server : DhcpServer) : Prop :=
  server.starting = true → server.thread ≠ none

theorem construct_launched (netAddress : DhcpNetWorkAddr) :
    (construct netAddress).Launched := by
  simp [Launched, construct]

theorem receive_starting (reception : Reception) :
    (server.receive reception).1.starting = server.starting := by
  obtain ⟨_, _, _, frame⟩ := receive_frame server reception
  rw [frame]

theorem receive_thread (threaded : server.thread ≠ none)
    (reception : Reception) : (server.receive reception).1.thread ≠ none := by
  cases reception with
  | threw => simp [receive]
  | failed => exact threaded
  | received datagram localAlloc sendTo =>
      obtain ⟨_, _, frame⟩ := iteration_frame server datagram localAlloc
      simp only [receive, frame]
      split
      · simp
      · exact threaded

theorem stop_starting (launched : server.Launched) (last : Option Reception) :
    (server.stop last).1.starting = false := by
  refine stop_rule server last ?_ ?_ ?_
  · intro thread
    by_contra running
    exact launched (by simpa using running) thread
  · exact fun _ => rfl
  · exact fun reception _ => receive_starting reception

theorem settle_starting (launched : server.Launched)
    (last : Option Reception) :
    (server.settle last).1.starting = false := by
  unfold settle
  split
  · exact stop_starting launched last
  · rename_i stopped
    exact Bool.eq_false_iff.mpr stopped

theorem start_failure_starting (launched : server.Launched) {env : InitEnv}
    (failure : env.succeeds = false) (last : Option Reception) :
    (server.start last env).2.1.starting = false := by
  obtain ⟨_, _, _, frame⟩ := initServer_frame (server.settle last).1 env
  rw [start_failure failure, frame]
  exact settle_starting launched last

theorem start_launched (launched : server.Launched)
    (last : Option Reception) (env : InitEnv) :
    (server.start last env).2.1.Launched := by
  intro running
  cases success : env.succeeds with
  | true =>
      rw [start_success success]
      simp
  | false =>
      rw [start_failure_starting launched success] at running
      cases running

end DhcpServer

namespace serverMachine

open DhcpServer

theorem next_start (server : DhcpServer) (last : Option Reception)
    (env : InitEnv) :
    serverMachine.next server (.start last env) =
      (server.start last env).2.1 := rfl

theorem next_stop (server : DhcpServer) (last : Option Reception) :
    serverMachine.next server (.stop last) = (server.stop last).1 := rfl

theorem next_receive {server : DhcpServer}
    (looping : server.thread = some .looping) (reception : Reception) :
    serverMachine.next server (.receive reception) =
      (server.receive reception).1 := by
  simp [Machine.next, serverMachine, looping]

theorem emit_receive {server : DhcpServer}
    (looping : server.thread = some .looping) (reception : Reception) :
    serverMachine.emit server (.receive reception) =
      (server.receive reception).2 := by
  simp [Machine.emit, serverMachine, looping]

theorem next_receive_idle {server : DhcpServer}
    (idle : server.thread ≠ some .looping) (reception : Reception) :
    serverMachine.next server (.receive reception) = server := by
  simp [Machine.next, serverMachine, idle]

theorem emit_receive_idle {server : DhcpServer}
    (idle : server.thread ≠ some .looping) (reception : Reception) :
    serverMachine.emit server (.receive reception) = [] := by
  simp [Machine.emit, serverMachine, idle]

/-- The rule for a reception: it reaches a server in its loop only. -/
@[elab_as_elim]
theorem next_receive_rule {motive : DhcpServer → Prop} (server : DhcpServer)
    (reception : Reception)
    (idle : server.thread ≠ some .looping → motive server)
    (received : server.thread = some .looping →
      motive (server.receive reception).1) :
    motive (serverMachine.next server (.receive reception)) := by
  by_cases looping : server.thread = some .looping
  · rw [next_receive looping]
    exact received looping
  · rw [next_receive_idle looping]
    exact idle looping

theorem next_config (server : DhcpServer) (event : Event) :
    (serverMachine.next server event).netAddress = server.netAddress ∧
      (serverMachine.next server event).serverAddress =
        server.serverAddress := by
  cases event with
  | start last env =>
      obtain ⟨_, _, _, _, settled⟩ := settle_frame server last
      obtain ⟨_, _, _, initialised⟩ :=
        initServer_frame (server.settle last).1 env
      rw [next_start, start_eq, initialised, settled]
      split
      · unfold launch
        split <;> exact ⟨rfl, rfl⟩
      · exact ⟨rfl, rfl⟩
  | stop last =>
      obtain ⟨_, _, _, _, stopped⟩ := stop_frame server last
      rw [next_stop, stopped]
      exact ⟨rfl, rfl⟩
  | receive reception =>
      obtain ⟨_, _, _, received⟩ := receive_frame server reception
      refine next_receive_rule server reception (fun _ => ⟨rfl, rfl⟩) ?_
      rw [received]
      exact fun _ => ⟨rfl, rfl⟩

theorem emit_serverAddress {server : DhcpServer} {event : Event}
    {handled : Handled} (member : handled ∈ serverMachine.emit server event) :
    handled.before.serverAddress = server.serverAddress := by
  cases event with
  | start last env =>
      have emitted : serverMachine.emit server (.start last env) =
          (server.settle last).2 := by
        change (server.start last env).2.2 = _
        rw [start_eq]
        split <;> rfl
      rw [emitted] at member
      rw [settle_handled member]
  | stop last => rw [stop_handled member]
  | receive reception =>
      by_cases looping : server.thread = some .looping
      · rw [emit_receive looping] at member
        rw [receive_handled member]
      · rw [emit_receive_idle looping] at member
        cases member

theorem next_supervised {server : DhcpServer} (supervised : server.Supervised)
    (event : Event) : (serverMachine.next server event).Supervised := by
  cases event with
  | start last env => exact start_supervised supervised last env
  | stop last =>
      rw [next_stop]
      exact fun looping => False.elim (stop_not_looping server last looping)
  | receive reception =>
      exact next_receive_rule server reception (fun _ => supervised)
        fun looping => receive_supervised supervised looping reception

theorem next_launched {server : DhcpServer} (launched : server.Launched)
    (event : Event) : (serverMachine.next server event).Launched := by
  cases event with
  | start last env => exact start_launched launched last env
  | stop last =>
      intro running
      rw [next_stop, stop_starting launched last] at running
      cases running
  | receive reception =>
      exact next_receive_rule server reception (fun _ => launched)
        fun looping _ => receive_thread (by simp [looping]) reception

theorem next_table (server : DhcpServer) (event : Event) :
    server.addressesInUse <+:
      (serverMachine.next server event).addressesInUse := by
  cases event with
  | start last env =>
      rw [next_start, start_eq]
      have grown := (settle_table server last).trans
        (initServer_table (server.settle last).1 env)
      split
      · unfold launch
        split <;> exact grown
      · exact grown
  | stop last => exact stop_table server last
  | receive reception =>
      exact next_receive_rule server reception (fun _ => List.prefix_refl _)
        fun _ => receive_table server reception

end serverMachine

theorem exec_serverAddress (netAddress : DhcpNetWorkAddr)
    (events : List Event) :
    (serverMachine.exec (DhcpServer.construct netAddress)
        events).serverAddress =
      setServerAddress netAddress :=
  serverMachine.exec_induction
    (I := fun server => server.serverAddress = setServerAddress netAddress)
    events (DhcpServer.construct netAddress) rfl
    (fun event _ server config =>
      (serverMachine.next_config server event).2.trans config)

/-! A concrete server, as the API configures its first one. -/

def sampleNetAddress : DhcpNetWorkAddr where
  address := "192.168.50.1"
  mask := "255.255.255.0"
  minAddr := "192.168.50.2"
  maxAddr := "192.168.50.12"
  dns := "8.8.8.8"
  dns2 := "8.8.4.4"

def sampleHostName : List BYTE := [0x50, 0x4f, 0x45]

def sampleEnv : InitEnv := .ready sampleHostName 0

def sampleServer : DhcpServer :=
  ((DhcpServer.construct sampleNetAddress).start none sampleEnv).2.1

end PoeDhcp
