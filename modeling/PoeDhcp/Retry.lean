import PoeDhcp.SystemLeases

namespace PoeDhcp

open Foundation
open DhcpServer

/-! Starting the servers again and again, as the service does until the last of
them runs. -/

/-- The call constructs a socket. -/
def InitEnv.binds (env : InitEnv) : Bool :=
  env.socketAddress && env.datagramSocket.isSome

theorem InitEnv.binds_of_succeeds {env : InitEnv}
    (success : env.succeeds = true) : env.binds = true := by
  unfold InitEnv.succeeds at success
  exact (Bool.and_eq_true_iff.mp success).1

namespace DhcpServer

variable {server : DhcpServer}

/-- A socket is replaced by another one, and otherwise kept. -/
theorem initServer_socket (server : DhcpServer) (env : InitEnv) :
    (server.initServer env).2.dhcpSocket.isSome =
      (server.dhcpSocket.isSome || env.binds) := by
  unfold initServer InitEnv.binds
  cases env.socketAddress <;> cases env.datagramSocket <;>
    cases env.setBroadcast <;> simp

theorem stop_socket (server : DhcpServer) (last : Option Reception) :
    (server.stop last).1.dhcpSocket = server.dhcpSocket := by
  obtain ⟨_, _, _, _, frame⟩ := stop_frame server last
  rw [frame]

theorem receive_socket (server : DhcpServer) (reception : Reception) :
    (serverMachine.next server (.receive reception)).dhcpSocket =
      server.dhcpSocket := by
  refine serverMachine.next_receive_rule server reception (fun _ => rfl) ?_
  intro _
  obtain ⟨_, _, _, frame⟩ := receive_frame server reception
  rw [frame]

theorem start_socket (server : DhcpServer) (last : Option Reception)
    (env : InitEnv) :
    (server.start last env).2.1.dhcpSocket.isSome =
      (server.dhcpSocket.isSome || env.binds) := by
  have settled : (server.settle last).1.dhcpSocket = server.dhcpSocket := by
    unfold settle
    split
    · exact stop_socket server last
    · rfl
  have bound := initServer_socket (server.settle last).1 env
  rw [settled] at bound
  cases success : env.succeeds with
  | true =>
      rw [start_success success]
      exact bound
  | false =>
      rw [start_failure success]
      exact bound

theorem receive_isRunning (server : DhcpServer) (reception : Reception) :
    (serverMachine.next server (.receive reception)).isRunning =
      server.isRunning :=
  serverMachine.next_receive_rule server reception (fun _ => rfl)
    fun _ => receive_starting reception

end DhcpServer

namespace PoeDhcpSeverImpl

variable {impl : PoeDhcpSeverImpl}

/-- The calls that start or stop servers. -/
def isControl : ApiCall → Bool
  | .startDhcpServers _ => true
  | .stopDhcpServers _ => true
  | _ => false

/-- The call constructs a socket for the server with an index. -/
def bindsAt (index : Nat) : ApiCall → Bool
  | .startDhcpServers outcome => (outcome index).env.binds
  | _ => false

/-- The `DatagramSocket` constructor throws while a socket is open on the
address. A server never closes its socket without having another one. -/
def BindsExclusively (impl : PoeDhcpSeverImpl) (call : ApiCall) : Prop :=
  ∀ index server, impl.dhcpServerList[index]? = some server →
    server.dhcpSocket.isSome = true → bindsAt index call = false

theorem bindsExclusively_iff (impl : PoeDhcpSeverImpl) (call : ApiCall) :
    BindsExclusively impl call ↔
      (impl.dhcpServerList.mapIdx fun index server =>
        server.dhcpSocket.isSome && bindsAt index call).all not = true := by
  simp only [BindsExclusively, List.all_eq_true, List.mem_mapIdx,
    List.getElem?_eq_some_iff]
  constructor
  · intro exclusive value found
    obtain ⟨index, bound, rfl⟩ := found
    have free := exclusive index _ ⟨bound, rfl⟩
    cases socket : impl.dhcpServerList[index].dhcpSocket.isSome with
    | true => rw [free socket]; rfl
    | false => rfl
  · intro each index server found socket
    obtain ⟨bound, rfl⟩ := found
    have free := each _ ⟨index, bound, rfl⟩
    rw [socket, Bool.true_and, Bool.not_eq_true'] at free
    exact free

instance (impl : PoeDhcpSeverImpl) (call : ApiCall) :
    Decidable (BindsExclusively impl call) :=
  decidable_of_iff _ (bindsExclusively_iff impl call).symm

/-- The server with an index was started by the last call that starts or stops
servers, which was also the first that got a socket for it. -/
def StartedOnce (index : Nat) (calls : List ApiCall) : Prop :=
  ∃ before outcome after,
    calls = before ++ .startDhcpServers outcome :: after ∧
      (outcome index).env.succeeds = true ∧
      (∀ call ∈ before, bindsAt index call = false) ∧
      ∀ call ∈ after, isControl call = false

theorem startedOnce_control {index : Nat} {calls : List ApiCall}
    {call : ApiCall} (control : isControl call = true) :
    StartedOnce index (calls ++ [call]) ↔
      ∃ outcome, call = .startDhcpServers outcome ∧
        (outcome index).env.succeeds = true ∧
        ∀ call ∈ calls, bindsAt index call = false := by
  constructor
  · intro once
    obtain ⟨before, outcome, after, split, success, unbound, rest⟩ := once
    rcases List.eq_nil_or_concat after with rfl | ⟨others, last, rfl⟩
    · obtain ⟨rfl, same⟩ := List.append_inj' split rfl
      exact ⟨outcome, List.singleton_inj.mp same, success, unbound⟩
    · -- The last call would come behind the one that started the server.
      rw [List.concat_eq_append, ← List.cons_append, ← List.append_assoc]
        at split
      have same := List.singleton_inj.mp (List.append_inj_right' split rfl)
      have idle := rest last (by simp)
      rw [← same, control] at idle
      cases idle
  · intro started
    obtain ⟨outcome, rfl, success, unbound⟩ := started
    exact ⟨calls, outcome, [], rfl, success, unbound, by simp⟩

theorem startedOnce_other {index : Nat} {calls : List ApiCall}
    {call : ApiCall} (other : isControl call = false) :
    StartedOnce index (calls ++ [call]) ↔ StartedOnce index calls := by
  constructor
  · intro once
    obtain ⟨before, outcome, after, split, success, unbound, rest⟩ := once
    rcases List.eq_nil_or_concat after with rfl | ⟨others, last, rfl⟩
    · have same := List.singleton_inj.mp (List.append_inj_right' split rfl)
      rw [same] at other
      cases other
    · rw [List.concat_eq_append, ← List.cons_append, ← List.append_assoc]
        at split
      refine ⟨before, outcome, others, List.append_inj_left' split rfl,
        success, unbound, ?_⟩
      intro call member
      exact rest call (by simp [member])
  · intro once
    obtain ⟨before, outcome, after, rfl, success, unbound, rest⟩ := once
    refine ⟨before, outcome, after ++ [call], by simp, success, unbound, ?_⟩
    intro later member
    rcases List.mem_append.mp member with earlier | last
    · exact rest later earlier
    · rw [List.mem_singleton.mp last]
      exact other

/-- What the calls have done to the server with an index. -/
structure Follows (server : DhcpServer) (index : Nat)
    (calls : List ApiCall) : Prop where
  launched : server.Launched
  socket : server.dhcpSocket.isSome = calls.any (bindsAt index)
  running : server.isRunning = true ↔ StartedOnce index calls

theorem Follows.quiet {server after : DhcpServer} {index : Nat}
    {calls : List ApiCall} (follows : Follows server index calls)
    {call : ApiCall} (other : isControl call = false)
    (launched : after.Launched)
    (socket : after.dhcpSocket = server.dhcpSocket)
    (running : after.isRunning = server.isRunning) :
    Follows after index (calls ++ [call]) where
  launched := launched
  socket := by
    have unbound : bindsAt index call = false := by
      cases call <;> first | rfl | cases other
    rw [socket, follows.socket, List.any_append]
    simp [unbound]
  running := by
    rw [running, follows.running, startedOnce_other other]

theorem Follows.next {server : DhcpServer} {index : Nat}
    {calls : List ApiCall} (follows : Follows server index calls)
    {call : ApiCall} (kept : call ≠ .configPoeAdapter)
    (exclusive : server.dhcpSocket.isSome = true →
      bindsAt index call = false) :
    Follows (serverMachine.exec server (serverEvent call index).toList) index
      (calls ++ [call]) := by
  cases call with
  | configPoeAdapter => exact absurd rfl kept
  | setPoeAdapterAddress place address =>
      exact follows.quiet rfl follows.launched rfl rfl
  | setPoeAdapterModel model =>
      exact follows.quiet rfl follows.launched rfl rfl
  | receive place reception =>
      simp only [serverEvent]
      split
      · exact follows.quiet rfl
          (serverMachine.next_launched follows.launched _)
          (receive_socket server reception)
          (receive_isRunning server reception)
      · exact follows.quiet rfl follows.launched rfl rfl
  | stopDhcpServers last =>
      exact
        { launched := serverMachine.next_launched follows.launched
            (.stop (last index))
          socket := by
            have same := congrArg Option.isSome
              (stop_socket server (last index))
            refine same.trans ?_
            simp [follows.socket, bindsAt]
          running := by
            have stopped := stop_starting follows.launched (last index)
            rw [startedOnce_control rfl]
            constructor
            · intro running
              have active : (server.stop (last index)).1.starting = true :=
                running
              rw [stopped] at active
              cases active
            · intro started
              obtain ⟨outcome, impossible, -⟩ := started
              cases impossible }
  | startDhcpServers outcome =>
      have running := start_isRunning follows.launched
        (outcome index).last (outcome index).env
      exact
        { launched := start_launched follows.launched _ _
          socket := by
            have bound := start_socket server
              (outcome index).last (outcome index).env
            refine bound.trans ?_
            simp [follows.socket, bindsAt]
          running := by
            have started : (serverMachine.exec server
                (serverEvent (.startDhcpServers outcome) index).toList).isRunning
                  = (outcome index).env.succeeds := running
            rw [started, startedOnce_control rfl]
            constructor
            · intro success
              refine ⟨outcome, rfl, success, ?_⟩
              -- A server that had a socket would not have got another one.
              have unbound : calls.any (bindsAt index) = false := by
                rw [← follows.socket]
                by_contra bound
                have failed : (outcome index).env.binds = false :=
                  exclusive (Bool.not_eq_false _ ▸ bound)
                rw [InitEnv.binds_of_succeeds success] at failed
                cases failed
              simpa using unbound
            · intro once
              obtain ⟨started, same, success, -⟩ := once
              cases same
              exact success }

/-- The calls leave every server of a configuration in this state. -/
theorem run_follows
    (made : ∀ server ∈ impl.dhcpServerList,
      ∃ netAddress, server = construct netAddress)
    {calls : List ApiCall} (kept : .configPoeAdapter ∉ calls)
    (exclusive : apiMachine.EachStep BindsExclusively impl calls) {index : Nat}
    {server : DhcpServer}
    (found : (apiMachine.exec impl calls).dhcpServerList[index]? =
      some server) :
    Follows server index calls := by
  induction calls using List.reverseRecOn generalizing server with
  | nil =>
      obtain ⟨netAddress, rfl⟩ := made server (List.mem_of_getElem? found)
      refine ⟨construct_launched netAddress, rfl, ?_⟩
      constructor
      · intro running
        cases running
      · intro once
        obtain ⟨before, outcome, after, impossible, -⟩ := once
        simp at impossible
  | append_singleton calls call ih =>
      have first : call ≠ .configPoeAdapter := fun same =>
        kept (same ▸ List.mem_append_right _ (List.mem_singleton_self _))
      have others : .configPoeAdapter ∉ calls := fun member =>
        kept (List.mem_append_left _ member)
      obtain ⟨earlier, step, -⟩ :=
        (apiMachine.eachStep_append calls [call] impl).mp exclusive
      have servers : (apiMachine.next (apiMachine.exec impl calls)
          call).dhcpServerList = _ := (system_step _ first).1
      rw [Machine.exec_append, Machine.exec_cons, Machine.exec_nil, servers]
        at found
      simp only [Machine.next, Machine.family, List.getElem?_mapIdx,
        Option.map_eq_some_iff] at found
      obtain ⟨before, place, rfl⟩ := found
      exact (ih others earlier place).next first (step index before place)

end PoeDhcpSeverImpl

open PoeDhcpSeverImpl

/-- Of all servers those run that were started once. -/
def RunsStartedOnce (impl : PoeDhcpSeverImpl) (calls : List ApiCall) : Prop :=
  ∀ index server, impl.dhcpServerList[index]? = some server →
    (server.isRunning = true ↔ StartedOnce index calls)

/-- After a configuration and any calls, a server runs exactly when the last call
that starts or stops servers started it, and no earlier call got a socket for it:
to start the servers again stops those that run. -/
theorem server_runs_iff (infos : List NetWorkAapterInfo)
    (before after : List ApiCall) (kept : .configPoeAdapter ∉ after)
    (exclusive : apiMachine.EachStep BindsExclusively
      (apiMachine.exec (.create infos) (before ++ [.configPoeAdapter])) after) :
    RunsStartedOnce
      (apiMachine.exec (.create infos)
        (before ++ [.configPoeAdapter] ++ after)) after := by
  intro index server found
  rw [Machine.exec_append] at found
  refine (run_follows ?_ kept exclusive found).running
  intro server member
  rw [Machine.exec_append] at member
  obtain ⟨netAddress, -, rfl⟩ := List.mem_map.mp member
  exact ⟨netAddress, rfl⟩

/-- Two adapters. In the first round only the first server gets a socket, and in
the second round only the second. -/
def roundOutcome (round : Nat) (index : Nat) : StartOutcome where
  last := none
  env := if index = round then sampleEnv
    else { sampleEnv with datagramSocket := none }

def pairInfos : List NetWorkAapterInfo :=
  [⟨"eth1", "Intel(R) I211 Gigabit", .default⟩,
    ⟨"eth2", "Intel(R) I211 Gigabit #2", .default⟩]

def retryCalls : List ApiCall :=
  [.startDhcpServers (roundOutcome 0), .startDhcpServers (roundOutcome 1)]

/-- The retry that starts the second server has stopped the first. -/
theorem retry_stops_first :
    RunsStartedOnce
      (apiMachine.exec (.create pairInfos)
        ([] ++ [.configPoeAdapter] ++ retryCalls)) retryCalls := by
  refine server_runs_iff pairInfos [] retryCalls (by simp [retryCalls]) ?_
  exact ⟨by decide +kernel, by decide +kernel, trivial⟩

end PoeDhcp
