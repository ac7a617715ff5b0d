import PoeDhcp.Model.Api
import PoeDhcp.Lifecycle

namespace PoeDhcp

open Foundation
open DhcpServer

/-! Which servers the interface destroys. -/

/-- No server is destroyed between a successful `Start` and a `Stop`. -/
def NoneActive (effects : List Effect) : Prop :=
  ∀ server, .destroyed server ∈ effects → server.isRunning = false

theorem noneActive_append {first second : List Effect} :
    NoneActive (first ++ second) ↔ NoneActive first ∧ NoneActive second := by
  simp only [NoneActive, List.mem_append, or_imp, forall_and]

theorem noneActive_nil : NoneActive [] := by
  simp [NoneActive]

theorem noneActive_destroyed {servers : List DhcpServer} :
    NoneActive (servers.map .destroyed) ↔
      ∀ server ∈ servers, server.isRunning = false := by
  simp [NoneActive]

namespace DhcpServer

variable {server : DhcpServer}

theorem start_isRunning (launched : server.Launched)
    (last : Option Reception) (env : InitEnv) :
    (server.start last env).2.1.isRunning = env.succeeds := by
  cases success : env.succeeds with
  | true =>
      rw [start_success success]
      rfl
  | false => exact start_failure_starting launched success last

end DhcpServer

namespace PoeDhcpSeverImpl

variable {impl : PoeDhcpSeverImpl}

theorem configAdapters_noneActive (impl : PoeDhcpSeverImpl)
    (infos : List NetWorkAapterInfo) (configIpList : List NetWorkIp) :
    NoneActive (impl.configAdapters infos configIpList).2 := by
  induction infos generalizing configIpList with
  | nil => exact noneActive_nil
  | cons it rest ih =>
      simp only [configAdapters]
      split
      · intro server member
        rcases List.mem_cons.mp member with first | later
        · cases first
        · exact ih _ server later
      · exact ih configIpList

theorem configPoeAdapter_noneActive_iff (impl : PoeDhcpSeverImpl) :
    NoneActive impl.configPoeAdapter.2 ↔
      ∀ server ∈ impl.dhcpServerList, server.isRunning = false := by
  have effects : impl.configPoeAdapter.2 =
      (impl.configAdapters impl.adapterInfos [impl.getMainAdapterInfo.ip]).2 ++
        impl.dhcpServerList.map Effect.destroyed := rfl
  rw [effects, noneActive_append, noneActive_destroyed,
    iff_true_intro (configAdapters_noneActive impl _ _), true_and]

theorem setPoeAdapterAddress_noneActive (impl : PoeDhcpSeverImpl)
    (index : Int) (address : AdapterAddr) :
    NoneActive (impl.setPoeAdapterAddress index address).2 := by
  unfold setPoeAdapterAddress
  dsimp only
  split
  · exact noneActive_nil
  · split
    · intro server member
      cases List.mem_singleton.mp member
    · exact noneActive_nil

theorem startLoop_servers (outcome : Nat → StartOutcome) (index : Nat)
    (ret : Bool) (servers : List DhcpServer) :
    (startLoop outcome index ret servers).2 =
      servers.mapIdx fun offset it =>
        (it.start (outcome (index + offset)).last
          (outcome (index + offset)).env).2.1 := by
  induction servers generalizing index ret with
  | nil => rfl
  | cons it rest ih =>
      simp only [startLoop, List.mapIdx_cons, Nat.add_zero]
      rw [ih]
      congr 2
      funext offset
      rw [Nat.add_right_comm, Nat.add_assoc]

theorem startDhcpServers_servers (impl : PoeDhcpSeverImpl)
    (outcome : Nat → StartOutcome) :
    (impl.startDhcpServers outcome).2.dhcpServerList =
      impl.dhcpServerList.mapIdx fun index it =>
        (it.start (outcome index).last (outcome index).env).2.1 := by
  have servers := startLoop_servers outcome 0 false impl.dhcpServerList
  simp only [Nat.zero_add] at servers
  exact servers

/-- Some server starts in the call. -/
def startsServer (impl : PoeDhcpSeverImpl) (outcome : Nat → StartOutcome) :
    Bool :=
  (List.range impl.dhcpServerList.length).any fun index =>
    (outcome index).env.succeeds

/-- Whether servers have been started and not stopped since. -/
def startedAfter (impl : PoeDhcpSeverImpl) (started : Bool) : ApiCall → Bool
  | .configPoeAdapter => false
  | .startDhcpServers outcome => impl.startsServer outcome
  | .stopDhcpServers _ => false
  | .setPoeAdapterAddress _ _ => started
  | .setPoeAdapterModel _ => started
  | .receive _ _ => started

/-- Every `ConfigPoeAdapter` comes before servers are started or after they are
stopped. -/
def StopsFirst (impl : PoeDhcpSeverImpl) : Bool → List ApiCall → Prop
  | _, [] => True
  | started, call :: rest =>
      (call = .configPoeAdapter → started = false) ∧
        StopsFirst (apiMachine.next impl call)
          (impl.startedAfter started call) rest

/-- The flag says whether a server is running, and every running server has a
thread. -/
structure Tracks (impl : PoeDhcpSeverImpl) (started : Bool) : Prop where
  launched : ∀ server ∈ impl.dhcpServerList, server.Launched
  running : started = true ↔
    ∃ server ∈ impl.dhcpServerList, server.isRunning = true

theorem Tracks.stopped_iff {started : Bool} (tracks : impl.Tracks started) :
    started = false ↔
      ∀ server ∈ impl.dhcpServerList, server.isRunning = false := by
  rw [← Bool.not_eq_true, tracks.running]
  simp

theorem tracks_of_mapIdx (impl : PoeDhcpSeverImpl)
    {other : PoeDhcpSeverImpl} {started : Bool}
    {update : Nat → DhcpServer → DhcpServer}
    (servers : other.dhcpServerList = impl.dhcpServerList.mapIdx update)
    (launched : ∀ index, ∀ server ∈ impl.dhcpServerList,
      (update index server).Launched)
    (running : started = true ↔
      ∃ index server, impl.dhcpServerList[index]? = some server ∧
        (update index server).isRunning = true) :
    other.Tracks started where
  launched := by
    rw [servers]
    intro server member
    obtain ⟨index, bound, rfl⟩ := List.mem_mapIdx.mp member
    exact launched index _ (List.getElem_mem bound)
  running := by
    rw [running, servers]
    constructor
    · intro found
      obtain ⟨index, server, lookup, active⟩ := found
      obtain ⟨bound, rfl⟩ := List.getElem?_eq_some_iff.mp lookup
      exact ⟨_, List.mem_mapIdx.mpr ⟨index, bound, rfl⟩, active⟩
    · intro found
      obtain ⟨server, member, active⟩ := found
      obtain ⟨index, bound, rfl⟩ := List.mem_mapIdx.mp member
      exact ⟨index, _, List.getElem?_eq_getElem bound, active⟩

theorem Tracks.stop {started : Bool} (tracks : impl.Tracks started)
    (last : Nat → Option Reception) :
    (impl.stopDhcpServers last).2.Tracks false := by
  refine tracks_of_mapIdx impl rfl ?_ ?_
  · intro index server member
    exact serverMachine.next_launched (tracks.launched server member)
      (.stop (last index))
  · constructor
    · intro impossible
      cases impossible
    · intro found
      obtain ⟨index, server, lookup, active⟩ := found
      have launched := tracks.launched server (List.mem_of_getElem? lookup)
      rw [isRunning, stop_starting launched] at active
      exact active

theorem Tracks.start {started : Bool} (tracks : impl.Tracks started)
    (outcome : Nat → StartOutcome) :
    (impl.startDhcpServers outcome).2.Tracks (impl.startsServer outcome) := by
  refine tracks_of_mapIdx impl
    (impl.startDhcpServers_servers outcome) ?_ ?_
  · intro index server member
    exact start_launched (tracks.launched server member) _ _
  · unfold startsServer
    rw [List.any_eq_true]
    constructor
    · intro found
      obtain ⟨index, member, success⟩ := found
      have bound := List.mem_range.mp member
      refine ⟨index, _, List.getElem?_eq_getElem bound, ?_⟩
      rw [start_isRunning (tracks.launched _ (List.getElem_mem bound)),
        success]
    · intro found
      obtain ⟨index, server, lookup, active⟩ := found
      have bound := (List.getElem?_eq_some_iff.mp lookup).1
      rw [start_isRunning (tracks.launched _ (List.mem_of_getElem? lookup))]
        at active
      exact ⟨index, List.mem_range.mpr bound, active⟩

theorem Tracks.receive {started : Bool} (tracks : impl.Tracks started)
    (index : Nat) (reception : Reception) :
    (apiMachine.next impl (.receive index reception)).Tracks started := by
  have running : ∀ server : DhcpServer,
      (serverMachine.next server (.receive reception)).isRunning =
        server.isRunning := by
    intro server
    exact serverMachine.next_receive_rule server reception (fun _ => rfl)
      fun _ => receive_starting reception
  refine tracks_of_mapIdx impl rfl ?_ ?_
  · intro place server member
    split
    · exact serverMachine.next_launched (tracks.launched server member) _
    · exact tracks.launched server member
  · rw [tracks.running]
    constructor
    · intro found
      obtain ⟨server, member, active⟩ := found
      obtain ⟨place, bound, rfl⟩ := List.getElem_of_mem member
      refine ⟨place, _, List.getElem?_eq_getElem bound, ?_⟩
      split
      · rw [running, active]
      · exact active
    · intro found
      obtain ⟨place, server, lookup, active⟩ := found
      refine ⟨server, List.mem_of_getElem? lookup, ?_⟩
      split at active
      · rw [← running, active]
      · exact active

theorem tracks_construct (addresses : List DhcpNetWorkAddr)
    (servers : impl.dhcpServerList = addresses.map DhcpServer.construct) :
    impl.Tracks false where
  launched := by
    rw [servers]
    intro server member
    obtain ⟨address, -, rfl⟩ := List.mem_map.mp member
    exact construct_launched address
  running := by
    rw [servers]
    simp [DhcpServer.construct, isRunning]

theorem Tracks.next {started : Bool} (tracks : impl.Tracks started)
    (call : ApiCall) :
    (apiMachine.next impl call).Tracks (impl.startedAfter started call) := by
  cases call with
  | configPoeAdapter => exact tracks_construct _ rfl
  | setPoeAdapterAddress index address => exact tracks
  | startDhcpServers outcome => exact tracks.start outcome
  | stopDhcpServers last => exact tracks.stop last
  | setPoeAdapterModel model => exact ⟨tracks.launched, tracks.running⟩
  | receive index reception => exact tracks.receive index reception

theorem Tracks.emit_iff {started : Bool} (tracks : impl.Tracks started)
    (call : ApiCall) :
    NoneActive (apiMachine.emit impl call) ↔
      (call = .configPoeAdapter → started = false) := by
  cases call with
  | configPoeAdapter =>
      have emitted : apiMachine.emit impl .configPoeAdapter =
          impl.configPoeAdapter.2 := rfl
      rw [emitted, configPoeAdapter_noneActive_iff, tracks.stopped_iff]
      exact ⟨fun stopped _ => stopped, fun stopped => stopped rfl⟩
  | setPoeAdapterAddress index address =>
      exact iff_of_true (setPoeAdapterAddress_noneActive impl index address)
        (fun other => by cases other)
  | startDhcpServers outcome =>
      exact iff_of_true noneActive_nil (fun other => by cases other)
  | stopDhcpServers last =>
      exact iff_of_true noneActive_nil (fun other => by cases other)
  | setPoeAdapterModel model =>
      exact iff_of_true noneActive_nil (fun other => by cases other)
  | receive index reception =>
      exact iff_of_true noneActive_nil (fun other => by cases other)

theorem Tracks.destroy {started : Bool} (tracks : impl.Tracks started)
    (last : Nat → Option Reception) : NoneActive (impl.destroy last) :=
  noneActive_destroyed.mpr ((tracks.stop last).stopped_iff.mp rfl)

theorem Tracks.run_iff {started : Bool} (tracks : impl.Tracks started)
    (calls : List ApiCall) (last : Nat → Option Reception) :
    NoneActive (apiMachine.outputs impl calls ++
        (apiMachine.exec impl calls).destroy last) ↔
      impl.StopsFirst started calls := by
  induction calls generalizing impl started with
  | nil => exact iff_of_true (tracks.destroy last) trivial
  | cons call rest ih =>
      rw [Machine.outputs_cons, Machine.exec_cons, List.append_assoc,
        noneActive_append, tracks.emit_iff call, ih (tracks.next call)]
      rfl

end PoeDhcpSeverImpl

/-- For every sequence of calls that ends with the destructor: no running server
is destroyed exactly when every `ConfigPoeAdapter` finds the servers stopped by
the calls before it. -/
theorem none_active_destroyed_iff (adapterInfos : List NetWorkAapterInfo)
    (calls : List ApiCall) (last : Nat → Option Reception) :
    NoneActive
        (apiMachine.outputs (PoeDhcpSeverImpl.create adapterInfos) calls ++
          (apiMachine.exec (PoeDhcpSeverImpl.create adapterInfos)
            calls).destroy last) ↔
      (PoeDhcpSeverImpl.create adapterInfos).StopsFirst false calls :=
  (PoeDhcpSeverImpl.tracks_construct [] rfl).run_iff calls last

def sampleApi : PoeDhcpSeverImpl :=
  .create [⟨"eth1", "Intel(R) I211 Gigabit", .default⟩]

def reconfigureCalls : List ApiCall :=
  [.configPoeAdapter, .startDhcpServers fun _ => ⟨none, sampleEnv⟩,
    .configPoeAdapter]

/-- A second `ConfigPoeAdapter` drops the server that is running. -/
theorem reconfigure_destroys_running :
    ¬ NoneActive (apiMachine.outputs sampleApi reconfigureCalls ++
      (apiMachine.exec sampleApi reconfigureCalls).destroy fun _ => none) := by
  intro noneActive
  have active : ((apiMachine.outputs sampleApi reconfigureCalls).any fun
      | .destroyed server => server.isRunning
      | .configIp _ _ => false) = true := by decide +kernel
  obtain ⟨effect, member, running⟩ := List.any_eq_true.mp active
  cases effect with
  | configIp adapterName ip => cases running
  | destroyed server =>
      change server.isRunning = true at running
      rw [noneActive server (List.mem_append_left _ member)] at running
      cases running

end PoeDhcp
