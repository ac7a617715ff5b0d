import PoeDhcp.ApiProtocol

namespace PoeDhcp

open Foundation
open DhcpServer

/-! What `StartDhcpServers` reports about the servers. -/

/-- A state that a server can come to. -/
def DhcpServer.Reached (server : DhcpServer) : Prop :=
  ∃ netAddress events,
    server = serverMachine.exec (construct netAddress) events

theorem DhcpServer.Reached.launched {server : DhcpServer}
    (reached : server.Reached) : server.Launched := by
  obtain ⟨netAddress, events, rfl⟩ := reached
  apply serverMachine.exec_induction
  · exact construct_launched netAddress
  · exact fun event _ server launched =>
      serverMachine.next_launched launched event

namespace PoeDhcpSeverImpl

/-- True is returned exactly when all servers are running. -/
def ReportsAll (impl : PoeDhcpSeverImpl) (outcome : Nat → StartOutcome) :
    Prop :=
  (impl.startDhcpServers outcome).1 = true ↔
    ∀ server ∈ (impl.startDhcpServers outcome).2.dhcpServerList,
      server.isRunning = true

/-- `InitServer` succeeds for every server. -/
def AllSucceed (outcome : Nat → StartOutcome) (length : Nat) : Prop :=
  ∀ index < length, (outcome index).env.succeeds = true

theorem startLoop_result (outcome : Nat → StartOutcome) (index : Nat)
    (ret : Bool) {servers : List DhcpServer}
    (launched : ∀ server ∈ servers, server.Launched) :
    (startLoop outcome index ret servers).1 =
      if servers = [] then ret
      else (outcome (index + (servers.length - 1))).env.succeeds := by
  induction servers generalizing index ret with
  | nil => rfl
  | cons it rest ih =>
      have later := ih (index + 1)
        (it.start (outcome index).last (outcome index).env).2.1.isRunning
        fun server member => launched server (List.mem_cons_of_mem _ member)
      simp only [startLoop]
      rw [later, start_isRunning (launched it List.mem_cons_self),
        if_neg (List.cons_ne_nil it rest)]
      cases rest with
      | nil => rfl
      | cons next rest =>
          rw [if_neg (List.cons_ne_nil next rest)]
          simp only [List.length_cons, Nat.add_sub_cancel]
          rw [Nat.add_assoc, Nat.add_comm 1]

theorem startDhcpServers_running_iff {impl : PoeDhcpSeverImpl}
    (launched : ∀ server ∈ impl.dhcpServerList, server.Launched)
    (outcome : Nat → StartOutcome) :
    (∀ server ∈ (impl.startDhcpServers outcome).2.dhcpServerList,
        server.isRunning = true) ↔
      AllSucceed outcome impl.dhcpServerList.length := by
  rw [startDhcpServers_servers]
  constructor
  · intro running index bound
    have active := running _ (List.mem_mapIdx.mpr ⟨index, bound, rfl⟩)
    rw [start_isRunning (launched _ (List.getElem_mem bound))] at active
    exact active
  · intro succeed server member
    obtain ⟨index, bound, rfl⟩ := List.mem_mapIdx.mp member
    rw [start_isRunning (launched _ (List.getElem_mem bound))]
    exact succeed index bound

/-- The result is right exactly when there is a server, and no failure comes
before a success of the last one. -/
theorem startDhcpServers_reportsAll_iff {impl : PoeDhcpSeverImpl}
    (reached : ∀ server ∈ impl.dhcpServerList, server.Reached)
    (outcome : Nat → StartOutcome) :
    impl.ReportsAll outcome ↔
      impl.dhcpServerList ≠ [] ∧
        ((outcome (impl.dhcpServerList.length - 1)).env.succeeds = true →
          AllSucceed outcome impl.dhcpServerList.length) := by
  have launched : ∀ server ∈ impl.dhcpServerList, server.Launched :=
    fun server member => (reached server member).launched
  have result : (impl.startDhcpServers outcome).1 =
      if impl.dhcpServerList = [] then false
      else (outcome (impl.dhcpServerList.length - 1)).env.succeeds := by
    have loop := startLoop_result outcome 0 false launched
    rw [Nat.zero_add] at loop
    exact loop
  unfold ReportsAll
  rw [startDhcpServers_running_iff launched outcome, result]
  by_cases empty : impl.dhcpServerList = []
  · rw [if_pos empty]
    refine iff_of_false ?_ fun right => right.1 empty
    intro reports
    have wrong := reports.mpr (by
      intro index bound
      rw [empty] at bound
      exact absurd bound (Nat.not_lt_zero index))
    cases wrong
  · rw [if_neg empty]
    have last : impl.dhcpServerList.length - 1 <
        impl.dhcpServerList.length := by
      have positive := List.length_pos_iff.mpr empty
      omega
    constructor
    · intro reports
      exact ⟨empty, reports.mp⟩
    · intro right
      exact ⟨right.2, fun succeed => succeed _ last⟩

/-! A pair of servers. -/

def pairApi : PoeDhcpSeverImpl :=
  { PoeDhcpSeverImpl.create [] with
    dhcpServerList :=
      [DhcpServer.construct sampleNetAddress,
        DhcpServer.construct sampleNetAddress] }

theorem pairApi_reportsAll :
    pairApi.ReportsAll fun _ => ⟨none, sampleEnv⟩ :=
  (startDhcpServers_reportsAll_iff
    (fun _ member => ⟨sampleNetAddress, [], by
      simpa [pairApi] using member⟩)
    fun _ => ⟨none, sampleEnv⟩).mpr
    ⟨by simp [pairApi], fun _ _ _ => rfl⟩

/-- The first server has no socket, the second one starts. -/
def firstFails (index : Nat) : StartOutcome where
  last := none
  env := if index = 0 then { sampleEnv with datagramSocket := none }
    else sampleEnv

/-- True is returned with a server that is not running, and false without any
server. -/
theorem startDhcpServers_misreports :
    ((pairApi.startDhcpServers firstFails).1 = true ∧
        (pairApi.startDhcpServers firstFails).2.dhcpServerList.map
          isRunning = [false, true] ∧
        ¬ pairApi.ReportsAll firstFails) ∧
      ((PoeDhcpSeverImpl.create []).startDhcpServers firstFails).1 = false ∧
        ¬ (PoeDhcpSeverImpl.create []).ReportsAll firstFails := by
  have returned : (pairApi.startDhcpServers firstFails).1 = true := by
    decide +kernel
  have running : (pairApi.startDhcpServers firstFails).2.dhcpServerList.map
      isRunning = [false, true] := by
    decide +kernel
  refine ⟨⟨returned, running, ?_⟩, rfl, ?_⟩
  · intro reports
    have member : false ∈
        (pairApi.startDhcpServers firstFails).2.dhcpServerList.map
          isRunning := by
      rw [running]
      exact List.mem_cons_self
    obtain ⟨server, member, stopped⟩ := List.mem_map.mp member
    rw [reports.mp returned server member] at stopped
    cases stopped
  · intro reports
    have wrong := reports.mpr (fun _ member => by cases member)
    cases wrong

end PoeDhcpSeverImpl

end PoeDhcp
