import PoeDhcp.AdapterAddress
import PoeDhcp.ApiProtocol
import PoeDhcp.Discovery
import PoeDhcp.Foundation.Family
import PoeDhcp.LeaseGuarantees
import PoeDhcp.Model.System
import PoeDhcp.PoolHosts

namespace PoeDhcp

open Foundation
open DhcpServer

/-! The servers between two configurations are a family of servers. -/

namespace PoeDhcpSeverImpl

variable {impl : PoeDhcpSeverImpl}

/-- What a call is for the server with an index. -/
def serverEvent : ApiCall → Nat → Option Event
  | .startDhcpServers outcome, index =>
      some (.start (outcome index).last (outcome index).env)
  | .stopDhcpServers last, index => some (.stop (last index))
  | .receive place reception, index =>
      if index = place then some (.receive reception) else none
  | .configPoeAdapter, _ => none
  | .setPoeAdapterAddress _ _, _ => none
  | .setPoeAdapterModel _, _ => none

abbrev serversMachine : Machine (List DhcpServer) ApiCall (Nat × Handled) :=
  serverMachine.family serverEvent

theorem outputs_event (server : DhcpServer) (event : Event) :
    serverMachine.outputs server (some event).toList =
      serverMachine.emit server event :=
  List.append_nil _

/-- A call for which no server does anything. -/
theorem family_idle {call : ApiCall}
    (idle : ∀ index, serverEvent call index = none)
    (servers : List DhcpServer) :
    servers = serversMachine.next servers call ∧
      [] = serversMachine.emit servers call := by
  constructor
  · simp only [Machine.next, Machine.family, idle, Option.toList_none,
      Machine.exec_nil]
    exact (List.mapIdx_eq_iff.mpr fun index => by simp).symm
  · simp [Machine.emit, Machine.family, idle]

theorem system_step (impl : PoeDhcpSeverImpl) {call : ApiCall}
    (kept : call ≠ .configPoeAdapter) :
    (systemMachine.next impl call).dhcpServerList =
        serversMachine.next impl.dhcpServerList call ∧
      systemMachine.emit impl call =
        serversMachine.emit impl.dhcpServerList call := by
  cases call with
  | configPoeAdapter => exact absurd rfl kept
  | setPoeAdapterAddress index address =>
      exact family_idle (fun _ => rfl) impl.dhcpServerList
  | setPoeAdapterModel model =>
      exact family_idle (fun _ => rfl) impl.dhcpServerList
  | startDhcpServers outcome =>
      refine ⟨startDhcpServers_servers impl outcome, ?_⟩
      simp only [Machine.emit, Machine.family, serverEvent]
      simp only [outputs_event]
      rfl
  | stopDhcpServers last =>
      refine ⟨rfl, ?_⟩
      simp only [Machine.emit, Machine.family, serverEvent]
      simp only [outputs_event]
      rfl
  | receive place reception =>
      constructor
      · simp only [Machine.next, systemMachine, apiMachine, Machine.family,
          serverEvent]
        congr 1
        funext index it
        split <;> rfl
      · simp only [Machine.emit, systemMachine, handled, Machine.family,
          serverEvent]
        congr 2
        funext index it
        split
        · exact congrArg _ (outputs_event it (.receive reception)).symm
        · rfl

theorem system_run {calls : List ApiCall} (kept : .configPoeAdapter ∉ calls) :
    systemMachine.outputs impl calls =
      serversMachine.outputs impl.dhcpServerList calls := by
  induction calls generalizing impl with
  | nil => rfl
  | cons call rest ih =>
      have first : call ≠ .configPoeAdapter := fun same =>
        kept (same ▸ List.mem_cons_self)
      have later : .configPoeAdapter ∉ rest := fun member =>
        kept (List.mem_cons_of_mem _ member)
      obtain ⟨servers, emitted⟩ := system_step impl first
      rw [Machine.outputs_cons, Machine.outputs_cons, emitted, ih later,
        servers]

/-- What the server with an index processes is a run of its own. -/
theorem partOf_system {calls : List ApiCall}
    (kept : .configPoeAdapter ∉ calls) (index : Nat) :
    partOf index (systemMachine.outputs impl calls) =
      impl.dhcpServerList[index]?.elim [] fun server =>
        serverMachine.outputs server
          (Machine.routed serverEvent index calls) := by
  rw [system_run kept]
  exact serverMachine.family_outputs serverEvent index impl.dhcpServerList calls

/-! The servers that a configuration makes. -/

theorem firstPoeIp_le (mainIp : NetWorkIp) : firstPoeIp mainIp ≤ 1 := by
  unfold firstPoeIp
  split <;> decide

/-- The configuration of the server with an index. -/
def serverConfig (impl : PoeDhcpSeverImpl) (index : Nat) : DhcpNetWorkAddr :=
  poolConfig (poeIp (firstPoeIp impl.getMainAdapterInfo.ip + index))
    (firstHost index)

theorem configured_server {index : Nat} {server : DhcpServer}
    (found : impl.configPoeAdapter.1.dhcpServerList[index]? = some server) :
    index < impl.poeAdapters.length ∧
      server = construct (impl.serverConfig index) := by
  rw [configPoeAdapter_eq, getDhcpAddressList_eq] at found
  simp only [poeIps, List.getElem?_map, List.getElem?_mapIdx,
    Option.map_eq_some_iff, List.getElem?_eq_some_iff,
    List.getElem_range', Nat.one_mul] at found
  obtain ⟨_, ⟨_, ⟨_, ⟨bound, rfl⟩, rfl⟩, rfl⟩, rfl⟩ := found
  rw [List.length_range'] at bound
  exact ⟨bound, rfl⟩

theorem poeAdapters_lt (impl : PoeDhcpSeverImpl) (table : AdapterTable)
    (infos : impl.adapterInfos = table.infos) :
    impl.poeAdapters.length < 0x100000000 := by
  refine Nat.lt_of_le_of_lt ?_ table.fits
  rw [← infos]
  exact List.length_filter_le _ _

/-- Each server that has replied is one of a configuration, with a run of its
own. -/
def ServedBy (impl : PoeDhcpSeverImpl) (replies : List (Nat × Handled)) :
    Prop :=
  ∀ index handled, (index, handled) ∈ replies →
    index < impl.poeAdapters.length ∧
      ∃ events, partOf index replies =
        serverMachine.outputs (construct (impl.serverConfig index)) events

theorem configured_served {calls : List ApiCall}
    (kept : .configPoeAdapter ∉ calls) :
    ServedBy impl (systemMachine.outputs impl.configPoeAdapter.1 calls) := by
  intro index handled member
  have part := mem_partOf.mpr member
  rw [partOf_system kept] at part ⊢
  cases found : impl.configPoeAdapter.1.dhcpServerList[index]? with
  | none =>
      rw [found] at part
      cases part
  | some server =>
      obtain ⟨inside, rfl⟩ := configured_server found
      exact ⟨inside, Machine.routed serverEvent index calls, rfl⟩

/-- An address that a server tells is one of its own. -/
theorem told_ownHost (bound : impl.poeAdapters.length < 0x100000000)
    {index : Nat} (inside : index < impl.poeAdapters.length)
    {events : List Event} {handled : Handled}
    (member : handled ∈
      serverMachine.outputs (construct (impl.serverConfig index)) events)
    {client : List BYTE} {yiaddr : DWORD}
    (tells : handled.TellsLease client yiaddr) :
    OwnHost (firstPoeIp impl.getMainAdapterInfo.ip) index
      (dwIpToValue yiaddr) := by
  obtain ⟨book, -, run⟩ := run_simulates (impl.serverConfig index) events
  have replies : ExclusiveReplies _ _ := .of_leaseRun run
  exact ownHost_of_pool (firstPoeIp_le _) (Nat.lt_trans inside bound)
    (replies.pooled handled member client yiaddr tells)

end PoeDhcpSeverImpl

open PoeDhcpSeverImpl

/-- No address is told by two servers, or to two clients. -/
def SystemExclusive (replies : List (Nat × Handled)) : Prop :=
  ∀ first ∈ replies, ∀ second ∈ replies,
    ∀ firstClient secondClient yiaddr,
      first.2.TellsLease firstClient yiaddr →
        second.2.TellsLease secondClient yiaddr →
          first.1 = second.1 ∧ firstClient = secondClient

theorem PoeDhcpSeverImpl.ServedBy.own {impl : PoeDhcpSeverImpl}
    {replies : List (Nat × Handled)} (served : ServedBy impl replies)
    (bound : impl.poeAdapters.length < 0x100000000)
    {reply : Nat × Handled} (member : reply ∈ replies)
    {client : List BYTE} {yiaddr : DWORD}
    (tells : reply.2.TellsLease client yiaddr) :
    reply.1 < impl.poeAdapters.length ∧
      OwnHost (firstPoeIp impl.getMainAdapterInfo.ip) reply.1
        (dwIpToValue yiaddr) := by
  obtain ⟨inside, events, part⟩ := served reply.1 reply.2 member
  have run := mem_partOf.mpr member
  rw [part] at run
  exact ⟨inside, told_ownHost bound inside run tells⟩

theorem PoeDhcpSeverImpl.ServedBy.exclusive {impl : PoeDhcpSeverImpl}
    {replies : List (Nat × Handled)} (served : ServedBy impl replies)
    (bound : impl.poeAdapters.length < 0x100000000) :
    SystemExclusive replies := by
  intro first hfirst second hsecond firstClient secondClient yiaddr
    firstTells secondTells
  have same : first.1 = second.1 :=
    (served.own bound hfirst firstTells).2.index_eq
      (served.own bound hsecond secondTells).2
  obtain ⟨index, first⟩ := first
  obtain ⟨other, second⟩ := second
  obtain rfl : index = other := same
  obtain ⟨-, events, part⟩ := served index first hfirst
  obtain ⟨book, -, run⟩ := run_simulates (impl.serverConfig index) events
  have replies : ExclusiveReplies _ _ := .of_leaseRun run
  rw [← part] at replies
  exact ⟨rfl, replies.exclusive first (mem_partOf.mpr hfirst) second
    (mem_partOf.mpr hsecond) firstClient secondClient yiaddr firstTells
    secondTells⟩

/-- Between two configurations the servers of all adapters tell no address
twice, for any adapters and any calls. -/
theorem system_exclusive (table : AdapterTable) (before after : List ApiCall)
    (kept : .configPoeAdapter ∉ after) :
    SystemExclusive (systemMachine.outputs
      (apiMachine.exec (.create table.infos) (before ++ [.configPoeAdapter]))
      after) := by
  rw [Machine.exec_append]
  exact (configured_served kept).exclusive
    (poeAdapters_lt _ table (exec_adapterInfos _ before))

def sampleTable : AdapterTable :=
  ⟨sampleApi.adapterInfos, by decide⟩

/-- One adapter, and a datagram between two starts. -/
def serveCalls : List ApiCall :=
  [.startDhcpServers fun _ => ⟨none, sampleEnv⟩,
    .receive 0 (.received (discoverOf 1) true true),
    .startDhcpServers fun _ => ⟨none, sampleEnv⟩]

theorem system_exclusive_sample :
    SystemExclusive (systemMachine.outputs
      (apiMachine.exec (.create sampleTable.infos) ([] ++ [.configPoeAdapter]))
      serveCalls) :=
  system_exclusive sampleTable [] serveCalls (by simp [serveCalls])

/-! A client gets an address of the adapter that it is connected to. -/

/-- The bytes of the address are a host of the subnet of which the adapter's own
address, which is written to the adapter, is the first host. -/
def OnSubnetOf (address : String) (yiaddr : DWORD) : Prop :=
  ∃ (net : SubnetPrefix) (host : BYTE), address = net.host 1 ∧
    2 ≤ host ∧ host ≤ 254 ∧
    Word32.toBytes yiaddr = [net.first, net.second, net.third, host]

namespace PoeDhcpSeverImpl

def poePrefix (segment : Nat) : SubnetPrefix :=
  ⟨192, 168, BitVec.ofNat 8 segment⟩

theorem host_poePrefix {segment : Nat} (octet : segment < 256) (host : Nat) :
    (poePrefix segment).host host = segmentHost segment host := by
  have head : octetText 192 ++ "." ++ octetText 168 ++ "." =
      kStartPoeIpHead := by decide
  have third : octetText (BitVec.ofNat 8 segment) = toString segment := by
    rw [octetText, BitVec.toNat_ofNat, Nat.mod_eq_of_lt octet]
  rw [SubnetPrefix.host, poePrefix]
  dsimp only
  rw [head, third]
  rfl

theorem toBytes_segmentValue {segment host : Nat} (octet : segment < 256)
    (small : host < 256) {yiaddr : DWORD}
    (value : (dwIpToValue yiaddr).toNat = segmentValue segment host) :
    Word32.toBytes yiaddr =
      [192, 168, BitVec.ofNat 8 segment, BitVec.ofNat 8 host] := by
  have word : dwIpToValue yiaddr =
      BitVec.ofNat 32 (segmentValue segment host) := by
    refine BitVec.eq_of_toNat_eq ?_
    rw [value, BitVec.toNat_ofNat, Nat.mod_eq_of_lt]
    simp only [segmentValue]
    omega
  rw [← dwValueToIp_dwIpToValue yiaddr, toBytes_dwValueToIp, word]
  simp only [Word32.bigEndian, List.cons.injEq, and_true]
  refine ⟨?_, ?_, ?_, ?_⟩ <;> apply BitVec.eq_of_toNat_eq <;>
    simp [segmentValue, Nat.shiftRight_eq_div_pow] <;> omega

theorem OwnHost.onSubnetOf {start index : Nat} {yiaddr : DWORD}
    (early : start ≤ 1) (own : OwnHost start index (dwIpToValue yiaddr)) :
    OnSubnetOf (poeIp (start + index)).address yiaddr := by
  obtain ⟨index_le, host, low, high, value⟩ := own
  have segment : poeSegment (start + index) =
      kStartPoeIpSegment + (start + index) := by
    refine Nat.mod_eq_of_lt ?_
    simp only [kStartPoeIpSegment]
    omega
  have octet : kStartPoeIpSegment + (start + index) < 256 := by
    simp only [kStartPoeIpSegment]
    omega
  have two_le : 2 ≤ host := Nat.le_trans (Nat.le_add_right _ _) low
  have small : host < 256 := by omega
  have number : (BitVec.ofNat 8 host).toNat = host :=
    Nat.mod_eq_of_lt small
  refine ⟨poePrefix (kStartPoeIpSegment + (start + index)),
    BitVec.ofNat 8 host, ?_, ?_, ?_, toBytes_segmentValue octet small value⟩
  · rw [host_poePrefix octet, ← segment]
    exact poeGateway_eq (start + index)
  · rw [BitVec.le_def, number]
    exact two_le
  · rw [BitVec.le_def, number]
    exact high

/-- The address that a configuration writes to an adapter. -/
theorem configPoeAdapter_writes (impl : PoeDhcpSeverImpl) {index : Nat}
    (inside : index < impl.poeAdapters.length) :
    .configIp impl.poeAdapters[index].adapterName
        (poeIp (firstPoeIp impl.getMainAdapterInfo.ip + index)) ∈
      apiMachine.emit impl .configPoeAdapter := by
  have effects : apiMachine.emit impl .configPoeAdapter =
      impl.configPoeAdapter.2 := rfl
  rw [effects, configPoeAdapter_eq]
  refine List.mem_append_left _ (List.mem_mapIdx.mpr ?_)
  exact ⟨index, inside, rfl⟩

end PoeDhcpSeverImpl

/-- Every address that is told belongs to the subnet of the adapter whose server
tells it, as a configuration of `impl` sets the adapter up, and is not the
adapter's own. -/
def KeepsSubnets (impl : PoeDhcpSeverImpl) (replies : List (Nat × Handled)) :
    Prop :=
  ∀ reply ∈ replies, ∀ client yiaddr, reply.2.TellsLease client yiaddr →
    ∃ info ip, impl.poeAdapters[reply.1]? = some info ∧
      .configIp info.adapterName ip ∈
        apiMachine.emit impl .configPoeAdapter ∧
      OnSubnetOf ip.address yiaddr

theorem PoeDhcpSeverImpl.ServedBy.subnets {impl : PoeDhcpSeverImpl}
    {replies : List (Nat × Handled)} (served : ServedBy impl replies)
    (bound : impl.poeAdapters.length < 0x100000000) :
    KeepsSubnets impl replies := by
  intro reply member client yiaddr tells
  obtain ⟨inside, own⟩ := served.own bound member tells
  exact ⟨_, _, List.getElem?_eq_getElem inside,
    configPoeAdapter_writes impl inside, own.onSubnetOf (firstPoeIp_le _)⟩

theorem system_subnet (table : AdapterTable) (before after : List ApiCall)
    (kept : .configPoeAdapter ∉ after) :
    KeepsSubnets (apiMachine.exec (.create table.infos) before)
      (systemMachine.outputs
        (apiMachine.exec (.create table.infos) (before ++ [.configPoeAdapter]))
        after) := by
  rw [Machine.exec_append]
  exact (configured_served kept).subnets
    (poeAdapters_lt _ table (exec_adapterInfos _ before))

theorem system_subnet_sample :
    KeepsSubnets (apiMachine.exec (.create sampleTable.infos) [])
      (systemMachine.outputs
        (apiMachine.exec (.create sampleTable.infos)
          ([] ++ [.configPoeAdapter]))
        serveCalls) :=
  system_subnet sampleTable [] serveCalls (by simp [serveCalls])

/-- What the clients of all servers can rely on. -/
structure SafeReplies (impl : PoeDhcpSeverImpl)
    (replies : List (Nat × Handled)) : Prop where
  exclusive : SystemExclusive replies
  subnets : KeepsSubnets impl replies
  stable : ∀ index, StableReplies (partOf index replies)

theorem PoeDhcpSeverImpl.ServedBy.stable {impl : PoeDhcpSeverImpl}
    {replies : List (Nat × Handled)}
    (served : ServedBy impl replies) (index : Nat) :
    StableReplies (partOf index replies) := by
  cases part : partOf index replies with
  | nil =>
      have run : LeaseRun (announcementsOf [])
          (LeaseBook.empty : Book (impl.serverConfig index)) := .start
      exact .of_leaseRun run
  | cons handled rest =>
      have member : (index, handled) ∈ replies := by
        rw [← mem_partOf, part]
        exact List.mem_cons_self
      obtain ⟨-, events, whole⟩ := served index handled member
      obtain ⟨book, -, run⟩ := run_simulates (impl.serverConfig index) events
      have stable : StableReplies _ := .of_leaseRun run
      rw [← whole, part] at stable
      exact stable

theorem PoeDhcpSeverImpl.ServedBy.safe {impl : PoeDhcpSeverImpl}
    {replies : List (Nat × Handled)} (served : ServedBy impl replies)
    (bound : impl.poeAdapters.length < 0x100000000) :
    SafeReplies impl replies where
  exclusive := served.exclusive bound
  subnets := served.subnets bound
  stable := served.stable

end PoeDhcp
