import PoeDhcp.Foundation.Candidates
import PoeDhcp.Model.Api

namespace PoeDhcp

open Foundation

namespace PoeDhcpSeverImpl

/-! The addresses that are made up for PoE adapters. -/

/-- The gateway that is tried after `index` conflicts. -/
def poeGateway (index : Nat) : String :=
  targetGateway ((kStartPoeIpSegment + index) % 0x100000000)

theorem avoidConflicts_eq (confictIp : List NetWorkIp) (index : Nat) :
    avoidConflicts confictIp ((kStartPoeIpSegment + index) % 0x100000000) =
      (kStartPoeIpSegment + Candidates.pass poeGateway
        (confictIp.map (·.gateWay)) index) % 0x100000000 := by
  induction confictIp generalizing index with
  | nil => rfl
  | cons it rest ih =>
      have tried : targetGateway
          ((kStartPoeIpSegment + index) % 0x100000000) = poeGateway index := rfl
      rw [avoidConflicts, List.map_cons, Candidates.pass, tried]
      by_cases conflict : it.gateWay = poeGateway index
      · have next : ((kStartPoeIpSegment + index) % 0x100000000 + 1) %
            2 ^ 32 = (kStartPoeIpSegment + (index + 1)) % 0x100000000 := by
          omega
        rw [if_pos conflict, if_pos conflict, next, ih]
      · rw [if_neg conflict, if_neg conflict, ih]

/-- A made up address with its defaults. -/
def poeIp (index : Nat) : NetWorkIp :=
  { NetWorkIp.default with
    address := poeGateway index
    gateWay := poeGateway index }

theorem createPoeAdapterAddress_eq (confictIp : List NetWorkIp) :
    createPoeAdapterAddress confictIp =
      poeIp (Candidates.pass poeGateway (confictIp.map (·.gateWay)) 0) := by
  have chosen := avoidConflicts_eq confictIp 0
  rw [Nat.add_zero, Nat.mod_eq_of_lt (by decide)] at chosen
  unfold createPoeAdapterAddress
  rw [chosen]
  rfl

/-- The created gateway is in conflict with no entry of the list exactly when the
gateways that are skipped stand in the list in the order in which they are
tried. -/
theorem createPoeAdapterAddress_avoids_iff (confictIp : List NetWorkIp) :
    ((createPoeAdapterAddress confictIp).gateWay =
        (createPoeAdapterAddress confictIp).address ∧
      ∀ it ∈ confictIp,
        it.gateWay ≠ (createPoeAdapterAddress confictIp).gateWay) ↔
      ∃ count,
        (Candidates.run poeGateway 0 count).Sublist
          (confictIp.map (·.gateWay)) ∧
        poeGateway count ∉ confictIp.map (·.gateWay) := by
  have chosen := Candidates.pass_notMem_iff poeGateway
    (confictIp.map (·.gateWay)) 0
  simp only [Nat.zero_add] at chosen
  rw [← chosen, createPoeAdapterAddress_eq]
  constructor
  · intro avoids member
    obtain ⟨it, inside, same⟩ := List.mem_map.mp member
    exact avoids.2 it inside same
  · intro new
    exact ⟨rfl, fun it inside same =>
      new (List.mem_map.mpr ⟨it, inside, same⟩)⟩

/-- The gateway 192.168.51.1 comes before the made up 192.168.50.1. -/
theorem createPoeAdapterAddress_conflict :
    ¬ ∀ it ∈ [{ NetWorkIp.default with gateWay := "192.168.51.1" },
        createPoeAdapterAddress
          [{ NetWorkIp.default with gateWay := "192.168.51.1" }]],
      it.gateWay ≠ (createPoeAdapterAddress
        [{ NetWorkIp.default with gateWay := "192.168.51.1" },
          createPoeAdapterAddress
            [{ NetWorkIp.default with
              gateWay := "192.168.51.1" }]]).gateWay := by
  decide

/-! What `configPoeAdapter` gives to the adapters and to the servers. -/

/-- The made up addresses after those of a list that starts with the main
adapter's. -/
def poeIps (start count : Nat) : List NetWorkIp :=
  (List.range' start count).map poeIp

theorem poeIps_gateways (start count : Nat) :
    (poeIps start count).map (·.gateWay) =
      Candidates.run poeGateway start count := by
  simp only [poeIps, List.map_map, Candidates.run]
  rfl

/-- The number of the first address, which depends on the main adapter's
gateway. -/
def firstPoeIp (mainIp : NetWorkIp) : Nat :=
  if mainIp.gateWay = poeGateway 0 then 1 else 0

theorem createPoeAdapterAddress_poeIps (mainIp : NetWorkIp) (count : Nat) :
    createPoeAdapterAddress (mainIp :: poeIps (firstPoeIp mainIp) count) =
      poeIp (firstPoeIp mainIp + count) := by
  rw [createPoeAdapterAddress_eq, List.map_cons, poeIps_gateways,
    Candidates.pass, firstPoeIp]
  split
  · rw [Candidates.pass_run]
  · rw [Candidates.pass_run]

variable (impl : PoeDhcpSeverImpl)

def poeAdapters : List NetWorkAapterInfo :=
  impl.adapterInfos.filter impl.isPoeAdapter

theorem configAdapters_eq (mainIp : NetWorkIp)
    (infos : List NetWorkAapterInfo) (count : Nat) :
    impl.configAdapters infos (mainIp :: poeIps (firstPoeIp mainIp) count) =
      (mainIp :: poeIps (firstPoeIp mainIp)
          (count + (infos.filter impl.isPoeAdapter).length),
        (infos.filter impl.isPoeAdapter).mapIdx fun index info =>
          Effect.configIp info.adapterName
            (poeIp (firstPoeIp mainIp + count + index))) := by
  induction infos generalizing count with
  | nil => rfl
  | cons it rest ih =>
      by_cases isPoe : impl.isPoeAdapter it = true
      · have grown : mainIp :: poeIps (firstPoeIp mainIp) count ++
            [poeIp (firstPoeIp mainIp + count)] =
              mainIp :: poeIps (firstPoeIp mainIp) (count + 1) := by
          simp [poeIps, List.range'_concat]
        rw [configAdapters, if_pos isPoe, createPoeAdapterAddress_poeIps]
        dsimp only
        rw [grown, ih, List.filter_cons_of_pos isPoe, List.length_cons,
          List.mapIdx_cons]
        simp only [Nat.add_assoc, Nat.add_comm 1, Nat.add_zero]
      · rw [configAdapters, if_neg isPoe, ih,
          List.filter_cons_of_neg isPoe]

/-- The configuration of a server whose addresses start at a host number. -/
def poolConfig (it : NetWorkIp) (minAddr : Nat) : DhcpNetWorkAddr :=
  let segment := String.ofList it.gateWay.toList.dropLast
  { address := it.address
    mask := it.mask
    minAddr := segment ++ toString minAddr
    maxAddr :=
      if (minAddr + step) % 0x100000000 > maxAddr then
        segment ++ toString maxAddr
      else segment ++ toString ((minAddr + step) % 0x100000000)
    dns := it.dns
    dns2 := it.dns2 }

theorem dhcpAddressLoop_eq (ips : List NetWorkIp) (minAddr : Nat) :
    dhcpAddressLoop (minAddr % 0x100000000) ips =
      ips.mapIdx fun index it =>
        poolConfig it ((minAddr + (step + 1) * index) % 0x100000000) := by
  induction ips generalizing minAddr with
  | nil => rfl
  | cons it rest ih =>
      have next : ((minAddr % 0x100000000 + step) % 2 ^ 32 + 1) % 2 ^ 32 =
          (minAddr + (step + 1)) % 0x100000000 := by
        simp only [step]
        omega
      have later : ∀ index, minAddr + (step + 1) * (index + 1) =
          minAddr + (step + 1) + (step + 1) * index := by
        intro index
        simp only [step]
        omega
      rw [dhcpAddressLoop, List.mapIdx_cons, next, ih]
      simp only [later]
      rfl

theorem getDhcpAddressList_eq (ips : List NetWorkIp) :
    getDhcpAddressList ips = ips.mapIdx fun index it =>
      poolConfig it ((2 + (step + 1) * index) % 0x100000000) :=
  dhcpAddressLoop_eq ips 2

/-- The main adapter's address is the one that is taken out again. -/
theorem configPoeAdapter_eq :
    impl.configPoeAdapter =
      ({ impl with
         dhcpServerList :=
          (getDhcpAddressList (poeIps (firstPoeIp impl.getMainAdapterInfo.ip)
            impl.poeAdapters.length)).map DhcpServer.construct },
        (impl.poeAdapters.mapIdx fun index info =>
          Effect.configIp info.adapterName
            (poeIp (firstPoeIp impl.getMainAdapterInfo.ip + index))) ++
          impl.dhcpServerList.map Effect.destroyed) := by
  have configured :=
    configAdapters_eq impl impl.getMainAdapterInfo.ip impl.adapterInfos 0
  have start : poeIps (firstPoeIp impl.getMainAdapterInfo.ip) 0 = [] := rfl
  rw [start] at configured
  unfold configPoeAdapter
  dsimp only
  rw [configured]
  dsimp only
  rw [List.eraseP_cons_of_pos (by simp)]
  simp only [Nat.zero_add, Nat.add_zero]
  rfl

/-- The server works with the address, the mask and the name servers that an
adapter was given. -/
def Serves (server : DhcpServer) (ip : NetWorkIp) : Prop :=
  ∃ minAddr maxAddr, server = DhcpServer.construct
    { address := ip.address
      mask := ip.mask
      minAddr
      maxAddr
      dns := ip.dns
      dns2 := ip.dns2 }

end PoeDhcpSeverImpl

end PoeDhcp
