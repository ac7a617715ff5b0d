import PoeDhcp.Discovery

namespace PoeDhcp

open Foundation
open DhcpServer

/-! A pool that is handed out from its first address on. -/

structure PoolConfig (netAddress : DhcpNetWorkAddr) : Prop where
  positive : 0 < minAddrValueOf netAddress
  ordered : minAddrValueOf netAddress ≤ maxAddrValueOf netAddress
  below : maxAddrValueOf netAddress < BitVec.allOnes 32
  outside : serverAddrValueOf netAddress < minAddrValueOf netAddress ∨
    maxAddrValueOf netAddress < serverAddrValueOf netAddress

def poolSize (netAddress : DhcpNetWorkAddr) : Nat :=
  (maxAddrValueOf netAddress - minAddrValueOf netAddress).toNat + 1

def poolAddress (netAddress : DhcpNetWorkAddr) (index : Nat) : DWORD :=
  minAddrValueOf netAddress + BitVec.ofNat 32 index

/-- The entries of these clients, each with the next address. -/
def leasesOf (netAddress : DhcpNetWorkAddr) (clients : List (List BYTE)) :
    List AddressInUseInformation :=
  clients.mapIdx fun index client =>
    leaseEntry (poolAddress netAddress index) client

namespace PoolConfig

variable {netAddress : DhcpNetWorkAddr} (config : PoolConfig netAddress)

include config

theorem toNat_size : (maxAddrValueOf netAddress).toNat + 1 =
    (minAddrValueOf netAddress).toNat + poolSize netAddress := by
  have ordered : (minAddrValueOf netAddress).toNat ≤
      (maxAddrValueOf netAddress).toNat := config.ordered
  have upper := (maxAddrValueOf netAddress).isLt
  rw [poolSize, BitVec.toNat_sub]
  omega

theorem toNat_poolAddress {index : Nat} (bound : index < poolSize netAddress) :
    (poolAddress netAddress index).toNat =
      (minAddrValueOf netAddress).toNat + index := by
  have size := config.toNat_size
  have upper := (maxAddrValueOf netAddress).isLt
  rw [poolAddress, BitVec.toNat_add, BitVec.toNat_ofNat]
  omega

theorem poolAddress_inj {first second : Nat}
    (hfirst : first < poolSize netAddress)
    (hsecond : second < poolSize netAddress)
    (same : poolAddress netAddress first = poolAddress netAddress second) :
    first = second := by
  have values := congrArg BitVec.toNat same
  rw [config.toNat_poolAddress hfirst, config.toNat_poolAddress hsecond]
    at values
  omega

theorem le_poolAddress {index : Nat} (bound : index < poolSize netAddress) :
    minAddrValueOf netAddress ≤ poolAddress netAddress index := by
  rw [BitVec.le_def, config.toNat_poolAddress bound]
  omega

theorem poolAddress_le {index : Nat} (bound : index < poolSize netAddress) :
    poolAddress netAddress index ≤ maxAddrValueOf netAddress := by
  have size := config.toNat_size
  rw [BitVec.le_def, config.toNat_poolAddress bound]
  omega

theorem poolAddress_ne_zero {index : Nat}
    (bound : index < poolSize netAddress) :
    poolAddress netAddress index ≠ 0 := by
  intro zero
  have positive : 0 < (minAddrValueOf netAddress).toNat := config.positive
  have value := congrArg BitVec.toNat zero
  rw [config.toNat_poolAddress bound] at value
  simp at value
  omega

theorem exists_poolAddress {addr : DWORD}
    (lower : minAddrValueOf netAddress ≤ addr)
    (upper : addr ≤ maxAddrValueOf netAddress) :
    ∃ index, index < poolSize netAddress ∧
      poolAddress netAddress index = addr := by
  have size := config.toNat_size
  rw [BitVec.le_def] at lower upper
  have bound : addr.toNat - (minAddrValueOf netAddress).toNat <
      poolSize netAddress := by
    omega
  refine ⟨_, bound, BitVec.eq_of_toNat_eq ?_⟩
  rw [config.toNat_poolAddress bound]
  omega

end PoolConfig

theorem mem_leasesOf {netAddress : DhcpNetWorkAddr}
    {clients : List (List BYTE)} {entry : AddressInUseInformation} :
    entry ∈ leasesOf netAddress clients ↔
      ∃ index client, clients[index]? = some client ∧
        entry = leaseEntry (poolAddress netAddress index) client := by
  rw [leasesOf, List.mem_mapIdx]
  constructor
  · intro member
    obtain ⟨index, bound, rfl⟩ := member
    exact ⟨index, _, List.getElem?_eq_getElem bound, rfl⟩
  · intro member
    obtain ⟨index, client, lookup, rfl⟩ := member
    obtain ⟨bound, rfl⟩ := List.getElem?_eq_some_iff.mp lookup
    exact ⟨index, bound, rfl⟩

/-! The state after these clients, in this order, have asked for the first
time. -/

/-- The last offer after `count` leases. -/
def lastOffer (netAddress : DhcpNetWorkAddr) : Nat → DWORD
  | 0 => maxAddrValueOf netAddress
  | count + 1 => poolAddress netAddress count

structure InOrder (netAddress : DhcpNetWorkAddr) (clients : List (List BYTE))
    (server : DhcpServer) : Prop where
  config : server.serverAddress = setServerAddress netAddress
  table : server.addressesInUse = server.serverEntry ::
    leasesOf netAddress (clients.take (poolSize netAddress))
  last : server.lastOfferAddress =
    lastOffer netAddress (min clients.length (poolSize netAddress))
  distinct : clients.Nodup
  named : ∀ client ∈ clients, client ≠ []

namespace InOrder

variable {netAddress : DhcpNetWorkAddr} {clients : List (List BYTE)}
variable {server : DhcpServer}

theorem mem_table (inOrder : InOrder netAddress clients server)
    {entry : AddressInUseInformation} :
    entry ∈ server.addressesInUse ↔ entry = server.serverEntry ∨
      ∃ index client, index < poolSize netAddress ∧
        clients[index]? = some client ∧
        entry = leaseEntry (poolAddress netAddress index) client := by
  rw [inOrder.table, List.mem_cons, mem_leasesOf]
  apply or_congr_right
  constructor
  · intro member
    obtain ⟨index, client, lookup, rfl⟩ := member
    rw [List.getElem?_take] at lookup
    split at lookup
    · rename_i bound
      exact ⟨index, client, bound, lookup, rfl⟩
    · cases lookup
  · intro member
    obtain ⟨index, client, bound, lookup, rfl⟩ := member
    exact ⟨index, client, by rw [List.getElem?_take, if_pos bound, lookup],
      rfl⟩

theorem unknown (inOrder : InOrder netAddress clients server)
    {client : List BYTE}
    (absent : ∀ index, index < poolSize netAddress →
      clients[index]? ≠ some client) :
    server.knownEntry client = none := by
  apply knownEntry_eq_none.mpr
  intro entry member same
  rcases inOrder.mem_table.mp member with rfl | ⟨index, other, bound, lookup, rfl⟩
  · rw [sameClient_serverEntry] at same
    cases same
  · obtain ⟨-, rfl⟩ := (sameClient_leaseEntry _ _).mp same
    exact absent index bound lookup

theorem known (inOrder : InOrder netAddress clients server)
    {index : Nat} (bound : index < poolSize netAddress) {client : List BYTE}
    (lookup : clients[index]? = some client) :
    server.knownEntry client =
      some (leaseEntry (poolAddress netAddress index) client) := by
  have nonempty := inOrder.named client (List.mem_of_getElem? lookup)
  cases search : server.knownEntry client with
  | none =>
      have member := inOrder.mem_table.mpr
        (Or.inr ⟨index, client, bound, lookup, rfl⟩)
      exact False.elim (knownEntry_eq_none.mp search _ member
        ((sameClient_leaseEntry _ _).mpr ⟨nonempty, rfl⟩))
  | some entry =>
      obtain ⟨member, same⟩ := knownEntry_mem search
      rcases inOrder.mem_table.mp member with
        rfl | ⟨other, _, _, lookup', rfl⟩
      · rw [sameClient_serverEntry] at same
        cases same
      · obtain ⟨-, rfl⟩ := (sameClient_leaseEntry _ _).mp same
        have lengths := (List.getElem?_eq_some_iff.mp lookup).1
        rw [(List.getElem?_inj lengths inOrder.distinct).mp
          (lookup.trans lookup'.symm)]

variable (config : PoolConfig netAddress)

include config

theorem free (inOrder : InOrder netAddress clients server)
    (room : clients.length < poolSize netAddress) :
    server.findAddrIndex (poolAddress netAddress clients.length) = -1 := by
  apply findAddrIndex_eq_neg_one.mpr
  intro entry member same
  rcases inOrder.mem_table.mp member with rfl | ⟨index, other, bound, lookup, rfl⟩
  · change server.serverAddrValue = _ at same
    rw [serverAddrValue_eq inOrder.config] at same
    have lower := config.le_poolAddress room
    have upper := config.poolAddress_le room
    rw [← same] at lower upper
    rcases config.outside with below | above
    · exact absurd below (BitVec.not_lt.mpr lower)
    · exact absurd above (BitVec.not_lt.mpr upper)
  · have earlier := (List.getElem?_eq_some_iff.mp lookup).1
    have equality := config.poolAddress_inj bound room same
    omega

/-- The search starts at that address, from the end of the pool around to its
beginning. -/
theorem firstCandidate (inOrder : InOrder netAddress clients server)
    (room : clients.length < poolSize netAddress) :
    wrapOffer server.minAddrValue server.maxAddrValue
        (server.lastOfferAddress + 1) =
      poolAddress netAddress clients.length := by
  have count : min clients.length (poolSize netAddress) = clients.length := by
    omega
  rw [minAddrValue_eq inOrder.config, maxAddrValue_eq inOrder.config,
    inOrder.last, count]
  cases length : clients.length with
  | zero =>
      have below : (maxAddrValueOf netAddress).toNat < 2 ^ 32 - 1 :=
        config.below
      have past : maxAddrValueOf netAddress <
          maxAddrValueOf netAddress + 1 := by
        rw [BitVec.lt_def, BitVec.toNat_add,
          show (1 : DWORD).toNat = 1 from rfl]
        omega
      rw [lastOffer, wrapOffer, if_pos past]
      simp [poolAddress]
  | succ count =>
      rw [length] at room
      have next : poolAddress netAddress count + 1 =
          poolAddress netAddress (count + 1) := by
        apply BitVec.eq_of_toNat_eq
        have upper := (poolAddress netAddress (count + 1)).isLt
        rw [config.toNat_poolAddress room] at upper ⊢
        rw [BitVec.toNat_add, config.toNat_poolAddress (by omega),
          show (1 : DWORD).toNat = 1 from rfl]
        omega
      rw [lastOffer, next, wrapOffer,
        if_neg (BitVec.not_lt.mpr (config.poolAddress_le room))]

theorem search_room (inOrder : InOrder netAddress clients server)
    (room : clients.length < poolSize netAddress) :
    server.searchAddress = some (poolAddress netAddress clients.length) := by
  unfold searchAddress assignFuel
  rw [assignLoop, inOrder.firstCandidate config room, if_pos]
  rw [minAddrValue_eq inOrder.config, maxAddrValue_eq inOrder.config]
  exact ⟨inOrder.free config room, config.le_poolAddress room,
    config.poolAddress_le room⟩

theorem search_full (inOrder : InOrder netAddress clients server)
    (full : poolSize netAddress ≤ clients.length) :
    server.searchAddress = none := by
  cases search : server.searchAddress with
  | none => rfl
  | some addr =>
      obtain ⟨free, lower, upper⟩ := searchAddress_some search
      rw [minAddrValue_eq inOrder.config] at lower
      rw [maxAddrValue_eq inOrder.config] at upper
      obtain ⟨index, bound, rfl⟩ := config.exists_poolAddress lower upper
      have lookup := List.getElem?_eq_getElem
        (show index < clients.length by omega)
      exact False.elim (free _ (inOrder.mem_table.mpr
        (Or.inr ⟨index, _, bound, lookup, rfl⟩)) rfl)

end InOrder

end PoeDhcp
