import PoeDhcp.Foundation.LeaseService
import PoeDhcp.Lifecycle

namespace PoeDhcp

open Foundation

namespace DhcpServer

variable {server : DhcpServer} {identifier : List BYTE}

/-! The entries of a lease table. -/

theorem serverEntry_congr {other : DhcpServer}
    (address : other.serverAddress = server.serverAddress) :
    other.serverEntry = server.serverEntry := by
  simp only [serverEntry, serverAddrValue, address]

/-- The state after the first successful `Start`. -/
structure Started (netAddress : DhcpNetWorkAddr) (server : DhcpServer) :
    Prop where
  config : server.serverAddress = setServerAddress netAddress
  table : server.addressesInUse = [server.serverEntry]
  lastOffer : server.lastOfferAddress =
    dwIpToValue (setServerAddress netAddress).maxAddress
  looping : server.thread = some .looping

theorem construct_start (netAddress : DhcpNetWorkAddr) {env : InitEnv}
    (success : env.succeeds = true) (last : Option Reception) :
    Started netAddress
      ((construct netAddress).start last env).2.1 := by
  have table : ((construct netAddress).initServer env).2.addressesInUse = _ :=
    initServer_success success
  obtain ⟨socket, name, entries, frame⟩ :=
    initServer_frame (construct netAddress) env
  rw [start_success success]
  change Started netAddress
    { ((construct netAddress).initServer env).2 with
      starting := true
      thread := some .looping }
  rw [frame] at table ⊢
  exact
    { config := rfl
      table := table
      lastOffer := rfl
      looping := rfl }

theorem serverEntry_ne_leaseEntry (addr : DWORD) :
    server.serverEntry ≠ leaseEntry addr identifier := by
  simp [serverEntry, leaseEntry]

theorem leaseEntry_inj {first second : DWORD}
    {firstClient secondClient : List BYTE} :
    leaseEntry first firstClient = leaseEntry second secondClient ↔
      first = second ∧ firstClient = secondClient := by
  constructor
  · intro equality
    simp only [leaseEntry, AddressInUseInformation.mk.injEq, Option.some.injEq]
      at equality
    exact ⟨equality.1, equality.2.1⟩
  · intro both
    obtain ⟨rfl, rfl⟩ := both
    rfl

theorem sameClient_leaseEntry (addr : DWORD) (client : List BYTE) :
    sameClient identifier (leaseEntry addr client) = true ↔
      identifier ≠ [] ∧ client = identifier := by
  constructor
  · intro same
    simp only [sameClient, leaseEntry, Option.getD_some, Bool.and_eq_true,
      bne_iff_ne, ne_eq, beq_iff_eq, List.length_eq_zero_iff] at same
    obtain ⟨⟨nonempty, lengths⟩, bytes⟩ := same
    rw [lengths, List.take_length] at bytes
    subst bytes
    exact ⟨nonempty, rfl⟩
  · intro both
    obtain ⟨nonempty, rfl⟩ := both
    simp [sameClient, leaseEntry, nonempty]

theorem sameClient_serverEntry :
    sameClient identifier server.serverEntry = false := by
  simp [sameClient, serverEntry]

theorem findAddrIndex_eq_neg_one {addr : DWORD} :
    server.findAddrIndex addr = -1 ↔
      ∀ entry ∈ server.addressesInUse, entry.dwAddrValue ≠ addr := by
  unfold findAddrIndex
  cases search : server.addressesInUse.findIdx? (·.dwAddrValue == addr) with
  | none =>
      rw [List.findIdx?_eq_none_iff] at search
      constructor
      · intro _ entry member
        simpa using search entry member
      · intro _
        rfl
  | some index =>
      constructor
      · intro impossible
        have : (0 : Int) ≤ index := Int.natCast_nonneg index
        simp only at impossible
        omega
      · intro absent
        obtain ⟨bound, hit, -⟩ := List.findIdx?_eq_some_iff_getElem.mp search
        exact False.elim
          (absent _ (List.getElem_mem bound) (by simpa using hit))

/-! The search only returns addresses that are free and in the pool. -/

theorem assignLoop_some {low high addr : DWORD} {fuel : Nat}
    {count offer : DWORD}
    (found : server.assignLoop low high fuel count offer = some addr) :
    server.findAddrIndex addr = -1 ∧ low ≤ addr ∧ addr ≤ high := by
  induction fuel generalizing count offer with
  | zero => simp [assignLoop] at found
  | succ fuel ih =>
      simp only [assignLoop] at found
      split at found
      · rename_i valid
        simp only [Option.some.injEq] at found
        subst found
        exact valid
      · split at found
        · exact ih found
        · contradiction

theorem searchAddress_some {addr : DWORD}
    (found : server.searchAddress = some addr) :
    (∀ entry ∈ server.addressesInUse, entry.dwAddrValue ≠ addr) ∧
      server.minAddrValue ≤ addr ∧ addr ≤ server.maxAddrValue := by
  obtain ⟨free, bounds⟩ := assignLoop_some found
  exact ⟨findAddrIndex_eq_neg_one.mp free, bounds⟩

end DhcpServer

/-! The table represents an abstract lease book. A client can be recognised when
its identifier is not empty. -/

def Recognisable (identifier : List BYTE) : Prop :=
  identifier ≠ []

def minAddrValueOf (netAddress : DhcpNetWorkAddr) : DWORD :=
  dwIpToValue (setServerAddress netAddress).minAddress

def maxAddrValueOf (netAddress : DhcpNetWorkAddr) : DWORD :=
  dwIpToValue (setServerAddress netAddress).maxAddress

def serverAddrValueOf (netAddress : DhcpNetWorkAddr) : DWORD :=
  dwIpToValue (setServerAddress netAddress).address

namespace DhcpServer

variable {netAddress : DhcpNetWorkAddr} {server : DhcpServer}

theorem minAddrValue_eq
    (config : server.serverAddress = setServerAddress netAddress) :
    server.minAddrValue = minAddrValueOf netAddress := by
  rw [minAddrValue, config]
  rfl

theorem maxAddrValue_eq
    (config : server.serverAddress = setServerAddress netAddress) :
    server.maxAddrValue = maxAddrValueOf netAddress := by
  rw [maxAddrValue, config]
  rfl

theorem serverAddrValue_eq
    (config : server.serverAddress = setServerAddress netAddress) :
    server.serverAddrValue = serverAddrValueOf netAddress := by
  rw [serverAddrValue, config]
  rfl

end DhcpServer

structure PoolAddress (netAddress : DhcpNetWorkAddr) (addr : DWORD) :
    Prop where
  min_le : minAddrValueOf netAddress ≤ addr
  le_max : addr ≤ maxAddrValueOf netAddress
  nonzero : addr ≠ 0
  not_server : addr ≠ serverAddrValueOf netAddress

abbrev Book (netAddress : DhcpNetWorkAddr) :=
  LeaseBook (List BYTE) DWORD Recognisable (PoolAddress netAddress)

open DhcpServer in
structure Represents (netAddress : DhcpNetWorkAddr) (server : DhcpServer)
    (book : Book netAddress) : Prop where
  config : server.serverAddress = setServerAddress netAddress
  shape : ∀ entry ∈ server.addressesInUse, entry = server.serverEntry ∨
    ∃ addr identifier, entry = leaseEntry addr identifier
  leases : ∀ addr identifier,
    leaseEntry addr identifier ∈ server.addressesInUse ↔
      (identifier, addr) ∈ book.leases
  serving : server.thread = some .looping →
    server.serverEntry ∈ server.addressesInUse

namespace Represents

open DhcpServer

variable {netAddress : DhcpNetWorkAddr} {server : DhcpServer}
variable {book : Book netAddress} {identifier : List BYTE}

theorem construct (netAddress : DhcpNetWorkAddr) :
    Represents netAddress (DhcpServer.construct netAddress)
      LeaseBook.empty where
  config := rfl
  shape := by simp [DhcpServer.construct]
  leases := by simp [DhcpServer.construct, LeaseBook.empty]
  serving := by simp [DhcpServer.construct]

theorem frame (represents : Represents netAddress server book)
    {other : DhcpServer} (address : other.serverAddress = server.serverAddress)
    (table : other.addressesInUse = server.addressesInUse)
    (thread : other.thread = some .looping → server.thread = some .looping) :
    Represents netAddress other book where
  config := address.trans represents.config
  shape := by
    rw [table, serverEntry_congr address]
    exact represents.shape
  leases := by
    rw [table]
    exact represents.leases
  serving := by
    intro looping
    rw [table, serverEntry_congr address]
    exact represents.serving (thread looping)

/-- A known client has a lease, and the entry found for it records the lease. -/
theorem known (represents : Represents netAddress server book)
    {entry : AddressInUseInformation}
    (found : server.knownEntry identifier = some entry) :
    Recognisable identifier ∧
      (identifier, entry.dwAddrValue) ∈ book.leases := by
  obtain ⟨member, same⟩ := knownEntry_mem found
  rcases represents.shape entry member with rfl | ⟨addr, client, rfl⟩
  · rw [sameClient_serverEntry] at same
    contradiction
  · obtain ⟨nonempty, rfl⟩ := (sameClient_leaseEntry addr client).mp same
    exact ⟨nonempty, (represents.leases addr client).mp member⟩

theorem known_of_lease (represents : Represents netAddress server book)
    {addr : DWORD} (named : Recognisable identifier)
    (held : (identifier, addr) ∈ book.leases) :
    ∃ entry, server.knownEntry identifier = some entry ∧
      entry.dwAddrValue = addr := by
  have member := (represents.leases addr identifier).mpr held
  have same : sameClient identifier (leaseEntry addr identifier) = true :=
    (sameClient_leaseEntry addr identifier).mpr ⟨named, rfl⟩
  cases search : server.knownEntry identifier with
  | none =>
      exact False.elim (knownEntry_eq_none.mp search _ member same)
  | some entry =>
      exact ⟨entry, rfl, book.single named (represents.known search).2 held⟩

theorem unknown (represents : Represents netAddress server book)
    (missing : server.knownEntry identifier = none)
    (named : Recognisable identifier) (addr : DWORD) :
    (identifier, addr) ∉ book.leases := by
  intro held
  obtain ⟨entry, found, -⟩ := represents.known_of_lease named held
  rw [missing] at found
  contradiction

theorem grantable (represents : Represents netAddress server book)
    (present : server.serverEntry ∈ server.addressesInUse) {addr : DWORD}
    (missing : server.knownEntry identifier = none)
    (found : server.searchAddress = some addr) (nonzero : addr ≠ 0) :
    book.Grantable identifier addr where
  pooled := by
    obtain ⟨free, lower, upper⟩ := searchAddress_some found
    refine ⟨?_, ?_, nonzero, ?_⟩
    · rw [← minAddrValue_eq represents.config]
      exact lower
    · rw [← maxAddrValue_eq represents.config]
      exact upper
    · intro equality
      rw [← serverAddrValue_eq represents.config] at equality
      exact free _ present equality.symm
  address_free := by
    intro other held
    have member := (represents.leases addr other).mpr held
    exact (searchAddress_some found).1 _ member rfl
  client_new := fun named other => represents.unknown missing named other

theorem lease (represents : Represents netAddress server book) {addr : DWORD}
    (grantable : book.Grantable identifier addr) :
    Represents netAddress (server.lease addr identifier)
      (book.grant identifier addr grantable) where
  config := represents.config
  shape := by
    intro entry member
    rcases List.mem_append.mp member with old | new
    · exact represents.shape entry old
    · rw [List.mem_singleton.mp new]
      exact Or.inr ⟨addr, identifier, rfl⟩
  leases := by
    intro other client
    rw [DhcpServer.lease, List.mem_append, List.mem_singleton,
      represents.leases, leaseEntry_inj]
    constructor
    · intro member
      rcases member with old | ⟨rfl, rfl⟩
      · exact Or.inr old
      · exact Or.inl rfl
    · intro member
      rcases member with new | old
      · simp only [Prod.mk.injEq] at new
        exact Or.inr ⟨new.2, new.1⟩
      · exact Or.inl old
  serving := fun looping =>
    List.mem_append_left _ (represents.serving looping)

theorem addServerEntry (represents : Represents netAddress server book)
    {other : DhcpServer} (address : other.serverAddress = server.serverAddress)
    (table : other.addressesInUse =
      server.addressesInUse ++ [server.serverEntry]) :
    Represents netAddress other book where
  config := address.trans represents.config
  shape := by
    intro entry member
    rw [serverEntry_congr address]
    rw [table] at member
    rcases List.mem_append.mp member with old | new
    · exact represents.shape entry old
    · exact Or.inl (List.mem_singleton.mp new)
  leases := by
    intro addr client
    rw [table, ← represents.leases]
    constructor
    · intro member
      rcases List.mem_append.mp member with old | new
      · exact old
      · exact False.elim (serverEntry_ne_leaseEntry addr
          (List.mem_singleton.mp new).symm)
    · exact fun old => List.mem_append_left _ old
  serving := by
    intro _
    rw [table, serverEntry_congr address]
    exact List.mem_append_right _ (List.mem_singleton_self _)

theorem initServer (represents : Represents netAddress server book)
    {env : InitEnv} (success : env.succeeds = true) {other : DhcpServer}
    (address : other.serverAddress =
      (server.initServer env).2.serverAddress)
    (table : other.addressesInUse =
      (server.initServer env).2.addressesInUse) :
    Represents netAddress other book := by
  obtain ⟨_, _, _, frame⟩ := initServer_frame server env
  apply represents.addServerEntry
  · rw [address, frame]
  · rw [table, initServer_success success]

theorem initServer_failed (represents : Represents netAddress server book)
    {env : InitEnv} (failure : env.succeeds = false) :
    Represents netAddress (server.initServer env).2 book := by
  obtain ⟨_, _, _, frame⟩ := initServer_frame server env
  apply represents.frame
  · rw [frame]
  · exact initServer_failure failure
  · rw [frame]
    exact id

end Represents

end PoeDhcp
