import PoeDhcp.Discovery

namespace PoeDhcp

open Foundation
open DhcpServer

/-! One entry for each client, and no client without an identifier. -/

/-- The same size and the same bytes. -/
def SameIdentifier (first second : AddressInUseInformation) : Prop :=
  first.dwClientIdentifierSize = second.dwClientIdentifierSize ∧
    (first.pbClientIdentifier.getD []).take first.dwClientIdentifierSize =
      (second.pbClientIdentifier.getD []).take second.dwClientIdentifierSize

structure OneLease (server : DhcpServer) : Prop where
  distinct : server.addressesInUse.Pairwise fun first second =>
    ¬ SameIdentifier first second
  serverOnly : ∀ entry ∈ server.addressesInUse,
    entry.dwClientIdentifierSize = 0 → entry = server.serverEntry

section Frame

variable {server other : DhcpServer}

theorem OneLease.frame (oneLease : OneLease server)
    (address : other.serverAddress = server.serverAddress)
    (table : other.addressesInUse = server.addressesInUse) :
    OneLease other := by
  constructor
  · rw [table]
    exact oneLease.distinct
  · rw [table, serverEntry_congr address]
    exact oneLease.serverOnly

theorem SameIdentifier.sameClient {entry : AddressInUseInformation}
    {addr : DWORD} {identifier : List BYTE} (nonempty : identifier ≠ [])
    (same : SameIdentifier entry (leaseEntry addr identifier)) :
    sameClient identifier entry = true := by
  obtain ⟨size, bytes⟩ := same
  simp only [leaseEntry, Option.getD_some, List.take_length] at size bytes
  rw [size] at bytes
  simp [DhcpServer.sameClient, size, bytes, nonempty]

/-- The table stays in order exactly when the new client has an identifier. -/
theorem OneLease.append_iff (oneLease : OneLease server)
    {addr : DWORD} {identifier : List BYTE}
    (unknown : server.knownEntry identifier = none)
    (address : other.serverAddress = server.serverAddress)
    (table : other.addressesInUse =
      server.addressesInUse ++ [leaseEntry addr identifier]) :
    OneLease other ↔ identifier ≠ [] := by
  constructor
  · intro after empty
    subst empty
    have own := after.serverOnly (leaseEntry addr [])
      (by simp [table]) rfl
    exact serverEntry_ne_leaseEntry addr own.symm
  · intro nonempty
    constructor
    · rw [table, List.pairwise_append]
      refine ⟨oneLease.distinct, List.pairwise_singleton _ _, ?_⟩
      intro first hfirst second hsecond same
      rw [List.mem_singleton.mp hsecond] at same
      exact knownEntry_eq_none.mp unknown first hfirst
        (same.sameClient nonempty)
    · intro entry member size
      rw [table] at member
      rw [serverEntry_congr address]
      rcases List.mem_append.mp member with old | new
      · exact oneLease.serverOnly entry old size
      · rw [List.mem_singleton.mp new] at size
        exact absurd (List.length_eq_zero_iff.mp size) nonempty

end Frame

/-- A DISCOVER with an empty client identifier option is granted an address. -/
def GrantsUnidentified (server : DhcpServer) : Event → Prop
  | .receive reception =>
      server.thread = some .looping ∧
        ∃ datagram addr, reception.Grants server datagram addr ∧
          ∃ found,
            datagram.findOption optionClientIdentifier = some found ∧
              found.size = 0
  | _ => False

theorem Reception.Grants.unknown {server : DhcpServer}
    {reception : Reception} {datagram : Datagram} {addr : DWORD}
    (grants : reception.Grants server datagram addr) :
    server.knownEntry datagram.identifier = none := by
  cases reception with
  | threw => exact grants.elim
  | failed => exact grants.elim
  | received other localAlloc sendTo =>
      obtain ⟨rfl, grants⟩ := grants
      exact grants.unknown

theorem Reception.Grants.datagram_unique {server : DhcpServer}
    {reception : Reception} {first second : Datagram}
    {firstAddr secondAddr : DWORD}
    (hfirst : reception.Grants server first firstAddr)
    (hsecond : reception.Grants server second secondAddr) :
    first = second := by
  cases reception with
  | threw => exact hfirst.elim
  | failed => exact hfirst.elim
  | received other localAlloc sendTo => exact hfirst.1.symm.trans hsecond.1

theorem oneLease_receive_iff {server : DhcpServer} (oneLease : OneLease server)
    (reception : Reception) :
    OneLease (serverMachine.next server (.receive reception)) ↔
      ¬ GrantsUnidentified server (.receive reception) := by
  by_cases looping : server.thread = some .looping
  · have address := (serverMachine.next_config server (.receive reception)).2
    rw [serverMachine.next_receive looping] at address ⊢
    rcases receive_cases server reception with
      ⟨datagram, addr, grants⟩ | unchanged
    · rw [oneLease.append_iff grants.unknown address grants.table, ne_eq,
        Datagram.identifier_eq_nil]
      apply not_congr
      constructor
      · exact fun empty => ⟨looping, datagram, addr, grants, empty⟩
      · intro granted
        obtain ⟨-, other, _, grants', empty⟩ := granted
        rw [grants.datagram_unique grants']
        exact empty
    · refine iff_of_true (oneLease.frame address unchanged) ?_
      intro granted
      obtain ⟨-, datagram, addr, grants, -⟩ := granted
      have grown := grants.table
      rw [unchanged] at grown
      simpa using congrArg List.length grown
  · rw [serverMachine.next_receive_idle looping]
    exact iff_of_true oneLease (fun granted => looping granted.1)

theorem started_oneLease {netAddress : DhcpNetWorkAddr} {server : DhcpServer}
    (started : Started netAddress server) : OneLease server where
  distinct := by
    rw [started.table]
    exact List.pairwise_singleton _ _
  serverOnly := by
    rw [started.table]
    exact fun entry member _ => List.mem_singleton.mp member

/-- In a run of datagrams every state has one entry for each client exactly when
no DISCOVER with an empty identifier is granted an address. -/
theorem one_lease_iff (netAddress : DhcpNetWorkAddr) {env : InitEnv}
    (success : env.succeeds = true) (receptions : List Reception) :
    serverMachine.AllStates OneLease
        ((construct netAddress).start none env).2.1
        (receptions.map .receive) ↔
      serverMachine.EachStep
        (fun server event => ¬ GrantsUnidentified server event)
        ((construct netAddress).start none env).2.1
        (receptions.map .receive) := by
  apply serverMachine.allStates_iff_eachStep (fun _ => True)
  · trivial
  · exact started_oneLease (construct_start netAddress success none)
  · intros
    trivial
  · intro event member server _ oneLease
    obtain ⟨reception, -, rfl⟩ := List.mem_map.mp member
    exact oneLease_receive_iff oneLease reception

theorem not_grantsUnidentified {datagram : Datagram} {found : OptionData}
    (hfound : datagram.findOption optionClientIdentifier = some found)
    (size : found.size ≠ 0) (server : DhcpServer) (localAlloc sendTo : Bool) :
    ¬ GrantsUnidentified server
      (.receive (.received datagram localAlloc sendTo)) := by
  intro granted
  obtain ⟨-, other, addr, ⟨rfl, -⟩, empty, hempty, none⟩ := granted
  rw [hfound, Option.some.injEq] at hempty
  subst hempty
  exact size none

theorem one_lease_of_two_clients :
    serverMachine.AllStates OneLease
      ((construct sampleNetAddress).start none sampleEnv).2.1
      (twoClients.map .receive) := by
  have first : (discoverOf 7).findOption optionClientIdentifier =
      some ⟨5, 2⟩ := by decide +kernel
  have second : (discoverOf 8).findOption optionClientIdentifier =
      some ⟨5, 2⟩ := by decide +kernel
  have request : (requestOf 7).findOption optionClientIdentifier =
      some ⟨5, 2⟩ := by decide +kernel
  exact (one_lease_iff sampleNetAddress (by decide) twoClients).mpr
    ⟨not_grantsUnidentified first (by decide) _ true true,
      not_grantsUnidentified second (by decide) _ true true,
      not_grantsUnidentified first (by decide) _ true true,
      not_grantsUnidentified request (by decide) _ true true, trivial⟩

def unidentifiedDiscover : Datagram :=
  .ofBytes (clientMessage 0 [53, 1, 1, 61, 0, 255]) (fun _ => 0)
    (clientMessage_bound 0 (by decide))

theorem unidentified_leases :
    ¬ serverMachine.AllStates OneLease
      ((construct sampleNetAddress).start none sampleEnv).2.1
      [.receive (.received unidentifiedDiscover true true),
        .receive (.received unidentifiedDiscover true true)] := by
  intro states
  obtain ⟨-, after, -⟩ := states
  have own := after.serverOnly
    (leaseEntry (minAddrValueOf sampleNetAddress) []) (by decide +kernel) rfl
  exact serverEntry_ne_leaseEntry _ own.symm

end PoeDhcp
