import Mathlib.Data.Finset.Card
import Mathlib.Order.Interval.Finset.Nat
import PoeDhcp.Discovery
import PoeDhcp.LeaseGuarantees

namespace PoeDhcp

open Foundation
open DhcpServer

/-! The pool limits the leases, and a lease is never taken back. -/

namespace DhcpServer

variable {server other after : DhcpServer}

/-- The entries of clients. -/
def clientEntries (server : DhcpServer) : List AddressInUseInformation :=
  server.addressesInUse.filter (·.pbClientIdentifier.isSome)

theorem clientEntries_congr
    (table : other.addressesInUse = server.addressesInUse) :
    other.clientEntries = server.clientEntries := by
  rw [clientEntries, table, clientEntries]

theorem clientEntries_lease (addr : DWORD) (identifier : List BYTE)
    (table : other.addressesInUse =
      server.addressesInUse ++ [leaseEntry addr identifier]) :
    other.clientEntries =
      server.clientEntries ++ [leaseEntry addr identifier] := by
  rw [clientEntries, table, List.filter_append]
  rfl

theorem clientEntries_serverEntry
    (table : other.addressesInUse =
      server.addressesInUse ++ [server.serverEntry]) :
    other.clientEntries = server.clientEntries := by
  rw [clientEntries, table, List.filter_append]
  exact List.append_nil _

theorem isSome_of_sameClient {identifier : List BYTE}
    {entry : AddressInUseInformation}
    (same : sameClient identifier entry = true) :
    entry.pbClientIdentifier.isSome = true := by
  cases block : entry.pbClientIdentifier with
  | some bytes => rfl
  | none =>
      simp only [sameClient, block, Option.getD_none, List.take_nil,
        Bool.and_eq_true, bne_iff_ne, beq_iff_eq] at same
      obtain ⟨⟨nonzero, size⟩, empty⟩ := same
      rw [empty] at size
      exact absurd size.symm nonzero

theorem knownEntry_mem_clientEntries {identifier : List BYTE}
    {entry : AddressInUseInformation}
    (known : server.knownEntry identifier = some entry) :
    entry ∈ server.clientEntries := by
  obtain ⟨member, same⟩ := knownEntry_mem known
  exact List.mem_filter.mpr ⟨member, isSome_of_sameClient same⟩

/-- The state that the leases depend on. -/
structure SameLeases (server other : DhcpServer) : Prop where
  config : other.serverAddress = server.serverAddress
  last : other.lastOfferAddress = server.lastOfferAddress
  table : other.addressesInUse = server.addressesInUse

/-- A property of the lease state that a pass of the loop keeps, and the entry
that a `Start` adds for the server itself. -/
structure LeaseInvariant (I : DhcpServer → Prop) : Prop where
  frame : ∀ {server other}, I server → SameLeases server other → I other
  iteration : ∀ {server}, I server → ∀ datagram localAlloc,
    I (server.iteration datagram localAlloc).server
  serverEntry : ∀ {server other : DhcpServer}, I server →
    other.serverAddress = server.serverAddress →
    other.lastOfferAddress = server.lastOfferAddress →
    other.addressesInUse = server.addressesInUse ++ [server.serverEntry] →
      I other

namespace LeaseInvariant

variable {I : DhcpServer → Prop}

theorem receive (invariant : LeaseInvariant I) (held : I server)
    (reception : Reception) : I (server.receive reception).1 := by
  cases reception with
  | threw => exact invariant.frame held ⟨rfl, rfl, rfl⟩
  | failed => exact held
  | received datagram localAlloc sendTo =>
      have kept := invariant.iteration held datagram localAlloc
      simp only [DhcpServer.receive]
      split
      · exact invariant.frame kept ⟨rfl, rfl, rfl⟩
      · exact kept

theorem stop (invariant : LeaseInvariant I) (held : I server)
    (last : Option Reception) : I (server.stop last).1 := by
  refine stop_rule server last (fun _ => held) ?_ ?_
  · exact fun _ => invariant.frame held ⟨rfl, rfl, rfl⟩
  · intro reception _
    have stopping : I { server with starting := false } :=
      invariant.frame held ⟨rfl, rfl, rfl⟩
    exact invariant.frame (invariant.receive stopping reception)
      ⟨rfl, rfl, rfl⟩

theorem initServer (invariant : LeaseInvariant I) (held : I server)
    (env : InitEnv) : I (server.initServer env).2 := by
  obtain ⟨_, _, _, initialised⟩ := initServer_frame server env
  have config : (server.initServer env).2.serverAddress =
      server.serverAddress := by rw [initialised]
  have last : (server.initServer env).2.lastOfferAddress =
      server.lastOfferAddress := by rw [initialised]
  cases success : env.succeeds with
  | true =>
      exact invariant.serverEntry held config last (initServer_success success)
  | false =>
      exact invariant.frame held ⟨config, last, initServer_failure success⟩

theorem start (invariant : LeaseInvariant I) (held : I server)
    (last : Option Reception) (env : InitEnv) :
    I (server.start last env).2.1 := by
  have settled : I (server.settle last).1 := by
    unfold settle
    split
    · exact invariant.stop held last
    · exact held
  have ready := invariant.initServer settled env
  cases success : env.succeeds with
  | true =>
      rw [start_success success]
      exact invariant.frame ready ⟨rfl, rfl, rfl⟩
  | false =>
      rw [start_failure success]
      exact ready

theorem next (invariant : LeaseInvariant I) (held : I server)
    (event : Event) : I (serverMachine.next server event) := by
  cases event with
  | start last env => exact invariant.start held last env
  | stop last => exact invariant.stop held last
  | receive reception =>
      exact serverMachine.next_receive_rule server reception (fun _ => held)
        fun _ => invariant.receive held reception

theorem exec (invariant : LeaseInvariant I) (held : I server)
    (events : List Event) : I (serverMachine.exec server events) :=
  serverMachine.exec_induction events server held
    fun event _ _ current => invariant.next current event

end LeaseInvariant

/-! At most one datagram is processed in a step, and its entry stays. -/

structure Processes (server after : DhcpServer) (handled : Handled) :
    Prop where
  before : SameLeases server handled.before
  table : handled.result.server.addressesInUse <+: after.addressesInUse

/-- What a step emits: nothing, or a processed datagram. -/
inductive Once (server after : DhcpServer) : List Handled → Prop
  | nothing : Once server after []
  | processed {handled} (processes : Processes server after handled) :
      Once server after [handled]

theorem Once.grow {handled : List Handled} (once : Once server after handled)
    {before later : DhcpServer} (same : SameLeases before server)
    (larger : after.addressesInUse <+: later.addressesInUse) :
    Once before later handled := by
  cases once with
  | nothing => exact .nothing
  | processed processes =>
      exact .processed
        { before :=
            { config := processes.before.config.trans same.config
              last := processes.before.last.trans same.last
              table := processes.before.table.trans same.table }
          table := processes.table.trans larger }

theorem receive_once (server : DhcpServer) (reception : Reception) :
    Once server (server.receive reception).1 (server.receive reception).2 := by
  cases reception with
  | threw => exact .nothing
  | failed => exact .nothing
  | received datagram localAlloc sendTo =>
      refine .processed ⟨⟨rfl, rfl, rfl⟩, ?_⟩
      simp only [receive]
      split <;> exact List.prefix_refl _

theorem stop_once (server : DhcpServer) (last : Option Reception) :
    Once server (server.stop last).1 (server.stop last).2 := by
  refine stop_rule server last (fun _ => .nothing) (fun _ => .nothing) ?_
  intro reception _
  exact (receive_once { server with starting := false } reception).grow
    ⟨rfl, rfl, rfl⟩ (List.prefix_refl _)

theorem start_once (server : DhcpServer) (last : Option Reception)
    (env : InitEnv) :
    Once server (server.start last env).2.1 (server.start last env).2.2 := by
  have settled : Once server (server.settle last).1
      (server.settle last).2 := by
    unfold settle
    split
    · exact stop_once server last
    · exact .nothing
  have grown := initServer_table (server.settle last).1 env
  cases success : env.succeeds with
  | true =>
      rw [start_success success]
      exact settled.grow ⟨rfl, rfl, rfl⟩ grown
  | false =>
      rw [start_failure success]
      exact settled.grow ⟨rfl, rfl, rfl⟩ grown

theorem emit_once (server : DhcpServer) (event : Event) :
    Once server (serverMachine.next server event)
      (serverMachine.emit server event) := by
  cases event with
  | start last env => exact start_once server last env
  | stop last => exact stop_once server last
  | receive reception =>
      by_cases looping : server.thread = some .looping
      · rw [serverMachine.next_receive looping,
          serverMachine.emit_receive looping]
        exact receive_once server reception
      · rw [serverMachine.emit_receive_idle looping]
        exact .nothing

theorem emit_processes {event : Event} {handled : Handled}
    (member : handled ∈ serverMachine.emit server event) :
    Processes server (serverMachine.next server event) handled := by
  have once := emit_once server event
  generalize serverMachine.emit server event = emitted at once member
  cases once with
  | nothing => cases member
  | processed processes =>
      rw [List.mem_singleton.mp member]
      exact processes

theorem emit_pairwise (server : DhcpServer) (event : Event)
    (R : Handled → Handled → Prop) :
    (serverMachine.emit server event).Pairwise R := by
  have once := emit_once server event
  generalize serverMachine.emit server event = emitted at once
  cases once with
  | nothing => exact .nil
  | processed => exact List.pairwise_singleton _ _

theorem LeaseInvariant.outputs {I : DhcpServer → Prop}
    (invariant : LeaseInvariant I) (held : I server) (events : List Event) :
    ∀ handled ∈ serverMachine.outputs server events, I handled.before := by
  refine serverMachine.outputs_induction (I := I) events server held ?_
  intro event _ state current
  exact ⟨invariant.next current event,
    fun handled member => invariant.frame current (emit_processes member).before⟩

/-- The search of a larger table finds no more. -/
theorem assignLoop_none (low high : DWORD)
    (larger : ∀ entry ∈ server.addressesInUse, entry ∈ other.addressesInUse)
    (fuel : Nat) (count offer : DWORD)
    (failed : server.assignLoop low high fuel count offer = none) :
    other.assignLoop low high fuel count offer = none := by
  induction fuel generalizing count offer with
  | zero => rfl
  | succ fuel ih =>
      simp only [assignLoop] at failed ⊢
      split at failed
      · cases failed
      · rename_i taken
        have still : ¬ (other.findAddrIndex (wrapOffer low high offer) = -1 ∧
            low ≤ wrapOffer low high offer ∧
            wrapOffer low high offer ≤ high) := by
          intro valid
          refine taken ⟨?_, valid.2⟩
          rw [findAddrIndex_eq_neg_one] at valid ⊢
          exact fun entry member => valid.1 entry (larger entry member)
        rw [if_neg still]
        split at failed
        · rename_i more
          rw [if_pos more]
          exact ih _ _ failed
        · rename_i last
          exact if_neg last

/-- The search of `assignAddress` comes to no free address. -/
def Exhausted (server : DhcpServer) : Prop :=
  server.searchAddress = none

theorem Exhausted.grow (exhausted : server.Exhausted)
    (config : other.serverAddress = server.serverAddress)
    (last : other.lastOfferAddress = server.lastOfferAddress)
    (larger : server.addressesInUse <+: other.addressesInUse) :
    other.Exhausted := by
  unfold Exhausted searchAddress at exhausted ⊢
  unfold assignFuel minAddrValue maxAddrValue at exhausted ⊢
  rw [config, last]
  exact assignLoop_none _ _ (fun entry member => larger.subset member) _ _ _
    exhausted

/-- Every grant comes from the search. -/
theorem Exhausted.iteration (exhausted : server.Exhausted)
    (datagram : Datagram) (localAlloc : Bool) :
    (server.iteration datagram localAlloc).server = server := by
  unfold Exhausted at exhausted
  refine iteration_rule server datagram localAlloc (fun _ _ => rfl) ?_
  intro query result _ responds
  cases responds with
  | grant _ _ found =>
      rw [exhausted] at found
      cases found
  | outOfMemory _ _ found =>
      rw [exhausted] at found
      cases found
  | zeroAddress _ _ found =>
      rw [exhausted] at found
      cases found
  | _ => rfl

/-- The search has given up, with these entries of clients in the table. -/
structure Full (clients : List AddressInUseInformation)
    (server : DhcpServer) : Prop where
  exhausted : server.Exhausted
  clients_eq : server.clientEntries = clients

theorem leaseInvariant_full (clients : List AddressInUseInformation) :
    LeaseInvariant (Full clients) where
  frame := by
    intro server other full same
    refine ⟨full.exhausted.grow same.config same.last ?_,
      (clientEntries_congr same.table).trans full.clients_eq⟩
    rw [same.table]
  iteration := by
    intro server full datagram localAlloc
    rw [full.exhausted.iteration]
    exact full
  serverEntry := by
    intro server other full config last table
    refine ⟨full.exhausted.grow config last ?_, ?_⟩
    · rw [table]
      exact List.prefix_append _ _
    · exact (clientEntries_serverEntry table).trans full.clients_eq

end DhcpServer

/-- An announced address comes from the table or from the search. -/
theorem Handled.announced_from {handled : Handled}
    {announcement : Announcement (List BYTE) DWORD} :
    announcement ∈ handled.announcements →
      (∃ entry,
        handled.before.knownEntry announcement.client = some entry ∧
          entry.dwAddrValue = announcement.address) ∨
        handled.before.searchAddress = some announcement.address := by
  unfold Handled.announcements Handled.result
  refine iteration_rule handled.before handled.datagram handled.localAlloc
    ?_ ?_
  · intro decision inspected
    simp [inspected]
  · intro query result inspected responds
    simp only [inspected, Option.mem_toList]
    cases responds with
    | renew discover known nonzero =>
        rw [Option.bind_some, announcement?_offerReply, Option.some.injEq]
        rintro rfl
        exact Or.inl ⟨_, known, rfl⟩
    | grant discover unknown found nonzero allocated =>
        rw [Option.bind_some, announcement?_offerReply, Option.some.injEq]
        rintro rfl
        exact Or.inr found
    | ack request known acked =>
        rw [Option.bind_some, announcement?_ackReply, Option.some.injEq]
        rintro rfl
        exact Or.inl ⟨_, known, rfl⟩
    | nak request refused =>
        rw [Option.bind_some, announcement?_nakReply]
        exact fun impossible => by cases impossible
    | _ => exact fun impossible => by cases impossible

/-- A lease is told to a client that has one of the entries. -/
def Handled.TellsFrom (clients : List AddressInUseInformation)
    (handled : Handled) : Prop :=
  ∀ identifier yiaddr, handled.TellsLease identifier yiaddr →
    ∃ entry ∈ clients, sameClient identifier entry = true ∧
      dwValueToIp entry.dwAddrValue = yiaddr

theorem DhcpServer.Full.tellsFrom {clients : List AddressInUseInformation}
    {handled : Handled} (full : Full clients handled.before) :
    handled.TellsFrom clients := by
  intro identifier yiaddr tells
  obtain ⟨kind, told⟩ := tells.announced
  rcases Handled.announced_from told with ⟨entry, known, address⟩ | found
  · refine ⟨entry, ?_, (knownEntry_mem known).2, ?_⟩
    · rw [← full.clients_eq]
      exact knownEntry_mem_clientEntries known
    · rw [address, dwValueToIp_dwIpToValue]
  · have exhausted : handled.before.searchAddress = none := full.exhausted
    rw [exhausted] at found
    cases found

/-- From now on only the clients in the table are served. -/
structure ServesNobodyNew (server : DhcpServer) (events : List Event) :
    Prop where
  exhausted : (serverMachine.exec server events).searchAddress = none
  clients : (serverMachine.exec server events).clientEntries =
    server.clientEntries
  told : ∀ handled ∈ serverMachine.outputs server events,
    handled.TellsFrom server.clientEntries

/-- Once the search has found nothing, it never finds anything again, whatever is
called and received: no lease is ever taken back, by a restart neither. -/
theorem exhausted_forever (server : DhcpServer)
    (exhausted : server.searchAddress = none) (events : List Event) :
    ServesNobodyNew server events := by
  have full : Full server.clientEntries server := ⟨exhausted, rfl⟩
  have invariant := leaseInvariant_full server.clientEntries
  have after := invariant.exec full events
  exact
    { exhausted := after.exhausted
      clients := after.clients_eq
      told := fun handled member =>
        (invariant.outputs full events handled member).tellsFrom }

/-- The pool has two addresses. The third client is refused, also after a
restart. -/
def smallNetAddress : DhcpNetWorkAddr :=
  { sampleNetAddress with maxAddr := "192.168.50.3" }

def smallServer : DhcpServer :=
  serverMachine.exec (construct smallNetAddress)
    [.start none sampleEnv, .receive (.received (discoverOf 7) true true),
      .receive (.received (discoverOf 8) true true)]

theorem smallServer_exhausted :
    ServesNobodyNew smallServer
      [.receive (.received (discoverOf 9) true true), .start none sampleEnv,
        .receive (.received (discoverOf 9) true true),
        .receive (.received (discoverOf 7) true true)] :=
  exhausted_forever smallServer (by decide +kernel) _

/-! The number of leases. -/

namespace DhcpServer

variable {server other : DhcpServer} {netAddress : DhcpNetWorkAddr}

/-- The entries of clients record different addresses. -/
def Counted (server : DhcpServer) : Prop :=
  (server.clientEntries.map (·.dwAddrValue)).Nodup

theorem Counted.lease (counted : server.Counted) {addr : DWORD}
    (identifier : List BYTE)
    (free : ∀ entry ∈ server.addressesInUse, entry.dwAddrValue ≠ addr) :
    (server.lease addr identifier).Counted := by
  rw [Counted, clientEntries_lease addr identifier rfl, List.map_append,
    List.nodup_append]
  refine ⟨counted, List.nodup_singleton _, ?_⟩
  intro used member granted new same
  obtain ⟨entry, client, rfl⟩ := List.mem_map.mp member
  rw [List.mem_singleton.mp new] at same
  exact free entry (List.mem_filter.mp client).1 same

theorem leaseInvariant_counted : LeaseInvariant Counted where
  frame := by
    intro server other counted same
    rw [Counted, clientEntries_congr same.table]
    exact counted
  iteration := by
    intro server counted datagram localAlloc
    rcases iteration_cases server datagram localAlloc with
      ⟨addr, grants⟩ | unchanged
    · rw [grants.iteration]
      exact counted.lease _ (searchAddress_some grants.found).1
    · rw [Counted, clientEntries_congr unchanged]
      exact counted
  serverEntry := by
    intro server other counted config last table
    rw [Counted, clientEntries_serverEntry table]
    exact counted

end DhcpServer

/-- The host-order addresses that a server can lease. -/
def leasable (netAddress : DhcpNetWorkAddr) : Finset Nat :=
  ((Finset.Icc (minAddrValueOf netAddress).toNat
    (maxAddrValueOf netAddress).toNat).erase 0).erase
      (serverAddrValueOf netAddress).toNat

theorem PoolAddress.mem_leasable {netAddress : DhcpNetWorkAddr} {addr : DWORD}
    (pooled : PoolAddress netAddress addr) :
    addr.toNat ∈ leasable netAddress := by
  refine Finset.mem_erase.mpr ⟨?_, Finset.mem_erase.mpr
    ⟨?_, Finset.mem_Icc.mpr ⟨pooled.min_le, pooled.le_max⟩⟩⟩
  · exact fun same => pooled.not_server (BitVec.eq_of_toNat_eq same)
  · exact fun same => pooled.nonzero (BitVec.eq_of_toNat_eq same)

theorem Represents.pooled {netAddress : DhcpNetWorkAddr} {server : DhcpServer}
    {book : Book netAddress} (represents : Represents netAddress server book)
    {entry : AddressInUseInformation}
    (client : entry ∈ server.clientEntries) :
    PoolAddress netAddress entry.dwAddrValue := by
  obtain ⟨member, block⟩ := List.mem_filter.mp client
  rcases represents.shape entry member with rfl | ⟨addr, identifier, rfl⟩
  · cases block
  · exact book.pooled ((represents.leases addr identifier).mp member)

/-- In no run there are more leases than the pool has addresses, without 0 and the
server's own. -/
theorem leases_le_pool (netAddress : DhcpNetWorkAddr) (events : List Event) :
    (serverMachine.exec (construct netAddress) events).clientEntries.length ≤
      (leasable netAddress).card := by
  have empty : (construct netAddress).Counted := List.nodup_nil
  have counted := leaseInvariant_counted.exec empty events
  obtain ⟨book, represents, -⟩ := run_simulates netAddress events
  generalize serverMachine.exec (construct netAddress) events = server
    at counted represents
  let numbers := (server.clientEntries.map (·.dwAddrValue)).map BitVec.toNat
  have distinct : numbers.Nodup :=
    counted.map fun _ _ same => BitVec.eq_of_toNat_eq same
  have inside : numbers.toFinset ⊆ leasable netAddress := by
    intro number member
    obtain ⟨addr, used, rfl⟩ := List.mem_map.mp (List.mem_toFinset.mp member)
    obtain ⟨entry, client, rfl⟩ := List.mem_map.mp used
    exact (represents.pooled client).mem_leasable
  calc server.clientEntries.length
      = numbers.length := by simp [numbers]
    _ = numbers.toFinset.card := (List.toFinset_card_of_nodup distinct).symm
    _ ≤ (leasable netAddress).card := Finset.card_le_card inside

end PoeDhcp
