import PoeDhcp.FreeAddress
import PoeDhcp.LeaseRuns

namespace PoeDhcp

open Foundation
open DhcpServer

/-! What is left of a DISCOVER that `packetNewClientOffer` refuses. -/

namespace DhcpServer

/-- Some later client is offered the address. -/
def Obtainable (server : DhcpServer) (yiaddr : DWORD) : Prop :=
  ∃ events client, ∃ handled ∈ serverMachine.outputs server events,
    handled.Tells .offer client yiaddr

structure Untouched (server after : DhcpServer) (reply : Reply) : Prop where
  table : after.addressesInUse = server.addressesInUse
  last : after.lastOfferAddress = server.lastOfferAddress
  messageType : reply.options.messageType = 0
  yiaddr : reply.message.yiaddr = 0
  obtainable : ∀ yiaddr, server.Obtainable yiaddr → after.Obtainable yiaddr

/-- The call of `packetNewClientOffer` in the loop body. -/
def offerNew (server : DhcpServer) (request : DHCPMessage)
    (identifier : List BYTE) (localAlloc : Bool) :
    Bool × DhcpServer × Reply :=
  server.packetNewClientOffer (server.replyTemplate request) identifier
    localAlloc

def RefusesCleanly (server : DhcpServer) (request : DHCPMessage)
    (identifier : List BYTE) (localAlloc : Bool) : Prop :=
  (server.offerNew request identifier localAlloc).1 = false →
    server.Untouched (server.offerNew request identifier localAlloc).2.1
      (server.offerNew request identifier localAlloc).2.2

/-- The search comes to a free address other than the last offer, and then there
is no memory for the client or the address is 0.0.0.0. -/
inductive MovesCursor (server : DhcpServer) (localAlloc : Bool) : Prop
  | noMemory {addr} (refused : localAlloc = false)
      (lower : server.minAddrValue ≤ addr)
      (upper : addr ≤ server.maxAddrValue)
      (free : ¬ server.InUse addr)
      (other : addr ≠ server.lastOfferAddress)
      (reached : server.lastOfferAddress < addr ∨
        server.maxAddrValue < inaddrBroadcast ∨
        addr.toNat + server.minAddrValue.toNat <
          server.lastOfferAddress.toNat)
  | zeroAddress (zero : server.minAddrValue = 0)
      (free : ¬ server.InUse 0)
      (other : server.lastOfferAddress ≠ 0)
      (taken : ∀ addr, server.lastOfferAddress < addr →
        addr ≤ server.maxAddrValue → server.InUse addr)

section Cursor

variable {server : DhcpServer} {localAlloc : Bool}

/-- The second part of the search comes to a number below the last offer. -/
theorem reached_iff {low high last : DWORD} (le_high : last ≤ high)
    {number : Nat} (lower : low.toNat ≤ number) (upper : number < last.toNat) :
    ((restart low high).toNat ≤ number ∧
        number < (restart low high).toNat + restTries low high last) ↔
      (high < inaddrBroadcast ∨ number + low.toNat < last.toNat) := by
  have bound : last.toNat ≤ high.toNat := le_high
  have ordered : low ≤ high := by
    rw [BitVec.le_def]
    omega
  have early := restart_le low high
  rw [restTries, tryCount_eq ordered]
  by_cases top : high = inaddrBroadcast
  · rw [restart_of_top top]
    have notBelow : ¬ high < inaddrBroadcast := by
      rw [top]
      decide
    simp only [notBelow, false_or, BitVec.reduceToNat]
    omega
  · have below := lt_inaddrBroadcast top
    rw [restart_of_lt below]
    simp only [below, true_or, iff_true]
    omega

theorem inRange_isFree {addr : DWORD} :
    CyclicSearch.inRange server.minAddrValue.toNat server.maxAddrValue.toNat
        server.isFree addr.toNat = true ↔
      ¬ server.InUse addr ∧ server.minAddrValue ≤ addr ∧
        addr ≤ server.maxAddrValue := by
  rw [CyclicSearch.inRange_iff, isFree_eq_true]
  rfl

theorem searchAddress_eq_some {addr : DWORD} (inPool : server.LastInPool) :
    server.searchAddress = some addr ↔
      CyclicSearch.search server.minAddrValue.toNat
        server.maxAddrValue.toNat server.lastOfferAddress.toNat server.isFree
        (restart server.minAddrValue server.maxAddrValue).toNat
        (restTries server.minAddrValue server.maxAddrValue
          server.lastOfferAddress) = some addr.toNat := by
  rw [← searchAddress_eq_search inPool.min_le inPool.le_max,
    Option.map_eq_some_iff]
  constructor
  · intro found
    exact ⟨addr, found, rfl⟩
  · intro found
    obtain ⟨same, found, number⟩ := found
    rw [found, BitVec.eq_of_toNat_eq number]

theorem searchPlace_iff (inPool : server.LastInPool) {addr : DWORD}
    (lower : server.minAddrValue ≤ addr)
    (other : addr ≠ server.lastOfferAddress) :
    (server.lastOfferAddress.toNat < addr.toNat ∨
      ((restart server.minAddrValue server.maxAddrValue).toNat ≤ addr.toNat ∧
        addr.toNat <
          (restart server.minAddrValue server.maxAddrValue).toNat +
            restTries server.minAddrValue server.maxAddrValue
              server.lastOfferAddress)) ↔
      (server.lastOfferAddress < addr ∨
        server.maxAddrValue < inaddrBroadcast ∨
        addr.toNat + server.minAddrValue.toNat <
          server.lastOfferAddress.toNat) := by
  by_cases above : server.lastOfferAddress < addr
  · exact iff_of_true (Or.inl above) (Or.inl above)
  · have below : addr < server.lastOfferAddress :=
      BitVec.lt_of_le_ne (BitVec.not_lt.mp above) other
    rw [reached_iff inPool.le_max lower below]
    exact or_congr_left Iff.rfl

theorem exists_searchAddress_ne_iff (inPool : server.LastInPool) :
    (∃ addr, server.searchAddress = some addr ∧
        addr ≠ server.lastOfferAddress) ↔
      ∃ addr, (server.minAddrValue ≤ addr ∧ addr ≤ server.maxAddrValue) ∧
        ¬ server.InUse addr ∧ addr ≠ server.lastOfferAddress ∧
        (server.lastOfferAddress < addr ∨
          server.maxAddrValue < inaddrBroadcast ∨
          addr.toNat + server.minAddrValue.toNat <
            server.lastOfferAddress.toNat) := by
  constructor
  · intro found
    obtain ⟨addr, found, other⟩ := found
    rw [searchAddress_eq_some inPool] at found
    obtain ⟨number, valid, different, reached⟩ :=
      CyclicSearch.exists_search_ne_iff.mp ⟨addr.toNat, found,
        fun same => other (BitVec.eq_of_toNat_eq same)⟩
    obtain ⟨addr, rfl⟩ :=
      exists_toNat (CyclicSearch.inRange_iff.mp valid).2.2
    have different : addr ≠ server.lastOfferAddress :=
      fun same => different (by rw [same])
    obtain ⟨free, lower, upper⟩ := inRange_isFree.mp valid
    exact ⟨addr, ⟨lower, upper⟩, free, different,
      (searchPlace_iff inPool lower different).mp reached⟩
  · intro free
    obtain ⟨addr, ⟨lower, upper⟩, free, other, reached⟩ := free
    obtain ⟨number, found, different⟩ :=
      CyclicSearch.exists_search_ne_iff.mpr
        ⟨addr.toNat, inRange_isFree.mpr ⟨free, lower, upper⟩,
          fun same => other (BitVec.eq_of_toNat_eq same),
          (searchPlace_iff inPool lower other).mpr reached⟩
    have valid := (CyclicSearch.search_eq_some_iff.mp found).1
    obtain ⟨addr, rfl⟩ :=
      exists_toNat (CyclicSearch.inRange_iff.mp valid).2.2
    exact ⟨addr, (searchAddress_eq_some inPool).mpr found,
      fun same => different (by rw [same])⟩

theorem searchAddress_eq_zero_iff (inPool : server.LastInPool)
    (zero : server.minAddrValue = 0)
    (other : server.lastOfferAddress ≠ 0) :
    server.searchAddress = some 0 ↔
      ¬ server.InUse 0 ∧ ∀ addr, server.lastOfferAddress < addr →
        addr ≤ server.maxAddrValue → server.InUse addr := by
  have bound : server.lastOfferAddress.toNat ≤
      server.maxAddrValue.toNat := inPool.le_max
  have positive : 0 < server.lastOfferAddress.toNat := by
    by_contra none
    exact other (BitVec.eq_of_toNat_eq (Nat.eq_zero_of_not_pos none))
  have lowest : server.minAddrValue.toNat = 0 := by
    rw [zero]
    rfl
  have early := restart_le server.minAddrValue server.maxAddrValue
  have tries : 0 < restTries server.minAddrValue server.maxAddrValue
      server.lastOfferAddress := by
    rw [restTries, tryCount_eq (BitVec.le_trans inPool.min_le inPool.le_max)]
    omega
  have everywhere (addr : DWORD) : server.minAddrValue ≤ addr := by
    rw [BitVec.le_def]
    omega
  rw [searchAddress_eq_some inPool]
  refine (CyclicSearch.search_eq_zero_iff (by omega) tries).trans ?_
  refine and_congr ?_ ?_
  · refine (@inRange_isFree server 0).trans ?_
    exact and_iff_left ⟨everywhere 0, Nat.zero_le _⟩
  · constructor
    · intro taken addr above upper
      have outside := taken addr.toNat above upper
      by_contra free
      rw [inRange_isFree.mpr ⟨free, everywhere addr, upper⟩] at outside
      cases outside
    · intro taken number above upper
      obtain ⟨addr, rfl⟩ := exists_toNat upper
      exact CyclicSearch.inRange_of_taken
        (isFree_eq_false.mpr (taken addr above upper))

/-- When the search moves the cursor and the client gets nothing. -/
theorem movesCursor_iff (inPool : server.LastInPool) :
    server.MovesCursor localAlloc ↔
      ∃ addr, server.searchAddress = some addr ∧
        addr ≠ server.lastOfferAddress ∧ (localAlloc = false ∨ addr = 0) := by
  constructor
  · intro moves
    cases moves with
    | noMemory refused lower upper free other reached =>
        obtain ⟨addr, found, different⟩ :=
          (exists_searchAddress_ne_iff inPool).mpr
            ⟨_, ⟨lower, upper⟩, free, other, reached⟩
        exact ⟨addr, found, different, Or.inl refused⟩
    | zeroAddress zero free other taken =>
        exact ⟨0, (searchAddress_eq_zero_iff inPool zero other).mpr
          ⟨free, taken⟩, other.symm, Or.inr rfl⟩
  · intro moved
    obtain ⟨addr, found, other, lost⟩ := moved
    rcases lost with refused | rfl
    · obtain ⟨addr, ⟨lower, upper⟩, free, different, reached⟩ :=
        (exists_searchAddress_ne_iff inPool).mp ⟨addr, found, other⟩
      exact .noMemory refused lower upper free different reached
    · have zero : server.minAddrValue = 0 :=
        BitVec.le_zero_iff.mp (searchAddress_some found).2.1
      obtain ⟨free, taken⟩ :=
        (searchAddress_eq_zero_iff inPool zero other.symm).mp found
      exact .zeroAddress zero free other.symm taken

/-! The call, by the result of the search. -/

variable {request : DHCPMessage} {identifier : List BYTE}

theorem offerNew_exhausted (full : server.searchAddress = none) :
    server.offerNew request identifier localAlloc =
      (false, server, server.replyTemplate request) := by
  simp only [offerNew, packetNewClientOffer, assignAddress_exhausted full,
    ne_eq, not_true_eq_false, if_false]

theorem offerNew_lost {addr : DWORD}
    (found : server.searchAddress = some addr)
    (lost : localAlloc = false ∨ addr = 0) :
    server.offerNew request identifier localAlloc =
      (false, { server with lastOfferAddress := addr },
        server.replyTemplate request) := by
  rcases lost with rfl | rfl
  · simp only [offerNew, packetNewClientOffer, assignAddress_found found,
      Bool.false_eq_true, if_false, ite_self]
  · simp only [offerNew, packetNewClientOffer, assignAddress_found found,
      ne_eq, not_true_eq_false, if_false]

theorem offerNew_granted {addr : DWORD}
    (found : server.searchAddress = some addr) (allocated : localAlloc = true)
    (nonzero : addr ≠ 0) :
    (server.offerNew request identifier localAlloc).1 = true := by
  simp only [offerNew, packetNewClientOffer, assignAddress_found found,
    ne_eq, nonzero, not_false_eq_true, allocated, if_true]

theorem untouched_self : server.Untouched server
    (server.replyTemplate request) where
  table := rfl
  last := rfl
  messageType := replyTemplate_messageType request
  yiaddr := rfl
  obtainable := fun _ obtainable => obtainable

theorem refusesCleanly_iff_search :
    server.RefusesCleanly request identifier localAlloc ↔
      ¬ ∃ addr, server.searchAddress = some addr ∧
        addr ≠ server.lastOfferAddress ∧
        (localAlloc = false ∨ addr = 0) := by
  unfold RefusesCleanly
  cases search : server.searchAddress with
  | none =>
      rw [offerNew_exhausted search]
      refine iff_of_true (fun _ => untouched_self) ?_
      intro moved
      obtain ⟨addr, found, -⟩ := moved
      cases found
  | some addr =>
      by_cases lost : localAlloc = false ∨ addr = 0
      · rw [offerNew_lost search lost]
        constructor
        · intro clean moved
          obtain ⟨next, found, other, -⟩ := moved
          rw [Option.some.injEq] at found
          subst found
          exact other (clean rfl).last
        · intro stays _
          have same : addr = server.lastOfferAddress := by
            by_contra other
            exact stays ⟨addr, rfl, other, lost⟩
          subst same
          exact untouched_self
      · have granted : (server.offerNew request identifier localAlloc).1 =
            true := by
          rw [not_or, Bool.not_eq_false] at lost
          exact offerNew_granted search lost.1 lost.2
        rw [granted]
        refine iff_of_true (fun refused => by cases refused) ?_
        intro moved
        obtain ⟨next, found, -, lostNext⟩ := moved
        rw [Option.some.injEq] at found
        subst found
        exact lost lostNext

end Cursor

end DhcpServer

/-- In every state of a run a refused DISCOVER leaves everything as it was,
unless the cursor moves. -/
theorem refusesCleanly_iff (netAddress : DhcpNetWorkAddr)
    (events : List Event) (request : DHCPMessage) (identifier : List BYTE)
    (localAlloc : Bool) :
    (serverMachine.exec (construct netAddress) events).RefusesCleanly request
        identifier localAlloc ↔
      ¬ (serverMachine.exec (construct netAddress) events).MovesCursor
        localAlloc := by
  rw [refusesCleanly_iff_search]
  by_cases ordered : minAddrValueOf netAddress ≤ maxAddrValueOf netAddress
  · rw [movesCursor_iff (run_lastInPool ordered events)]
  · have config := exec_serverAddress netAddress events
    generalize serverMachine.exec (construct netAddress) events = server
      at config
    rw [← minAddrValue_eq config, ← maxAddrValue_eq config] at ordered
    have noneMoves : ¬ server.MovesCursor localAlloc := by
      intro moves
      cases moves with
      | noMemory refused lower upper free other reached =>
          exact ordered (BitVec.le_trans lower upper)
      | zeroAddress zero free other taken =>
          rw [zero] at ordered
          exact ordered (Nat.zero_le _)
    have noneFound : ¬ ∃ addr, server.searchAddress = some addr ∧
        addr ≠ server.lastOfferAddress ∧
        (localAlloc = false ∨ addr = 0) := by
      intro moved
      obtain ⟨addr, found, -⟩ := moved
      obtain ⟨-, lower, upper⟩ := searchAddress_some found
      exact ordered (BitVec.le_trans lower upper)
    exact iff_of_true noneFound noneMoves

/-! A pool of two addresses, and a client without memory in between. -/

def shortNetAddress : DhcpNetWorkAddr :=
  { sampleNetAddress with
    minAddr := "192.168.50.2"
    maxAddr := "192.168.50.3" }

/-- The first address is leased. -/
def halfLeased : List Event :=
  [.start none sampleEnv, .receive (.received (discoverOf 7) true true)]

def refusedOnce : List Event :=
  halfLeased ++ [.receive (.received (discoverOf 8) false true)]

/-- The refusal costs the next client the second address, which is still
free. -/
theorem refusal_costs_address :
    ¬ (serverMachine.exec (construct shortNetAddress)
        halfLeased).RefusesCleanly (discoverOf 8).request
        (discoverOf 8).identifier false ∧
      ((serverMachine.exec (construct shortNetAddress) halfLeased).iteration
        (discoverOf 9) true).sent.isSome = true ∧
      ((serverMachine.exec (construct shortNetAddress) refusedOnce).iteration
        (discoverOf 9) true).sent = none := by
  refine ⟨?_, by decide +kernel, by decide +kernel⟩
  intro clean
  have last := (clean (by decide +kernel)).last
  revert last
  decide +kernel

end PoeDhcp
