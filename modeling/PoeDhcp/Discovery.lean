import PoeDhcp.Inspection
import PoeDhcp.LeaseTable

namespace PoeDhcp

open Foundation
open DhcpServer

/-! What a received datagram does to the lease state. -/

theorem Datagram.identifier_eq_nil {datagram : Datagram} :
    datagram.identifier = [] ↔
      ∃ found, datagram.findOption optionClientIdentifier = some found ∧
        found.size = 0 := by
  unfold Datagram.identifier
  cases datagram.findOption optionClientIdentifier with
  | none => simp [← List.length_eq_zero_iff, sizeofChaddr]
  | some found => simp [← List.length_eq_zero_iff]

section Iteration

variable {server : DhcpServer} {datagram : Datagram}

/-- A DISCOVER of an unknown client that gets an address. -/
structure Grants (server : DhcpServer) (datagram : Datagram)
    (localAlloc : Bool) (addr : DWORD) : Prop where
  accepts : server.Accepts datagram .discover
  unknown : server.knownEntry datagram.identifier = none
  found : server.searchAddress = some addr
  nonzero : addr ≠ 0
  allocated : localAlloc = true

theorem Grants.iteration {localAlloc : Bool} {addr : DWORD}
    (grants : Grants server datagram localAlloc addr) :
    server.iteration datagram localAlloc =
      ⟨server.lease addr datagram.identifier, .dispatched .discover,
        some (sendDhcpMessage datagram.request
          (server.offerReply datagram.request (dwValueToIp addr)))⟩ := by
  obtain ⟨accepts, unknown, found, nonzero, rfl⟩ := grants
  rw [← Datagram.query_identifier datagram .discover] at unknown
  rw [accepts.iteration,
    respond_grant (Datagram.query_messageType _ _) unknown found nonzero,
    Datagram.query_identifier, Datagram.query_request]

/-- The replies of one pass, with what leads to each of them and the server
behind it. -/
inductive Replies (server : DhcpServer) (datagram : Datagram)
    (localAlloc : Bool) : DhcpServer → Transmission → Prop
  | renew {entry} (accepts : server.Accepts datagram .discover)
      (known : server.knownEntry datagram.identifier = some entry)
      (nonzero : entry.dwAddrValue ≠ 0) :
      Replies server datagram localAlloc server
        (sendDhcpMessage datagram.request
          (server.offerReply datagram.request
            (dwValueToIp entry.dwAddrValue)))
  | grant {addr} (grants : Grants server datagram localAlloc addr) :
      Replies server datagram localAlloc
        (server.lease addr datagram.identifier)
        (sendDhcpMessage datagram.request
          (server.offerReply datagram.request (dwValueToIp addr)))
  | ack {entry} (accepts : server.Accepts datagram .request)
      (known : server.knownEntry datagram.identifier = some entry)
      (acked : server.verdict (datagram.query .request) = some .ack) :
      Replies server datagram localAlloc server
        (sendDhcpMessage datagram.request
          (server.ackReply datagram.request
            (dwValueToIp entry.dwAddrValue)))
  | nak (accepts : server.Accepts datagram .request)
      (refused : server.verdict (datagram.query .request) = some .nak) :
      Replies server datagram localAlloc server
        (sendDhcpMessage datagram.request
          (server.nakReply datagram.request))

theorem iteration_replies {localAlloc : Bool} {transmission : Transmission} :
    (server.iteration datagram localAlloc).sent = some transmission →
      Replies server datagram localAlloc
        (server.iteration datagram localAlloc).server transmission := by
  refine iteration_rule server datagram localAlloc ?_ ?_
  · intro decision _ sent
    cases sent
  · intro query result inspected responds sent
    obtain ⟨type, accepts, rfl⟩ := inspect_eq_ok.mp inspected
    cases responds with
    | renew discover known nonzero =>
        rw [Datagram.query_messageType] at discover
        rw [Datagram.query_identifier] at known
        rw [Datagram.query_request, Option.some.injEq] at sent
        subst discover sent
        exact .renew accepts known nonzero
    | grant discover unknown found nonzero allocated =>
        rw [Datagram.query_messageType] at discover
        rw [Datagram.query_identifier] at unknown
        rw [Datagram.query_request, Option.some.injEq] at sent
        subst discover sent
        rw [Datagram.query_identifier]
        exact .grant ⟨accepts, unknown, found, nonzero, allocated⟩
    | ack request known acked =>
        rw [Datagram.query_messageType] at request
        rw [Datagram.query_identifier] at known
        rw [Datagram.query_request, Option.some.injEq] at sent
        subst request sent
        exact .ack accepts known acked
    | nak request refused =>
        rw [Datagram.query_messageType] at request
        rw [Datagram.query_request, Option.some.injEq] at sent
        subst request sent
        exact .nak accepts refused
    | _ => cases sent

/-- What is sent in answer to a datagram. -/
inductive AnswersWith (server : DhcpServer) (datagram : Datagram) :
    Transmission → Prop
  | offer (addr : DWORD) :
      AnswersWith server datagram (sendDhcpMessage datagram.request
        (server.offerReply datagram.request addr))
  | ack (addr : DWORD) :
      AnswersWith server datagram (sendDhcpMessage datagram.request
        (server.ackReply datagram.request addr))
  | nak :
      AnswersWith server datagram (sendDhcpMessage datagram.request
        (server.nakReply datagram.request))

theorem iteration_answers {localAlloc : Bool} {transmission : Transmission}
    (sent : (server.iteration datagram localAlloc).sent =
      some transmission) :
    AnswersWith server datagram transmission := by
  have replies := iteration_replies sent
  generalize (server.iteration datagram localAlloc).server = after at replies
  cases replies with
  | renew => exact .offer _
  | grant => exact .offer _
  | ack => exact .ack _
  | nak => exact .nak

theorem iteration_cases (server : DhcpServer) (datagram : Datagram)
    (localAlloc : Bool) :
    (∃ addr, Grants server datagram localAlloc addr) ∨
      (server.iteration datagram localAlloc).server.addressesInUse =
        server.addressesInUse := by
  refine iteration_rule server datagram localAlloc ?_ ?_
  · exact fun decision _ => Or.inr rfl
  · intro query result inspected responds
    obtain ⟨type, accepts, rfl⟩ := inspect_eq_ok.mp inspected
    cases responds with
    | grant discover unknown found nonzero allocated =>
        rw [Datagram.query_messageType] at discover
        rw [Datagram.query_identifier] at unknown
        subst discover
        exact Or.inl ⟨_, accepts, unknown, found, nonzero, allocated⟩
    | _ => exact Or.inr rfl

end Iteration

/-- The reception of a running thread that grants an address. -/
def Reception.Grants (server : DhcpServer) (datagram : Datagram)
    (addr : DWORD) : Reception → Prop
  | .received other localAlloc _ =>
      other = datagram ∧ PoeDhcp.Grants server datagram localAlloc addr
  | _ => False

theorem receive_cases (server : DhcpServer) (reception : Reception) :
    (∃ datagram addr, reception.Grants server datagram addr) ∨
      (server.receive reception).1.addressesInUse = server.addressesInUse := by
  cases reception with
  | threw => exact Or.inr rfl
  | failed => exact Or.inr rfl
  | received datagram localAlloc sendTo =>
      have table : (server.receive
          (.received datagram localAlloc sendTo)).1.addressesInUse =
          (server.iteration datagram localAlloc).server.addressesInUse := by
        simp only [receive]
        split <;> rfl
      rw [table]
      rcases iteration_cases server datagram localAlloc with
        ⟨addr, grants⟩ | unchanged
      · exact Or.inl ⟨datagram, addr, rfl, grants⟩
      · exact Or.inr unchanged

theorem Reception.Grants.table {server : DhcpServer} {reception : Reception}
    {datagram : Datagram} {addr : DWORD}
    (grants : reception.Grants server datagram addr) :
    (server.receive reception).1.addressesInUse =
      server.addressesInUse ++ [leaseEntry addr datagram.identifier] := by
  cases reception with
  | threw => exact grants.elim
  | failed => exact grants.elim
  | received other localAlloc sendTo =>
      obtain ⟨rfl, grants⟩ := grants
      simp only [receive, grants.iteration]
      split <;> rfl

/-- A DISCOVER with the identifier `1, client`. -/
def discoverOf (client : BYTE) : Datagram :=
  .ofBytes (clientMessage 0 [53, 1, 1, 61, 2, 1, client, optionEnd])
    (fun _ => 0) (clientMessage_bound 0 (by simp))

/-- A REQUEST of that client which names the sample server. -/
def requestOf (client : BYTE) : Datagram :=
  .ofBytes
    (clientMessage 0 [53, 1, 3, 61, 2, 1, client, 54, 4, 192, 168, 50, 1,
      optionEnd])
    (fun _ => 0) (clientMessage_bound 0 (by simp))

/-- Two clients, a repeated DISCOVER, and a REQUEST of the first client. -/
def twoClients : List Reception :=
  [.received (discoverOf 7) true true, .received (discoverOf 8) true true,
    .received (discoverOf 7) true true,
    .received (requestOf 7) true true]

theorem sampleServer_looping : sampleServer.thread = some .looping :=
  (construct_start sampleNetAddress rfl none).looping

theorem outputs_discoverOf (client : BYTE) :
    serverMachine.outputs sampleServer
        [.receive (.received (discoverOf client) true true)] =
      [⟨sampleServer, discoverOf client, true⟩] := by
  simp only [Machine.outputs_cons, Machine.outputs_nil,
    serverMachine.emit_receive sampleServer_looping, receive, List.append_nil]

end PoeDhcp
