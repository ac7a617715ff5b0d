import PoeDhcp.Discovery

namespace PoeDhcp

open Foundation
open DhcpServer

/-! What one pass of the loop does to the lease table and to the cursor. -/

/-- A DISCOVER of a client that is not in the table is answered with an OFFER. -/
structure OffersNew (server : DhcpServer) (datagram : Datagram)
    (localAlloc : Bool) (offer : DhcpServer.Transmission) : Prop where
  accepts : server.Accepts datagram .discover
  unknown : (server.checkIsClientExist datagram.identifier).1 = false
  sent : (server.iteration datagram localAlloc).sent = some offer
  type : offer.messageType = DHCPMessageTypes.offer.code

/-- The datagrams that must not touch the lease state. -/
inductive Quiet (server : DhcpServer) (datagram : Datagram) : Prop
  | tooShort (short : datagram.bytesReceived < optionsOffset)
  | badOp (other : datagram.readBuffer 0 ≠ opBootRequest)
  | badCookie (other : datagram.readBuffer.read sizeofDHCPMessage
      dhcpMagicCookie.length ≠ dhcpMagicCookie)
  | noType (missing : datagram.messageType? = none)
  | ignoredType {messageType} (typed : datagram.messageType? = some messageType)
      (ignored : messageType.isIgnored = true)
  | ownHost (own : server.isOwnHost datagram.clientName = true)
  | request (typed : datagram.messageType? = some .request)
  | known (found : (server.checkIsClientExist datagram.identifier).1 = true)

structure LeaseEffect (server : DhcpServer) (datagram : Datagram)
    (localAlloc : Bool) : Prop where
  atMostOne : (server.iteration datagram localAlloc).server.addressesInUse =
      server.addressesInUse ∨
    ∃ entry, (server.iteration datagram localAlloc).server.addressesInUse =
      server.addressesInUse ++ [entry]
  exactly : (∃ entry,
      (server.iteration datagram localAlloc).server.addressesInUse =
        server.addressesInUse ++ [entry]) ↔
    ∃ offer, OffersNew server datagram localAlloc offer
  holds : ∀ entry offer,
    (server.iteration datagram localAlloc).server.addressesInUse =
      server.addressesInUse ++ [entry] →
    OffersNew server datagram localAlloc offer →
      entry.dwAddrValue = dwIpToValue offer.yiaddr ∧
        entry.pbClientIdentifier = some datagram.identifier ∧
        entry.dwClientIdentifierSize = datagram.identifier.length
  quiet : Quiet server datagram →
    (server.iteration datagram localAlloc).server.addressesInUse =
        server.addressesInUse ∧
      (server.iteration datagram localAlloc).server.lastOfferAddress =
        server.lastOfferAddress

section Effect

variable {server : DhcpServer} {datagram : Datagram} {localAlloc : Bool}

theorem checkIsClientExist_eq_false {identifier : List BYTE} :
    (server.checkIsClientExist identifier).1 = false ↔
      server.knownEntry identifier = none := by
  cases known : server.knownEntry identifier with
  | none => simp [checkIsClientExist_unknown known]
  | some entry => simp [checkIsClientExist_known known]

theorem Quiet.notNew (quiet : Quiet server datagram)
    (accepts : server.Accepts datagram .discover) :
    ¬ server.knownEntry datagram.identifier = none := by
  intro unknown
  have accepted := accepts.isRequest
  simp only [Datagram.isRequest, isDhcpRequest, Bool.and_eq_true,
    decide_eq_true_eq, beq_iff_eq] at accepted
  obtain ⟨⟨long, op⟩, cookie⟩ := accepted
  have typed := accepts.typed
  cases quiet with
  | tooShort short => exact absurd long (Nat.not_le.mpr short)
  | badOp other => exact other op
  | badCookie other => exact other cookie
  | noType missing =>
      rw [missing] at typed
      cases typed
  | ignoredType other ignored =>
      rw [other, Option.some.injEq] at typed
      subst typed
      cases ignored
  | ownHost own =>
      rw [accepts.notOwnHost] at own
      cases own
  | request other =>
      rw [other] at typed
      cases typed
  | known found =>
      rw [checkIsClientExist_eq_false.mpr unknown] at found
      cases found

/-- Only a DISCOVER of a new client can change the server. -/
theorem iteration_unchanged (server : DhcpServer) (datagram : Datagram)
    (localAlloc : Bool) :
    (server.iteration datagram localAlloc).server = server ∨
      (server.Accepts datagram .discover ∧
        server.knownEntry datagram.identifier = none) := by
  refine iteration_rule server datagram localAlloc ?_ ?_
  · intro decision _
    exact Or.inl rfl
  · intro query result inspected responds
    obtain ⟨type, accepts, rfl⟩ := inspect_eq_ok.mp inspected
    have isNew (discover : (datagram.query type).messageType = .discover)
        (unknown : server.knownEntry (datagram.query type).identifier =
          none) :
        server.Accepts datagram .discover ∧
          server.knownEntry datagram.identifier = none := by
      rw [Datagram.query_messageType] at discover
      rw [Datagram.query_identifier] at unknown
      subst discover
      exact ⟨accepts, unknown⟩
    cases responds with
    | grant discover unknown => exact Or.inr (isNew discover unknown)
    | outOfMemory discover unknown => exact Or.inr (isNew discover unknown)
    | zeroAddress discover unknown => exact Or.inr (isNew discover unknown)
    | _ => exact Or.inl rfl

theorem Grants.offersNew {addr : DWORD}
    (grants : Grants server datagram localAlloc addr) :
    OffersNew server datagram localAlloc
      (sendDhcpMessage datagram.request
        (server.offerReply datagram.request (dwValueToIp addr))) where
  accepts := grants.accepts
  unknown := checkIsClientExist_eq_false.mpr grants.unknown
  sent := by rw [grants.iteration]
  type := by rw [sendDhcpMessage_messageType, offerReply_messageType]

theorem OffersNew.exists_grants {offer : DhcpServer.Transmission}
    (offers : OffersNew server datagram localAlloc offer) :
    ∃ addr, Grants server datagram localAlloc addr := by
  obtain ⟨-, unknown, sent, type⟩ := offers
  rw [checkIsClientExist_eq_false] at unknown
  have replies := iteration_replies sent
  generalize (server.iteration datagram localAlloc).server = after at replies
  cases replies with
  | renew accepts known nonzero =>
      rw [unknown] at known
      cases known
  | grant grants => exact ⟨_, grants⟩
  | ack =>
      rw [sendDhcpMessage_messageType, ackReply_messageType] at type
      exact absurd type (by decide)
  | nak =>
      rw [sendDhcpMessage_messageType, nakReply_messageType] at type
      exact absurd type (by decide)

theorem Grants.table {addr : DWORD}
    (grants : Grants server datagram localAlloc addr) :
    (server.iteration datagram localAlloc).server.addressesInUse =
      server.addressesInUse ++ [leaseEntry addr datagram.identifier] := by
  rw [grants.iteration]
  rfl

theorem Grants.holds {addr : DWORD}
    (grants : Grants server datagram localAlloc addr)
    {entry : AddressInUseInformation} {offer : DhcpServer.Transmission}
    (appended : (server.iteration datagram localAlloc).server.addressesInUse =
      server.addressesInUse ++ [entry])
    (offers : OffersNew server datagram localAlloc offer) :
    entry.dwAddrValue = dwIpToValue offer.yiaddr ∧
      entry.pbClientIdentifier = some datagram.identifier ∧
      entry.dwClientIdentifierSize = datagram.identifier.length := by
  rw [grants.table, List.append_cancel_left_eq, List.cons.injEq]
    at appended
  obtain ⟨rfl, -⟩ := appended
  have sent := offers.sent
  rw [grants.offersNew.sent, Option.some.injEq] at sent
  subst sent
  have yiaddr : (server.offerReply datagram.request
      (dwValueToIp addr)).message.yiaddr = dwValueToIp addr := rfl
  rw [sendDhcpMessage_yiaddr, yiaddr, dwIpToValue_dwValueToIp]
  simp only [leaseEntry, and_self]

end Effect

/-- The effect of one pass, in every state of a run. -/
theorem iteration_leaseEffect (netAddress : DhcpNetWorkAddr)
    (events : List Event) (datagram : Datagram) (localAlloc : Bool) :
    LeaseEffect (serverMachine.exec (construct netAddress) events) datagram
      localAlloc := by
  generalize serverMachine.exec (construct netAddress) events = server
  have possible := iteration_cases server datagram localAlloc
  constructor
  · rcases possible with ⟨addr, grants⟩ | unchanged
    · exact Or.inr ⟨_, grants.table⟩
    · exact Or.inl unchanged
  · constructor
    · intro appended
      obtain ⟨entry, appended⟩ := appended
      rcases possible with ⟨addr, grants⟩ | unchanged
      · exact ⟨_, grants.offersNew⟩
      · rw [unchanged, List.self_eq_append_right] at appended
        cases appended
    · intro offered
      obtain ⟨offer, offers⟩ := offered
      obtain ⟨addr, grants⟩ := offers.exists_grants
      exact ⟨_, grants.table⟩
  · intro entry offer appended offers
    obtain ⟨addr, grants⟩ := offers.exists_grants
    exact grants.holds appended offers
  · intro quiet
    rcases iteration_unchanged server datagram localAlloc with
      same | ⟨accepts, unknown⟩
    · rw [same]
      exact ⟨rfl, rfl⟩
    · exact absurd unknown (quiet.notNew accepts)

end PoeDhcp
