import PoeDhcp.LeaseLimits
import PoeDhcp.StaleBytes

namespace PoeDhcp

open Foundation
open DhcpServer

/-! A client that repeats its message gets the same answer. -/

namespace DhcpServer

variable {server other after : DhcpServer}

theorem knownEntry_grow {identifier : List BYTE}
    {entry : AddressInUseInformation}
    (known : server.knownEntry identifier = some entry)
    (larger : server.addressesInUse <+: other.addressesInUse) :
    other.knownEntry identifier = some entry := by
  obtain ⟨later, table⟩ := larger
  unfold knownEntry at known ⊢
  rw [← table, List.find?_append, known, Option.some_or]

theorem knownEntry_lease {identifier : List BYTE} (addr : DWORD)
    (unknown : server.knownEntry identifier = none)
    (nonempty : identifier ≠ []) :
    (server.lease addr identifier).knownEntry identifier =
      some (leaseEntry addr identifier) := by
  have same : sameClient identifier (leaseEntry addr identifier) = true :=
    (sameClient_leaseEntry addr identifier).mpr ⟨nonempty, rfl⟩
  unfold knownEntry at unknown ⊢
  rw [lease, List.find?_append, unknown, Option.none_or,
    List.find?_cons_of_pos same]

theorem Accepts.congr (hostName : other.serverHostName = server.serverHostName)
    {datagram : Datagram} {type : DHCPMessageTypes}
    (accepts : server.Accepts datagram type) : other.Accepts datagram type := by
  refine ⟨accepts.toRelevant, ?_⟩
  have notOwnHost := accepts.notOwnHost
  unfold isOwnHost at notOwnHost ⊢
  rw [hostName]
  exact notOwnHost

/-- What of a server is in its replies besides the address. -/
structure SameName (server other : DhcpServer) : Prop where
  config : other.serverAddress = server.serverAddress
  hostName : other.serverHostName = server.serverHostName

namespace SameName

theorem replyTemplate (same : SameName server other) (request : DHCPMessage) :
    other.replyTemplate request = server.replyTemplate request := by
  simp only [DhcpServer.replyTemplate, packetOptions, createDhcpReplyPacket,
    same.config, same.hostName]

theorem offerReply (same : SameName server other) (request : DHCPMessage)
    (addr : DWORD) :
    other.offerReply request addr = server.offerReply request addr := by
  simp only [DhcpServer.offerReply, same.replyTemplate]

theorem ackReply (same : SameName server other) (request : DHCPMessage)
    (addr : DWORD) :
    other.ackReply request addr = server.ackReply request addr := by
  simp only [DhcpServer.ackReply, same.replyTemplate]

theorem accepts (same : SameName server other) {datagram : Datagram}
    {type : DHCPMessageTypes} (accepts : server.Accepts datagram type) :
    other.Accepts datagram type :=
  accepts.congr same.hostName

/-- The verdict on a known client. -/
theorem verdict (same : SameName server other) {query : Query}
    {entry : AddressInUseInformation}
    (known : server.knownEntry query.identifier = some entry)
    (still : other.knownEntry query.identifier = some entry) :
    other.verdict query = server.verdict query := by
  unfold DhcpServer.verdict requestVerdict namesThisServer
  rw [checkIsClientExist_known known, checkIsClientExist_known still,
    same.config]

end SameName

/-- A datagram that got an OFFER or an ACK gets the same again from every later
server with the same name. -/
theorem iteration_again {datagram : Datagram} {localAlloc : Bool}
    {transmission : Transmission} (nonempty : datagram.identifier ≠ [])
    (sent : (server.iteration datagram localAlloc).sent = some transmission)
    (notNak : transmission.messageType ≠ DHCPMessageTypes.nak.code)
    (same : SameName server other)
    (larger : (server.iteration datagram localAlloc).server.addressesInUse <+:
      other.addressesInUse) (localAlloc' : Bool) :
    (other.iteration datagram localAlloc').sent = some transmission := by
  have replies := iteration_replies sent
  generalize (server.iteration datagram localAlloc).server = result
    at replies larger
  cases replies with
  | renew accepts known nonzero =>
      have still := knownEntry_grow known larger
      rw [(same.accepts accepts).iteration,
        respond_renew (Datagram.query_messageType _ _)
          (by rw [Datagram.query_identifier, still]) nonzero,
        Datagram.query_request, same.offerReply]
  | grant grants =>
      have still := knownEntry_grow
        (knownEntry_lease _ grants.unknown nonempty) larger
      rw [(same.accepts grants.accepts).iteration,
        respond_renew (Datagram.query_messageType _ _)
          (by rw [Datagram.query_identifier, still]) grants.nonzero,
        Datagram.query_request, same.offerReply]
      rfl
  | ack accepts known acked =>
      have still := knownEntry_grow known larger
      rw [← same.verdict (by rw [Datagram.query_identifier, known])
        (by rw [Datagram.query_identifier, still])] at acked
      rw [(same.accepts accepts).iteration,
        respond_ack (Datagram.query_messageType _ _)
          (by rw [Datagram.query_identifier, still]) acked,
        Datagram.query_request, same.ackReply]
  | nak accepts refused =>
      refine absurd ?_ notNak
      rw [sendDhcpMessage_messageType, nakReply_messageType]

end DhcpServer

/-- Which options of a message are read depends on the host name only. -/
theorem EndsInTime.congr {server other : DhcpServer}
    (hostName : other.serverHostName = server.serverHostName)
    {datagram : Datagram} (inTime : EndsInTime server datagram) :
    EndsInTime other datagram where
  messageType := inTime.messageType
  hostName := inTime.hostName
  hostNameEnd := by
    intro type relevant
    unfold NameRunsOn
    rw [hostName]
    exact inTime.hostNameEnd type relevant
  clientIdentifier := fun type accepts =>
    inTime.clientIdentifier type (accepts.congr hostName.symm)
  requestedIpAddress := fun accepts =>
    inTime.requestedIpAddress (accepts.congr hostName.symm)
  serverIdentifier := fun accepts =>
    inTime.serverIdentifier (accepts.congr hostName.symm)

/-- Complete options behind which END stands end in time. -/
theorem EndsInTime.of_closed {server : DhcpServer} {datagram : Datagram}
    {items : List (Framing.Item rfc2132)} {rest : List BYTE}
    (area : datagram.optionArea = Framing.encode items ++ optionEnd :: rest) :
    EndsInTime server datagram := by
  have whole (tag announced : BYTE) (isTag : rfc2132.IsTag tag) :
      ¬ datagram.Truncates tag announced := by
    rw [Datagram.Truncates, area]
    exact Framing.not_truncated_of_closed isTag items rest
  refine
    { messageType := fun _ _ => whole _ _ isTag_dhcpMessageType
      hostName := fun _ _ _ => whole _ _ isTag_hostName
      hostNameEnd := ?_
      clientIdentifier := fun _ _ _ => whole _ _ isTag_clientIdentifier
      requestedIpAddress := fun _ => whole _ _ isTag_requestedIpAddress
      serverIdentifier := fun _ => whole _ _ isTag_serverIdentifier }
  intro type _ runsOn
  obtain ⟨name, ends, -⟩ := runsOn
  rw [area] at ends
  exact Framing.not_endsWithField_of_closed isTag_hostName items rest ends

example : EndsInTime sampleServer (discoverOf 7) := by
  let items : List (Framing.Item rfc2132) :=
    [.field ⟨optionDhcpMessageType, [1], by decide, by decide, by decide⟩,
      .field ⟨optionClientIdentifier, [1, 7], by decide, by decide,
        by decide⟩]
  have area : (discoverOf 7).optionArea =
      Framing.encode items ++ [optionEnd] := by decide +kernel
  exact .of_closed area

/-- A later message with the same received bytes gets the same answer, byte for
byte, if no option that is read is cut off by the end of these bytes, the host
name does not run on behind them, and the server's own has not changed in between.
What stands behind the received bytes may differ. -/
def Handled.Repeats (first second : Handled) : Prop :=
  ∀ transmission, first.datagram.SameReceived second.datagram →
    EndsInTime first.before first.datagram →
    first.datagram.identifier ≠ [] →
    second.before.serverHostName = first.before.serverHostName →
    first.result.sent = some transmission →
    transmission.messageType ≠ DHCPMessageTypes.nak.code →
      second.result.sent = some transmission

/-- The state behind a processed datagram, however much later. -/
structure Remembers (server : DhcpServer) (handled : Handled) : Prop where
  config : server.serverAddress = handled.before.serverAddress
  table : handled.result.server.addressesInUse <+: server.addressesInUse

theorem Remembers.repeats {server : DhcpServer} {first second : Handled}
    (remembers : Remembers server first)
    (before : SameLeases server second.before) : first.Repeats second := by
  intro transmission same inTime nonempty hostName sent notNak
  unfold Handled.result at sent ⊢
  rw [(inTime.congr hostName).same same]
  refine iteration_again nonempty sent notNak ⟨?_, hostName⟩ ?_ _
  · exact before.config.trans remembers.config
  · rw [before.table]
    exact remembers.table

/-- In every run of a server the answers other than NAKs are repeated with the
messages that are judged on their received bytes. -/
theorem answers_repeated (server : DhcpServer) (events : List Event) :
    (serverMachine.outputs server events).Pairwise Handled.Repeats := by
  refine serverMachine.outputs_pairwise Remembers ?_ ?_ ?_ ?_ events server
  · intro state event handled remembers
    exact
      { config := (serverMachine.next_config state event).2.trans
          remembers.config
        table := remembers.table.trans (serverMachine.next_table state event) }
  · intro state event handled member
    have processes := emit_processes member
    exact
      { config := (serverMachine.next_config state event).2.trans
          processes.before.config.symm
        table := processes.table }
  · intro state event first remembers second member
    exact remembers.repeats (emit_processes member).before
  · exact fun state event => emit_pairwise state event _

/-- This one is cut off: it takes its identifier from the bytes behind it, and when
they have changed it is answered with another address. -/
example :
    (serverMachine.outputs sampleServer
        [.receive (.received (cutDiscover fun _ => 0) true true),
          .receive (.received (cutDiscover fun _ => 1) true true)]).map
      (fun handled => handled.result.sent.map (·.reply.message.yiaddr)) =
    [some 0x0232a8c0, some 0x0332a8c0] := by
  decide +kernel

end PoeDhcp
