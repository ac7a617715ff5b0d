import PoeDhcp.Discovery
import PoeDhcp.LeaseGuarantees
import PoeDhcp.ServerSelection

namespace PoeDhcp

open Foundation
open DhcpServer

/-! The configuration that every reply of a run carries. -/

theorem sent_serverId {server : DhcpServer} {datagram : Datagram}
    {localAlloc : Bool} {transmission : Transmission}
    (sent : (server.iteration datagram localAlloc).sent =
      some transmission) :
    transmission.reply.options.pbServerID =
      optionServerIdentifier :: 4 ::
        Word32.toBytes server.serverAddress.address := by
  cases iteration_answers sent <;> rw [sendDhcpMessage_options] <;> rfl

theorem outputs_serverAddress (netAddress : DhcpNetWorkAddr)
    (events : List Event) :
    ∀ handled ∈ serverMachine.outputs (construct netAddress) events,
      handled.before.serverAddress = setServerAddress netAddress :=
  serverMachine.outputs_induction
    (I := fun server => server.serverAddress = setServerAddress netAddress)
    events (construct netAddress) rfl
    (fun event _ server config =>
      ⟨(serverMachine.next_config server event).2.trans config,
        fun _ member =>
          (serverMachine.emit_serverAddress member).trans config⟩)

/-! Requests that take up an offer. -/

/-- The received options are a sequence of options, up to the end of the message
or to END. -/
def Datagram.HasOptions (datagram : Datagram)
    (items : List (Framing.Item rfc2132)) : Prop :=
  ∃ rest, datagram.optionArea = Framing.encode items ++ rest ∧
    (rest = [] ∨ rest.head? = some optionEnd)

inductive TakesUp (offer : Transmission) (datagram : Datagram)
    (items : List (Framing.Item rfc2132)) : Prop
  | selecting {serverId requested : Framing.Field rfc2132}
      (hserverId : Framing.firstField optionServerIdentifier items =
        some serverId)
      (sameServerId : (Framing.Item.field serverId).encode =
        offer.reply.options.pbServerID)
      (hrequested : Framing.firstField optionRequestedIpAddress items =
        some requested)
      (sameAddress : requested.value = Word32.toBytes offer.yiaddr)
  | initReboot {requested : Framing.Field rfc2132}
      (noServerId : Framing.firstField optionServerIdentifier items = none)
      (hrequested : Framing.firstField optionRequestedIpAddress items =
        some requested)
      (sameAddress : requested.value = Word32.toBytes offer.yiaddr)
  | renewing
      (noServerId : Framing.firstField optionServerIdentifier items = none)
      (notRequested : Framing.firstField optionRequestedIpAddress items = none)
      (sameAddress : datagram.request.ciaddr = offer.yiaddr)

theorem Datagram.HasOptions.carries {datagram : Datagram}
    {items : List (Framing.Item rfc2132)} (options : datagram.HasOptions items)
    (long : 2 < datagram.optionsSize) {tag : BYTE}
    (isTag : rfc2132.IsTag tag)
    {field : Framing.Field rfc2132}
    (hfield : Framing.firstField tag items = some field) {word : DWORD}
    (value : field.value = Word32.toBytes word) :
    datagram.Carries tag word := by
  obtain ⟨rest, area, -⟩ := options
  unfold Datagram.optionArea at area
  obtain ⟨found, search, size, bytes⟩ :=
    findOptionData_encode isTag long area hfield
  have four : found.size = 4 := by
    rw [size, value, Word32.length_toBytes]
  rw [four, value] at bytes
  exact ⟨found, search, four, Memory.load32_of_read bytes⟩

theorem Datagram.HasOptions.not_carries {datagram : Datagram}
    {items : List (Framing.Item rfc2132)} (options : datagram.HasOptions items)
    (long : 2 < datagram.optionsSize) {tag : BYTE}
    (isTag : rfc2132.IsTag tag)
    (hfield : Framing.firstField tag items = none) (word : DWORD) :
    ¬ datagram.Carries tag word := by
  obtain ⟨rest, area, closed⟩ := options
  unfold Datagram.optionArea at area
  intro carried
  obtain ⟨found, search, -⟩ := carried
  have missing := findOptionData_encode_none isTag long area closed hfield
  unfold Datagram.findOption at search
  rw [missing] at search
  cases search

/-! The three ways to an ACK for a known client. -/

section Verdict

variable {server : DhcpServer} {request : DHCPMessage} {options : Memory}
variable {optionsSize : Nat} {previousOfferAddr : DWORD}

theorem requestVerdict_named
    (named : server.namesThisServer options optionsSize = true) :
    server.requestVerdict request options optionsSize true previousOfferAddr =
      some .ack := by
  simp only [requestVerdict, named, if_true]

theorem requestVerdict_requested
    (unnamed : server.namesThisServer options optionsSize = false)
    (requested : requestIpAddress options optionsSize = previousOfferAddr)
    (valid : previousOfferAddr ≠ inaddrBroadcast) :
    server.requestVerdict request options optionsSize true previousOfferAddr =
      some .ack := by
  simp only [requestVerdict, unnamed, requested, valid.symm, ne_eq,
    not_false_eq_true, true_or, and_self, if_true, Bool.false_eq_true,
    if_false]

theorem requestVerdict_renewed
    (unnamed : server.namesThisServer options optionsSize = false)
    (notRequested : requestIpAddress options optionsSize = inaddrBroadcast)
    (renewed : request.ciaddr = previousOfferAddr)
    (nonzero : previousOfferAddr ≠ 0) :
    server.requestVerdict request options optionsSize true previousOfferAddr =
      some .ack := by
  simp only [requestVerdict, unnamed, notRequested, renewed, nonzero, ne_eq,
    not_false_eq_true, and_self, or_true, if_true, Bool.false_eq_true,
    if_false]

end Verdict

theorem verdict_of_takesUp {server : DhcpServer} {datagram : Datagram}
    {offer : Transmission} {items : List (Framing.Item rfc2132)}
    (long : 2 < datagram.optionsSize) (options : datagram.HasOptions items)
    (takesUp : TakesUp offer datagram items)
    (serverId : offer.reply.options.pbServerID =
      optionServerIdentifier :: 4 ::
        Word32.toBytes server.serverAddress.address)
    (known : server.checkIsClientExist datagram.identifier =
      (true, offer.yiaddr))
    (nonzero : offer.yiaddr ≠ 0) (valid : offer.yiaddr ≠ inaddrBroadcast) :
    server.verdict (datagram.query .request) = some .ack := by
  rw [verdict, Datagram.query_request, Datagram.query_options,
    Datagram.query_optionsSize, Datagram.query_identifier, known]
  have unnamed : Framing.firstField optionServerIdentifier items = none →
      server.namesThisServer datagram.options datagram.optionsSize =
        false := by
    intro noServerId
    by_contra named
    rw [Bool.not_eq_false, namesThisServer_iff] at named
    exact options.not_carries long isTag_serverIdentifier noServerId _ named
  cases takesUp with
  | selecting hserverId sameServerId hrequested sameAddress =>
      rw [serverId] at sameServerId
      simp only [Framing.Item.encode, List.cons.injEq] at sameServerId
      exact requestVerdict_named (namesThisServer_iff.mpr
        (options.carries long isTag_serverIdentifier hserverId
          sameServerId.2.2))
  | initReboot noServerId hrequested sameAddress =>
      exact requestVerdict_requested (unnamed noServerId)
        (requestIpAddress_of_carries
          (options.carries long isTag_requestedIpAddress hrequested
            sameAddress)) valid
  | renewing noServerId notRequested sameAddress =>
      exact requestVerdict_renewed (unnamed noServerId)
        (requestIpAddress_of_not_carries
          (options.not_carries long isTag_requestedIpAddress notRequested))
        sameAddress nonzero

/-! The lease behind an offer of the run. -/

theorem offered_lease {netAddress : DhcpNetWorkAddr} {events : List Event}
    {offered : Handled} {identifier : List BYTE} {yiaddr : DWORD}
    (member : offered ∈ serverMachine.outputs (construct netAddress) events)
    (tells : offered.TellsLease identifier yiaddr)
    (nonempty : identifier ≠ []) :
    PoolAddress netAddress (dwIpToValue yiaddr) ∧
      (serverMachine.exec (construct netAddress) events).checkIsClientExist
        identifier = (true, yiaddr) := by
  obtain ⟨book, represents, run⟩ := run_simulates netAddress events
  obtain ⟨kind, told⟩ := tells.announced_of_mem member
  have held := run.announced_mem _ told
  obtain ⟨entry, known, address⟩ := represents.known_of_lease nonempty held
  refine ⟨book.pooled held, ?_⟩
  rw [checkIsClientExist_known known, address, dwValueToIp_dwIpToValue]

theorem offered_serverId {netAddress : DhcpNetWorkAddr} {events : List Event}
    {offered : Handled} {offer : Transmission}
    (member : offered ∈ serverMachine.outputs (construct netAddress) events)
    (sent : offered.result.sent = some offer) :
    offer.reply.options.pbServerID =
      optionServerIdentifier :: 4 ::
        Word32.toBytes (setServerAddress netAddress).address := by
  rw [sent_serverId sent, outputs_serverAddress netAddress events _ member]

/-- A client that was sent an OFFER gets an ACK for the offered address when it
takes the offer up later, whatever has happened in between. -/
theorem handshake_completes {netAddress : DhcpNetWorkAddr}
    (below : maxAddrValueOf netAddress < inaddrBroadcast)
    {before after : List Event} {offered : Handled} {offer : Transmission}
    (member : offered ∈ serverMachine.outputs (construct netAddress) before)
    {identifier : List BYTE}
    (identified : offered.identifier? = some identifier)
    (nonempty : identifier ≠ [])
    (sent : offered.result.sent = some offer)
    (type : offer.messageType = DHCPMessageTypes.offer.code)
    {datagram : Datagram}
    (accepts : (serverMachine.exec (construct netAddress)
      (before ++ after)).Accepts datagram .request)
    (same : datagram.identifier = identifier)
    {items : List (Framing.Item rfc2132)} (options : datagram.HasOptions items)
    (takesUp : TakesUp offer datagram items) (localAlloc : Bool) :
    ∃ ack, ((serverMachine.exec (construct netAddress)
        (before ++ after)).iteration datagram localAlloc).sent = some ack ∧
      ack.messageType = DHCPMessageTypes.ack.code ∧
      ack.yiaddr = offer.yiaddr ∧ ack.ciaddr = offer.yiaddr := by
  have earlier : offered ∈ serverMachine.outputs (construct netAddress)
      (before ++ after) := by
    rw [Machine.outputs_append]
    exact List.mem_append_left _ member
  have tells : offered.TellsLease identifier offer.yiaddr :=
    Or.inl ⟨identified, offer, sent, type, rfl⟩
  obtain ⟨pooled, known⟩ := offered_lease earlier tells nonempty
  have serverId := offered_serverId member sent
  rw [← exec_serverAddress netAddress (before ++ after)] at serverId
  have nonzero : offer.yiaddr ≠ 0 := fun zero =>
    pooled.nonzero (Word32.reverseBytes_eq_zero.mpr zero)
  have valid : offer.yiaddr ≠ inaddrBroadcast := by
    intro broadcast
    have upper := pooled.le_max
    rw [broadcast] at upper
    exact absurd below (BitVec.not_lt.mpr upper)
  rw [← same] at known
  generalize serverMachine.exec (construct netAddress) (before ++ after) =
    server at accepts known serverId
  have acked := verdict_of_takesUp
    (Datagram.long_of_messageType? accepts.typed) options takesUp serverId
    known nonzero valid
  obtain ⟨entry, hentry, address⟩ := known_of_checkIsClientExist known
  rw [← Datagram.query_identifier datagram .request] at hentry
  rw [accepts.iteration,
    respond_ack (Datagram.query_messageType _ _) hentry acked]
  refine ⟨_, rfl, ?_⟩
  simp only [sendDhcpMessage_messageType, sendDhcpMessage_yiaddr,
    sendDhcpMessage_ciaddr, ackReply, address, replyTemplate_setMessageType,
    and_self]

/-! The handshake of a first client while a second one asks too. -/

def firstOffer : Transmission :=
  sendDhcpMessage (discoverOf 7).request
    (sampleServer.offerReply (discoverOf 7).request
      (dwValueToIp (minAddrValueOf sampleNetAddress)))

def selectingOptions : List (Framing.Item rfc2132) :=
  [.field ⟨optionDhcpMessageType, [3], by decide, by decide, by decide⟩,
    .field ⟨optionClientIdentifier, [1, 7], by decide, by decide, by decide⟩,
    .field ⟨optionServerIdentifier, [192, 168, 50, 1], by decide, by decide,
      by decide⟩,
    .field ⟨optionRequestedIpAddress, [192, 168, 50, 2], by decide, by decide,
      by decide⟩]

def selectingRequest : Datagram :=
  .ofBytes (clientMessage 0 (Framing.encode selectingOptions ++ [optionEnd]))
    (fun _ => 0) (clientMessage_bound 0 (by decide))

def firstEvents : List Event :=
  [.start none sampleEnv, .receive (.received (discoverOf 7) true true)]

theorem firstEvents_outputs :
    serverMachine.outputs (construct sampleNetAddress) firstEvents =
      [⟨sampleServer, discoverOf 7, true⟩] :=
  outputs_discoverOf 7

def firstOffered : Handled := ⟨sampleServer, discoverOf 7, true⟩

def secondEvents : List Event :=
  [.receive (.received (discoverOf 8) true true)]

theorem handshake_of_first_client :
    ∃ ack, ((serverMachine.exec (construct sampleNetAddress)
        (firstEvents ++ secondEvents)).iteration selectingRequest true).sent =
          some ack ∧
      ack.messageType = DHCPMessageTypes.ack.code ∧
      ack.yiaddr = firstOffer.yiaddr ∧ ack.ciaddr = firstOffer.yiaddr := by
  have member : firstOffered ∈
      serverMachine.outputs (construct sampleNetAddress) firstEvents := by
    rw [firstEvents_outputs]
    exact List.mem_singleton_self _
  have identified : firstOffered.identifier? = some [1, 7] := by
    decide +kernel
  have sent : firstOffered.result.sent = some firstOffer := by decide +kernel
  have accepts : (serverMachine.exec (construct sampleNetAddress)
      (firstEvents ++ secondEvents)).Accepts selectingRequest .request :=
    ⟨⟨by decide +kernel, by decide +kernel, rfl⟩, by decide +kernel⟩
  have options : selectingRequest.HasOptions selectingOptions :=
    ⟨[optionEnd], by decide +kernel, Or.inr rfl⟩
  have takesUp : TakesUp firstOffer selectingRequest selectingOptions :=
    .selecting rfl (by decide +kernel) rfl (by decide +kernel)
  exact handshake_completes (by decide +kernel) member identified
    (by decide) sent (by decide +kernel) accepts (by decide +kernel) options
    takesUp true

end PoeDhcp
