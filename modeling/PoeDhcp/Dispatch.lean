import PoeDhcp.Model.Run

namespace PoeDhcp

open Foundation

namespace DhcpServer

variable {server : DhcpServer} {query : Query} {localAlloc : Bool}

/-! The three replies, and what one pass of the dispatch can do. -/

def replyTemplate (server : DhcpServer) (request : DHCPMessage) : Reply :=
  server.packetOptions (server.createDhcpReplyPacket request Reply.zero)

def offerReply (server : DhcpServer) (request : DHCPMessage) (addr : DWORD) :
    Reply where
  message := { (server.replyTemplate request).message with yiaddr := addr }
  options := (server.replyTemplate request).options.setMessageType .offer

def ackReply (server : DhcpServer) (request : DHCPMessage) (addr : DWORD) :
    Reply where
  message :=
    { (server.replyTemplate request).message with
      ciaddr := addr
      yiaddr := addr }
  options := (server.replyTemplate request).options.setMessageType .ack

def nakReply (server : DhcpServer) (request : DHCPMessage) : Reply where
  message := (server.replyTemplate request).message
  options :=
    { (server.replyTemplate request).options.setMessageType .nak with
      pbLeaseTime := List.replicate 6 0
      pbSubnetMask := List.replicate 6 0 }

@[simp] theorem replyTemplate_setMessageType (request : DHCPMessage)
    (type : DHCPMessageTypes) :
    ((server.replyTemplate request).options.setMessageType type).messageType =
      type.code := rfl

@[simp] theorem replyTemplate_messageType (request : DHCPMessage) :
    (server.replyTemplate request).options.messageType = 0 := rfl

theorem offerReply_messageType (request : DHCPMessage) (addr : DWORD) :
    (server.offerReply request addr).options.messageType =
      DHCPMessageTypes.offer.code := rfl

theorem ackReply_messageType (request : DHCPMessage) (addr : DWORD) :
    (server.ackReply request addr).options.messageType =
      DHCPMessageTypes.ack.code := rfl

theorem nakReply_messageType (request : DHCPMessage) :
    (server.nakReply request).options.messageType =
      DHCPMessageTypes.nak.code := rfl

namespace Transmission

def messageType (transmission : Transmission) : BYTE :=
  transmission.reply.options.messageType

def yiaddr (transmission : Transmission) : DWORD :=
  transmission.reply.message.yiaddr

def ciaddr (transmission : Transmission) : DWORD :=
  transmission.reply.message.ciaddr

end Transmission

@[simp] theorem sendDhcpMessage_options (request : DHCPMessage)
    (reply : Reply) :
    (sendDhcpMessage request reply).reply.options = reply.options := by
  unfold sendDhcpMessage
  dsimp only
  split <;> rfl

@[simp] theorem sendDhcpMessage_messageType (request : DHCPMessage)
    (reply : Reply) :
    (sendDhcpMessage request reply).messageType =
      reply.options.messageType := by
  simp [Transmission.messageType]

@[simp] theorem sendDhcpMessage_yiaddr (request : DHCPMessage)
    (reply : Reply) :
    (sendDhcpMessage request reply).yiaddr = reply.message.yiaddr := by
  unfold Transmission.yiaddr sendDhcpMessage
  dsimp only
  split <;> rfl

@[simp] theorem sendDhcpMessage_ciaddr (request : DHCPMessage)
    (reply : Reply) :
    (sendDhcpMessage request reply).ciaddr = reply.message.ciaddr := by
  unfold Transmission.ciaddr sendDhcpMessage
  dsimp only
  split <;> rfl

/-! The lookup of a client. -/

def knownEntry (server : DhcpServer) (identifier : List BYTE) :
    Option AddressInUseInformation :=
  server.addressesInUse.find? (sameClient identifier)

theorem knownEntry_eq_none {identifier : List BYTE} :
    server.knownEntry identifier = none ↔
      ∀ entry ∈ server.addressesInUse,
        ¬ sameClient identifier entry = true :=
  List.find?_eq_none

theorem knownEntry_mem {identifier : List BYTE}
    {entry : AddressInUseInformation}
    (known : server.knownEntry identifier = some entry) :
    entry ∈ server.addressesInUse ∧ sameClient identifier entry = true :=
  ⟨List.mem_of_find?_eq_some known, List.find?_some known⟩

theorem checkIsClientExist_known {identifier : List BYTE}
    {entry : AddressInUseInformation}
    (known : server.knownEntry identifier = some entry) :
    server.checkIsClientExist identifier =
      (true, dwValueToIp entry.dwAddrValue) := by
  unfold knownEntry at known
  unfold checkIsClientExist
  rw [known]

theorem checkIsClientExist_unknown {identifier : List BYTE}
    (unknown : server.knownEntry identifier = none) :
    server.checkIsClientExist identifier = (false, inaddrBroadcast) := by
  unfold knownEntry at unknown
  unfold checkIsClientExist
  rw [unknown]

theorem known_of_checkIsClientExist {identifier : List BYTE} {addr : DWORD}
    (check : server.checkIsClientExist identifier = (true, addr)) :
    ∃ entry, server.knownEntry identifier = some entry ∧
      dwValueToIp entry.dwAddrValue = addr := by
  cases entry? : server.knownEntry identifier with
  | none =>
      rw [checkIsClientExist_unknown entry?] at check
      cases check
  | some entry =>
      rw [checkIsClientExist_known entry?, Prod.mk.injEq] at check
      exact ⟨entry, rfl, check.2⟩

/-- The verdict of `packetRequestAck` on the message of a query. -/
def verdict (server : DhcpServer) (query : Query) : Option DHCPMessageTypes :=
  server.requestVerdict query.request query.options query.optionsSize
    (server.checkIsClientExist query.identifier).1
    (server.checkIsClientExist query.identifier).2

theorem requestVerdict_cases (server : DhcpServer) (request : DHCPMessage)
    (options : Memory) (optionsSize : Nat) (hasClientBefore : Bool)
    (previousOfferAddr : DWORD) :
    (server.requestVerdict request options optionsSize hasClientBefore
        previousOfferAddr = some .ack ∧ hasClientBefore = true) ∨
      server.requestVerdict request options optionsSize hasClientBefore
        previousOfferAddr = some .nak ∨
      server.requestVerdict request options optionsSize hasClientBefore
        previousOfferAddr = none := by
  unfold requestVerdict
  dsimp only
  split
  · cases hasClientBefore <;> simp
  · split
    · split
      · rename_i held
        exact Or.inl ⟨rfl, held.1⟩
      · exact Or.inr (Or.inl rfl)
    · exact Or.inr (Or.inr rfl)

theorem verdict_cases (server : DhcpServer) (query : Query) :
    (server.verdict query = some .ack ∧
        ∃ entry, server.knownEntry query.identifier = some entry) ∨
      server.verdict query = some .nak ∨ server.verdict query = none := by
  rcases requestVerdict_cases server query.request query.options
      query.optionsSize (server.checkIsClientExist query.identifier).1
      (server.checkIsClientExist query.identifier).2 with
    ⟨acked, known⟩ | other
  · refine Or.inl ⟨acked, ?_⟩
    cases entry? : server.knownEntry query.identifier with
    | some entry => exact ⟨entry, rfl⟩
    | none =>
        rw [checkIsClientExist_unknown entry?] at known
        contradiction
  · exact Or.inr other

/-! The search for a free address, and the entry that records a lease. -/

def searchAddress (server : DhcpServer) : Option DWORD :=
  server.assignLoop server.minAddrValue server.maxAddrValue server.assignFuel 0
    (server.lastOfferAddress + 1)

theorem assignAddress_found {addr : DWORD}
    (found : server.searchAddress = some addr) :
    server.assignAddress = (addr, { server with lastOfferAddress := addr }) := by
  unfold searchAddress at found
  unfold assignAddress
  rw [found]

theorem assignAddress_exhausted (exhausted : server.searchAddress = none) :
    server.assignAddress = (0, server) := by
  unfold searchAddress at exhausted
  unfold assignAddress
  rw [exhausted]

def leaseEntry (addr : DWORD) (identifier : List BYTE) :
    AddressInUseInformation where
  dwAddrValue := addr
  pbClientIdentifier := some identifier
  dwClientIdentifierSize := identifier.length

def lease (server : DhcpServer) (addr : DWORD) (identifier : List BYTE) :
    DhcpServer :=
  { server with
    addressesInUse := server.addressesInUse ++ [leaseEntry addr identifier]
    lastOfferAddress := addr }

/-- Everything the dispatch can do with a message. -/
inductive Responds (server : DhcpServer) (query : Query) (localAlloc : Bool) :
    Iteration → Prop
  | renew {entry}
      (discover : query.messageType = .discover)
      (known : server.knownEntry query.identifier = some entry)
      (nonzero : entry.dwAddrValue ≠ 0) :
      Responds server query localAlloc
        ⟨server, .dispatched .discover, some (sendDhcpMessage query.request
          (server.offerReply query.request (dwValueToIp entry.dwAddrValue)))⟩
  | zeroEntry {entry}
      (discover : query.messageType = .discover)
      (known : server.knownEntry query.identifier = some entry)
      (zero : entry.dwAddrValue = 0) :
      Responds server query localAlloc
        ⟨server, .dispatched .discover, none⟩
  | grant {addr}
      (discover : query.messageType = .discover)
      (unknown : server.knownEntry query.identifier = none)
      (found : server.searchAddress = some addr)
      (nonzero : addr ≠ 0)
      (allocated : localAlloc = true) :
      Responds server query localAlloc
        ⟨server.lease addr query.identifier, .dispatched .discover,
          some (sendDhcpMessage query.request
            (server.offerReply query.request (dwValueToIp addr)))⟩
  | outOfMemory {addr}
      (discover : query.messageType = .discover)
      (unknown : server.knownEntry query.identifier = none)
      (found : server.searchAddress = some addr)
      (nonzero : addr ≠ 0)
      (refused : localAlloc = false) :
      Responds server query localAlloc
        ⟨{ server with lastOfferAddress := addr }, .dispatched .discover, none⟩
  | zeroAddress
      (discover : query.messageType = .discover)
      (unknown : server.knownEntry query.identifier = none)
      (found : server.searchAddress = some 0) :
      Responds server query localAlloc
        ⟨{ server with lastOfferAddress := 0 }, .dispatched .discover, none⟩
  | exhausted
      (discover : query.messageType = .discover)
      (unknown : server.knownEntry query.identifier = none)
      (full : server.searchAddress = none) :
      Responds server query localAlloc ⟨server, .dispatched .discover, none⟩
  | ack {entry}
      (request : query.messageType = .request)
      (known : server.knownEntry query.identifier = some entry)
      (acked : server.verdict query = some .ack) :
      Responds server query localAlloc
        ⟨server, .dispatched .request, some (sendDhcpMessage query.request
          (server.ackReply query.request (dwValueToIp entry.dwAddrValue)))⟩
  | nak
      (request : query.messageType = .request)
      (refused : server.verdict query = some .nak) :
      Responds server query localAlloc
        ⟨server, .dispatched .request, some (sendDhcpMessage query.request
          (server.nakReply query.request))⟩
  | invalid
      (request : query.messageType = .request)
      (silent : server.verdict query = none) :
      Responds server query localAlloc ⟨server, .dispatched .request, none⟩
  | other
      (notDiscover : query.messageType ≠ .discover)
      (notRequest : query.messageType ≠ .request) :
      Responds server query localAlloc
        ⟨server, .dispatched query.messageType, none⟩

theorem packetOldClientOffer_eq (reply : Reply) (addr : DWORD) :
    packetOldClientOffer reply (dwValueToIp addr) =
      if addr ≠ 0 then
        (true,
          { message := { reply.message with yiaddr := dwValueToIp addr }
            options := reply.options.setMessageType .offer })
      else (false, reply) := by
  unfold packetOldClientOffer
  simp

/-! A DISCOVER case by case. -/

theorem respond_renew {entry : AddressInUseInformation}
    (discover : query.messageType = .discover)
    (known : server.knownEntry query.identifier = some entry)
    (nonzero : entry.dwAddrValue ≠ 0) :
    server.respond query localAlloc =
      ⟨server, .dispatched .discover, some (sendDhcpMessage query.request
        (server.offerReply query.request
          (dwValueToIp entry.dwAddrValue)))⟩ := by
  simp only [respond, discover, checkIsClientExist_known known, if_true,
    packetOldClientOffer_eq, nonzero, ne_eq, not_false_eq_true]
  rfl

theorem respond_zeroEntry {entry : AddressInUseInformation}
    (discover : query.messageType = .discover)
    (known : server.knownEntry query.identifier = some entry)
    (zero : entry.dwAddrValue = 0) :
    server.respond query localAlloc =
      ⟨server, .dispatched .discover, none⟩ := by
  simp only [respond, discover, checkIsClientExist_known known, if_true,
    packetOldClientOffer_eq, zero, ne_eq, not_true_eq_false, if_false]
  rfl

theorem respond_exhausted (discover : query.messageType = .discover)
    (unknown : server.knownEntry query.identifier = none)
    (full : server.searchAddress = none) :
    server.respond query localAlloc =
      ⟨server, .dispatched .discover, none⟩ := by
  simp only [respond, discover, checkIsClientExist_unknown unknown,
    packetNewClientOffer, assignAddress_exhausted full, ne_eq,
    not_true_eq_false, if_false, Bool.false_eq_true]

theorem respond_zeroAddress (discover : query.messageType = .discover)
    (unknown : server.knownEntry query.identifier = none)
    (found : server.searchAddress = some 0) :
    server.respond query localAlloc =
      ⟨{ server with lastOfferAddress := 0 }, .dispatched .discover,
        none⟩ := by
  simp only [respond, discover, checkIsClientExist_unknown unknown,
    packetNewClientOffer, assignAddress_found found, ne_eq, not_true_eq_false,
    if_false, Bool.false_eq_true]

theorem respond_outOfMemory {addr : DWORD}
    (discover : query.messageType = .discover)
    (unknown : server.knownEntry query.identifier = none)
    (found : server.searchAddress = some addr) (nonzero : addr ≠ 0) :
    server.respond query false =
      ⟨{ server with lastOfferAddress := addr }, .dispatched .discover,
        none⟩ := by
  simp only [respond, discover, checkIsClientExist_unknown unknown,
    packetNewClientOffer, assignAddress_found found, nonzero, ne_eq,
    not_false_eq_true, if_true, if_false, Bool.false_eq_true]

theorem respond_grant {addr : DWORD}
    (discover : query.messageType = .discover)
    (unknown : server.knownEntry query.identifier = none)
    (found : server.searchAddress = some addr) (nonzero : addr ≠ 0) :
    server.respond query true =
      ⟨server.lease addr query.identifier, .dispatched .discover,
        some (sendDhcpMessage query.request
          (server.offerReply query.request (dwValueToIp addr)))⟩ := by
  simp only [respond, discover, checkIsClientExist_unknown unknown,
    packetNewClientOffer, assignAddress_found found, nonzero, ne_eq,
    not_false_eq_true, if_true, if_false, Bool.false_eq_true]
  rfl

private theorem respond_discover
    (discover : query.messageType = .discover) :
    Responds server query localAlloc (server.respond query localAlloc) := by
  cases known : server.knownEntry query.identifier with
  | some entry =>
      by_cases zero : entry.dwAddrValue = 0
      · rw [respond_zeroEntry discover known zero]
        exact .zeroEntry discover known zero
      · rw [respond_renew discover known zero]
        exact .renew discover known zero
  | none =>
      cases search : server.searchAddress with
      | none =>
          rw [respond_exhausted discover known search]
          exact .exhausted discover known search
      | some addr =>
          by_cases zero : addr = 0
          · subst zero
            rw [respond_zeroAddress discover known search]
            exact .zeroAddress discover known search
          · cases localAlloc with
            | false =>
                rw [respond_outOfMemory discover known search zero]
                exact .outOfMemory discover known search zero rfl
            | true =>
                rw [respond_grant discover known search zero]
                exact .grant discover known search zero rfl

/-! A REQUEST follows its verdict. -/

theorem respond_request_eq (request : query.messageType = .request) :
    server.respond query localAlloc =
      let result := server.packetRequestAck
        (server.replyTemplate query.request) query.request query.options
        query.optionsSize (server.checkIsClientExist query.identifier).1
        (server.checkIsClientExist query.identifier).2
      ⟨server, .dispatched .request,
        if result.1 then some (sendDhcpMessage query.request result.2)
        else none⟩ := by
  simp only [respond, request]
  rfl

theorem respond_ack {entry : AddressInUseInformation}
    (request : query.messageType = .request)
    (known : server.knownEntry query.identifier = some entry)
    (acked : server.verdict query = some .ack) :
    server.respond query localAlloc =
      ⟨server, .dispatched .request, some (sendDhcpMessage query.request
        (server.ackReply query.request
          (dwValueToIp entry.dwAddrValue)))⟩ := by
  rw [respond_request_eq request]
  unfold verdict at acked
  rw [checkIsClientExist_known known] at acked ⊢
  simp only [packetRequestAck, acked, replyTemplate_setMessageType, if_true]
  rfl

theorem respond_nak (request : query.messageType = .request)
    (refused : server.verdict query = some .nak) :
    server.respond query localAlloc =
      ⟨server, .dispatched .request, some (sendDhcpMessage query.request
        (server.nakReply query.request))⟩ := by
  rw [respond_request_eq request]
  unfold verdict at refused
  simp only [packetRequestAck, refused, replyTemplate_setMessageType,
    show DHCPMessageTypes.nak.code ≠ DHCPMessageTypes.ack.code by decide,
    if_true, if_false]
  rfl

theorem respond_invalid (request : query.messageType = .request)
    (silent : server.verdict query = none) :
    server.respond query localAlloc =
      ⟨server, .dispatched .request, none⟩ := by
  rw [respond_request_eq request]
  unfold verdict at silent
  simp only [packetRequestAck, silent, replyTemplate_messageType,
    show (0 : BYTE) ≠ DHCPMessageTypes.ack.code by decide,
    show (0 : BYTE) ≠ DHCPMessageTypes.nak.code by decide, if_false,
    Bool.false_eq_true]

theorem respond_other (notDiscover : query.messageType ≠ .discover)
    (notRequest : query.messageType ≠ .request) :
    server.respond query localAlloc =
      ⟨server, .dispatched query.messageType, none⟩ := by
  unfold respond
  cases type : query.messageType <;> simp_all

theorem respond_responds (server : DhcpServer) (query : Query)
    (localAlloc : Bool) :
    Responds server query localAlloc (server.respond query localAlloc) := by
  by_cases discover : query.messageType = .discover
  · exact respond_discover discover
  by_cases request : query.messageType = .request
  · rcases verdict_cases server query with
      ⟨acked, entry, known⟩ | refused | silent
    · rw [respond_ack request known acked]
      exact .ack request known acked
    · rw [respond_nak request refused]
      exact .nak request refused
    · rw [respond_invalid request silent]
      exact .invalid request silent
  · rw [respond_other discover request]
    exact .other discover request

theorem respond_decision (server : DhcpServer) (query : Query)
    (localAlloc : Bool) :
    (server.respond query localAlloc).decision =
      .dispatched query.messageType := by
  have responds := respond_responds server query localAlloc
  generalize server.respond query localAlloc = result at responds
  cases responds <;> simp_all

/-- The rule for one pass of the loop: it ends before the dispatch and leaves the
server alone, or it does what the dispatch can do. -/
@[elab_as_elim]
theorem iteration_rule {motive : Iteration → Prop} (server : DhcpServer)
    (datagram : Datagram) (localAlloc : Bool)
    (stopped : ∀ decision, server.inspect datagram = .error decision →
      motive ⟨server, decision, none⟩)
    (dispatched : ∀ query result, server.inspect datagram = .ok query →
      Responds server query localAlloc result → motive result) :
    motive (server.iteration datagram localAlloc) := by
  unfold iteration
  cases inspected : server.inspect datagram with
  | error decision => exact stopped decision inspected
  | ok query =>
      exact dispatched query _ inspected
        (respond_responds server query localAlloc)

end DhcpServer

end PoeDhcp
