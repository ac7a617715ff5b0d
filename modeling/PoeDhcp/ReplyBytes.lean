import PoeDhcp.DottedQuad
import PoeDhcp.Handshake

namespace PoeDhcp

open Foundation
open DhcpServer

/-! The bytes of a reply, and what a client decodes from them. -/

def replyOptionsSize : Nat := sizeofDHCPServerOptions - dhcpMagicCookie.length

/-- The client finds an option with this value behind the magic cookie. -/
def HasOption (memory : Memory) (tag : BYTE) (value : List BYTE) : Prop :=
  ∃ found, findOptionData tag (memory.shift optionsOffset) replyOptionsSize =
      some found ∧
    found.size = value.length ∧
    (memory.shift optionsOffset).read found.offset found.size = value

/-- The fixed part of a reply to a request. -/
structure AnswersTo (message request : DHCPMessage) : Prop where
  op : message.op = opBootReply
  xid : message.xid = request.xid
  htype : message.htype = request.htype
  hlen : message.hlen = request.hlen
  chaddr : message.chaddr = request.chaddr
  giaddr : message.giaddr = request.giaddr

/-- The options and the address of an OFFER or an ACK. -/
structure DecodesLease (memory : Memory) (type : DHCPMessageTypes)
    (addrValue : DWORD) (address mask dns dns2 : DottedQuad) : Prop where
  messageType : HasOption memory optionDhcpMessageType [type.code]
  leaseTime : ∃ value : List BYTE, value.length = 4 ∧
    HasOption memory optionIpAddressLeaseTime value
  subnetMask : HasOption memory optionSubnetMask mask.bytes
  dns : HasOption memory optionDns (dns.bytes ++ dns2.bytes)
  serverId : HasOption memory optionServerIdentifier address.bytes
  noOther : ∀ tag, tag ∉ [optionDhcpMessageType, optionIpAddressLeaseTime,
      optionSubnetMask, optionDns, optionServerIdentifier] →
    findOptionData tag (memory.shift optionsOffset) replyOptionsSize = none
  yiaddr : memory.HoldsAt 16 (Word32.bigEndian addrValue)

structure DecodesNak (memory : Memory) (address : DottedQuad) : Prop where
  messageType : HasOption memory optionDhcpMessageType
    [DHCPMessageTypes.nak.code]
  serverId : HasOption memory optionServerIdentifier address.bytes

/-! The fixed part. -/

section Message

variable {server : DhcpServer} {request : DHCPMessage}

theorem replyTemplate_sized (server : DhcpServer) (sized : request.Sized) :
    (server.replyTemplate request).message.Sized where
  chaddr := sized.chaddr
  sname := by
    have short : ((cString server.serverHostName).take
        (sizeofSname - 1)).length ≤ 63 := by
      rw [List.length_take]
      exact Nat.min_le_left _ _
    simp only [replyTemplate, packetOptions, createDhcpReplyPacket, Reply.zero,
      DHCPMessage.overlay, List.length_append, List.length_cons,
      List.length_drop, Memory.length_read]
    simp only [sizeofSname] at short ⊢
    omega
  file := Memory.length_read _ _ _

theorem sendDhcpMessage_sized {reply : Reply} (sized : reply.message.Sized) :
    (sendDhcpMessage request reply).reply.message.Sized := by
  unfold sendDhcpMessage
  dsimp only
  split
  · exact sized
  · exact ⟨sized.chaddr, sized.sname, sized.file⟩

theorem replyTemplate_answersTo (server : DhcpServer)
    (request : DHCPMessage) :
    AnswersTo (server.replyTemplate request).message request :=
  ⟨rfl, rfl, rfl, rfl, rfl, rfl⟩

theorem sendDhcpMessage_answersTo {reply : Reply}
    (answers : AnswersTo reply.message request) :
    AnswersTo (sendDhcpMessage request reply).reply.message request := by
  unfold sendDhcpMessage
  dsimp only
  split
  · exact answers
  · exact ⟨answers.op, answers.xid, answers.htype, answers.hlen,
      answers.chaddr, answers.giaddr⟩

end Message

/-! The options. -/

section Options

theorem isTag_ipAddressLeaseTime : rfc2132.IsTag optionIpAddressLeaseTime :=
  ⟨by decide, by decide⟩

theorem isTag_subnetMask : rfc2132.IsTag optionSubnetMask :=
  ⟨by decide, by decide⟩

theorem isTag_dns : rfc2132.IsTag optionDns :=
  ⟨by decide, by decide⟩

theorem length_lt_of_ble {value : List BYTE}
    (short : Nat.ble value.length 8 = true) : value.length < 256 :=
  Nat.lt_of_le_of_lt (Nat.le_of_ble_eq_true short) (by decide)

/-- An option of a reply has at most eight bytes. -/
def replyOption (tag : BYTE) (value : List BYTE) (isTag : rfc2132.IsTag tag)
    (short : Nat.ble value.length 8 = true) : Framing.Item rfc2132 :=
  .field ⟨tag, value, isTag.ne_pad, isTag.ne_stop, length_lt_of_ble short⟩

def messageTypeOption (type : DHCPMessageTypes) : Framing.Item rfc2132 :=
  replyOption optionDhcpMessageType [type.code] isTag_dhcpMessageType rfl

/-- The options behind the lease time and the mask. -/
def trailingOptions (server : DhcpServer) : List (Framing.Item rfc2132) :=
  [replyOption optionDns
      (Word32.toBytes server.serverAddress.dns ++
        Word32.toBytes server.serverAddress.dns2) isTag_dns rfl,
    replyOption optionServerIdentifier
      (Word32.toBytes server.serverAddress.address) isTag_serverIdentifier rfl]

def leaseOptions (server : DhcpServer) (type : DHCPMessageTypes) :
    List (Framing.Item rfc2132) :=
  messageTypeOption type ::
    replyOption optionIpAddressLeaseTime (Word32.toBytes (htonl leaseTime))
      isTag_ipAddressLeaseTime rfl ::
    replyOption optionSubnetMask (Word32.toBytes server.serverAddress.mask)
      isTag_subnetMask rfl :: trailingOptions server

/-- The two blanked options are twelve PADs. -/
def nakOptions (server : DhcpServer) : List (Framing.Item rfc2132) :=
  messageTypeOption .nak :: (List.replicate 12 .padding ++
    trailingOptions server)

variable {server : DhcpServer} {request : DHCPMessage} {addr : DWORD}

theorem offerReply_toBytes :
    (server.offerReply request addr).options.toBytes =
      dhcpMagicCookie ++ (Framing.encode (leaseOptions server .offer) ++
        [optionEnd]) := rfl

theorem ackReply_toBytes :
    (server.ackReply request addr).options.toBytes =
      dhcpMagicCookie ++ (Framing.encode (leaseOptions server .ack) ++
        [optionEnd]) := rfl

theorem nakReply_toBytes :
    (server.nakReply request).options.toBytes =
      dhcpMagicCookie ++ (Framing.encode (nakOptions server) ++
        [optionEnd]) := rfl

theorem length_leaseOptions (server : DhcpServer) (type : DHCPMessageTypes) :
    (Framing.encode (leaseOptions server type) ++ [optionEnd]).length =
      replyOptionsSize := rfl

theorem length_nakOptions :
    (Framing.encode (nakOptions server) ++ [optionEnd]).length =
      replyOptionsSize := rfl

end Options

/-! The walk over the options that a memory holds. -/

section Walk

variable {memory : Memory} {items : List (Framing.Item rfc2132)}

theorem area_of_holdsAt
    (holds : memory.HoldsAt optionsOffset (Framing.encode items ++ [optionEnd]))
    (size : (Framing.encode items ++ [optionEnd]).length = replyOptionsSize) :
    (memory.shift optionsOffset).read 0 replyOptionsSize =
      Framing.encode items ++ [optionEnd] := by
  rw [Memory.read_shift, Nat.add_zero, ← size]
  exact holds

theorem hasOption_of_firstField
    (holds : memory.HoldsAt optionsOffset (Framing.encode items ++ [optionEnd]))
    (size : (Framing.encode items ++ [optionEnd]).length = replyOptionsSize)
    {tag : BYTE} (isTag : rfc2132.IsTag tag) {value : List BYTE}
    (hvalue : (Framing.firstField tag items).map (·.value) = some value) :
    HasOption memory tag value := by
  obtain ⟨field, hfield, rfl⟩ := Option.map_eq_some_iff.mp hvalue
  exact findOptionData_encode isTag (by decide) (area_of_holdsAt holds size)
    hfield

theorem no_option_of_firstField
    (holds : memory.HoldsAt optionsOffset (Framing.encode items ++ [optionEnd]))
    (size : (Framing.encode items ++ [optionEnd]).length = replyOptionsSize)
    {tag : BYTE} (hfield : Framing.firstField tag items = none) :
    findOptionData tag (memory.shift optionsOffset) replyOptionsSize =
      none := by
  by_cases isTag : rfc2132.IsTag tag
  · exact findOptionData_encode_none isTag (by decide)
      (area_of_holdsAt holds size) (Or.inr rfl) hfield
  · exact findOptionData_of_not_isTag isTag _ _

variable {server : DhcpServer} {netAddress : DhcpNetWorkAddr}
variable {address mask dns dns2 : DottedQuad}

theorem DecodesLease.of_holdsAt
    (config : server.serverAddress = setServerAddress netAddress)
    (quads : netAddress.Quads address mask dns dns2)
    {type : DHCPMessageTypes} {addrValue : DWORD}
    (holds : memory.HoldsAt optionsOffset
      (Framing.encode (leaseOptions server type) ++ [optionEnd]))
    (yiaddr : memory.HoldsAt 16 (Word32.bigEndian addrValue)) :
    DecodesLease memory type addrValue address mask dns dns2 := by
  obtain ⟨addressBytes, maskBytes, dnsBytes, dns2Bytes⟩ := quads.toBytes
  rw [← config] at addressBytes maskBytes dnsBytes dns2Bytes
  have size := length_leaseOptions server type
  exact
    { messageType := hasOption_of_firstField holds size isTag_dhcpMessageType
        rfl
      leaseTime := ⟨_, rfl, hasOption_of_firstField holds size
        isTag_ipAddressLeaseTime rfl⟩
      subnetMask := by
        rw [← maskBytes]
        exact hasOption_of_firstField holds size isTag_subnetMask rfl
      dns := by
        rw [← dnsBytes, ← dns2Bytes]
        exact hasOption_of_firstField holds size isTag_dns rfl
      serverId := by
        rw [← addressBytes]
        exact hasOption_of_firstField holds size isTag_serverIdentifier rfl
      noOther := by
        intro tag other
        apply no_option_of_firstField holds size
        rw [Framing.firstField_eq_none, Framing.avoids_iff_notMem]
        exact other
      yiaddr := yiaddr }

theorem DecodesNak.of_holdsAt
    (config : server.serverAddress = setServerAddress netAddress)
    (quads : netAddress.Quads address mask dns dns2)
    (holds : memory.HoldsAt optionsOffset
      (Framing.encode (nakOptions server) ++ [optionEnd])) :
    DecodesNak memory address := by
  obtain ⟨addressBytes, -⟩ := quads.toBytes
  rw [← config] at addressBytes
  exact
    { messageType := hasOption_of_firstField holds length_nakOptions
        isTag_dhcpMessageType rfl
      serverId := by
        rw [← addressBytes]
        exact hasOption_of_firstField holds length_nakOptions
          isTag_serverIdentifier rfl }

end Walk

/-! Every reply of a run. -/

section Reply

variable {request : DHCPMessage} {reply : Reply}

theorem overlay_reply (sized : reply.message.Sized) {memory : Memory}
    (holds : memory.HoldsAt 0 (sendDhcpMessage request reply).reply.toBytes) :
    DHCPMessage.overlay memory =
      (sendDhcpMessage request reply).reply.message := by
  rw [Reply.toBytes, Memory.holdsAt_append] at holds
  exact (sendDhcpMessage_sized sized).overlay_eq holds.1

theorem holdsAt_reply {items : List (Framing.Item rfc2132)}
    (sized : reply.message.Sized) (answers : AnswersTo reply.message request)
    (options : reply.options.toBytes =
      dhcpMagicCookie ++ (Framing.encode items ++ [optionEnd]))
    {memory : Memory}
    (holds : memory.HoldsAt 0 (sendDhcpMessage request reply).reply.toBytes) :
    AnswersTo (DHCPMessage.overlay memory) request ∧
      memory.HoldsAt 16 (Word32.toBytes reply.message.yiaddr) ∧
      memory.HoldsAt sizeofDHCPMessage dhcpMagicCookie ∧
      memory.HoldsAt optionsOffset (Framing.encode items ++ [optionEnd]) := by
  have sentSized : (sendDhcpMessage request reply).reply.message.Sized :=
    sendDhcpMessage_sized sized
  have yiaddr : (sendDhcpMessage request reply).reply.message.yiaddr =
      reply.message.yiaddr := sendDhcpMessage_yiaddr request reply
  rw [Reply.toBytes, Memory.holdsAt_append, sentSized.length_toBytes,
    sendDhcpMessage_options, options, Memory.holdsAt_append,
    Nat.zero_add] at holds
  obtain ⟨message, cookie, area⟩ := holds
  refine ⟨?_, ?_, cookie, area⟩
  · rw [sentSized.overlay_eq message]
    exact sendDhcpMessage_answersTo answers
  · rw [← yiaddr]
    exact DHCPMessage.holdsAt_yiaddr message

theorem length_reply {items : List (Framing.Item rfc2132)}
    (sized : reply.message.Sized)
    (options : reply.options.toBytes =
      dhcpMagicCookie ++ (Framing.encode items ++ [optionEnd]))
    (size : (Framing.encode items ++ [optionEnd]).length = replyOptionsSize) :
    (sendDhcpMessage request reply).reply.toBytes.length =
      sizeofDHCPMessage + sizeofDHCPServerOptions := by
  rw [Reply.toBytes, List.length_append,
    (sendDhcpMessage_sized sized).length_toBytes, sendDhcpMessage_options,
    options, List.length_append, size]
  rfl

end Reply

/-- What a client decodes from the bytes of a reply. The lease is one that the
server has recorded for the client when it sends the reply. -/
structure Decodes (after : DhcpServer) (datagram : Datagram)
    (transmission : Transmission) (memory : Memory)
    (address mask dns dns2 : DottedQuad) : Prop where
  size : transmission.reply.toBytes.length =
    sizeofDHCPMessage + sizeofDHCPServerOptions
  header : AnswersTo (DHCPMessage.overlay memory) datagram.request
  cookie : memory.HoldsAt sizeofDHCPMessage dhcpMagicCookie
  lease : ∀ type, type = .offer ∨ type = .ack →
    transmission.messageType = type.code →
      ∃ addrValue,
        leaseEntry addrValue datagram.identifier ∈ after.addressesInUse ∧
        DecodesLease memory type addrValue address mask dns dns2
  nak : transmission.messageType = DHCPMessageTypes.nak.code →
    DecodesNak memory address

section Decodes

variable {server after : DhcpServer} {datagram : Datagram} {reply : Reply}
variable {memory : Memory} {netAddress : DhcpNetWorkAddr}
variable {address mask dns dns2 : DottedQuad}

/-- An OFFER or an ACK differs from the template in its addresses and its options
only. -/
theorem Decodes.of_lease {type : DHCPMessageTypes} {addrValue ciaddr : DWORD}
    (config : server.serverAddress = setServerAddress netAddress)
    (quads : netAddress.Quads address mask dns dns2)
    (leaseType : type = .offer ∨ type = .ack)
    (message : reply.message =
      { (server.replyTemplate datagram.request).message with
        ciaddr := ciaddr
        yiaddr := dwValueToIp addrValue })
    (options : reply.options.toBytes = dhcpMagicCookie ++
      (Framing.encode (leaseOptions server type) ++ [optionEnd]))
    (messageType : reply.options.messageType = type.code)
    (recorded : leaseEntry addrValue datagram.identifier ∈
      after.addressesInUse)
    (holds : memory.HoldsAt 0
      (sendDhcpMessage datagram.request reply).reply.toBytes) :
    Decodes after datagram (sendDhcpMessage datagram.request reply) memory
      address mask dns dns2 := by
  have template := replyTemplate_sized server
    (DHCPMessage.sized_overlay datagram.readBuffer)
  have sized : reply.message.Sized := by
    rw [message]
    exact ⟨template.chaddr, template.sname, template.file⟩
  have answers : AnswersTo reply.message datagram.request := by
    rw [message]
    exact ⟨rfl, rfl, rfl, rfl, rfl, rfl⟩
  obtain ⟨header, bytes, cookie, area⟩ :=
    holdsAt_reply sized answers options holds
  rw [message, toBytes_dwValueToIp] at bytes
  refine
    { size := length_reply sized options (length_leaseOptions server type)
      header
      cookie
      lease := ?_
      nak := ?_ }
  · intro other otherType sameType
    rw [sendDhcpMessage_messageType, messageType] at sameType
    have same : other = type := by
      rcases leaseType with rfl | rfl <;> rcases otherType with rfl | rfl <;>
        first | rfl | exact absurd sameType (by decide)
    subst same
    exact ⟨addrValue, recorded, .of_holdsAt config quads area bytes⟩
  · intro nak
    rw [sendDhcpMessage_messageType, messageType] at nak
    rcases leaseType with rfl | rfl <;> exact absurd nak (by decide)

theorem Decodes.of_nak
    (config : server.serverAddress = setServerAddress netAddress)
    (quads : netAddress.Quads address mask dns dns2)
    (sized : datagram.request.Sized)
    (holds : memory.HoldsAt 0 (sendDhcpMessage datagram.request
      (server.nakReply datagram.request)).reply.toBytes) :
    Decodes after datagram (sendDhcpMessage datagram.request
      (server.nakReply datagram.request)) memory address mask dns dns2 := by
  have options : (server.nakReply datagram.request).options.toBytes = _ :=
    nakReply_toBytes
  have messageSized : (server.nakReply datagram.request).message.Sized :=
    replyTemplate_sized server sized
  have answers : AnswersTo (server.nakReply datagram.request).message
      datagram.request := replyTemplate_answersTo server _
  obtain ⟨header, -, cookie, area⟩ :=
    holdsAt_reply messageSized answers options holds
  refine
    { size := length_reply messageSized options length_nakOptions
      header
      cookie
      lease := ?_
      nak := fun _ => .of_holdsAt config quads area }
  intro type leaseType messageType
  rw [sendDhcpMessage_messageType, nakReply_messageType] at messageType
  rcases leaseType with rfl | rfl <;> exact absurd messageType (by decide)

theorem Decodes.of_offer {addrValue : DWORD}
    (config : server.serverAddress = setServerAddress netAddress)
    (quads : netAddress.Quads address mask dns dns2)
    (recorded : leaseEntry addrValue datagram.identifier ∈
      after.addressesInUse)
    (holds : memory.HoldsAt 0 (sendDhcpMessage datagram.request
      (server.offerReply datagram.request
        (dwValueToIp addrValue))).reply.toBytes) :
    Decodes after datagram (sendDhcpMessage datagram.request
        (server.offerReply datagram.request (dwValueToIp addrValue)))
      memory address mask dns dns2 := by
  exact .of_lease config quads (Or.inl rfl) rfl offerReply_toBytes rfl recorded
    holds

theorem Decodes.of_ack {addrValue : DWORD}
    (config : server.serverAddress = setServerAddress netAddress)
    (quads : netAddress.Quads address mask dns dns2)
    (recorded : leaseEntry addrValue datagram.identifier ∈
      after.addressesInUse)
    (holds : memory.HoldsAt 0 (sendDhcpMessage datagram.request
      (server.ackReply datagram.request
        (dwValueToIp addrValue))).reply.toBytes) :
    Decodes after datagram (sendDhcpMessage datagram.request
        (server.ackReply datagram.request (dwValueToIp addrValue)))
      memory address mask dns dns2 := by
  exact .of_lease config quads (Or.inr rfl) rfl ackReply_toBytes rfl recorded
    holds

end Decodes

/-- In every state of a run the replies decode to what the server has recorded
and was configured with. -/
theorem replies_decode {netAddress : DhcpNetWorkAddr}
    {address mask dns dns2 : DottedQuad}
    (quads : netAddress.Quads address mask dns dns2) (events : List Event)
    (datagram : Datagram) (localAlloc : Bool) {transmission : Transmission}
    (sent : ((serverMachine.exec (construct netAddress) events).iteration
      datagram localAlloc).sent = some transmission)
    {memory : Memory}
    (holds : memory.HoldsAt 0 transmission.reply.toBytes) :
    Decodes
      ((serverMachine.exec (construct netAddress) events).iteration datagram
        localAlloc).server
      datagram transmission memory address mask dns dns2 := by
  obtain ⟨book, represents, -⟩ := run_simulates netAddress events
  have config := exec_serverAddress netAddress events
  generalize serverMachine.exec (construct netAddress) events = server
    at represents config sent
  have recorded : ∀ {entry},
      server.knownEntry datagram.identifier = some entry →
        leaseEntry entry.dwAddrValue datagram.identifier ∈
          server.addressesInUse := fun known =>
    (represents.leases _ _).mpr (represents.known known).2
  have replies := iteration_replies sent
  generalize (server.iteration datagram localAlloc).server = after at replies
  cases replies with
  | renew accepts known nonzero =>
      exact .of_offer config quads (recorded known) holds
  | grant grants =>
      exact .of_offer config quads
        (List.mem_append_right _ (List.mem_singleton_self _)) holds
  | ack accepts known acked =>
      exact .of_ack config quads (recorded known) holds
  | nak accepts refused =>
      exact .of_nak config quads
        (DHCPMessage.sized_overlay datagram.readBuffer) holds

theorem sampleNetAddress_quads :
    sampleNetAddress.Quads ⟨192, 168, 50, 1⟩ ⟨255, 255, 255, 0⟩ ⟨8, 8, 8, 8⟩
      ⟨8, 8, 4, 4⟩ :=
  ⟨by decide, by decide, by decide, by decide⟩

/-- The memory of a client that has received the first offer. -/
def firstOfferMemory : Memory :=
  fun index => firstOffer.reply.toBytes.getD index 0

theorem firstOffer_decodes :
    Decodes (sampleServer.iteration (discoverOf 7) true).server (discoverOf 7)
      firstOffer firstOfferMemory ⟨192, 168, 50, 1⟩ ⟨255, 255, 255, 0⟩
      ⟨8, 8, 8, 8⟩ ⟨8, 8, 4, 4⟩ :=
  replies_decode sampleNetAddress_quads [.start none sampleEnv] (discoverOf 7)
    true (by decide +kernel) (Memory.holdsAt_getD _)

end PoeDhcp
