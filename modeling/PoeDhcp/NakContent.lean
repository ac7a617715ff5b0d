import PoeDhcp.ReplyBytes

namespace PoeDhcp

open Foundation
open DhcpServer

/-! What a client finds in a NAK. -/

/-- The message type and the server identifier, and nothing else. -/
structure WithoutConfiguration (memory : Memory) : Prop where
  messageType : HasOption memory optionDhcpMessageType
    [DHCPMessageTypes.nak.code]
  serverId : ∃ value : List BYTE, value.length = 4 ∧
    HasOption memory optionServerIdentifier value
  noOther : ∀ tag, tag ∉ [optionDhcpMessageType, optionServerIdentifier] →
    findOptionData tag (memory.shift optionsOffset) replyOptionsSize = none
  yiaddr : (DHCPMessage.overlay memory).yiaddr = 0
  ciaddr : (DHCPMessage.overlay memory).ciaddr = 0

/-- The lease time and the mask are blanked, the name servers are not. -/
structure NakContent (server : DhcpServer) (memory : Memory) : Prop where
  messageType : HasOption memory optionDhcpMessageType
    [DHCPMessageTypes.nak.code]
  dns : HasOption memory optionDns
    (Word32.toBytes server.serverAddress.dns ++
      Word32.toBytes server.serverAddress.dns2)
  serverId : HasOption memory optionServerIdentifier
    (Word32.toBytes server.serverAddress.address)
  noOther : ∀ tag,
    tag ∉ [optionDhcpMessageType, optionDns, optionServerIdentifier] →
    findOptionData tag (memory.shift optionsOffset) replyOptionsSize = none
  yiaddr : (DHCPMessage.overlay memory).yiaddr = 0
  ciaddr : (DHCPMessage.overlay memory).ciaddr = 0

section Nak

variable {server : DhcpServer} {datagram : Datagram} {memory : Memory}

theorem NakContent.of_holdsAt
    (holds : memory.HoldsAt 0 (sendDhcpMessage datagram.request
      (server.nakReply datagram.request)).reply.toBytes) :
    NakContent server memory := by
  have sized : (server.nakReply datagram.request).message.Sized :=
    replyTemplate_sized server
      (DHCPMessage.sized_overlay datagram.readBuffer)
  obtain ⟨-, -, -, area⟩ :=
    holdsAt_reply sized (replyTemplate_answersTo server _) nakReply_toBytes
      holds
  have message := overlay_reply sized holds
  exact
    { messageType := hasOption_of_firstField area length_nakOptions
        isTag_dhcpMessageType rfl
      dns := hasOption_of_firstField area length_nakOptions isTag_dns rfl
      serverId := hasOption_of_firstField area length_nakOptions
        isTag_serverIdentifier rfl
      noOther := by
        intro tag other
        apply no_option_of_firstField area length_nakOptions
        rw [Framing.firstField_eq_none, Framing.avoids_iff_notMem]
        exact other
      yiaddr := by
        rw [message]
        exact sendDhcpMessage_yiaddr _ _
      ciaddr := by
        rw [message]
        exact sendDhcpMessage_ciaddr _ _ }

theorem NakContent.not_withoutConfiguration
    (content : NakContent server memory) : ¬ WithoutConfiguration memory := by
  intro without
  obtain ⟨found, search, -⟩ := content.dns
  rw [without.noOther optionDns (by decide)] at search
  cases search

theorem nakContent_of_sent {localAlloc : Bool} {transmission : Transmission}
    (sent : (server.iteration datagram localAlloc).sent = some transmission)
    (nak : transmission.messageType = DHCPMessageTypes.nak.code)
    (holds : memory.HoldsAt 0 transmission.reply.toBytes) :
    NakContent server memory := by
  have answers := iteration_answers sent
  cases answers with
  | offer addr =>
      rw [sendDhcpMessage_messageType, offerReply_messageType] at nak
      exact absurd nak (by decide)
  | ack addr =>
      rw [sendDhcpMessage_messageType, ackReply_messageType] at nak
      exact absurd nak (by decide)
  | nak => exact .of_holdsAt holds

end Nak

/-- No NAK is without configuration, in no state of a run. -/
theorem nak_not_withoutConfiguration (netAddress : DhcpNetWorkAddr)
    (events : List Event) (datagram : Datagram) (localAlloc : Bool)
    {transmission : Transmission}
    (sent : ((serverMachine.exec (construct netAddress) events).iteration
      datagram localAlloc).sent = some transmission)
    (nak : transmission.messageType = DHCPMessageTypes.nak.code)
    {memory : Memory}
    (holds : memory.HoldsAt 0 transmission.reply.toBytes) :
    ¬ WithoutConfiguration memory :=
  (nakContent_of_sent sent nak holds).not_withoutConfiguration

/-! The NAK to a client that the server has not seen before. -/

/-- It asks for 192.168.50.9. -/
def unseenRequest : Datagram :=
  .ofBytes
    (clientMessage 0 [53, 1, 3, 50, 4, 192, 168, 50, 9, optionEnd])
    (fun _ => 0) (clientMessage_bound 0 (by decide))

def unseenNak : Transmission :=
  sendDhcpMessage unseenRequest.request
    (sampleServer.nakReply unseenRequest.request)

/-- The memory of the client. -/
def unseenNakMemory : Memory :=
  fun index => unseenNak.reply.toBytes.getD index 0

theorem unseenNak_not_withoutConfiguration :
    ¬ WithoutConfiguration unseenNakMemory :=
  nak_not_withoutConfiguration sampleNetAddress [.start none sampleEnv]
    unseenRequest true
    (show (sampleServer.iteration unseenRequest true).sent = some unseenNak
      by decide +kernel)
    (by decide +kernel) (Memory.holdsAt_getD _)

theorem unseenNak_names_dns :
    (sampleServer.iteration unseenRequest true).sent = some unseenNak ∧
      unseenNak.messageType = DHCPMessageTypes.nak.code ∧
      unseenNakMemory.HoldsAt 0 unseenNak.reply.toBytes ∧
      findOptionData optionDns (unseenNakMemory.shift optionsOffset)
        replyOptionsSize = some ⟨17, 8⟩ ∧
      ¬ WithoutConfiguration unseenNakMemory := by
  have dns : findOptionData optionDns (unseenNakMemory.shift optionsOffset)
      replyOptionsSize = some ⟨17, 8⟩ := by decide +kernel
  refine ⟨by decide +kernel, by decide +kernel,
    Memory.holdsAt_getD _, dns, ?_⟩
  intro without
  rw [without.noOther optionDns (by decide)] at dns
  cases dns

end PoeDhcp
