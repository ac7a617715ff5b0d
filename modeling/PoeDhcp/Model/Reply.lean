import PoeDhcp.Model.Server

namespace PoeDhcp

open Foundation

/-! Building and sending the reply. -/

namespace DhcpServer

def createDhcpReplyPacket (server : DhcpServer) (dhcpRequest : DHCPMessage)
    (dhcpReply : Reply) : Reply :=
  { dhcpReply with
    message := { dhcpReply.message with
      op := opBootReply
      htype := dhcpRequest.htype
      hlen := dhcpRequest.hlen
      xid := dhcpRequest.xid
      flags := dhcpRequest.flags
      giaddr := dhcpRequest.giaddr
      chaddr := dhcpRequest.chaddr
      sname :=
        let name := (cString server.serverHostName).take (sizeofSname - 1)
        name ++ 0 :: dhcpReply.message.sname.drop (name.length + 1) } }

/-- The lease time is an `int` product that overflows its 32 bits. -/
def leaseTime : DWORD := BitVec.ofNat 32 (1 * 60 * 60 * 24 * 12 * 24 * 365)

def packetOptions (server : DhcpServer) (dhcpReply : Reply) : Reply :=
  { dhcpReply with
    options :=
      { pbMagicCookie := dhcpMagicCookie
        pbMessageType :=
          (dhcpReply.options.pbMessageType.set 0 optionDhcpMessageType).set 1 1
        pbLeaseTime :=
          optionIpAddressLeaseTime :: 4 :: Word32.toBytes (htonl leaseTime)
        pbSubnetMask :=
          optionSubnetMask :: 4 :: Word32.toBytes server.serverAddress.mask
        pbDNS :=
          optionDns :: 8 :: (Word32.toBytes server.serverAddress.dns ++
            Word32.toBytes server.serverAddress.dns2)
        pbServerID :=
          optionServerIdentifier :: 4 ::
            Word32.toBytes server.serverAddress.address
        bEND := optionEnd } }

def packetOldClientOffer (dhcpReply : Reply) (previousOfferAddr : DWORD) :
    Bool × Reply :=
  let offerAddrValue := dwIpToValue previousOfferAddr
  if offerAddrValue ≠ 0 then
    (true,
      { message := { dhcpReply.message with
          yiaddr := dwValueToIp offerAddrValue }
        options := dhcpReply.options.setMessageType .offer })
  else
    (false, dhcpReply)

/-- `localAlloc` tells whether `LocalAlloc` returns a block. -/
def packetNewClientOffer (server : DhcpServer) (dhcpReply : Reply)
    (requestClientIdentifier : List BYTE) (localAlloc : Bool) :
    Bool × DhcpServer × Reply :=
  let (offerAddrValue, server) := server.assignAddress
  if offerAddrValue ≠ 0 then
    if localAlloc then
      let clientAddress : AddressInUseInformation :=
        { dwAddrValue := offerAddrValue
          pbClientIdentifier := some requestClientIdentifier
          dwClientIdentifierSize := requestClientIdentifier.length }
      (true,
        { server with
          addressesInUse := server.addressesInUse ++ [clientAddress] },
        { message := { dhcpReply.message with
            yiaddr := dwValueToIp offerAddrValue }
          options := dhcpReply.options.setMessageType .offer })
    else
      (false, server, dhcpReply)
  else
    (false, server, dhcpReply)

/-- The address that `packetRequestAck` takes as requested: a four-byte option
50, or the broadcast address when there is none. -/
def requestIpAddress (options : Memory) (optionsSize : Nat) : DWORD :=
  match findOptionData optionRequestedIpAddress options optionsSize with
  | some found =>
      if found.size = 4 then options.load32 found.offset else inaddrBroadcast
  | none => inaddrBroadcast

/-- The first condition of `packetRequestAck`: option 54 has four bytes and they
are the server's address. -/
def namesThisServer (server : DhcpServer) (options : Memory)
    (optionsSize : Nat) : Bool :=
  match findOptionData optionServerIdentifier options optionsSize with
  | some found =>
      decide (found.size = 4) &&
        server.serverAddress.address == options.load32 found.offset
  | none => false

/-- The message type that `packetRequestAck` writes, if it writes one. -/
def requestVerdict (server : DhcpServer) (dhcpRequest : DHCPMessage)
    (options : Memory) (optionsSize : Nat) (hasClientBefore : Bool)
    (previousOfferAddr : DWORD) : Option DHCPMessageTypes :=
  let requestIpAddress := requestIpAddress options optionsSize
  if server.namesThisServer options optionsSize then
    if hasClientBefore then some .ack else some .nak
  else if inaddrBroadcast ≠ requestIpAddress ∨
      (inaddrBroadcast = requestIpAddress ∧ dhcpRequest.ciaddr ≠ 0) then
    if hasClientBefore ∧ (previousOfferAddr = requestIpAddress ∨
        previousOfferAddr = dhcpRequest.ciaddr) then
      some .ack
    else
      some .nak
  else
    none

def packetRequestAck (server : DhcpServer) (dhcpReply : Reply)
    (dhcpRequest : DHCPMessage) (options : Memory) (optionsSize : Nat)
    (hasClientBefore : Bool) (previousOfferAddr : DWORD) : Bool × Reply :=
  let dhcpReply :=
    match server.requestVerdict dhcpRequest options optionsSize hasClientBefore
        previousOfferAddr with
    | some type =>
        { dhcpReply with options := dhcpReply.options.setMessageType type }
    | none => dhcpReply
  if dhcpReply.options.messageType = DHCPMessageTypes.ack.code then
    (true,
      { dhcpReply with
        message := { dhcpReply.message with
          ciaddr := previousOfferAddr
          yiaddr := previousOfferAddr } })
  else if dhcpReply.options.messageType = DHCPMessageTypes.nak.code then
    (true,
      { dhcpReply with
        options := { dhcpReply.options with
          pbLeaseTime := List.replicate 6 0
          pbSubnetMask := List.replicate 6 0 } })
  else
    (false, dhcpReply)

/-- What is handed to `sendTo`: the reply buffer, the address word whose bytes
are written as a dotted quad, and the port. -/
structure Transmission where
  reply : Reply
  ulAddr : DWORD
  port : Nat
deriving DecidableEq

def sendAddress (dhcpRequest : DHCPMessage) (messageType : BYTE) : DWORD :=
  if dhcpRequest.giaddr = 0 then
    if messageType = DHCPMessageTypes.offer.code ∨
        messageType = DHCPMessageTypes.ack.code then
      if dhcpRequest.ciaddr = 0 then
        if broadcastFlag &&& dhcpRequest.flags ≠ 0 then
          inaddrBroadcast
        else if dhcpRequest.yiaddr = 0 then
          inaddrBroadcast
        else
          dhcpRequest.yiaddr
      else
        dhcpRequest.ciaddr
    else if messageType = DHCPMessageTypes.nak.code then
      inaddrBroadcast
    else
      inaddrLoopback
  else
    dhcpRequest.giaddr

def sendDhcpMessage (dhcpRequest : DHCPMessage) (dhcpReply : Reply) :
    Transmission where
  reply :=
    if dhcpRequest.giaddr = 0 then
      dhcpReply
    else
      { dhcpReply with
        message := { dhcpReply.message with
          flags := dhcpReply.message.flags ||| broadcastFlag } }
  ulAddr := sendAddress dhcpRequest dhcpReply.options.messageType
  port := dhcpClientPort

end DhcpServer

end PoeDhcp
