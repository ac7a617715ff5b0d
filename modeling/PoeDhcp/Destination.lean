import PoeDhcp.Discovery
import PoeDhcp.DottedQuad

namespace PoeDhcp

open Foundation
open DhcpServer

/-! Where a reply is sent. The address word goes through a dotted quad. -/

namespace DhcpServer.Transmission

/-- The text that `sendDhcpMessage` makes of the address. -/
def host (transmission : Transmission) : String :=
  toString (dwIp0 transmission.ulAddr).toNat ++ "." ++
    toString (dwIp1 transmission.ulAddr).toNat ++ "." ++
    toString (dwIp2 transmission.ulAddr).toNat ++ "." ++
    toString (dwIp3 transmission.ulAddr).toNat

/-- The address that the socket address gets from the text. -/
def address (transmission : Transmission) : DWORD :=
  inetAddr transmission.host

end DhcpServer.Transmission

theorem toNat_byteAt (index : Nat) (word : DWORD) :
    (Word32.byteAt index word).toNat =
      ((word >>> (8 * index)).setWidth 8).toNat := by
  have same : Word32.byteAt index word =
      ((word >>> (8 * index)).setWidth 8).setWidth 32 := by
    apply BitVec.eq_of_getLsbD_eq
    intro bit bound
    rw [Word32.byteAt_getLsbD]
    simp only [BitVec.getLsbD_setWidth, BitVec.getLsbD_ushiftRight, bound,
      decide_true, Bool.true_and]
  rw [same, BitVec.toNat_setWidth]
  have small := ((word >>> (8 * index)).setWidth 8).isLt
  omega

/-- The quad of a word in network order. -/
def quadOf (word : DWORD) : DottedQuad where
  first := word.setWidth 8
  second := (word >>> 8).setWidth 8
  third := (word >>> 16).setWidth 8
  fourth := (word >>> 24).setWidth 8

theorem Transmission.address_eq (transmission : Transmission) :
    transmission.address = transmission.ulAddr := by
  have first := toNat_byteAt 0 transmission.ulAddr
  rw [Nat.mul_zero, BitVec.ushiftRight_zero] at first
  have text : transmission.host = (quadOf transmission.ulAddr).text := by
    rw [Transmission.host, dwIp0, first, dwIp1, toNat_byteAt, dwIp2,
      toNat_byteAt, dwIp3, toNat_byteAt]
    rfl
  apply Word32.toBytes_injective
  rw [Transmission.address, text, DottedQuad.toBytes_inetAddr]
  rfl

/-! Where the address comes from. -/

/-- The field or the constant that a branch of `sendAddress` takes. -/
inductive AddressSource
  | giaddr
  | ciaddr
  | requestYiaddr
  | broadcast
  | loopback
deriving DecidableEq

def AddressSource.word (dhcpRequest : DHCPMessage) : AddressSource → DWORD
  | .giaddr => dhcpRequest.giaddr
  | .ciaddr => dhcpRequest.ciaddr
  | .requestYiaddr => dhcpRequest.yiaddr
  | .broadcast => inaddrBroadcast
  | .loopback => inaddrLoopback

/-- The branches of `sendAddress`. -/
def sendSource (dhcpRequest : DHCPMessage) (messageType : BYTE) :
    AddressSource :=
  if dhcpRequest.giaddr = 0 then
    if messageType = DHCPMessageTypes.offer.code ∨
        messageType = DHCPMessageTypes.ack.code then
      if dhcpRequest.ciaddr = 0 then
        if broadcastFlag &&& dhcpRequest.flags ≠ 0 then .broadcast
        else if dhcpRequest.yiaddr = 0 then .broadcast
        else .requestYiaddr
      else .ciaddr
    else if messageType = DHCPMessageTypes.nak.code then .broadcast
    else .loopback
  else .giaddr

theorem sendAddress_eq (dhcpRequest : DHCPMessage) (messageType : BYTE) :
    sendAddress dhcpRequest messageType =
      (sendSource dhcpRequest messageType).word dhcpRequest := by
  unfold sendAddress sendSource
  split
  · split
    · split
      · split
        · rfl
        · split <;> rfl
      · rfl
    · split <;> rfl
  · rfl

/-! Where a reply has to go. -/

/-- The destinations of RFC 2131 section 4.1. A client without an address is
reached at the address of the reply or by a broadcast. -/
inductive Routed (request : DHCPMessage) (transmission : Transmission) : Prop
  | relay (relayed : request.giaddr ≠ 0)
      (address : transmission.address = request.giaddr)
      (port : transmission.port = dhcpServerPort)
      (flag : broadcastFlag &&& transmission.reply.message.flags ≠ 0)
  | refusal (direct : request.giaddr = 0)
      (nak : transmission.messageType = DHCPMessageTypes.nak.code)
      (address : transmission.address = inaddrBroadcast)
      (port : transmission.port = dhcpClientPort)
  | renewal (direct : request.giaddr = 0)
      (notNak : transmission.messageType ≠ DHCPMessageTypes.nak.code)
      (known : request.ciaddr ≠ 0)
      (address : transmission.address = request.ciaddr)
      (port : transmission.port = dhcpClientPort)
  | asked (direct : request.giaddr = 0)
      (notNak : transmission.messageType ≠ DHCPMessageTypes.nak.code)
      (unknown : request.ciaddr = 0)
      (flag : broadcastFlag &&& request.flags ≠ 0)
      (address : transmission.address = inaddrBroadcast)
      (port : transmission.port = dhcpClientPort)
  | offered (direct : request.giaddr = 0)
      (notNak : transmission.messageType ≠ DHCPMessageTypes.nak.code)
      (unknown : request.ciaddr = 0)
      (notAsked : broadcastFlag &&& request.flags = 0)
      (address : transmission.address = transmission.yiaddr ∨
        transmission.address = inaddrBroadcast)
      (port : transmission.port = dhcpClientPort)

structure WellAddressed (request : DHCPMessage)
    (transmission : Transmission) : Prop where
  routed : Routed request transmission
  notRequestYiaddr :
    sendSource request transmission.messageType ≠ .requestYiaddr
  notLoopback : sendSource request transmission.messageType ≠ .loopback

/-- The server answers with a NAK. -/
def Refuses (server : DhcpServer) (datagram : Datagram) : Prop :=
  datagram.messageType? = some .request ∧
    server.verdict (datagram.query .request) = some .nak

/-- The message comes without a relay, and nothing depends on its `yiaddr`. -/
structure SentDirectly (server : DhcpServer) (datagram : Datagram) :
    Prop where
  notRelayed : datagram.request.giaddr = 0
  yiaddrUnused : Refuses server datagram ∨ datagram.request.ciaddr ≠ 0 ∨
    broadcastFlag &&& datagram.request.flags ≠ 0 ∨
    datagram.request.yiaddr = 0

section Send

variable {request : DHCPMessage} {reply : Reply}

theorem sendDhcpMessage_address :
    (sendDhcpMessage request reply).address =
      (sendSource request
        (sendDhcpMessage request reply).messageType).word request := by
  rw [Transmission.address_eq, sendDhcpMessage_messageType,
    ← sendAddress_eq]
  rfl

theorem sendDhcpMessage_port :
    (sendDhcpMessage request reply).port = dhcpClientPort := rfl

/-- Of what a relay needs, only the port is wrong. -/
theorem sendDhcpMessage_relayed (relayed : request.giaddr ≠ 0) :
    (sendDhcpMessage request reply).address = request.giaddr ∧
      broadcastFlag &&&
        (sendDhcpMessage request reply).reply.message.flags ≠ 0 := by
  constructor
  · rw [sendDhcpMessage_address, sendSource, if_neg relayed]
    rfl
  · have flags : (sendDhcpMessage request reply).reply.message.flags =
        reply.message.flags ||| broadcastFlag := by
      unfold sendDhcpMessage
      rw [if_neg relayed]
    have kept : broadcastFlag &&& (reply.message.flags ||| broadcastFlag) =
        broadcastFlag := by
      apply BitVec.eq_of_getLsbD_eq
      intro bit _
      rw [BitVec.getLsbD_and, BitVec.getLsbD_or]
      cases broadcastFlag.getLsbD bit with
      | false => rw [Bool.false_and]
      | true => rw [Bool.or_true, Bool.and_true]
    rw [flags, kept]
    decide

theorem wellAddressed_of_source (source : AddressSource)
    (taken : sendSource request
      (sendDhcpMessage request reply).messageType = source)
    (routed : (sendDhcpMessage request reply).address = source.word request →
      Routed request (sendDhcpMessage request reply))
    (notRequestYiaddr : source ≠ .requestYiaddr)
    (notLoopback : source ≠ .loopback) :
    WellAddressed request (sendDhcpMessage request reply) where
  routed := routed (by rw [sendDhcpMessage_address, taken])
  notRequestYiaddr := by rw [taken]; exact notRequestYiaddr
  notLoopback := by rw [taken]; exact notLoopback

theorem notRelayed_of_routed
    (routed : Routed request (sendDhcpMessage request reply)) :
    request.giaddr = 0 := by
  cases routed with
  | relay relayed address port flag =>
      rw [sendDhcpMessage_port] at port
      cases port
  | _ direct => exact direct

theorem wellAddressed_of_nak (direct : request.giaddr = 0)
    (nak : reply.options.messageType = DHCPMessageTypes.nak.code) :
    WellAddressed request (sendDhcpMessage request reply) := by
  have type := (sendDhcpMessage_messageType request reply).trans nak
  refine wellAddressed_of_source .broadcast ?_ ?_ (by decide) (by decide)
  · rw [type, sendSource, if_pos direct]
    rfl
  · intro address
    exact .refusal direct type address rfl

section Answer

variable (answer : reply.options.messageType = DHCPMessageTypes.offer.code ∨
  reply.options.messageType = DHCPMessageTypes.ack.code)

include answer

theorem notNak_of_answer : (sendDhcpMessage request reply).messageType ≠
    DHCPMessageTypes.nak.code := by
  rw [sendDhcpMessage_messageType]
  rcases answer with offer | ack
  · rw [offer]
    decide
  · rw [ack]
    decide

theorem wellAddressed_of_ciaddr (direct : request.giaddr = 0)
    (known : request.ciaddr ≠ 0) :
    WellAddressed request (sendDhcpMessage request reply) := by
  refine wellAddressed_of_source .ciaddr ?_ ?_ (by decide) (by decide)
  · rw [sendDhcpMessage_messageType, sendSource, if_pos direct,
      if_pos answer, if_neg known]
  · intro address
    exact .renewal direct (notNak_of_answer answer) known address rfl

theorem wellAddressed_of_flag (direct : request.giaddr = 0)
    (unknown : request.ciaddr = 0)
    (asked : broadcastFlag &&& request.flags ≠ 0) :
    WellAddressed request (sendDhcpMessage request reply) := by
  refine wellAddressed_of_source .broadcast ?_ ?_ (by decide) (by decide)
  · rw [sendDhcpMessage_messageType, sendSource, if_pos direct,
      if_pos answer, if_pos unknown, if_pos asked]
  · intro address
    exact .asked direct (notNak_of_answer answer) unknown asked address rfl

theorem wellAddressed_iff_of_unknown (direct : request.giaddr = 0)
    (unknown : request.ciaddr = 0)
    (notAsked : broadcastFlag &&& request.flags = 0) :
    WellAddressed request (sendDhcpMessage request reply) ↔
      request.yiaddr = 0 := by
  constructor
  · intro wellAddressed
    by_contra own
    apply wellAddressed.notRequestYiaddr
    rw [sendDhcpMessage_messageType, sendSource, if_pos direct,
      if_pos answer, if_pos unknown, if_neg (not_not.mpr notAsked),
      if_neg own]
  · intro own
    refine wellAddressed_of_source .broadcast ?_ ?_ (by decide) (by decide)
    · rw [sendDhcpMessage_messageType, sendSource, if_pos direct,
        if_pos answer, if_pos unknown, if_neg (not_not.mpr notAsked),
        if_pos own]
    · intro address
      exact .offered direct (notNak_of_answer answer) unknown notAsked
        (Or.inr address) rfl

end Answer

theorem wellAddressed_sendDhcpMessage
    (typed : reply.options.messageType ∈ [DHCPMessageTypes.offer.code,
      DHCPMessageTypes.ack.code, DHCPMessageTypes.nak.code]) :
    WellAddressed request (sendDhcpMessage request reply) ↔
      request.giaddr = 0 ∧
        (reply.options.messageType = DHCPMessageTypes.nak.code ∨
          request.ciaddr ≠ 0 ∨ broadcastFlag &&& request.flags ≠ 0 ∨
          request.yiaddr = 0) := by
  by_cases direct : request.giaddr = 0
  case neg =>
    refine iff_of_false ?_ fun allowed => direct allowed.1
    intro wellAddressed
    exact direct (notRelayed_of_routed wellAddressed.routed)
  by_cases nak : reply.options.messageType = DHCPMessageTypes.nak.code
  case pos =>
    exact iff_of_true (wellAddressed_of_nak direct nak) ⟨direct, Or.inl nak⟩
  have answer : reply.options.messageType = DHCPMessageTypes.offer.code ∨
      reply.options.messageType = DHCPMessageTypes.ack.code := by
    simpa [nak] using typed
  by_cases unknown : request.ciaddr = 0
  case neg =>
    exact iff_of_true (wellAddressed_of_ciaddr answer direct unknown)
      ⟨direct, Or.inr (Or.inl unknown)⟩
  by_cases notAsked : broadcastFlag &&& request.flags = 0
  case neg =>
    exact iff_of_true (wellAddressed_of_flag answer direct unknown notAsked)
      ⟨direct, Or.inr (Or.inr (Or.inl notAsked))⟩
  rw [wellAddressed_iff_of_unknown answer direct unknown notAsked]
  simp [direct, nak, unknown, notAsked]

end Send

section Iteration

variable {server : DhcpServer} {datagram : Datagram}
variable {transmission : Transmission}

theorem AnswersWith.exists_reply
    (answers : AnswersWith server datagram transmission) :
    ∃ reply : Reply,
      transmission = sendDhcpMessage datagram.request reply ∧
      reply.options.messageType ∈ [DHCPMessageTypes.offer.code,
        DHCPMessageTypes.ack.code, DHCPMessageTypes.nak.code] := by
  cases answers with
  | offer addr =>
      refine ⟨_, rfl, ?_⟩
      rw [offerReply_messageType]
      decide
  | ack addr =>
      refine ⟨_, rfl, ?_⟩
      rw [ackReply_messageType]
      decide
  | nak =>
      refine ⟨_, rfl, ?_⟩
      rw [nakReply_messageType]
      decide

theorem not_refuses_of_discover (accepts : server.Accepts datagram .discover) :
    ¬ Refuses server datagram := by
  intro refuses
  have typed := accepts.typed
  rw [refuses.1] at typed
  cases typed

theorem nak_iff_refuses {localAlloc : Bool}
    (sent : (server.iteration datagram localAlloc).sent =
      some transmission) :
    transmission.messageType = DHCPMessageTypes.nak.code ↔
      Refuses server datagram := by
  have replies := iteration_replies sent
  generalize (server.iteration datagram localAlloc).server = after at replies
  rcases replies with ⟨accepts, -, -⟩ | ⟨grants⟩ | ⟨-, -, acked⟩ |
    ⟨accepts, refused⟩
  · rw [sendDhcpMessage_messageType, offerReply_messageType]
    exact iff_of_false (by decide) (not_refuses_of_discover accepts)
  · rw [sendDhcpMessage_messageType, offerReply_messageType]
    exact iff_of_false (by decide) (not_refuses_of_discover grants.accepts)
  · rw [sendDhcpMessage_messageType, ackReply_messageType]
    refine iff_of_false (by decide) ?_
    intro refuses
    have refused := refuses.2
    rw [acked] at refused
    cases refused
  · rw [sendDhcpMessage_messageType, nakReply_messageType]
    exact iff_of_true rfl ⟨accepts.typed, refused⟩

/-- A reply goes where it has to go exactly when no relay is involved and the
`yiaddr` of the request is not taken for the one of the reply. -/
theorem wellAddressed_iff {localAlloc : Bool}
    (sent : (server.iteration datagram localAlloc).sent =
      some transmission) :
    WellAddressed datagram.request transmission ↔
      SentDirectly server datagram := by
  have refuses := nak_iff_refuses sent
  obtain ⟨reply, rfl, typed⟩ := (iteration_answers sent).exists_reply
  rw [sendDhcpMessage_messageType] at refuses
  rw [wellAddressed_sendDhcpMessage typed, refuses]
  constructor
  · intro allowed
    exact ⟨allowed.1, allowed.2⟩
  · intro directly
    exact ⟨directly.notRelayed, directly.yiaddrUnused⟩

end Iteration

/-! A client on the network of the server, one behind a relay, and one that has
filled in `yiaddr`. -/

def addressedMessage (yiaddr giaddr : DWORD) : List BYTE :=
  [opBootRequest, 1, 6, 0] ++ List.replicate 12 0 ++ Word32.toBytes yiaddr ++
    List.replicate 4 0 ++ Word32.toBytes giaddr ++ List.replicate 208 0 ++
    dhcpMagicCookie ++ [53, 1, 1, optionEnd]

theorem addressedMessage_bound (yiaddr giaddr : DWORD) :
    (addressedMessage yiaddr giaddr).length ≤ maxUdpMessageSize - 1 := by
  simp only [addressedMessage, List.length_append, List.length_cons,
    List.length_nil, List.length_replicate, Word32.length_toBytes,
    dhcpMagicCookie, maxUdpMessageSize]
  omega

def addressedDiscover (yiaddr giaddr : DWORD) : Datagram :=
  .ofBytes (addressedMessage yiaddr giaddr) (fun _ => 0)
    (addressedMessage_bound yiaddr giaddr)

def addressedOffer (yiaddr giaddr : DWORD) : Transmission :=
  sendDhcpMessage (addressedDiscover yiaddr giaddr).request
    (sampleServer.offerReply (addressedDiscover yiaddr giaddr).request
      (inetAddr "192.168.50.2"))

theorem addressedOffer_wellAddressed :
    WellAddressed (addressedDiscover 0 0).request (addressedOffer 0 0) :=
  (wellAddressed_iff
    (show (sampleServer.iteration (addressedDiscover 0 0) true).sent =
      some (addressedOffer 0 0) by decide +kernel)).mpr
    ⟨by decide +kernel, Or.inr (Or.inr (Or.inr (by decide +kernel)))⟩

/-- The OFFER behind the relay misses the port of the relay, and the other one
goes to an address that the client has made up. -/
theorem addressedOffer_misdirected :
    ((sampleServer.iteration
        (addressedDiscover 0 (inetAddr "192.168.60.1")) true).sent =
          some (addressedOffer 0 (inetAddr "192.168.60.1")) ∧
      (addressedOffer 0 (inetAddr "192.168.60.1")).address =
        (addressedDiscover 0 (inetAddr "192.168.60.1")).request.giaddr ∧
      (addressedOffer 0 (inetAddr "192.168.60.1")).port = 68 ∧
      ¬ WellAddressed
        (addressedDiscover 0 (inetAddr "192.168.60.1")).request
        (addressedOffer 0 (inetAddr "192.168.60.1"))) ∧
    ((sampleServer.iteration
        (addressedDiscover (inetAddr "10.0.0.7") 0) true).sent =
          some (addressedOffer (inetAddr "10.0.0.7") 0) ∧
      (addressedOffer (inetAddr "10.0.0.7") 0).host = "10.0.0.7" ∧
      ¬ WellAddressed (addressedDiscover (inetAddr "10.0.0.7") 0).request
        (addressedOffer (inetAddr "10.0.0.7") 0)) := by
  refine ⟨⟨by decide +kernel,
    (sendDhcpMessage_relayed (by decide +kernel)).1, rfl, ?_⟩,
    ⟨by decide +kernel, by decide +kernel, ?_⟩⟩
  · intro wellAddressed
    cases wellAddressed.routed with
    | relay relayed address port flag => cases port
    | _ direct =>
        revert direct
        decide +kernel
  · intro wellAddressed
    exact wellAddressed.notRequestYiaddr (by decide +kernel)

end PoeDhcp
