import PoeDhcp.HostName
import PoeDhcp.Dispatch

namespace PoeDhcp

open Foundation
open DhcpServer

/-! Two receive buffers with the same received bytes. -/

structure Datagram.SameReceived (left right : Datagram) : Prop where
  size : right.bytesReceived = left.bytesReceived
  bytes : Memory.AgreeBelow left.bytesReceived right.readBuffer
    left.readBuffer

theorem Datagram.sameReceived_ofBytes (bytes : List BYTE)
    (left right : Memory) (bound : bytes.length ≤ maxUdpMessageSize - 1) :
    (Datagram.ofBytes bytes left bound).SameReceived
      (Datagram.ofBytes bytes right bound) where
  size := rfl
  bytes := by
    intro index inside
    change bytes.getD index (right index) = bytes.getD index (left index)
    have inside : index < bytes.length := inside
    simp only [List.getD_eq_getElem?_getD, List.getElem?_eq_getElem inside,
      Option.getD_some]

namespace Datagram.SameReceived

variable {left right : Datagram}

theorem optionsSize (same : left.SameReceived right) :
    right.optionsSize = left.optionsSize := by
  simp only [Datagram.optionsSize, same.size]

theorem options (same : left.SameReceived right) :
    Memory.AgreeBelow left.optionsSize right.options left.options :=
  same.bytes.shift optionsOffset

theorem isRequest (same : left.SameReceived right) :
    right.isRequest = left.isRequest := by
  unfold Datagram.isRequest isDhcpRequest
  rw [same.size]
  by_cases long : sizeofDHCPMessage + dhcpMagicCookie.length ≤
      left.bytesReceived
  · have long' := long
    simp only [sizeofDHCPMessage, dhcpMagicCookie, List.length_cons,
      List.length_nil] at long'
    rw [same.bytes 0 (by omega),
      same.bytes.read sizeofDHCPMessage dhcpMagicCookie.length long]
  · simp only [long, decide_false, Bool.false_and]

theorem request (same : left.SameReceived right)
    (accepted : left.isRequest = true) : right.request = left.request := by
  apply DHCPMessage.overlay_congr
  intro index bound
  have long := Datagram.le_of_isRequest accepted
  simp only [optionsOffset] at long
  exact same.bytes index (by omega)

theorem findOption (same : left.SameReceived right) (tag : BYTE)
    (isTag : rfc2132.IsTag tag) : right.findOption tag = left.findOption tag := by
  unfold Datagram.findOption
  rw [same.optionsSize]
  exact findOptionData_congr isTag same.options

theorem messageType? (same : left.SameReceived right)
    (inside : ∀ found, left.findOption optionDhcpMessageType = some found →
      found.size = 1 → found.offset + found.size ≤ left.optionsSize) :
    right.messageType? = left.messageType? := by
  have search := same.findOption optionDhcpMessageType isTag_dhcpMessageType
  unfold Datagram.messageType? getDHCPMessageType
  unfold Datagram.findOption at search inside
  rw [search]
  cases hfound : findOptionData optionDhcpMessageType left.options
      left.optionsSize with
  | none => rfl
  | some found =>
      dsimp only
      by_cases size : found.size = 1
      · have bound := inside found hfound size
        rw [same.options found.offset (by omega)]
      · simp only [size, false_and, if_false]

theorem identifier (same : left.SameReceived right)
    (accepted : left.isRequest = true)
    (inside : ∀ found, left.findOption optionClientIdentifier = some found →
      found.offset + found.size ≤ left.optionsSize) :
    right.identifier = left.identifier := by
  unfold Datagram.identifier
  rw [same.findOption optionClientIdentifier isTag_clientIdentifier]
  cases hfound : left.findOption optionClientIdentifier with
  | none =>
      have long := Datagram.le_of_isRequest accepted
      simp only [optionsOffset, sizeofDHCPMessage] at long
      exact same.bytes.read chaddrOffset sizeofChaddr
        (by simp only [chaddrOffset, sizeofChaddr]; omega)
  | some found =>
      exact same.options.read found.offset found.size (inside found hfound)

theorem load32 (same : left.SameReceived right) {found : OptionData}
    (size : found.size = 4)
    (inside : found.offset + found.size ≤ left.optionsSize) :
    right.options.load32 found.offset = left.options.load32 found.offset :=
  same.options.load32 found.offset (by omega)

theorem requestIpAddress (same : left.SameReceived right)
    (inside : ∀ found,
      left.findOption optionRequestedIpAddress = some found →
      found.size = 4 → found.offset + found.size ≤ left.optionsSize) :
    DhcpServer.requestIpAddress right.options right.optionsSize =
      DhcpServer.requestIpAddress left.options left.optionsSize := by
  have search := same.findOption optionRequestedIpAddress
    isTag_requestedIpAddress
  unfold DhcpServer.requestIpAddress
  unfold Datagram.findOption at search inside
  rw [search]
  cases hfound : findOptionData optionRequestedIpAddress left.options
      left.optionsSize with
  | none => rfl
  | some found =>
      dsimp only
      by_cases size : found.size = 4
      · rw [same.load32 size (inside found hfound size)]
      · simp only [size, if_false]

theorem namesThisServer (same : left.SameReceived right)
    (inside : ∀ found,
      left.findOption optionServerIdentifier = some found →
      found.size = 4 → found.offset + found.size ≤ left.optionsSize)
    (server : DhcpServer) :
    server.namesThisServer right.options right.optionsSize =
      server.namesThisServer left.options left.optionsSize := by
  have search := same.findOption optionServerIdentifier
    isTag_serverIdentifier
  unfold DhcpServer.namesThisServer
  unfold Datagram.findOption at search inside
  rw [search]
  cases hfound : findOptionData optionServerIdentifier left.options
      left.optionsSize with
  | none => rfl
  | some found =>
      dsimp only
      by_cases size : found.size = 4
      · rw [same.load32 size (inside found hfound size)]
      · simp only [size, decide_false, Bool.false_and]

end Datagram.SameReceived

/-- The dispatch looks at the options of a REQUEST only, and there at options 50
and 54 only. -/
theorem respond_congr (server : DhcpServer) {left right : Query}
    (request : right.request = left.request)
    (messageType : right.messageType = left.messageType)
    (identifier : right.identifier = left.identifier)
    (requestedIp : left.messageType = .request →
      requestIpAddress right.options right.optionsSize =
        requestIpAddress left.options left.optionsSize)
    (serverId : left.messageType = .request →
      server.namesThisServer right.options right.optionsSize =
        server.namesThisServer left.options left.optionsSize)
    (localAlloc : Bool) :
    server.respond right localAlloc = server.respond left localAlloc := by
  obtain ⟨leftRequest, leftOptions, leftSize, type, client⟩ := left
  obtain ⟨rightRequest, rightOptions, rightSize, type', client'⟩ := right
  dsimp only at request messageType identifier requestedIp serverId
  subst request messageType identifier
  cases type' with
  | request =>
      simp only [respond, packetRequestAck, requestVerdict, requestedIp rfl,
        serverId rfl]
  | _ => rfl

end PoeDhcp
