import PoeDhcp.LeaseLimits
import PoeDhcp.OptionScan
import PoeDhcp.StaleBytes

namespace PoeDhcp

open Foundation
open DhcpServer

/-! How far behind the received bytes the loop reads: an option may announce up to
255 bytes that were not received. -/

structure Datagram.SameNearby (left right : Datagram) : Prop where
  size : right.bytesReceived = left.bytesReceived
  bytes : Memory.AgreeBelow (left.bytesReceived + 255) right.readBuffer
    left.readBuffer

namespace Datagram.SameNearby

variable {left right : Datagram}

theorem received (same : left.SameNearby right) : left.SameReceived right where
  size := same.size
  bytes := fun index bound => same.bytes index (by omega)

theorem options (same : left.SameNearby right)
    (accepted : left.isRequest = true) :
    Memory.AgreeBelow (left.optionsSize + 255) right.options left.options := by
  have long := Datagram.le_of_isRequest accepted
  intro index bound
  refine same.bytes.shift optionsOffset index ?_
  simp only [Datagram.optionsSize] at bound
  omega

theorem read (same : left.SameNearby right)
    (accepted : left.isRequest = true) {tag : BYTE} {found : OptionData}
    (hfound : left.findOption tag = some found) {count : Nat}
    (bound : count ≤ 255) :
    right.options.read found.offset count =
      left.options.read found.offset count := by
  have start := findOptionData_offset_le hfound
  exact (same.options accepted).read found.offset count (by omega)

theorem load32 (same : left.SameNearby right)
    (accepted : left.isRequest = true) {tag : BYTE} {found : OptionData}
    (hfound : left.findOption tag = some found) :
    right.options.load32 found.offset = left.options.load32 found.offset := by
  have start := findOptionData_offset_le hfound
  exact (same.options accepted).load32 found.offset (by omega)

theorem messageType? (same : left.SameNearby right)
    (accepted : left.isRequest = true) :
    right.messageType? = left.messageType? := by
  have search := same.received.findOption optionDhcpMessageType
    isTag_dhcpMessageType
  have first : ∀ found, left.findOption optionDhcpMessageType = some found →
      right.options found.offset = left.options found.offset := by
    intro found hfound
    have start := findOptionData_offset_le hfound
    exact same.options accepted found.offset (by omega)
  unfold Datagram.messageType? getDHCPMessageType
  unfold Datagram.findOption at search first
  rw [search]
  cases hfound : findOptionData optionDhcpMessageType left.options
      left.optionsSize with
  | none => rfl
  | some found =>
      dsimp only
      rw [first found hfound]

theorem clientName (same : left.SameNearby right)
    (accepted : left.isRequest = true) :
    right.clientName = left.clientName := by
  have search := same.received.findOption optionHostName isTag_hostName
  unfold Datagram.clientName clientHostName getRequestClientName
  unfold Datagram.findOption at search
  rw [search]
  cases hfound : findOptionData optionHostName left.options
      left.optionsSize with
  | none => rfl
  | some found =>
      dsimp only
      rw [same.read accepted hfound (by simp [maxHostNameLength])]

theorem identifier (same : left.SameNearby right)
    (accepted : left.isRequest = true) :
    right.identifier = left.identifier := by
  unfold Datagram.identifier
  rw [same.received.findOption optionClientIdentifier isTag_clientIdentifier]
  cases hfound : left.findOption optionClientIdentifier with
  | none =>
      exact same.bytes.read chaddrOffset sizeofChaddr
        (by simp only [chaddrOffset, sizeofChaddr]; omega)
  | some found =>
      have short := findOptionData_size_lt isTag_clientIdentifier hfound
      exact same.read accepted hfound (by omega)

theorem requestIpAddress (same : left.SameNearby right)
    (accepted : left.isRequest = true) :
    DhcpServer.requestIpAddress right.options right.optionsSize =
      DhcpServer.requestIpAddress left.options left.optionsSize := by
  have search := same.received.findOption optionRequestedIpAddress
    isTag_requestedIpAddress
  unfold DhcpServer.requestIpAddress
  unfold Datagram.findOption at search
  rw [search]
  cases hfound : findOptionData optionRequestedIpAddress left.options
      left.optionsSize with
  | none => rfl
  | some found =>
      dsimp only
      rw [same.load32 accepted hfound]

theorem namesThisServer (same : left.SameNearby right)
    (accepted : left.isRequest = true) (server : DhcpServer) :
    server.namesThisServer right.options right.optionsSize =
      server.namesThisServer left.options left.optionsSize := by
  have search := same.received.findOption optionServerIdentifier
    isTag_serverIdentifier
  unfold DhcpServer.namesThisServer
  unfold Datagram.findOption at search
  rw [search]
  cases hfound : findOptionData optionServerIdentifier left.options
      left.optionsSize with
  | none => rfl
  | some found =>
      dsimp only
      rw [same.load32 accepted hfound]

theorem respond (same : left.SameNearby right)
    (accepted : left.isRequest = true) (server : DhcpServer)
    (type : DHCPMessageTypes) (localAlloc : Bool) :
    server.respond (right.query type) localAlloc =
      server.respond (left.query type) localAlloc := by
  apply respond_congr server
  · simpa only [Datagram.query_request] using same.received.request accepted
  · rfl
  · simpa only [Datagram.query_identifier] using same.identifier accepted
  · exact fun _ => same.requestIpAddress accepted
  · exact fun _ => same.namesThisServer accepted server

theorem iteration (same : left.SameNearby right) (server : DhcpServer)
    (localAlloc : Bool) :
    server.iteration right localAlloc = server.iteration left localAlloc := by
  unfold DhcpServer.iteration
  rw [inspect_eq, inspect_eq, same.received.isRequest]
  cases accepted : left.isRequest with
  | false => rfl
  | true =>
      rw [if_pos rfl, if_pos rfl, same.messageType? accepted,
        same.clientName accepted]
      cases left.messageType? with
      | none => rfl
      | some type =>
          dsimp only
          cases type.isIgnored with
          | true => rfl
          | false =>
              cases server.isOwnHost left.clientName with
              | true => rfl
              | false => exact same.respond accepted server type localAlloc

end Datagram.SameNearby

/-! Runs on memory that agrees that far. -/

/-- The same result, for messages that look the same. -/
def SameEffect (left right : DhcpServer × List Handled) : Prop :=
  right.1 = left.1 ∧
    right.2.map Handled.result = left.2.map Handled.result

inductive Reception.SameNearby : Reception → Reception → Prop
  | refl (reception) : SameNearby reception reception
  | received {left right : Datagram} (same : left.SameNearby right)
      (localAlloc sendTo : Bool) :
      SameNearby (.received left localAlloc sendTo)
        (.received right localAlloc sendTo)

inductive Event.SameNearby : Event → Event → Prop
  | refl (event) : SameNearby event event
  | start {left right : Reception} (same : left.SameNearby right)
      (env : InitEnv) : SameNearby (.start (some left) env)
        (.start (some right) env)
  | stop {left right : Reception} (same : left.SameNearby right) :
      SameNearby (.stop (some left)) (.stop (some right))
  | receive {left right : Reception} (same : left.SameNearby right) :
      SameNearby (.receive left) (.receive right)

namespace Reception.SameNearby

variable {left right : Reception}

theorem receive (same : left.SameNearby right) (server : DhcpServer) :
    SameEffect (server.receive left) (server.receive right) := by
  cases same with
  | refl => exact ⟨rfl, rfl⟩
  | received nearby localAlloc sendTo =>
      simp only [SameEffect, DhcpServer.receive, List.map_cons, List.map_nil,
        Handled.result, nearby.iteration, and_self]

theorem stop (same : left.SameNearby right) (server : DhcpServer) :
    SameEffect (server.stop (some left)) (server.stop (some right)) := by
  cases thread : server.thread with
  | none =>
      simp only [SameEffect, DhcpServer.stop, thread, List.map_nil, and_self]
  | some status =>
      cases status with
      | ended =>
          simp only [SameEffect, DhcpServer.stop, thread, List.map_nil,
            and_self]
      | looping =>
          obtain ⟨state, results⟩ :=
            same.receive { server with starting := false }
          simp only [SameEffect, DhcpServer.stop, thread]
          rw [thread] at state results
          exact ⟨by rw [state], results⟩

theorem start (same : left.SameNearby right) (server : DhcpServer)
    (env : InitEnv) :
    SameEffect (server.start (some left) env).2
      (server.start (some right) env).2 := by
  have settled : SameEffect (server.settle (some left))
      (server.settle (some right)) := by
    unfold settle
    split
    · exact same.stop server
    · exact ⟨rfl, rfl⟩
  rw [start_eq, start_eq, settled.1]
  split
  · exact ⟨rfl, settled.2⟩
  · exact ⟨rfl, settled.2⟩

end Reception.SameNearby

theorem Event.SameNearby.step {left right : Event}
    (same : left.SameNearby right) (server : DhcpServer) :
    SameEffect (serverMachine.step server left)
      (serverMachine.step server right) := by
  cases same with
  | refl => exact ⟨rfl, rfl⟩
  | start nearby env => exact nearby.start server env
  | stop nearby => exact nearby.stop server
  | receive nearby =>
      unfold serverMachine
      dsimp only
      split
      · exact nearby.receive server
      · exact ⟨rfl, rfl⟩

/-- The same states, decisions and replies. -/
structure SameRun (server : DhcpServer) (events others : List Event) :
    Prop where
  state : serverMachine.exec server others = serverMachine.exec server events
  results :
    (serverMachine.outputs server others).map Handled.result =
      (serverMachine.outputs server events).map Handled.result

/-- A run depends on the memory from `read_buffer` on only up to 255 bytes behind
what each call of `receiveBytes` has received. -/
theorem run_reads_nearby (server : DhcpServer) {events others : List Event}
    (same : List.Forall₂ Event.SameNearby events others) :
    SameRun server events others := by
  obtain ⟨state, results⟩ := serverMachine.run_congr Handled.result
    (fun current _ _ nearby => nearby.step current) same server
  exact ⟨state, results⟩

/-- The identifier of this message is taken from the memory behind it. -/
theorem cutDiscover_reads_nearby :
    SameRun sampleServer
      [.receive (.received (cutDiscover fun _ => 7) true true)]
      [.receive (.received (cutDiscover fun index =>
        if index < 500 then 7 else 8) true true)] := by
  have same : (cutDiscover fun _ => 7).SameNearby (cutDiscover fun index =>
      if index < 500 then 7 else 8) := by
    refine ⟨rfl, ?_⟩
    intro index near
    have length : (cutDiscover fun _ => 7).bytesReceived = 245 :=
      length_clientMessage 0 _
    rw [length] at near
    simp only [cutDiscover, Datagram.ofBytes, near, if_true]
  exact run_reads_nearby sampleServer
    (.cons (.receive (.received same true true)) .nil)

end PoeDhcp
