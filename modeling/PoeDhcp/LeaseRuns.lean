import PoeDhcp.LeaseTable

namespace PoeDhcp

open Foundation
open DhcpServer

/-! What a processed datagram tells a client. -/

/-- The identifier that `GetIdentifier` returns for a message that gets that
far. -/
def Handled.identifier? (handled : Handled) : Option (List BYTE) :=
  match handled.before.inspect handled.datagram with
  | .ok query => some query.identifier
  | .error _ => none

/-- A reply of the given type and with the given `yiaddr`, to a message with the
given identifier, is handed to `SendDhcpMessage`. -/
structure Handled.Tells (handled : Handled) (type : DHCPMessageTypes)
    (identifier : List BYTE) (yiaddr : DWORD) : Prop where
  identified : handled.identifier? = some identifier
  sent : ∃ transmission, handled.result.sent = some transmission ∧
    transmission.messageType = type.code ∧ transmission.yiaddr = yiaddr

def Handled.TellsLease (handled : Handled) (identifier : List BYTE)
    (yiaddr : DWORD) : Prop :=
  handled.Tells .offer identifier yiaddr ∨ handled.Tells .ack identifier yiaddr

/-! The same as announcements of the abstract service. -/

def announcement? (query : Query) (transmission : Transmission) :
    Option (Announcement (List BYTE) DWORD) :=
  if transmission.messageType = DHCPMessageTypes.offer.code then
    some ⟨.offer, query.identifier, dwIpToValue transmission.yiaddr⟩
  else if transmission.messageType = DHCPMessageTypes.ack.code then
    some ⟨.confirm, query.identifier, dwIpToValue transmission.yiaddr⟩
  else
    none

def Handled.announcements (handled : Handled) :
    List (Announcement (List BYTE) DWORD) :=
  match handled.before.inspect handled.datagram with
  | .ok query => (handled.result.sent.bind (announcement? query)).toList
  | .error _ => []

def kindOf (kind : AnnouncementKind) : DHCPMessageTypes :=
  match kind with
  | .offer => .offer
  | .confirm => .ack

theorem Handled.mem_announcements {handled : Handled} {kind : AnnouncementKind}
    {identifier : List BYTE} {addr : DWORD} :
    ⟨kind, identifier, addr⟩ ∈ handled.announcements ↔
      handled.Tells (kindOf kind) identifier (dwValueToIp addr) := by
  unfold Handled.announcements
  cases inspected : handled.before.inspect handled.datagram with
  | error decision =>
      constructor
      · intro member
        simp at member
      · intro tells
        have identified := tells.identified
        simp [Handled.identifier?, inspected] at identified
  | ok query =>
      have identifier? : handled.identifier? = some query.identifier := by
        simp [Handled.identifier?, inspected]
      simp only [Option.mem_toList, Option.bind_eq_some_iff]
      constructor
      · intro told
        obtain ⟨transmission, sent, announced⟩ := told
        unfold announcement? at announced
        split at announced
        · rename_i offered
          simp only [Option.some.injEq, Announcement.mk.injEq] at announced
          obtain ⟨rfl, rfl, rfl⟩ := announced
          exact ⟨identifier?, transmission, sent, offered, by simp⟩
        · split at announced
          · rename_i acked
            simp only [Option.some.injEq, Announcement.mk.injEq] at announced
            obtain ⟨rfl, rfl, rfl⟩ := announced
            exact ⟨identifier?, transmission, sent, acked, by simp⟩
          · contradiction
      · intro tells
        obtain ⟨identified, transmission, sent, type, address⟩ := tells
        rw [identifier?, Option.some.injEq] at identified
        have value : dwIpToValue transmission.yiaddr = addr := by
          rw [address, dwIpToValue_dwValueToIp]
        refine ⟨transmission, sent, ?_⟩
        unfold announcement?
        rw [type, value, identified]
        cases kind with
        | offer => rfl
        | confirm => rfl

theorem announcement?_offerReply (server : DhcpServer) (query : Query)
    (addr : DWORD) :
    announcement? query (sendDhcpMessage query.request
        (server.offerReply query.request (dwValueToIp addr))) =
      some ⟨.offer, query.identifier, addr⟩ := by
  simp [announcement?, offerReply]

theorem announcement?_ackReply (server : DhcpServer) (query : Query)
    (addr : DWORD) :
    announcement? query (sendDhcpMessage query.request
        (server.ackReply query.request (dwValueToIp addr))) =
      some ⟨.confirm, query.identifier, addr⟩ := by
  simp [announcement?, ackReply, DHCPMessageTypes.code]

theorem announcement?_nakReply (server : DhcpServer) (query : Query) :
    announcement? query (sendDhcpMessage query.request
        (server.nakReply query.request)) = none := by
  simp [announcement?, nakReply_messageType, DHCPMessageTypes.code]

/-! Every step of the server is a step of the abstract service. -/

/-- The server represents a book with which the service can have made these
announcements. -/
def Simulates (netAddress : DhcpNetWorkAddr) (server : DhcpServer)
    (history : List (Announcement (List BYTE) DWORD)) : Prop :=
  ∃ book : Book netAddress,
    Represents netAddress server book ∧ LeaseRun history book

theorem iteration_simulates {netAddress : DhcpNetWorkAddr}
    {server : DhcpServer} {history : List (Announcement (List BYTE) DWORD)}
    (simulates : Simulates netAddress server history)
    (looping : server.thread = some .looping) (datagram : Datagram)
    (localAlloc : Bool) :
    Simulates netAddress (server.iteration datagram localAlloc).server
      (history ++ Handled.announcements ⟨server, datagram, localAlloc⟩) := by
  obtain ⟨book, represents, run⟩ := simulates
  unfold Handled.announcements Handled.result
  refine iteration_rule server datagram localAlloc ?_ ?_
  · intro decision inspected
    simp only [inspected, List.append_nil]
    exact ⟨book, represents, run⟩
  · intro query result inspected responds
    simp only [inspected]
    cases responds with
    | renew discover known nonzero =>
        simp only [Option.bind_some, announcement?_offerReply,
          Option.toList_some]
        exact ⟨book, represents,
          .repeated .offer run (represents.known known).2⟩
    | grant discover unknown found nonzero allocated =>
        simp only [Option.bind_some, announcement?_offerReply,
          Option.toList_some]
        have grantable := represents.grantable (represents.serving looping)
          unknown found nonzero
        exact ⟨book.grant _ _ grantable, represents.lease grantable,
          .grant run grantable⟩
    | ack request known acked =>
        simp only [Option.bind_some, announcement?_ackReply,
          Option.toList_some]
        exact ⟨book, represents,
          .repeated .confirm run (represents.known known).2⟩
    | nak request refused =>
        simp only [Option.bind_some, announcement?_nakReply,
          Option.toList_none, List.append_nil]
        exact ⟨book, represents, run⟩
    | zeroEntry => exact ⟨book, represents, by simpa using run⟩
    | exhausted => exact ⟨book, represents, by simpa using run⟩
    | invalid => exact ⟨book, represents, by simpa using run⟩
    | other => exact ⟨book, represents, by simpa using run⟩
    | outOfMemory =>
        exact ⟨book, represents.frame rfl rfl id, by simpa using run⟩
    | zeroAddress =>
        exact ⟨book, represents.frame rfl rfl id, by simpa using run⟩

theorem Simulates.frame {netAddress : DhcpNetWorkAddr}
    {server : DhcpServer}
    {history : List (Announcement (List BYTE) DWORD)}
    (simulates : Simulates netAddress server history) (other : DhcpServer)
    (address : other.serverAddress = server.serverAddress)
    (table : other.addressesInUse = server.addressesInUse)
    (thread : other.thread = some .looping → server.thread = some .looping) :
    Simulates netAddress other history := by
  obtain ⟨book, represents, run⟩ := simulates
  exact ⟨book, represents.frame address table thread, run⟩

theorem receive_simulates {netAddress : DhcpNetWorkAddr}
    {server : DhcpServer} {history : List (Announcement (List BYTE) DWORD)}
    (simulates : Simulates netAddress server history)
    (looping : server.thread = some .looping) (reception : Reception) :
    Simulates netAddress (server.receive reception).1
      (history ++
        (server.receive reception).2.flatMap Handled.announcements) := by
  cases reception with
  | threw =>
      simpa [DhcpServer.receive] using
        simulates.frame { server with thread := some .ended } rfl rfl (by simp)
  | failed => simpa [DhcpServer.receive] using simulates
  | received datagram localAlloc sendTo =>
      have after := iteration_simulates simulates looping datagram localAlloc
      simp only [DhcpServer.receive, List.flatMap_cons, List.flatMap_nil,
        List.append_nil]
      split
      · exact after.frame _ rfl rfl (by simp)
      · exact after

theorem stop_simulates {netAddress : DhcpNetWorkAddr}
    {server : DhcpServer} {history : List (Announcement (List BYTE) DWORD)}
    (simulates : Simulates netAddress server history)
    (last : Option Reception) :
    Simulates netAddress (server.stop last).1
      (history ++ (server.stop last).2.flatMap Handled.announcements) := by
  refine stop_rule server last ?_ ?_ ?_
  · intro _
    simpa using simulates
  · intro _
    rw [List.flatMap_nil, List.append_nil]
    exact simulates.frame _ rfl rfl (by simp)
  · intro reception looping
    have stopping := simulates.frame
      { server with starting := false } rfl rfl id
    exact (receive_simulates stopping looping reception).frame _
      rfl rfl (by simp)

theorem settle_simulates {netAddress : DhcpNetWorkAddr}
    {server : DhcpServer} {history : List (Announcement (List BYTE) DWORD)}
    (simulates : Simulates netAddress server history)
    (last : Option Reception) :
    Simulates netAddress (server.settle last).1
      (history ++ (server.settle last).2.flatMap Handled.announcements) := by
  unfold settle
  split
  · exact stop_simulates simulates last
  · simpa using simulates

theorem start_simulates {netAddress : DhcpNetWorkAddr}
    {server : DhcpServer} {history : List (Announcement (List BYTE) DWORD)}
    (simulates : Simulates netAddress server history)
    (last : Option Reception) (env : InitEnv) :
    Simulates netAddress (server.start last env).2.1
      (history ++
        (server.start last env).2.2.flatMap Handled.announcements) := by
  obtain ⟨book, represents, run⟩ := settle_simulates simulates last
  cases success : env.succeeds with
  | false =>
      rw [start_failure success]
      exact ⟨book, represents.initServer_failed success, run⟩
  | true =>
      rw [start_success success]
      exact ⟨book, represents.initServer success rfl rfl, run⟩

theorem next_simulates {netAddress : DhcpNetWorkAddr}
    {server : DhcpServer} {history : List (Announcement (List BYTE) DWORD)}
    (simulates : Simulates netAddress server history) (event : Event) :
    Simulates netAddress (serverMachine.next server event)
      (history ++ (serverMachine.emit server event).flatMap
        Handled.announcements) := by
  cases event with
  | start last env => exact start_simulates simulates last env
  | stop last => exact stop_simulates simulates last
  | receive reception =>
      by_cases looping : server.thread = some .looping
      · rw [serverMachine.next_receive looping,
          serverMachine.emit_receive looping]
        exact receive_simulates simulates looping reception
      · rw [serverMachine.next_receive_idle looping,
          serverMachine.emit_receive_idle looping]
        simpa using simulates

/-- Every run of a server object is a run of the abstract lease service. -/
theorem run_simulates (netAddress : DhcpNetWorkAddr) (events : List Event) :
    Simulates netAddress
      (serverMachine.exec (construct netAddress) events)
      ((serverMachine.outputs (construct netAddress) events).flatMap
        Handled.announcements) := by
  apply serverMachine.history_induction
    (I := fun server handled =>
      Simulates netAddress server (handled.flatMap Handled.announcements))
  · exact ⟨LeaseBook.empty, Represents.construct netAddress, .start⟩
  · intro event _ server handled simulates
    rw [List.flatMap_append]
    exact next_simulates simulates event

end PoeDhcp
