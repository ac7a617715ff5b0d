import PoeDhcp.Handshake

namespace PoeDhcp

open Foundation
open DhcpServer

/-! Which address an ACK confirms. -/

/-- The address that a REQUEST asks for: a four-byte option 50, or else
`ciaddr`. -/
def Datagram.requestedAddress (datagram : Datagram) : DWORD :=
  match datagram.findOption optionRequestedIpAddress with
  | some found =>
      if found.size = 4 then datagram.options.load32 found.offset
      else datagram.request.ciaddr
  | none => datagram.request.ciaddr

theorem Datagram.requestedAddress_of_carries {datagram : Datagram}
    {word : DWORD}
    (carries : datagram.Carries optionRequestedIpAddress word) :
    datagram.requestedAddress = word := by
  obtain ⟨found, search, size, rfl⟩ := carries
  unfold requestedAddress
  rw [search]
  dsimp only
  rw [if_pos size]

theorem Datagram.requestedAddress_of_not_carries {datagram : Datagram}
    (missing : ∀ word, ¬ datagram.Carries optionRequestedIpAddress word) :
    datagram.requestedAddress = datagram.request.ciaddr := by
  unfold requestedAddress
  cases search : datagram.findOption optionRequestedIpAddress with
  | none => rfl
  | some found =>
      have size := Datagram.size_ne_four_of_not_carries missing search
      simp only [size, if_false]

/-- An ACK goes to a client with a lease, confirms the leased address, and that
is the address the client asks for. -/
def ConfirmsRequested (server : DhcpServer) (datagram : Datagram)
    (localAlloc : Bool) : Prop :=
  ∀ ack, (server.iteration datagram localAlloc).sent = some ack →
    ack.messageType = DHCPMessageTypes.ack.code →
      ∃ entry, server.knownEntry datagram.identifier = some entry ∧
        datagram.requestedAddress = dwValueToIp entry.dwAddrValue ∧
        ack.yiaddr = dwValueToIp entry.dwAddrValue

/-- The ways in which a client with a lease asks for another address and the
server does not notice. -/
inductive OverlooksRequested (server : DhcpServer) (datagram : Datagram) :
    Prop
  /-- It selects this server. The requested address is not looked at. -/
  | selecting {entry}
      (known : server.knownEntry datagram.identifier = some entry)
      (other : datagram.requestedAddress ≠ dwValueToIp entry.dwAddrValue)
      (named : datagram.Carries optionServerIdentifier
        server.serverAddress.address)
  /-- Option 50 asks for another address, but `ciaddr` is the leased one. -/
  | rebooting {entry word}
      (known : server.knownEntry datagram.identifier = some entry)
      (requested : datagram.Carries optionRequestedIpAddress word)
      (other : word ≠ dwValueToIp entry.dwAddrValue)
      (held : datagram.request.ciaddr = dwValueToIp entry.dwAddrValue)
  /-- The leased address is the value that stands for a missing option 50. -/
  | unset {entry}
      (known : server.knownEntry datagram.identifier = some entry)
      (missing : ∀ word, ¬ datagram.Carries optionRequestedIpAddress word)
      (broadcast : dwValueToIp entry.dwAddrValue = inaddrBroadcast)
      (nonzero : datagram.request.ciaddr ≠ 0)
      (other : datagram.request.ciaddr ≠ inaddrBroadcast)

section Verdict

variable {server : DhcpServer} {request : DHCPMessage} {options : Memory}
variable {optionsSize : Nat} {previousOfferAddr : DWORD}

private theorem named_iff {word ciaddr : DWORD} :
    inaddrBroadcast ≠ word ∨ (inaddrBroadcast = word ∧ ciaddr ≠ 0) ↔
      word ≠ inaddrBroadcast ∨ ciaddr ≠ 0 := by
  by_cases absent : word = inaddrBroadcast
  · simp [absent]
  · simp [absent, Ne.symm absent]

/-- What the verdict compares when the client does not name this server. -/
theorem requestVerdict_unnamed_ack
    (unnamed : server.namesThisServer options optionsSize = false) :
    server.requestVerdict request options optionsSize true previousOfferAddr =
        some .ack ↔
      (requestIpAddress options optionsSize ≠ inaddrBroadcast ∨
          request.ciaddr ≠ 0) ∧
        (previousOfferAddr = requestIpAddress options optionsSize ∨
          previousOfferAddr = request.ciaddr) := by
  simp only [requestVerdict, unnamed, Bool.false_eq_true, if_false, true_and,
    named_iff]
  constructor
  · intro acked
    split at acked
    · rename_i named
      split at acked
      · rename_i same
        exact ⟨named, same⟩
      · cases acked
    · cases acked
  · intro both
    obtain ⟨named, same⟩ := both
    rw [if_pos named, if_pos same]

end Verdict

section Server

variable {server : DhcpServer} {datagram : Datagram}
variable {entry : AddressInUseInformation} {localAlloc : Bool}

theorem verdict_of_known
    (known : server.knownEntry datagram.identifier = some entry) :
    server.verdict (datagram.query .request) =
      server.requestVerdict datagram.request datagram.options
        datagram.optionsSize true (dwValueToIp entry.dwAddrValue) := by
  rw [verdict, Datagram.query_request, Datagram.query_options,
    Datagram.query_optionsSize, Datagram.query_identifier,
    checkIsClientExist_known known]

theorem acked_of_sent {ack : Transmission}
    (sent : (server.iteration datagram localAlloc).sent = some ack)
    (type : ack.messageType = DHCPMessageTypes.ack.code) :
    server.verdict (datagram.query .request) = some .ack ∧
      ∃ entry, server.knownEntry datagram.identifier = some entry ∧
        ack.yiaddr = dwValueToIp entry.dwAddrValue := by
  have replies := iteration_replies sent
  generalize (server.iteration datagram localAlloc).server = after at replies
  cases replies with
  | ack accepts known acked =>
      refine ⟨acked, _, known, ?_⟩
      rw [sendDhcpMessage_yiaddr]
      rfl
  | nak =>
      rw [sendDhcpMessage_messageType, nakReply_messageType] at type
      exact absurd type (by decide)
  | _ =>
      rw [sendDhcpMessage_messageType, offerReply_messageType] at type
      exact absurd type (by decide)

theorem confirmsRequested_iff (accepts : server.Accepts datagram .request) :
    ConfirmsRequested server datagram localAlloc ↔
      ∀ entry, server.knownEntry datagram.identifier = some entry →
        server.verdict (datagram.query .request) = some .ack →
          datagram.requestedAddress = dwValueToIp entry.dwAddrValue := by
  constructor
  · intro confirms entry known acked
    have request := Datagram.query_messageType datagram .request
    have found := known
    rw [← Datagram.query_identifier datagram .request] at found
    obtain ⟨other, known', requested, -⟩ := confirms _
      (by rw [accepts.iteration, respond_ack request found acked])
      (sendDhcpMessage_messageType _ _)
    rw [known, Option.some.injEq] at known'
    rw [known', requested]
  · intro confirms ack sent type
    obtain ⟨acked, entry, known, yiaddr⟩ := acked_of_sent sent type
    exact ⟨entry, known, confirms entry known acked, yiaddr⟩

/-! The three ways to overlook the requested address, for a client with a
lease. -/

theorem overlooksRequested_named
    (known : server.knownEntry datagram.identifier = some entry)
    (named : datagram.Carries optionServerIdentifier
      server.serverAddress.address) :
    OverlooksRequested server datagram ↔
      datagram.requestedAddress ≠ dwValueToIp entry.dwAddrValue := by
  constructor
  · intro overlooks
    cases overlooks with
    | selecting known' other _ =>
        rw [known, Option.some.injEq] at known'
        rw [known']
        exact other
    | rebooting known' requested other _ =>
        rw [known, Option.some.injEq] at known'
        rw [Datagram.requestedAddress_of_carries requested, known']
        exact other
    | unset known' missing broadcast _ other =>
        rw [known, Option.some.injEq] at known'
        rw [Datagram.requestedAddress_of_not_carries missing, known',
          broadcast]
        exact other
  · intro other
    exact .selecting known other named

theorem overlooksRequested_requested
    (known : server.knownEntry datagram.identifier = some entry)
    (unnamed : ¬ datagram.Carries optionServerIdentifier
      server.serverAddress.address) {word : DWORD}
    (requested : datagram.Carries optionRequestedIpAddress word) :
    OverlooksRequested server datagram ↔
      word ≠ dwValueToIp entry.dwAddrValue ∧
        datagram.request.ciaddr = dwValueToIp entry.dwAddrValue := by
  constructor
  · intro overlooks
    cases overlooks with
    | selecting _ _ named => exact absurd named unnamed
    | rebooting known' requested' other held =>
        rw [known, Option.some.injEq] at known'
        rw [known', requested.unique requested']
        exact ⟨other, held⟩
    | unset _ missing _ _ _ => exact absurd requested (missing word)
  · intro both
    exact .rebooting known requested both.1 both.2

theorem overlooksRequested_unset
    (known : server.knownEntry datagram.identifier = some entry)
    (unnamed : ¬ datagram.Carries optionServerIdentifier
      server.serverAddress.address)
    (missing : ∀ word, ¬ datagram.Carries optionRequestedIpAddress word) :
    OverlooksRequested server datagram ↔
      dwValueToIp entry.dwAddrValue = inaddrBroadcast ∧
        datagram.request.ciaddr ≠ 0 ∧
        datagram.request.ciaddr ≠ inaddrBroadcast := by
  constructor
  · intro overlooks
    cases overlooks with
    | selecting _ _ named => exact absurd named unnamed
    | rebooting _ requested _ _ => exact absurd requested (missing _)
    | unset known' _ broadcast nonzero other =>
        rw [known, Option.some.injEq] at known'
        rw [known']
        exact ⟨broadcast, nonzero, other⟩
  · intro all
    exact .unset known missing all.1 all.2.1 all.2.2

/-- The verdict on a client with a lease is an ACK for an address that it has
not asked for. -/
theorem overlooksRequested_iff
    (known : server.knownEntry datagram.identifier = some entry)
    (nonzero : dwValueToIp entry.dwAddrValue ≠ 0) :
    OverlooksRequested server datagram ↔
      server.verdict (datagram.query .request) = some .ack ∧
        datagram.requestedAddress ≠ dwValueToIp entry.dwAddrValue := by
  rw [verdict_of_known known]
  by_cases named : server.namesThisServer datagram.options
      datagram.optionsSize = true
  · rw [requestVerdict_named named,
      overlooksRequested_named known (namesThisServer_iff.mp named)]
    exact (and_iff_right rfl).symm
  · have unnamed : ¬ datagram.Carries optionServerIdentifier
        server.serverAddress.address :=
      fun carries => named (namesThisServer_iff.mpr carries)
    rw [requestVerdict_unnamed_ack (Bool.eq_false_of_not_eq_true named)]
    by_cases carried :
        ∃ word, datagram.Carries optionRequestedIpAddress word
    · obtain ⟨word, requested⟩ := carried
      rw [requestIpAddress_of_carries requested,
        Datagram.requestedAddress_of_carries requested,
        overlooksRequested_requested known unnamed requested]
      constructor
      · intro both
        obtain ⟨other, held⟩ := both
        exact ⟨⟨Or.inr (held ▸ nonzero), Or.inr held.symm⟩, other⟩
      · intro both
        obtain ⟨⟨-, held⟩, other⟩ := both
        exact ⟨other, (held.resolve_left other.symm).symm⟩
    · rw [not_exists] at carried
      rw [requestIpAddress_of_not_carries carried,
        Datagram.requestedAddress_of_not_carries carried,
        overlooksRequested_unset known unnamed carried]
      constructor
      · intro all
        obtain ⟨broadcast, ciaddr, other⟩ := all
        exact ⟨⟨Or.inr ciaddr, Or.inl broadcast⟩, broadcast ▸ other⟩
      · intro both
        obtain ⟨⟨valid, held⟩, other⟩ := both
        have broadcast := held.resolve_right other.symm
        exact ⟨broadcast, valid.resolve_left fun absent => absent rfl,
          broadcast ▸ other⟩

end Server

/-! In a run. -/

/-- In every state of a run an ACK confirms the address the client asks for,
except where the server overlooks it. -/
theorem ack_confirms_requested_iff (netAddress : DhcpNetWorkAddr)
    (events : List Event) {datagram : Datagram}
    (accepts : (serverMachine.exec (construct netAddress) events).Accepts
      datagram .request) (localAlloc : Bool) :
    ConfirmsRequested (serverMachine.exec (construct netAddress) events)
        datagram localAlloc ↔
      ¬ OverlooksRequested
        (serverMachine.exec (construct netAddress) events) datagram := by
  obtain ⟨book, represents, -⟩ := run_simulates netAddress events
  have nonzero : ∀ {entry},
      (serverMachine.exec (construct netAddress) events).knownEntry
        datagram.identifier = some entry →
      dwValueToIp entry.dwAddrValue ≠ 0 := fun known zero =>
    (book.pooled (represents.known known).2).nonzero
      (Word32.reverseBytes_eq_zero.mp zero)
  generalize serverMachine.exec (construct netAddress) events = server
    at accepts nonzero
  rw [confirmsRequested_iff accepts]
  constructor
  · intro confirms overlooks
    have known : ∃ entry, server.knownEntry datagram.identifier =
        some entry := by
      cases overlooks with
      | selecting known _ _ => exact ⟨_, known⟩
      | rebooting known _ _ _ => exact ⟨_, known⟩
      | unset known _ _ _ _ => exact ⟨_, known⟩
    obtain ⟨entry, known⟩ := known
    obtain ⟨acked, other⟩ :=
      (overlooksRequested_iff known (nonzero known)).mp overlooks
    exact other (confirms entry known acked)
  · intro notices entry known acked
    by_contra other
    exact notices
      ((overlooksRequested_iff known (nonzero known)).mpr ⟨acked, other⟩)

/-- The first client takes its offer up. -/
theorem first_client_confirmed :
    ConfirmsRequested
      (serverMachine.exec (construct sampleNetAddress) firstEvents)
      selectingRequest true := by
  have accepts : (serverMachine.exec (construct sampleNetAddress)
      firstEvents).Accepts selectingRequest .request :=
    ⟨⟨by decide +kernel, by decide +kernel, rfl⟩, by decide +kernel⟩
  have known : (serverMachine.exec (construct sampleNetAddress)
      firstEvents).knownEntry selectingRequest.identifier =
        some (leaseEntry 0xc0a83202 [1, 7]) := by decide +kernel
  have requested : selectingRequest.requestedAddress =
      dwValueToIp 0xc0a83202 := by decide +kernel
  refine (ack_confirms_requested_iff sampleNetAddress firstEvents accepts
    true).mpr ?_
  intro overlooks
  cases overlooks with
  | selecting known' other _ =>
      rw [known, Option.some.injEq] at known'
      rw [← known'] at other
      exact other requested
  | rebooting known' _ _ held =>
      rw [known, Option.some.injEq] at known'
      rw [← known'] at held
      exact absurd held (by decide +kernel)
  | unset _ missing _ _ _ =>
      exact missing _ ⟨⟨15, 4⟩, by decide +kernel, rfl, rfl⟩

/-- It selects this server, but with the address 192.168.50.77. -/
def selectingOther : Datagram :=
  .ofBytes
    (clientMessage 0 [53, 1, 3, 61, 2, 1, 7, 54, 4, 192, 168, 50, 1,
      50, 4, 192, 168, 50, 77, optionEnd])
    (fun _ => 0) (clientMessage_bound 0 (by decide))

theorem selectingOther_acked :
    (serverMachine.exec (construct sampleNetAddress) firstEvents).Accepts
        selectingOther .request ∧
      ¬ ConfirmsRequested
        (serverMachine.exec (construct sampleNetAddress) firstEvents)
        selectingOther true := by
  refine ⟨⟨⟨by decide +kernel, by decide +kernel, rfl⟩, by decide +kernel⟩, ?_⟩
  intro confirms
  have acked : ((serverMachine.exec (construct sampleNetAddress)
      firstEvents).iteration selectingOther true).sent.map
        (fun ack => (ack.messageType, ack.yiaddr)) =
      some (DHCPMessageTypes.ack.code, 0x0232a8c0) := by decide +kernel
  have requested : selectingOther.requestedAddress = 0x4d32a8c0 := by
    decide +kernel
  obtain ⟨ack, sent, reply⟩ := Option.map_eq_some_iff.mp acked
  simp only [Prod.mk.injEq] at reply
  obtain ⟨entry, -, same, yiaddr⟩ := confirms ack sent reply.1
  rw [requested, ← yiaddr, reply.2] at same
  exact absurd same (by decide)

end PoeDhcp
