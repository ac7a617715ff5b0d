import PoeDhcp.Inspection
import PoeDhcp.Lifecycle

namespace PoeDhcp

open Foundation
open DhcpServer

/-! The options 50 and 54 of a REQUEST. -/

/-- The first option with the tag has four bytes, and they are this word. -/
def Datagram.Carries (datagram : Datagram) (tag : BYTE) (word : DWORD) :
    Prop :=
  ∃ found, datagram.findOption tag = some found ∧ found.size = 4 ∧
    datagram.options.load32 found.offset = word

theorem Datagram.Carries.unique {datagram : Datagram} {tag : BYTE}
    {first second : DWORD} (hfirst : datagram.Carries tag first)
    (hsecond : datagram.Carries tag second) : first = second := by
  obtain ⟨found, search, -, rfl⟩ := hfirst
  obtain ⟨found', search', -, rfl⟩ := hsecond
  rw [search, Option.some.injEq] at search'
  rw [search']

theorem Datagram.size_ne_four_of_not_carries {datagram : Datagram}
    {tag : BYTE} {found : OptionData}
    (missing : ∀ word, ¬ datagram.Carries tag word)
    (search : datagram.findOption tag = some found) : found.size ≠ 4 :=
  fun size => missing _ ⟨found, search, size, rfl⟩

theorem requestIpAddress_of_carries {datagram : Datagram} {word : DWORD}
    (carries : datagram.Carries optionRequestedIpAddress word) :
    requestIpAddress datagram.options datagram.optionsSize = word := by
  obtain ⟨found, search, size, rfl⟩ := carries
  unfold Datagram.findOption at search
  simp only [requestIpAddress, search, size, if_true]

theorem requestIpAddress_of_not_carries {datagram : Datagram}
    (missing : ∀ word, ¬ datagram.Carries optionRequestedIpAddress word) :
    requestIpAddress datagram.options datagram.optionsSize =
      inaddrBroadcast := by
  unfold requestIpAddress
  cases search : findOptionData optionRequestedIpAddress datagram.options
      datagram.optionsSize with
  | none => rfl
  | some found =>
      have size := Datagram.size_ne_four_of_not_carries missing search
      simp only [size, if_false]

theorem requestIpAddress_eq_broadcast {datagram : Datagram} :
    requestIpAddress datagram.options datagram.optionsSize =
        inaddrBroadcast ↔
      ∀ word, datagram.Carries optionRequestedIpAddress word →
        word = inaddrBroadcast := by
  constructor
  · intro broadcast word carries
    rw [← broadcast, requestIpAddress_of_carries carries]
  · intro only
    by_cases carried :
        ∃ word, datagram.Carries optionRequestedIpAddress word
    · obtain ⟨word, carries⟩ := carried
      rw [requestIpAddress_of_carries carries, only word carries]
    · exact requestIpAddress_of_not_carries fun word carries =>
        carried ⟨word, carries⟩

theorem namesThisServer_iff {server : DhcpServer} {datagram : Datagram} :
    server.namesThisServer datagram.options datagram.optionsSize = true ↔
      datagram.Carries optionServerIdentifier
        server.serverAddress.address := by
  unfold namesThisServer Datagram.Carries Datagram.findOption
  cases findOptionData optionServerIdentifier datagram.options
      datagram.optionsSize with
  | none => simp
  | some found =>
      simp only [Bool.and_eq_true, decide_eq_true_eq, beq_iff_eq]
      constructor
      · intro named
        obtain ⟨size, same⟩ := named
        exact ⟨found, rfl, size, same.symm⟩
      · intro carried
        obtain ⟨_, equality, size, same⟩ := carried
        cases equality
        exact ⟨size, same.symm⟩

/-- The client has selected another server. -/
def SelectsOther (server : DhcpServer) (datagram : Datagram) : Prop :=
  ∃ word, datagram.Carries optionServerIdentifier word ∧
    word ≠ server.serverAddress.address

theorem SelectsOther.not_namesThisServer {server : DhcpServer}
    {datagram : Datagram} (other : SelectsOther server datagram) :
    server.namesThisServer datagram.options datagram.optionsSize = false := by
  obtain ⟨word, carries, different⟩ := other
  by_contra named
  rw [Bool.not_eq_false, namesThisServer_iff] at named
  exact different (carries.unique named)

/-! A server that the client has not selected. -/

/-- Neither an ACK nor a NAK is sent. -/
def Iteration.Silent (result : Iteration) : Prop :=
  ∀ transmission, result.sent = some transmission →
    transmission.messageType ≠ DHCPMessageTypes.ack.code ∧
      transmission.messageType ≠ DHCPMessageTypes.nak.code

theorem respond_silent_iff {server : DhcpServer} {query : Query}
    (request : query.messageType = .request) (localAlloc : Bool) :
    (server.respond query localAlloc).Silent ↔ server.verdict query = none := by
  rcases verdict_cases server query with ⟨acked, entry, known⟩ | refused | silent
  · have type : (server.ackReply query.request
        (dwValueToIp entry.dwAddrValue)).options.messageType =
          DHCPMessageTypes.ack.code := rfl
    simp [Iteration.Silent, respond_ack request known acked, acked, type]
  · simp [Iteration.Silent, respond_nak request refused, refused,
      nakReply_messageType]
  · simp [Iteration.Silent, respond_invalid request silent, silent]

private theorem extension_eq_none {word ciaddr : DWORD} {known : Prop}
    [Decidable known] :
    (if inaddrBroadcast ≠ word ∨ (inaddrBroadcast = word ∧ ciaddr ≠ 0) then
        if known then some DHCPMessageTypes.ack else some DHCPMessageTypes.nak
      else none) = none ↔
      word = inaddrBroadcast ∧ ciaddr = 0 := by
  by_cases named : inaddrBroadcast ≠ word ∨
      (inaddrBroadcast = word ∧ ciaddr ≠ 0)
  · rw [if_pos named]
    constructor
    · intro silent
      split at silent <;> cases silent
    · intro unnamed
      obtain ⟨rfl, zero⟩ := unnamed
      simp [zero] at named
  · rw [if_neg named]
    rw [not_or, not_not] at named
    obtain ⟨rfl, unnamed⟩ := named
    simpa using unnamed

theorem verdict_of_other {server : DhcpServer} {datagram : Datagram}
    (other : SelectsOther server datagram) (messageType : DHCPMessageTypes) :
    server.verdict (datagram.query messageType) = none ↔
      requestIpAddress datagram.options datagram.optionsSize =
        inaddrBroadcast ∧ datagram.request.ciaddr = 0 := by
  simp only [verdict, requestVerdict, Datagram.query_options,
    Datagram.query_optionsSize, Datagram.query_request,
    other.not_namesThisServer, Bool.false_eq_true, if_false]
  exact extension_eq_none

/-- The server keeps silent about a REQUEST for another server exactly when the
REQUEST names no address at all. -/
theorem silent_for_other_iff {server : DhcpServer} {datagram : Datagram}
    (accepts : server.Accepts datagram .request)
    (other : SelectsOther server datagram) (localAlloc : Bool) :
    (server.iteration datagram localAlloc).Silent ↔
      (∀ word, datagram.Carries optionRequestedIpAddress word →
          word = inaddrBroadcast) ∧
        datagram.request.ciaddr = 0 := by
  rw [accepts.iteration, respond_silent_iff rfl, verdict_of_other other,
    requestIpAddress_eq_broadcast]

/-- A REQUEST to the server 192.168.60.1, with more options behind the server
identifier. -/
def foreignRequest (options : List BYTE)
    (bound : ([53, 1, 3, 54, 4, 192, 168, 60, 1] ++ options).length < 256) :
    Datagram :=
  .ofBytes (clientMessage 0 ([53, 1, 3, 54, 4, 192, 168, 60, 1] ++ options))
    (fun _ => 0) (clientMessage_bound 0 bound)

theorem silent_for_foreignRequest :
    (sampleServer.iteration (foreignRequest [255] (by decide)) true).Silent :=
  (silent_for_other_iff
    ⟨⟨by decide +kernel, by decide +kernel, rfl⟩, by decide +kernel⟩
    ⟨0x013ca8c0, ⟨⟨5, 4⟩, by decide +kernel, rfl, by decide +kernel⟩,
      by decide +kernel⟩ true).mpr
    ⟨by
      intro word carried
      obtain ⟨found, search, -⟩ := carried
      revert search
      rw [show (foreignRequest [255] (by decide)).findOption
        optionRequestedIpAddress = none by decide +kernel]
      simp, by decide +kernel⟩

/-- With the address that the other server has offered the answer is a NAK. -/
theorem foreignRequest_answered :
    sampleServer.Accepts
        (foreignRequest [50, 4, 192, 168, 60, 2, 255] (by decide)) .request ∧
      SelectsOther sampleServer
        (foreignRequest [50, 4, 192, 168, 60, 2, 255] (by decide)) ∧
      ¬ (sampleServer.iteration
        (foreignRequest [50, 4, 192, 168, 60, 2, 255] (by decide))
          true).Silent := by
  refine ⟨⟨⟨by decide +kernel, by decide +kernel, rfl⟩, by decide +kernel⟩,
    ⟨0x013ca8c0, ⟨⟨5, 4⟩, by decide +kernel, rfl, by decide +kernel⟩,
      by decide +kernel⟩, ?_⟩
  intro silent
  have nak : ((sampleServer.iteration
      (foreignRequest [50, 4, 192, 168, 60, 2, 255] (by decide))
        true).sent.map Transmission.messageType) =
      some DHCPMessageTypes.nak.code := by decide +kernel
  obtain ⟨transmission, sent, type⟩ := Option.map_eq_some_iff.mp nak
  exact (silent transmission sent).2 type

end PoeDhcp
