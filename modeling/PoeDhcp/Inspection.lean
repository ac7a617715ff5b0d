import PoeDhcp.OptionArea

namespace PoeDhcp

open Foundation

/-! What the loop body reads of a datagram. -/

namespace Datagram

variable (datagram : Datagram)

/-- The memory behind the magic cookie, and how much of it was received. -/
def options : Memory :=
  datagram.readBuffer.shift optionsOffset

def optionsSize : Nat :=
  datagram.bytesReceived - optionsOffset

/-- The received option bytes. -/
def optionArea : List BYTE :=
  datagram.options.read 0 datagram.optionsSize

def request : DHCPMessage :=
  DHCPMessage.overlay datagram.readBuffer

def isRequest : Bool :=
  isDhcpRequest datagram.readBuffer datagram.bytesReceived

def findOption (tag : BYTE) : Option OptionData :=
  findOptionData tag datagram.options datagram.optionsSize

def messageType? : Option DHCPMessageTypes :=
  getDHCPMessageType datagram.options datagram.optionsSize

def clientName : List BYTE :=
  DhcpServer.clientHostName datagram.options datagram.optionsSize

def identifier : List BYTE :=
  match datagram.findOption optionClientIdentifier with
  | some found => datagram.options.read found.offset found.size
  | none => datagram.readBuffer.read chaddrOffset sizeofChaddr

def query (messageType : DHCPMessageTypes) : Query where
  request := datagram.request
  options := datagram.options
  optionsSize := datagram.optionsSize
  messageType := messageType
  identifier := datagram.identifier

section Query

variable (messageType : DHCPMessageTypes)

@[simp] theorem query_request :
    (datagram.query messageType).request = datagram.request := rfl

@[simp] theorem query_options :
    (datagram.query messageType).options = datagram.options := rfl

@[simp] theorem query_optionsSize :
    (datagram.query messageType).optionsSize = datagram.optionsSize := rfl

@[simp] theorem query_messageType :
    (datagram.query messageType).messageType = messageType := rfl

@[simp] theorem query_identifier :
    (datagram.query messageType).identifier = datagram.identifier := by
  simp only [query]

end Query

/-- A client's message of a type that the server handles. -/
structure Relevant (messageType : DHCPMessageTypes) : Prop where
  isRequest : datagram.isRequest = true
  typed : datagram.messageType? = some messageType
  notIgnored : messageType.isIgnored = false

theorem le_of_isRequest {datagram : Datagram}
    (accepted : datagram.isRequest = true) :
    optionsOffset ≤ datagram.bytesReceived := by
  simp only [isRequest, isDhcpRequest, Bool.and_eq_true, decide_eq_true_eq]
    at accepted
  exact accepted.1.1

theorem long_of_findOption {datagram : Datagram} {tag : BYTE}
    {found : OptionData} (hfound : datagram.findOption tag = some found) :
    2 < datagram.optionsSize :=
  findOptionData_long hfound

theorem messageType?_eq_some {datagram : Datagram}
    {messageType : DHCPMessageTypes}
    (typed : datagram.messageType? = some messageType) :
    ∃ found, datagram.findOption optionDhcpMessageType = some found ∧
      found.size = 1 ∧ 1 ≤ datagram.options found.offset ∧
      datagram.options found.offset ≤ 8 ∧
      messageType = DHCPMessageTypes.ofCode
        (datagram.options found.offset) := by
  unfold messageType? getDHCPMessageType at typed
  split at typed
  · cases typed
  · rename_i found search
    split at typed
    · rename_i valid
      exact ⟨found, search, valid.1, valid.2.1, valid.2.2,
        (Option.some.inj typed).symm⟩
    · cases typed

theorem long_of_messageType? {datagram : Datagram}
    {messageType : DHCPMessageTypes}
    (typed : datagram.messageType? = some messageType) :
    2 < datagram.optionsSize := by
  obtain ⟨found, search, -⟩ := messageType?_eq_some typed
  exact long_of_findOption search

theorem getOptions_eq {datagram : Datagram}
    (accepted : datagram.isRequest = true) :
    getOptions datagram.readBuffer datagram.bytesReceived =
      some (datagram.options, datagram.optionsSize) := by
  have lower := le_of_isRequest accepted
  have upper := datagram.bytesReceived_le
  simp only [optionsOffset, sizeofDHCPMessage, dhcpMagicCookie,
    List.length_cons, List.length_nil] at lower
  simp only [maxUdpMessageSize] at upper
  unfold getOptions
  rw [if_neg (by omega)]
  simp only [options, optionsSize, optionsOffset, sizeofDHCPMessage,
    dhcpMagicCookie, List.length_cons, List.length_nil, Option.some.injEq,
    Prod.mk.injEq, true_and]
  simp only [BitVec.toNat_sub, BitVec.toNat_ofNat]
  omega

theorem parseReceiveData_eq :
    parseReceiveData datagram.readBuffer datagram.bytesReceived =
      if datagram.isRequest then some datagram.request else none := by
  unfold parseReceiveData
  have checked : isDhcpRequest datagram.readBuffer datagram.bytesReceived =
      datagram.isRequest := rfl
  rw [checked]
  cases accepted : datagram.isRequest with
  | true =>
      have lower := le_of_isRequest accepted
      have long : ¬ datagram.bytesReceived < sizeofDHCPMessage := by
        simp only [optionsOffset] at lower
        omega
      rw [if_neg long]
      rfl
  | false => split <;> rfl

theorem getIdentifier_eq {datagram : Datagram}
    (long : 2 < datagram.optionsSize) :
    (getIdentifier datagram.options datagram.optionsSize).map
        (fun found => datagram.readBuffer.read found.offset found.size) =
      some datagram.identifier := by
  unfold getIdentifier identifier findOption
  rw [if_neg (by omega)]
  cases findOptionData optionClientIdentifier datagram.options
      datagram.optionsSize with
  | none => rfl
  | some found =>
      simp only [Option.map_some, options]
      rw [Memory.read_shift]

end Datagram

namespace DhcpServer

variable {server : DhcpServer} {datagram : Datagram}
variable {messageType : DHCPMessageTypes}

/-- The loop body up to the dispatch, as a function of what it reads. -/
theorem inspect_eq (server : DhcpServer) (datagram : Datagram) :
    server.inspect datagram =
      if datagram.isRequest then
        match datagram.messageType? with
        | none => .error .messageTypeError
        | some messageType =>
            if messageType.isIgnored then
              .error (.ignored messageType)
            else if server.isOwnHost datagram.clientName then
              .error .ownHost
            else
              .ok (datagram.query messageType)
      else
        .error .parseError := by
  unfold inspect
  rw [datagram.parseReceiveData_eq]
  by_cases accepted : datagram.isRequest = true
  · rw [if_pos accepted, if_pos accepted, Datagram.getOptions_eq accepted]
    dsimp only
    have type? : getDHCPMessageType datagram.options datagram.optionsSize =
        datagram.messageType? := rfl
    rw [type?]
    cases typed : datagram.messageType? with
    | none => rfl
    | some messageType =>
        have found := Datagram.getIdentifier_eq
          (Datagram.long_of_messageType? typed)
        cases identified :
            getIdentifier datagram.options datagram.optionsSize with
        | none => simp [identified] at found
        | some identifier =>
            rw [identified, Option.map_some, Option.some.injEq] at found
            simp only [found]
            rfl
  · rw [if_neg accepted, if_neg accepted]

/-- A message reaches the dispatch. -/
structure Accepts (server : DhcpServer) (datagram : Datagram)
    (messageType : DHCPMessageTypes) : Prop extends
    datagram.Relevant messageType where
  notOwnHost : server.isOwnHost datagram.clientName = false

theorem inspect_eq_ok {query : Query} :
    server.inspect datagram = .ok query ↔
      ∃ messageType, server.Accepts datagram messageType ∧
        query = datagram.query messageType := by
  rw [inspect_eq]
  constructor
  · intro inspected
    split at inspected
    · rename_i isRequest
      split at inspected
      · cases inspected
      · rename_i messageType typed
        split at inspected
        · cases inspected
        · rename_i notIgnored
          split at inspected
          · cases inspected
          · rename_i notOwnHost
            exact ⟨messageType,
              ⟨⟨isRequest, typed, by simpa using notIgnored⟩,
                by simpa using notOwnHost⟩,
              (Except.ok.inj inspected).symm⟩
    · cases inspected
  · intro accepted
    obtain ⟨messageType, accepts, rfl⟩ := accepted
    simp only [accepts.isRequest, accepts.typed, accepts.notIgnored,
      accepts.notOwnHost, if_true, Bool.false_eq_true, if_false]

theorem Accepts.inspect
    (accepts : server.Accepts datagram messageType) :
    server.inspect datagram = .ok (datagram.query messageType) :=
  inspect_eq_ok.mpr ⟨messageType, accepts, rfl⟩

theorem Accepts.iteration
    (accepts : server.Accepts datagram messageType) (localAlloc : Bool) :
    server.iteration datagram localAlloc =
      server.respond (datagram.query messageType) localAlloc := by
  unfold DhcpServer.iteration
  rw [accepts.inspect]

end DhcpServer

/-! Concrete messages. -/

/-- A datagram in a buffer that holds `stale` from the beginning on. -/
def Datagram.ofBytes (bytes : List BYTE) (stale : Memory)
    (bound : bytes.length ≤ maxUdpMessageSize - 1) : Datagram where
  readBuffer := fun index => bytes.getD index (stale index)
  bytesReceived := bytes.length
  bytesReceived_le := bound

def clientMessage (ciaddr : DWORD) (options : List BYTE) : List BYTE :=
  [opBootRequest, 1, 6, 0] ++ List.replicate 8 0 ++ Word32.toBytes ciaddr ++
    List.replicate 220 0 ++ dhcpMagicCookie ++ options

theorem length_clientMessage (ciaddr : DWORD) (options : List BYTE) :
    (clientMessage ciaddr options).length = optionsOffset + options.length := by
  simp only [clientMessage, List.length_append, List.length_cons,
    List.length_nil, List.length_replicate, Word32.length_toBytes,
    optionsOffset, sizeofDHCPMessage]

theorem clientMessage_bound (ciaddr : DWORD) {options : List BYTE}
    (short : options.length < 256) :
    (clientMessage ciaddr options).length ≤ maxUdpMessageSize - 1 := by
  simp only [length_clientMessage, optionsOffset, sizeofDHCPMessage,
    dhcpMagicCookie, List.length_cons, List.length_nil, maxUdpMessageSize]
  omega

end PoeDhcp
