import PoeDhcp.Lifecycle
import PoeDhcp.ReceivedBytes

namespace PoeDhcp

open Foundation
open DhcpServer

/-! The option values that one pass of the loop reads. -/

inductive UsesOption (server : DhcpServer) (datagram : Datagram) :
    OptionData → Prop
  | messageType {found}
      (isRequest : datagram.isRequest = true)
      (hfound : datagram.findOption optionDhcpMessageType = some found)
      (size : found.size = 1) : UsesOption server datagram found
  | hostName {type found}
      (relevant : datagram.Relevant type)
      (hfound : datagram.findOption optionHostName = some found) :
      UsesOption server datagram found
  | clientIdentifier {type found}
      (accepts : server.Accepts datagram type)
      (hfound : datagram.findOption optionClientIdentifier = some found) :
      UsesOption server datagram found
  | requestedIpAddress {found}
      (accepts : server.Accepts datagram .request)
      (hfound : datagram.findOption optionRequestedIpAddress = some found)
      (size : found.size = 4) : UsesOption server datagram found
  | serverIdentifier {found}
      (accepts : server.Accepts datagram .request)
      (hfound : datagram.findOption optionServerIdentifier = some found)
      (size : found.size = 4) : UsesOption server datagram found

/-- The received bytes decide what one pass of the loop does, and every option
value that it reads lies inside them. -/
structure JudgedOnReceived (server : DhcpServer) (datagram : Datagram) :
    Prop where
  same : ∀ other, datagram.SameReceived other → ∀ localAlloc,
    server.iteration other localAlloc = server.iteration datagram localAlloc
  inside : ∀ found, UsesOption server datagram found →
    found.offset + found.size ≤ datagram.optionsSize

/-! What goes wrong: an option that ends behind the received bytes, or a host
name that ends with them and is the server's name, whole or without its last
letter. -/

def Datagram.Truncates (datagram : Datagram) (tag announced : BYTE) : Prop :=
  Framing.Truncated rfc2132 tag announced datagram.optionArea

def NameRunsOn (server : DhcpServer) (datagram : Datagram) : Prop :=
  ∃ name,
    Framing.EndsWithField rfc2132 optionHostName name datagram.optionArea ∧
      name.length ≤ 254 ∧ 0 ∉ name ∧ server.serverHostName.headD 0 ≠ 0 ∧
      (name.map toLower = foldedName server.serverHostName ∨
        name.map toLower = (foldedName server.serverHostName).dropLast)

structure EndsInTime (server : DhcpServer) (datagram : Datagram) : Prop where
  messageType : datagram.isRequest = true → 2 < datagram.optionsSize →
    ¬ datagram.Truncates optionDhcpMessageType 1
  hostName : ∀ type, datagram.Relevant type → ∀ announced,
    ¬ datagram.Truncates optionHostName announced
  hostNameEnd : ∀ type, datagram.Relevant type → ¬ NameRunsOn server datagram
  clientIdentifier : ∀ type, server.Accepts datagram type → ∀ announced,
    ¬ datagram.Truncates optionClientIdentifier announced
  requestedIpAddress : server.Accepts datagram .request →
    ¬ datagram.Truncates optionRequestedIpAddress 4
  serverIdentifier : server.Accepts datagram .request →
    ¬ datagram.Truncates optionServerIdentifier 4

theorem Datagram.truncates_iff {datagram : Datagram} {tag : BYTE}
    (isTag : rfc2132.IsTag tag)
    (long : 2 < datagram.optionsSize) {announced : BYTE} :
    datagram.Truncates tag announced ↔
      ∃ found, datagram.findOption tag = some found ∧
        found.size = announced.toNat ∧
        datagram.optionsSize < found.offset + found.size := by
  have area : datagram.optionArea.length = datagram.optionsSize := by
    simp [Datagram.optionArea]
  unfold Datagram.Truncates Datagram.findOption
  rw [Framing.truncated_iff isTag, area,
    findOptionData_eq_locate isTag _ long]
  simp only [Option.map_eq_some_iff]
  constructor
  · intro walk
    obtain ⟨place, located, size, short⟩ := walk
    exact ⟨.ofPlace 0 place, ⟨place, located, rfl⟩, size,
      by simpa [OptionData.ofPlace] using short⟩
  · intro search
    obtain ⟨found, ⟨place, located, rfl⟩, size, short⟩ := search
    exact ⟨place, located, size, by simpa [OptionData.ofPlace] using short⟩

theorem Datagram.inside_of_not_truncates {datagram : Datagram} {tag : BYTE}
    (isTag : rfc2132.IsTag tag) {found : OptionData}
    (hfound : datagram.findOption tag = some found) (announced : BYTE)
    (size : found.size = announced.toNat)
    (whole : ¬ datagram.Truncates tag announced) :
    found.offset + found.size ≤ datagram.optionsSize := by
  by_contra outside
  exact whole ((Datagram.truncates_iff isTag
    (Datagram.long_of_findOption hfound)).mpr
      ⟨found, hfound, size, by omega⟩)

theorem Datagram.size_eq {datagram : Datagram} {tag : BYTE}
    (isTag : rfc2132.IsTag tag) {found : OptionData}
    (hfound : datagram.findOption tag = some found) :
    found.size = (BitVec.ofNat 8 found.size).toNat := by
  have bound := findOptionData_size_lt isTag hfound
  simp only [BitVec.toNat_ofNat]
  omega

theorem EndsInTime.inside {server : DhcpServer} {datagram : Datagram}
    (inTime : EndsInTime server datagram) :
    ∀ found, UsesOption server datagram found →
      found.offset + found.size ≤ datagram.optionsSize := by
  intro found uses
  cases uses with
  | messageType isRequest hfound size =>
      exact Datagram.inside_of_not_truncates isTag_dhcpMessageType hfound 1
        size (inTime.messageType isRequest
          (Datagram.long_of_findOption hfound))
  | hostName relevant hfound =>
      exact Datagram.inside_of_not_truncates isTag_hostName hfound _
        (Datagram.size_eq isTag_hostName hfound)
        (inTime.hostName _ relevant _)
  | clientIdentifier accepts hfound =>
      exact Datagram.inside_of_not_truncates isTag_clientIdentifier hfound _
        (Datagram.size_eq isTag_clientIdentifier hfound)
        (inTime.clientIdentifier _ accepts _)
  | requestedIpAddress accepts hfound size =>
      exact Datagram.inside_of_not_truncates isTag_requestedIpAddress hfound 4
        size (inTime.requestedIpAddress accepts)
  | serverIdentifier accepts hfound size =>
      exact Datagram.inside_of_not_truncates isTag_serverIdentifier hfound 4
        size (inTime.serverIdentifier accepts)

/-! The own-host filter reads one byte behind the name. -/

theorem Datagram.endsWithField_iff {datagram : Datagram} {tag : BYTE}
    (isTag : rfc2132.IsTag tag)
    (long : 2 < datagram.optionsSize) {value : List BYTE} :
    Framing.EndsWithField rfc2132 tag value datagram.optionArea ↔
      ∃ found, datagram.findOption tag = some found ∧
        found.offset + found.size = datagram.optionsSize ∧
        datagram.options.read found.offset found.size = value := by
  unfold Datagram.findOption Datagram.optionArea
  rw [Framing.endsWithField_iff isTag,
    findOptionData_eq_locate isTag _ long]
  simp only [Option.map_eq_some_iff, Memory.length_read, Memory.drop_read,
    Nat.zero_add]
  constructor
  · intro walk
    obtain ⟨place, located, last, rfl⟩ := walk
    refine ⟨.ofPlace 0 place, ⟨place, located, rfl⟩, ?_, ?_⟩
    · simpa [OptionData.ofPlace] using last
    · have size : datagram.optionsSize - place.offset = place.length := by
        omega
      simp [OptionData.ofPlace, size]
  · intro search
    obtain ⟨found, ⟨place, located, rfl⟩, last, rfl⟩ := search
    simp only [OptionData.ofPlace, Nat.zero_add] at last ⊢
    have size : datagram.optionsSize - place.offset = place.length := by
      omega
    exact ⟨place, located, last, by rw [size]⟩

theorem Datagram.SameReceived.optionArea {left right : Datagram}
    (same : left.SameReceived right) :
    right.optionArea = left.optionArea := by
  unfold Datagram.optionArea
  rw [same.optionsSize]
  exact same.options.read 0 left.optionsSize (by omega)

private theorem notOwnHost_of_ending {server : DhcpServer}
    {datagram : Datagram} {found : OptionData}
    (hfound : datagram.findOption optionHostName = some found)
    (short : found.size ≤ 254)
    (last : found.offset + found.size = datagram.optionsSize)
    (runs : 0 ∉ datagram.options.read found.offset found.size)
    (stays : ¬ NameRunsOn server datagram) :
    server.isOwnHost datagram.clientName = false := by
  by_contra own
  rw [Bool.not_eq_false, isOwnHost_iff] at own
  obtain ⟨named, folded⟩ := own
  refine stays ⟨_, (Datagram.endsWithField_iff isTag_hostName
    (Datagram.long_of_findOption hfound)).mpr ⟨found, hfound, last, rfl⟩,
    by simpa using short, runs, named, ?_⟩
  by_cases zero : datagram.options (found.offset + found.size) = 0
  · rw [Datagram.foldedName_of_zero hfound short runs zero] at folded
    exact Or.inl folded
  · rw [Datagram.foldedName_of_nonzero hfound short runs zero] at folded
    rw [← folded, List.dropLast_concat]
    exact Or.inr rfl

theorem EndsInTime.isOwnHost {server : DhcpServer}
    {datagram other : Datagram} (inTime : EndsInTime server datagram)
    {type : DHCPMessageTypes} (relevant : datagram.Relevant type)
    (same : datagram.SameReceived other) :
    server.isOwnHost other.clientName =
      server.isOwnHost datagram.clientName := by
  have search := same.findOption optionHostName isTag_hostName
  cases hfound : datagram.findOption optionHostName with
  | none =>
      rw [hfound] at search
      rw [Datagram.clientName_none hfound, Datagram.clientName_none search]
  | some found =>
      rw [hfound] at search
      have inside := inTime.inside found (.hostName relevant hfound)
      have size := findOptionData_size_lt isTag_hostName hfound
      by_cases covered :
          found.offset + min (found.size + 1) 255 ≤ datagram.optionsSize
      · rw [Datagram.clientName_some hfound, Datagram.clientName_some search,
          same.options.read _ _ covered]
      have short : found.size ≤ 254 := by omega
      have last : found.offset + found.size = datagram.optionsSize := by omega
      have name := same.options.read found.offset found.size inside
      by_cases ends : 0 ∈ datagram.options.read found.offset found.size
      · have folded : foldedName other.clientName =
            foldedName datagram.clientName := by
          rw [Datagram.foldedName_of_mem search short (name ▸ ends), name,
            Datagram.foldedName_of_mem hfound short ends]
        rw [Bool.eq_iff_iff, isOwnHost_iff, isOwnHost_iff, folded]
      · have stays := inTime.hostNameEnd type relevant
        rw [notOwnHost_of_ending hfound short last ends stays,
          notOwnHost_of_ending search short
            (last.trans same.optionsSize.symm) (name ▸ ends)
            (by unfold NameRunsOn at stays ⊢; rwa [same.optionArea])]

private theorem EndsInTime.dispatched {server : DhcpServer}
    {datagram other : Datagram} (inTime : EndsInTime server datagram)
    (same : datagram.SameReceived other) {type : DHCPMessageTypes}
    (accepts : server.Accepts datagram type)
    (accepts' : server.Accepts other type) (localAlloc : Bool) :
    server.iteration other localAlloc =
      server.iteration datagram localAlloc := by
  have request := same.request accepts.isRequest
  have identifier := same.identifier accepts.isRequest fun found hfound =>
    inTime.inside found (.clientIdentifier accepts hfound)
  rw [accepts.iteration, accepts'.iteration]
  apply respond_congr server
  · simpa only [Datagram.query_request] using request
  · rfl
  · simpa only [Datagram.query_identifier] using identifier
  · intro isRequest
    rw [Datagram.query_messageType] at isRequest
    subst isRequest
    exact same.requestIpAddress fun found hfound size =>
      inTime.inside found (.requestedIpAddress accepts hfound size)
  · intro isRequest
    rw [Datagram.query_messageType] at isRequest
    subst isRequest
    exact same.namesThisServer (fun found hfound size =>
      inTime.inside found (.serverIdentifier accepts hfound size)) server

theorem EndsInTime.same {server : DhcpServer} {datagram other : Datagram}
    (inTime : EndsInTime server datagram)
    (same : datagram.SameReceived other) (localAlloc : Bool) :
    server.iteration other localAlloc =
      server.iteration datagram localAlloc := by
  cases isRequest : datagram.isRequest with
  | false =>
      simp only [iteration, inspect_eq, same.isRequest, isRequest,
        Bool.false_eq_true, if_false]
  | true =>
      have type? := same.messageType? fun found hfound size =>
        inTime.inside found (.messageType isRequest hfound size)
      cases typed : datagram.messageType? with
      | none =>
          simp only [iteration, inspect_eq, same.isRequest, type?, typed,
            isRequest, if_true]
      | some type =>
          cases ignored : type.isIgnored with
          | true =>
              simp only [iteration, inspect_eq, same.isRequest, type?, typed,
                isRequest, ignored, if_true]
          | false =>
              have relevant : datagram.Relevant type :=
                ⟨isRequest, typed, ignored⟩
              have filter := inTime.isOwnHost relevant same
              cases own : server.isOwnHost datagram.clientName with
              | true =>
                  simp only [iteration, inspect_eq, same.isRequest, type?,
                    typed, isRequest, ignored, filter, own, if_true,
                    Bool.false_eq_true, if_false]
              | false =>
                  exact inTime.dispatched same ⟨relevant, own⟩
                    ⟨⟨same.isRequest.trans isRequest, type?.trans typed,
                      ignored⟩, filter.trans own⟩ localAlloc

/-! The other direction: bytes behind the received ones that make a
difference. -/

/-- The same received bytes with one byte repeated behind them. -/
def Datagram.withStale (datagram : Datagram) (byte : BYTE) : Datagram :=
  { datagram with
    readBuffer := fun index =>
      if index < datagram.bytesReceived then datagram.readBuffer index
      else byte }

theorem Datagram.sameReceived_withStale (datagram : Datagram) (byte : BYTE) :
    datagram.SameReceived (datagram.withStale byte) where
  size := rfl
  bytes := fun _ bound => if_pos bound

theorem Datagram.options_withStale {datagram : Datagram}
    (accepted : datagram.isRequest = true) (byte : BYTE) :
    (datagram.withStale byte).options datagram.optionsSize = byte := by
  have long := Datagram.le_of_isRequest accepted
  simp only [Datagram.options, Datagram.withStale, Memory.shift,
    Datagram.optionsSize]
  exact if_neg (by omega)

/-- A name that ends with the received bytes takes up the byte behind them. -/
theorem Datagram.foldedName_withStale {datagram : Datagram}
    {found : OptionData} (accepted : datagram.isRequest = true)
    (hfound : datagram.findOption optionHostName = some found)
    (short : found.size ≤ 254)
    (last : found.offset + found.size = datagram.optionsSize)
    (runs : 0 ∉ datagram.options.read found.offset found.size) (byte : BYTE) :
    foldedName (datagram.withStale byte).clientName =
      (datagram.options.read found.offset found.size).map toLower ++
        if byte = 0 then [] else [toLower byte] := by
  have same := datagram.sameReceived_withStale byte
  have search := (same.findOption _ isTag_hostName).trans hfound
  have name := same.options.read found.offset found.size (by omega)
  have behind : (datagram.withStale byte).options
      (found.offset + found.size) = byte :=
    last ▸ Datagram.options_withStale accepted byte
  by_cases zero : byte = 0
  · rw [Datagram.foldedName_of_zero search short (name ▸ runs)
      (behind.trans zero), name, if_pos zero, List.append_nil]
  · have nonzero : (datagram.withStale byte).options
        (found.offset + found.size) ≠ 0 := by
      rw [behind]
      exact zero
    rw [Datagram.foldedName_of_nonzero search short (name ▸ runs) nonzero,
      name, behind, if_neg zero]

theorem decision_eq_ownHost {server : DhcpServer} {datagram : Datagram}
    {type : DHCPMessageTypes} (relevant : datagram.Relevant type)
    (localAlloc : Bool) :
    (server.iteration datagram localAlloc).decision = .ownHost ↔
      server.isOwnHost datagram.clientName = true := by
  cases own : server.isOwnHost datagram.clientName with
  | true =>
      simp only [iteration, inspect_eq, relevant.isRequest, relevant.typed,
        relevant.notIgnored, own, if_true, Bool.false_eq_true, if_false]
  | false =>
      have accepts : server.Accepts datagram type := ⟨relevant, own⟩
      rw [accepts.iteration, respond_decision]
      simp

theorem JudgedOnReceived.isOwnHost {server : DhcpServer}
    {datagram : Datagram} (judged : JudgedOnReceived server datagram)
    {type : DHCPMessageTypes} (relevant : datagram.Relevant type)
    (byte : BYTE) :
    server.isOwnHost (datagram.withStale byte).clientName =
      server.isOwnHost datagram.clientName := by
  have same := datagram.sameReceived_withStale byte
  have typed := same.messageType? fun found hfound size =>
    judged.inside found (.messageType relevant.isRequest hfound size)
  have relevant' : (datagram.withStale byte).Relevant type :=
    ⟨same.isRequest.trans relevant.isRequest, typed.trans relevant.typed,
      relevant.notIgnored⟩
  rw [Bool.eq_iff_iff, ← decision_eq_ownHost relevant true,
    ← decision_eq_ownHost relevant' true, judged.same _ same true]

theorem JudgedOnReceived.notRunsOn {server : DhcpServer}
    {datagram : Datagram} (judged : JudgedOnReceived server datagram)
    {type : DHCPMessageTypes} (relevant : datagram.Relevant type) :
    ¬ NameRunsOn server datagram := by
  intro runsOn
  obtain ⟨name, ends, short, runs, named, matching⟩ := runsOn
  obtain ⟨found, hfound, last, rfl⟩ :=
    (Datagram.endsWithField_iff isTag_hostName
      (Datagram.long_of_messageType? relevant.typed)).mp ends
  rw [Memory.length_read] at short
  have folded := Datagram.foldedName_withStale relevant.isRequest hfound short
    last runs
  generalize datagram.options.read found.offset found.size = name
    at matching folded
  -- The filter cannot tell the bytes behind the name apart.
  have agree : ∀ byte,
      (foldedName (datagram.withStale byte).clientName =
          foldedName server.serverHostName ↔
        foldedName (datagram.withStale 0).clientName =
          foldedName server.serverHostName) := by
    intro byte
    have filter := (judged.isOwnHost relevant byte).trans
      (judged.isOwnHost relevant 0).symm
    rw [Bool.eq_iff_iff, isOwnHost_iff, isOwnHost_iff] at filter
    exact ⟨fun own => (filter.mp ⟨named, own⟩).2,
      fun own => (filter.mpr ⟨named, own⟩).2⟩
  have nonempty := foldedName_ne_nil named
  simp only [folded, if_true, List.append_nil] at agree
  rcases matching with whole | shorter
  · have both := (agree 1).mpr whole
    rw [whole] at both
    simpa using congrArg List.length both
  · have letter := List.getLast_mem nonempty
    have whole := List.dropLast_append_getLast nonempty
    have both := (agree _).mp (by
      rw [if_neg (foldedName_ne_zero letter), shorter,
        toLower_of_mem_foldedName letter]
      exact whole)
    rw [shorter] at both
    have lengths := congrArg List.length both
    have positive := List.length_pos_iff.mpr nonempty
    rw [List.length_dropLast] at lengths
    omega

/-- A datagram is judged on its received bytes alone exactly when no option that
is read is cut off and no host name runs on into the bytes behind it. -/
theorem judgedOnReceived_iff (server : DhcpServer) (datagram : Datagram) :
    JudgedOnReceived server datagram ↔ EndsInTime server datagram := by
  constructor
  · intro judged
    have whole : ∀ {tag announced}, rfc2132.IsTag tag →
        2 < datagram.optionsSize →
        (∀ found, datagram.findOption tag = some found →
          found.size = announced.toNat →
          UsesOption server datagram found) →
        ¬ datagram.Truncates tag announced := by
      intro tag announced isTag long uses truncates
      obtain ⟨found, hfound, size, outside⟩ :=
        (Datagram.truncates_iff isTag long).mp truncates
      have inside := judged.inside found (uses found hfound size)
      omega
    exact
      { messageType := fun isRequest long =>
          whole isTag_dhcpMessageType long fun found hfound size =>
            .messageType isRequest hfound size
        hostName := fun type relevant announced =>
          whole isTag_hostName (Datagram.long_of_messageType? relevant.typed)
            fun found hfound _ => .hostName relevant hfound
        hostNameEnd := fun type relevant => judged.notRunsOn relevant
        clientIdentifier := fun type accepts announced =>
          whole isTag_clientIdentifier
            (Datagram.long_of_messageType? accepts.typed)
            fun found hfound _ => .clientIdentifier accepts hfound
        requestedIpAddress := fun accepts =>
          whole isTag_requestedIpAddress
            (Datagram.long_of_messageType? accepts.typed)
            fun found hfound size => .requestedIpAddress accepts hfound size
        serverIdentifier := fun accepts =>
          whole isTag_serverIdentifier
            (Datagram.long_of_messageType? accepts.typed)
            fun found hfound size => .serverIdentifier accepts hfound size }
  · exact fun inTime =>
      ⟨fun other same localAlloc => inTime.same same localAlloc,
        inTime.inside⟩

/-- A DISCOVER that ends in the length byte of its client identifier. -/
def cutDiscover (stale : Memory) : Datagram :=
  .ofBytes (clientMessage 0 [53, 1, 1, 61, 6]) stale
    (clientMessage_bound 0 (by decide))

theorem cutDiscover_not_judged :
    ¬ JudgedOnReceived sampleServer (cutDiscover fun _ => 0) := by
  intro judged
  have same : (cutDiscover fun _ => 0).SameReceived (cutDiscover fun _ => 1) :=
    Datagram.sameReceived_ofBytes _ _ _ _
  have tables := congrArg (fun result => result.server.addressesInUse)
    (judged.same _ same true)
  revert tables
  decide +kernel

end PoeDhcp
