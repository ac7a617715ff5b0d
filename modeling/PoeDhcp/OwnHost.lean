import PoeDhcp.Handshake
import PoeDhcp.StaleBytes

namespace PoeDhcp

open Foundation
open DhcpServer

/-! The own-host filter on messages with well-formed options. -/

/-- The options are well-formed, and a host name among them fits the buffer and
is one string. -/
structure Datagram.NamesHost (datagram : Datagram)
    (items : List (Framing.Item rfc2132)) : Prop where
  options : datagram.HasOptions items
  name : ∀ field, Framing.firstField optionHostName items = some field →
    1 ≤ field.value.length ∧ field.value.length ≤ 254 ∧ 0 ∉ field.value

/-- A message is dropped at the filter exactly when its host name is the server's
name, up to case. -/
def DropsOwnRequests (server : DhcpServer) (datagram : Datagram)
    (items : List (Framing.Item rfc2132)) (localAlloc : Bool) : Prop :=
  server.iteration datagram localAlloc = ⟨server, .ownHost, none⟩ ↔
    ∃ field, Framing.firstField optionHostName items = some field ∧
      field.value.map toLower = foldedName server.serverHostName

/-- The byte behind the host name is not zero, and the name is the server's name
either without that byte or with it. -/
def TakesNextByte (server : DhcpServer) (datagram : Datagram)
    (items : List (Framing.Item rfc2132)) : Prop :=
  ∃ before field next, FirstAt items optionHostName before field ∧
    datagram.options
      ((Framing.encode before).length + 2 + field.value.length) = next ∧
    next ≠ 0 ∧
    (field.value.map toLower = foldedName server.serverHostName ∨
      field.value.map toLower ++ [toLower next] =
        foldedName server.serverHostName)

section Filter

variable {server : DhcpServer} {datagram : Datagram}
variable {items : List (Framing.Item rfc2132)} {type : DHCPMessageTypes}

theorem iteration_eq_ownHost (relevant : datagram.Relevant type)
    (localAlloc : Bool) :
    server.iteration datagram localAlloc = ⟨server, .ownHost, none⟩ ↔
      server.isOwnHost datagram.clientName = true := by
  constructor
  · intro dropped
    rw [← decision_eq_ownHost relevant localAlloc, dropped]
  · intro own
    simp only [iteration, inspect_eq, relevant.isRequest, relevant.typed,
      relevant.notIgnored, own, if_true, Bool.false_eq_true, if_false]

theorem isOwnHost_iff_of_nonempty
    (nonempty : server.serverHostName.headD 0 ≠ 0) {name : List BYTE} :
    server.isOwnHost name = true ↔
      foldedName name = foldedName server.serverHostName := by
  rw [isOwnHost_iff]
  exact and_iff_right nonempty

theorem findOption_hostName_none (options : datagram.HasOptions items)
    (long : 2 < datagram.optionsSize)
    (missing : Framing.firstField optionHostName items = none) :
    datagram.findOption optionHostName = none := by
  obtain ⟨rest, area, closed⟩ := options
  unfold Datagram.optionArea at area
  exact findOptionData_encode_none isTag_hostName long area closed missing

/-- What the filter compares with the server's name. -/
theorem foldedName_firstAt (options : datagram.HasOptions items)
    (long : 2 < datagram.optionsSize)
    {before : List (Framing.Item rfc2132)} {field : Framing.Field rfc2132}
    (first : FirstAt items optionHostName before field)
    (short : field.value.length ≤ 254) (runs : 0 ∉ field.value) {next : BYTE}
    (behind : datagram.options
      ((Framing.encode before).length + 2 + field.value.length) = next) :
    foldedName datagram.clientName =
      if next = 0 then field.value.map toLower
      else field.value.map toLower ++ [toLower next] := by
  obtain ⟨rest, area, -⟩ := options
  unfold Datagram.optionArea at area
  obtain ⟨found, value⟩ :=
    findOptionData_firstAt isTag_hostName long area first
  have runs' := runs
  rw [← value] at runs'
  by_cases zero : next = 0
  · rw [if_pos zero, Datagram.foldedName_of_zero found short runs'
      (behind.trans zero)]
    rw [value]
  · have nonzero : datagram.options
        ((Framing.encode before).length + 2 + field.value.length) ≠ 0 := by
      rw [behind]
      exact zero
    rw [if_neg zero, Datagram.foldedName_of_nonzero found short runs' nonzero]
    rw [value, behind]

/-- Without a host name there is nothing to drop, and no byte behind it. -/
theorem dropsOwnRequests_of_missing
    (nonempty : server.serverHostName.headD 0 ≠ 0)
    (relevant : datagram.Relevant type) (options : datagram.HasOptions items)
    (missing : Framing.firstField optionHostName items = none)
    (localAlloc : Bool) : DropsOwnRequests server datagram items localAlloc := by
  have long := Datagram.long_of_messageType? relevant.typed
  have folded : foldedName datagram.clientName ≠
      foldedName server.serverHostName := by
    rw [Datagram.clientName_none (findOption_hostName_none options long missing)]
    exact (foldedName_ne_nil nonempty).symm
  unfold DropsOwnRequests
  rw [iteration_eq_ownHost relevant, isOwnHost_iff_of_nonempty nonempty,
    missing]
  simp [folded]

theorem not_takesNextByte_of_missing
    (missing : Framing.firstField optionHostName items = none) :
    ¬ TakesNextByte server datagram items := by
  intro takes
  obtain ⟨before, field, next, first, -⟩ := takes
  rw [first.firstField] at missing
  cases missing

section Named

variable {before : List (Framing.Item rfc2132)} {field : Framing.Field rfc2132}

/-- With a host name, the filter compares the value with or without one more
byte. -/
theorem dropsOwnRequests_firstAt
    (nonempty : server.serverHostName.headD 0 ≠ 0)
    (relevant : datagram.Relevant type) (options : datagram.HasOptions items)
    (first : FirstAt items optionHostName before field)
    (short : field.value.length ≤ 254) (runs : 0 ∉ field.value) {next : BYTE}
    (behind : datagram.options
      ((Framing.encode before).length + 2 + field.value.length) = next)
    (localAlloc : Bool) :
    DropsOwnRequests server datagram items localAlloc ↔
      ((if next = 0 then field.value.map toLower
        else field.value.map toLower ++ [toLower next]) =
          foldedName server.serverHostName ↔
        field.value.map toLower = foldedName server.serverHostName) := by
  have long := Datagram.long_of_messageType? relevant.typed
  unfold DropsOwnRequests
  rw [iteration_eq_ownHost relevant, isOwnHost_iff_of_nonempty nonempty,
    foldedName_firstAt options long first short runs behind,
    first.firstField]
  simp only [Option.some.injEq, exists_eq_left']

theorem takesNextByte_firstAt
    (first : FirstAt items optionHostName before field) {next : BYTE}
    (behind : datagram.options
      ((Framing.encode before).length + 2 + field.value.length) = next) :
    TakesNextByte server datagram items ↔
      next ≠ 0 ∧
        (field.value.map toLower = foldedName server.serverHostName ∨
          field.value.map toLower ++ [toLower next] =
            foldedName server.serverHostName) := by
  constructor
  · intro takes
    obtain ⟨before', other, next', first', behind', nonzero, either⟩ := takes
    obtain ⟨rfl, rfl⟩ := first'.unique first
    rw [behind] at behind'
    subst behind'
    exact ⟨nonzero, either⟩
  · intro both
    exact ⟨before, field, next, first, behind, both⟩

end Named

end Filter

theorem append_named_iff {value name : List BYTE} {next : BYTE} :
    (value ++ [next] = name ↔ value = name) ↔
      ¬ (value = name ∨ value ++ [next] = name) := by
  have longer : value ≠ value ++ [next] := by
    intro same
    have lengths := congrArg List.length same
    simp at lengths
  constructor
  · intro exact either
    rcases either with named | named
    · exact longer (named.trans (exact.mpr named).symm)
    · exact longer ((exact.mp named).trans named.symm)
  · intro neither
    exact iff_of_false (fun named => neither (Or.inr named))
      fun named => neither (Or.inl named)

/-- The filter is right about every message unless the byte behind the host name
gets into the comparison. -/
theorem dropsOwnRequests_iff {server : DhcpServer} {datagram : Datagram}
    (nonempty : server.serverHostName.headD 0 ≠ 0) {type : DHCPMessageTypes}
    (relevant : datagram.Relevant type)
    {items : List (Framing.Item rfc2132)} (names : datagram.NamesHost items)
    (localAlloc : Bool) :
    DropsOwnRequests server datagram items localAlloc ↔
      ¬ TakesNextByte server datagram items := by
  cases search : Framing.firstField optionHostName items with
  | none =>
      exact iff_of_true
        (dropsOwnRequests_of_missing nonempty relevant names.options search
          localAlloc)
        (not_takesNextByte_of_missing search)
  | some field =>
      obtain ⟨-, short, runs⟩ := names.name field search
      obtain ⟨before, first⟩ := exists_firstAt search
      rw [dropsOwnRequests_firstAt nonempty relevant names.options first short
        runs rfl, takesNextByte_firstAt first rfl]
      split
      · rename_i zero
        simp [zero]
      · rename_i nonzero
        rw [append_named_iff, and_iff_right nonzero]

/-! A request of a host with the server's own name. -/

def ownItems : List (Framing.Item rfc2132) :=
  [discoverItem,
    .field ⟨optionHostName, sampleHostName, isTag_hostName.ne_pad,
      isTag_hostName.ne_stop, by decide⟩]

theorem ownItems_name (field : Framing.Field rfc2132)
    (found : Framing.firstField optionHostName ownItems = some field) :
    1 ≤ field.value.length ∧ field.value.length ≤ 254 ∧ 0 ∉ field.value := by
  cases found
  decide

/-- The server sends it with this tail behind the host name. -/
def ownDiscover (rest : List BYTE)
    (bound : (Framing.encode ownItems ++ rest).length < 256) : Datagram :=
  .ofBytes (clientMessage 0 (Framing.encode ownItems ++ rest)) (fun _ => 0)
    (clientMessage_bound 0 bound)

/-- Behind a name that ends the message the buffer is still zero. -/
theorem ownDiscover_dropped :
    DropsOwnRequests sampleServer (ownDiscover [] (by decide)) ownItems
      true := by
  have options : (ownDiscover [] (by decide)).HasOptions ownItems :=
    ⟨[], by decide +kernel, Or.inl rfl⟩
  have relevant : (ownDiscover [] (by decide)).Relevant .discover :=
    ⟨by decide +kernel, by decide +kernel, rfl⟩
  refine (dropsOwnRequests_iff (by decide +kernel) relevant
    ⟨options, ownItems_name⟩ true).mpr ?_
  intro takes
  obtain ⟨before, field, next, first, behind, nonzero, -⟩ := takes
  obtain ⟨rest, area, -⟩ := options
  have place := (findOptionData_firstAt isTag_hostName (by decide +kernel)
    area first).1
  have known : (ownDiscover [] (by decide)).findOption optionHostName =
      some ⟨5, 3⟩ := by decide +kernel
  have here := known.symm.trans place
  simp only [Option.some.injEq, OptionData.mk.injEq] at here
  rw [← here.1, ← here.2] at behind
  exact nonzero (behind.symm.trans (by decide +kernel))

/-- With END behind the name the server answers itself. -/
theorem ownDiscover_answered :
    (ownDiscover [optionEnd] (by decide)).Relevant .discover ∧
      (ownDiscover [optionEnd] (by decide)).NamesHost ownItems ∧
      ¬ DropsOwnRequests sampleServer (ownDiscover [optionEnd] (by decide))
        ownItems true := by
  refine ⟨⟨by decide +kernel, by decide +kernel, rfl⟩,
    ⟨⟨[optionEnd], by decide +kernel, Or.inr rfl⟩, ownItems_name⟩, ?_⟩
  intro drops
  have dropped := drops.mpr ⟨_, rfl, by decide +kernel⟩
  have decision : (sampleServer.iteration
      (ownDiscover [optionEnd] (by decide)) true).decision =
        .dispatched .discover := by decide +kernel
  rw [dropped] at decision
  cases decision

end PoeDhcp
