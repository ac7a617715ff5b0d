import PoeDhcp.LeaseRuns
import PoeDhcp.PoolOrder

namespace PoeDhcp

open Foundation
open DhcpServer

/-! The clients in the order of their first DISCOVER. -/

/-- The identifier of a DISCOVER that reaches the dispatch. -/
def Handled.discoverer? (handled : Handled) : Option (List BYTE) :=
  match handled.before.inspect handled.datagram with
  | .ok query =>
      if query.messageType = .discover then some query.identifier else none
  | .error _ => none

theorem Handled.discoverer?_eq_some {handled : Handled}
    {client : List BYTE} :
    handled.discoverer? = some client ↔
      handled.before.Accepts handled.datagram .discover ∧
        handled.datagram.identifier = client := by
  unfold Handled.discoverer?
  constructor
  · intro discover
    split at discover
    · rename_i query inspected
      obtain ⟨type, accepts, rfl⟩ := inspect_eq_ok.mp inspected
      rw [Datagram.query_messageType, Datagram.query_identifier] at discover
      split at discover
      · rename_i same
        subst same
        exact ⟨accepts, Option.some.inj discover⟩
      · cases discover
    · cases discover
  · intro discover
    obtain ⟨accepts, rfl⟩ := discover
    simp only [accepts.inspect, Datagram.query_messageType,
      Datagram.query_identifier, if_true]

theorem Handled.server_of_not_discoverer {handled : Handled}
    (other : handled.discoverer? = none) :
    handled.result.server = handled.before := by
  unfold Handled.result
  refine iteration_rule handled.before handled.datagram handled.localAlloc
    ?_ ?_
  · exact fun decision _ => rfl
  · intro query result inspected responds
    have notDiscover : query.messageType ≠ .discover := by
      intro discover
      simp [Handled.discoverer?, inspected, discover] at other
    cases responds with
    | ack => rfl
    | nak => rfl
    | invalid => rfl
    | other => rfl
    | _ => contradiction

def discoverers (history : List Handled) : List (List BYTE) :=
  (history.filterMap Handled.discoverer?).eraseDups

def remember (clients : List (List BYTE)) (client : List BYTE) :
    List (List BYTE) :=
  if client ∈ clients then clients else clients ++ [client]

theorem discoverers_snoc_other {history : List Handled} {handled : Handled}
    (other : handled.discoverer? = none) :
    discoverers (history ++ [handled]) = discoverers history := by
  simp [discoverers, other]

theorem eraseDups_snoc (clients : List (List BYTE)) (client : List BYTE) :
    (clients ++ [client]).eraseDups = remember clients.eraseDups client := by
  unfold remember
  rw [List.eraseDups_append]
  simp only [List.mem_eraseDups]
  split
  · rename_i seen
    simp [List.removeAll, seen]
  · rename_i fresh
    simp [List.removeAll, fresh, List.eraseDups_cons]

theorem discoverers_snoc {history : List Handled} {handled : Handled}
    {client : List BYTE} (discover : handled.discoverer? = some client) :
    discoverers (history ++ [handled]) =
      remember (discoverers history) client := by
  unfold discoverers
  rw [List.filterMap_append, ← eraseDups_snoc]
  simp [discover]

/-! One DISCOVER, and a run of them. -/

/-- A client among the first `poolSize` ones is offered its address, a later one
gets no answer. -/
def Answers (netAddress : DhcpNetWorkAddr) (clients : List (List BYTE))
    (handled : Handled) (client : List BYTE) : Prop :=
  ∀ index, clients[index]? = some client →
    if index < poolSize netAddress then
      handled.Tells .offer client (dwValueToIp (poolAddress netAddress index))
    else
      handled.result.sent = none

theorem InOrder.frame {netAddress : DhcpNetWorkAddr}
    {clients : List (List BYTE)} {server other : DhcpServer}
    (inOrder : InOrder netAddress clients server)
    (address : other.serverAddress = server.serverAddress)
    (table : other.addressesInUse = server.addressesInUse)
    (last : other.lastOfferAddress = server.lastOfferAddress) :
    InOrder netAddress clients other where
  config := address.trans inOrder.config
  table := by
    rw [table, serverEntry_congr address]
    exact inOrder.table
  last := last.trans inOrder.last
  distinct := inOrder.distinct
  named := inOrder.named

theorem tells_offer {handled : Handled} {client : List BYTE}
    {server : DhcpServer} {addr : DWORD}
    (discover : handled.discoverer? = some client)
    (sent : handled.result.sent =
      some (sendDhcpMessage handled.datagram.request
        (server.offerReply handled.datagram.request addr))) :
    handled.Tells .offer client addr := by
  obtain ⟨accepts, identifier⟩ := Handled.discoverer?_eq_some.mp discover
  refine ⟨?_, _, sent, ?_, ?_⟩
  · simp only [Handled.identifier?, accepts.inspect,
      Datagram.query_identifier, identifier]
  · rw [sendDhcpMessage_messageType, offerReply, replyTemplate_setMessageType]
  · rw [sendDhcpMessage_yiaddr, offerReply]

section Step

variable {netAddress : DhcpNetWorkAddr} {clients : List (List BYTE)}
variable {handled : Handled} {client : List BYTE}

theorem InOrder.renew (inOrder : InOrder netAddress clients handled.before)
    (config : PoolConfig netAddress)
    (discover : handled.discoverer? = some client) {index : Nat}
    (bound : index < poolSize netAddress)
    (lookup : clients[index]? = some client) :
    handled.result.server = handled.before ∧
      handled.Tells .offer client
        (dwValueToIp (poolAddress netAddress index)) := by
  obtain ⟨accepts, identifier⟩ := Handled.discoverer?_eq_some.mp discover
  have known := inOrder.known bound lookup
  rw [← identifier, ← Datagram.query_identifier _ .discover] at known
  have result : handled.before.respond (handled.datagram.query .discover)
      handled.localAlloc = _ :=
    respond_renew (Datagram.query_messageType _ _) known
      (config.poolAddress_ne_zero bound)
  rw [← accepts.iteration] at result
  exact ⟨congrArg Iteration.server result,
    tells_offer discover (congrArg Iteration.sent result)⟩

theorem InOrder.refuse (inOrder : InOrder netAddress clients handled.before)
    (config : PoolConfig netAddress)
    (discover : handled.discoverer? = some client)
    (full : poolSize netAddress ≤ clients.length)
    (absent : ∀ index, index < poolSize netAddress →
      clients[index]? ≠ some client) :
    handled.result.server = handled.before ∧ handled.result.sent = none := by
  obtain ⟨accepts, identifier⟩ := Handled.discoverer?_eq_some.mp discover
  have unknown := inOrder.unknown absent
  rw [← identifier, ← Datagram.query_identifier _ .discover] at unknown
  have result : handled.before.respond (handled.datagram.query .discover)
      handled.localAlloc = _ :=
    respond_exhausted (Datagram.query_messageType _ _) unknown
      (inOrder.search_full config full)
  rw [← accepts.iteration] at result
  exact ⟨congrArg Iteration.server result, congrArg Iteration.sent result⟩

theorem InOrder.grant (inOrder : InOrder netAddress clients handled.before)
    (config : PoolConfig netAddress)
    (discover : handled.discoverer? = some client)
    (allocated : handled.localAlloc = true)
    (room : clients.length < poolSize netAddress) (fresh : client ∉ clients) :
    handled.result.server = handled.before.lease
        (poolAddress netAddress clients.length) client ∧
      handled.Tells .offer client
        (dwValueToIp (poolAddress netAddress clients.length)) := by
  obtain ⟨accepts, rfl⟩ := Handled.discoverer?_eq_some.mp discover
  have unknown := inOrder.unknown fun index _ lookup =>
    fresh (List.mem_of_getElem? lookup)
  have granted : Grants handled.before handled.datagram handled.localAlloc
      (poolAddress netAddress clients.length) :=
    { accepts := accepts
      unknown := unknown
      found := inOrder.search_room config room
      nonzero := config.poolAddress_ne_zero room
      allocated := allocated }
  exact ⟨congrArg Iteration.server granted.iteration,
    tells_offer discover (congrArg Iteration.sent granted.iteration)⟩

private theorem nodup_snoc (distinct : clients.Nodup)
    (fresh : client ∉ clients) : (clients ++ [client]).Nodup := by
  rw [List.nodup_append]
  refine ⟨distinct, by simp, ?_⟩
  intro first member second last same
  subst same
  exact fresh (List.mem_singleton.mp last ▸ member)

private theorem named_snoc (named : ∀ other ∈ clients, other ≠ [])
    (nonempty : client ≠ []) : ∀ other ∈ clients ++ [client], other ≠ [] := by
  intro other member
  rcases List.mem_append.mp member with old | new
  · exact named other old
  · rw [List.mem_singleton.mp new]
    exact nonempty

theorem InOrder.lease {server : DhcpServer}
    (inOrder : InOrder netAddress clients server)
    (room : clients.length < poolSize netAddress) (fresh : client ∉ clients)
    (nonempty : client ≠ []) :
    InOrder netAddress (clients ++ [client])
      (server.lease (poolAddress netAddress clients.length) client) where
  config := inOrder.config
  table := by
    have before : clients.take (poolSize netAddress) = clients :=
      List.take_of_length_le (by omega)
    have after : (clients ++ [client]).take (poolSize netAddress) =
        clients ++ [client] := List.take_of_length_le (by simp; omega)
    change server.addressesInUse ++ [leaseEntry _ _] = server.serverEntry :: _
    rw [inOrder.table, before, after, leasesOf, leasesOf,
      List.mapIdx_concat]
    rfl
  last := by
    have count : min (clients ++ [client]).length (poolSize netAddress) =
        clients.length + 1 := by
      rw [List.length_append, List.length_singleton]
      omega
    rw [count]
    rfl
  distinct := nodup_snoc inOrder.distinct fresh
  named := named_snoc inOrder.named nonempty

theorem InOrder.append_full {server : DhcpServer}
    (inOrder : InOrder netAddress clients server)
    (full : poolSize netAddress ≤ clients.length) (fresh : client ∉ clients)
    (nonempty : client ≠ []) :
    InOrder netAddress (clients ++ [client]) server where
  config := inOrder.config
  table := by
    rw [List.take_append_of_le_length full]
    exact inOrder.table
  last := by
    have count : min (clients ++ [client]).length (poolSize netAddress) =
        min clients.length (poolSize netAddress) := by
      rw [List.length_append, List.length_singleton]
      omega
    rw [count]
    exact inOrder.last
  distinct := nodup_snoc inOrder.distinct fresh
  named := named_snoc inOrder.named nonempty

/-- What a client is told depends on its place only. -/
theorem answers_of_place {place : Nat}
    (unique : ∀ index, clients[index]? = some client → index = place)
    (answer : if place < poolSize netAddress then
        handled.Tells .offer client
          (dwValueToIp (poolAddress netAddress place))
      else handled.result.sent = none) :
    Answers netAddress clients handled client := by
  intro index lookup
  rw [unique index lookup]
  exact answer

theorem InOrder.place_unique {server : DhcpServer}
    (inOrder : InOrder netAddress clients server) {place : Nat}
    (lookup : clients[place]? = some client) :
    ∀ index, clients[index]? = some client → index = place := by
  intro index other
  exact (List.getElem?_inj (List.getElem?_eq_some_iff.mp other).1
    inOrder.distinct).mp (other.trans lookup.symm)

theorem place_of_fresh (fresh : client ∉ clients) :
    ∀ index, (clients ++ [client])[index]? = some client →
      index = clients.length := by
  intro index lookup
  rw [List.getElem?_append] at lookup
  split at lookup
  · exact absurd (List.mem_of_getElem? lookup) fresh
  · have inside := (List.getElem?_eq_some_iff.mp lookup).1
    simp only [List.length_singleton] at inside
    omega

theorem InOrder.discover_seen
    (inOrder : InOrder netAddress clients handled.before)
    (config : PoolConfig netAddress)
    (discover : handled.discoverer? = some client) (seen : client ∈ clients) :
    InOrder netAddress clients handled.result.server ∧
      Answers netAddress clients handled client := by
  obtain ⟨place, lookup⟩ := List.mem_iff_getElem?.mp seen
  have unique := inOrder.place_unique lookup
  by_cases bound : place < poolSize netAddress
  · obtain ⟨unchanged, offered⟩ := inOrder.renew config discover bound lookup
    refine ⟨unchanged ▸ inOrder, answers_of_place unique ?_⟩
    rw [if_pos bound]
    exact offered
  · have inside := (List.getElem?_eq_some_iff.mp lookup).1
    have absent : ∀ index, index < poolSize netAddress →
        clients[index]? ≠ some client := fun index within other =>
      bound (unique index other ▸ within)
    obtain ⟨unchanged, refused⟩ :=
      inOrder.refuse config discover (by omega) absent
    refine ⟨unchanged ▸ inOrder, answers_of_place unique ?_⟩
    rw [if_neg bound]
    exact refused

theorem InOrder.discover_fresh
    (inOrder : InOrder netAddress clients handled.before)
    (config : PoolConfig netAddress)
    (discover : handled.discoverer? = some client)
    (allocated : handled.localAlloc = true) (nonempty : client ≠ [])
    (fresh : client ∉ clients) :
    InOrder netAddress (clients ++ [client]) handled.result.server ∧
      Answers netAddress (clients ++ [client]) handled client := by
  have unique := place_of_fresh fresh
  by_cases room : clients.length < poolSize netAddress
  · obtain ⟨leased, offered⟩ :=
      inOrder.grant config discover allocated room fresh
    refine ⟨leased ▸ inOrder.lease room fresh nonempty,
      answers_of_place unique ?_⟩
    rw [if_pos room]
    exact offered
  · obtain ⟨unchanged, refused⟩ :=
      inOrder.refuse config discover (by omega)
        (fun _ _ lookup => fresh (List.mem_of_getElem? lookup))
    refine ⟨unchanged ▸ inOrder.append_full (by omega) fresh nonempty,
      answers_of_place unique ?_⟩
    rw [if_neg room]
    exact refused

theorem InOrder.discover (inOrder : InOrder netAddress clients handled.before)
    (config : PoolConfig netAddress)
    (discover : handled.discoverer? = some client)
    (allocated : handled.localAlloc = true) (nonempty : client ≠ []) :
    InOrder netAddress (remember clients client) handled.result.server ∧
      Answers netAddress (remember clients client) handled client := by
  unfold remember
  split
  · rename_i seen
    exact inOrder.discover_seen config discover seen
  · rename_i fresh
    exact inOrder.discover_fresh config discover allocated nonempty fresh

end Step

/-- Every DISCOVER of a history is answered by its client's place. -/
def AnsweredInOrder (netAddress : DhcpNetWorkAddr) (history : List Handled) :
    Prop :=
  ∀ before handled after client, history = before ++ handled :: after →
    handled.discoverer? = some client →
      Answers netAddress (discoverers (before ++ [handled])) handled client

/-- What a run has done with its pool. -/
structure PoolUse (netAddress : DhcpNetWorkAddr) (server : DhcpServer)
    (history : List Handled) : Prop where
  table : server.addressesInUse = server.serverEntry ::
    leasesOf netAddress
      ((discoverers history).take (poolSize netAddress))
  answers : AnsweredInOrder netAddress history

/-- The client of a DISCOVER has an identifier and `LocalAlloc` succeeds. -/
def Handled.Servable (handled : Handled) : Prop :=
  ∀ client, handled.discoverer? = some client →
    client ≠ [] ∧ handled.localAlloc = true

structure PoolRun (netAddress : DhcpNetWorkAddr) (server : DhcpServer)
    (history : List Handled) : Prop where
  inOrder : InOrder netAddress (discoverers history) server
  answers : AnsweredInOrder netAddress history

theorem PoolRun.frame {netAddress : DhcpNetWorkAddr}
    {server other : DhcpServer} {history : List Handled}
    (run : PoolRun netAddress server history)
    (address : other.serverAddress = server.serverAddress)
    (table : other.addressesInUse = server.addressesInUse)
    (last : other.lastOfferAddress = server.lastOfferAddress) :
    PoolRun netAddress other history :=
  ⟨run.inOrder.frame address table last, run.answers⟩

theorem PoolRun.handle {netAddress : DhcpNetWorkAddr}
    {handled : Handled} {history : List Handled}
    (run : PoolRun netAddress handled.before history)
    (config : PoolConfig netAddress) (servable : handled.Servable) :
    PoolRun netAddress handled.result.server (history ++ [handled]) := by
  have step : InOrder netAddress (discoverers (history ++ [handled]))
        handled.result.server ∧
      ∀ client, handled.discoverer? = some client →
        Answers netAddress (discoverers (history ++ [handled])) handled
          client := by
    cases discover : handled.discoverer? with
    | none =>
        rw [discoverers_snoc_other discover,
          Handled.server_of_not_discoverer discover]
        exact ⟨run.inOrder, fun client same => by cases same⟩
    | some client =>
        obtain ⟨nonempty, allocated⟩ := servable client discover
        obtain ⟨inOrder, answers⟩ :=
          run.inOrder.discover config discover allocated nonempty
        rw [discoverers_snoc discover]
        refine ⟨inOrder, fun other same => ?_⟩
        cases same
        exact answers
  refine ⟨step.1, ?_⟩
  intro before middle after client split discover
  rcases split_snoc split with ⟨rfl, rfl⟩ | ⟨rest, earlier⟩
  · exact step.2 client discover
  · exact run.answers before middle rest client earlier discover

theorem PoolRun.receive {netAddress : DhcpNetWorkAddr} {server : DhcpServer}
    {history : List Handled} (run : PoolRun netAddress server history)
    (config : PoolConfig netAddress) (reception : Reception)
    (servable : ∀ handled ∈ serverMachine.emit server (.receive reception),
      handled.Servable) :
    PoolRun netAddress (serverMachine.next server (.receive reception))
      (history ++ serverMachine.emit server (.receive reception)) := by
  by_cases looping : server.thread = some .looping
  · rw [serverMachine.emit_receive looping] at servable ⊢
    rw [serverMachine.next_receive looping]
    cases reception with
    | threw =>
        simp only [DhcpServer.receive, List.append_nil]
        exact run.frame rfl rfl rfl
    | failed =>
        simp only [DhcpServer.receive, List.append_nil]
        exact run
    | received datagram localAlloc sendTo =>
        have handled : PoolRun netAddress
            (Handled.result ⟨server, datagram, localAlloc⟩).server
            (history ++ [⟨server, datagram, localAlloc⟩]) :=
          PoolRun.handle run config
            (servable _ (by simp [DhcpServer.receive]))
        simp only [DhcpServer.receive]
        split
        · exact handled.frame rfl rfl rfl
        · exact handled
  · rw [serverMachine.emit_receive_idle looping,
      serverMachine.next_receive_idle looping, List.append_nil]
    exact run

theorem started_poolRun {netAddress : DhcpNetWorkAddr} {server : DhcpServer}
    (started : Started netAddress server) :
    PoolRun netAddress server [] where
  inOrder :=
    { config := started.config
      table := started.table
      last := started.lastOffer
      distinct := List.nodup_nil
      named := by simp [discoverers] }
  answers := by simp [AnsweredInOrder]

/-- From the first successful `Start` on the addresses of the pool go to the
clients in the order of their first DISCOVER, until every address is leased. -/
theorem pool_used_in_order {netAddress : DhcpNetWorkAddr}
    (config : PoolConfig netAddress) {env : InitEnv}
    (success : env.succeeds = true) (receptions : List Reception)
    (servable : ∀ handled ∈ serverMachine.outputs
      ((construct netAddress).start none env).2.1
      (receptions.map .receive), handled.Servable) :
    PoolUse netAddress
      (serverMachine.exec ((construct netAddress).start none env).2.1
        (receptions.map .receive))
      (serverMachine.outputs ((construct netAddress).start none env).2.1
        (receptions.map .receive)) := by
  have run := serverMachine.history_induction
    (I := fun server history => (∀ handled ∈ history, handled.Servable) →
      PoolRun netAddress server history)
    (receptions.map .receive) ((construct netAddress).start none env).2.1
    (fun _ => started_poolRun (construct_start netAddress success none))
    (fun event member server history held later => by
      obtain ⟨reception, -, rfl⟩ := List.mem_map.mp member
      exact (held fun handled before =>
        later handled (List.mem_append_left _ before)).receive config
          reception fun handled now =>
            later handled (List.mem_append_right _ now))
  exact ⟨(run servable).inOrder.table, (run servable).answers⟩

theorem pool_used_by_two_clients :
    PoolUse sampleNetAddress
      (serverMachine.exec ((construct sampleNetAddress).start none sampleEnv).2.1
        (twoClients.map .receive))
      (serverMachine.outputs
        ((construct sampleNetAddress).start none sampleEnv).2.1
        (twoClients.map .receive)) := by
  have config : PoolConfig sampleNetAddress :=
    ⟨by decide +kernel, by decide +kernel, by decide +kernel,
      by decide +kernel⟩
  have named : ∀ handled ∈ serverMachine.outputs
      ((construct sampleNetAddress).start none sampleEnv).2.1
      (twoClients.map .receive),
      handled.datagram.identifier ≠ [] ∧ handled.localAlloc = true := by
    decide +kernel
  refine pool_used_in_order config (by decide) twoClients ?_
  intro handled member client discover
  obtain ⟨-, rfl⟩ := Handled.discoverer?_eq_some.mp discover
  exact named handled member

example : discoverers (serverMachine.outputs sampleServer
    (twoClients.map .receive)) = [[1, 7], [1, 8]] := by
  decide +kernel

end PoeDhcp
