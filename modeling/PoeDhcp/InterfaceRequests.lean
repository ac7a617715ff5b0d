import PoeDhcp.AdapterAddress
import PoeDhcp.Model.Adapters
import PoeDhcp.WmiRequests

namespace PoeDhcp

open Foundation

/-! What the interface asks of WMI. -/

section Requests

variable {path : String} {init : InitOutcome}

theorem reading_works (path : String) (init : InitOutcome) :
    (init.reading path).works = init.works := by
  simp only [InitOutcome.works, InitOutcome.completes, InitOutcome.reading,
    Option.isSome_map]

theorem reading_get (works : init.works = true) :
    (init.reading path).get = some path := by
  rw [InitOutcome.works, InitOutcome.completes] at works
  simp only [Bool.and_eq_true] at works
  obtain ⟨-, ⟨-, read⟩, -⟩ := works
  obtain ⟨old, get⟩ := Option.isSome_iff_exists.mp read
  rw [InitOutcome.reading, get, Option.map_some]

/-- The requests for one adapter when everything succeeds. -/
def adapterRequests (path : String) (ip : NetWorkIp) : List Request :=
  [staticRequest (some path) ip, gatewayRequest (some path) ip,
    dnsRequest (some path) ip]

/-- The first call of `init` and the method that sets the address succeed. -/
structure ConfigOutcome.Succeeds (outcome : ConfigOutcome) : Prop where
  init : outcome.init.works = true
  exec : outcome.exec.succeeds = true

namespace NetWorkAdapter

variable (wmi : String → String) (adapterName : String) (ip : NetWorkIp)
  (outcome : ConfigOutcome)

/-- The path of the object that WMI selects for an adapter. -/
def pathOf (wmi : String → String) (adapterName : String) : String :=
  wmi (NetConfig.construct adapterName).query

theorem requests_configIp :
    requests (configIp wmi adapterName ip outcome) =
      NetSession.addressRequests ip outcome.exec
          (outcome.init.reading (pathOf wmi adapterName)) ++
        if outcome.init.works then
          [dnsRequest (outcome.init.reading (pathOf wmi adapterName)).get ip]
        else if outcome.dnsInit.works then
          [dnsRequest (outcome.dnsInit.reading (pathOf wmi adapterName)).get ip]
        else [] := by
  refine (NetSession.requests_lifetime "" adapterName _).trans ?_
  refine (NetSession.calls_ask ip outcome.exec rfl _ _ _ _ _).trans ?_
  simp only [reading_works]
  rfl

theorem configIp_sublist :
    (requests (configIp wmi adapterName ip outcome)).Sublist
      (adapterRequests (pathOf wmi adapterName) ip) := by
  rw [requests_configIp, NetSession.addressRequests, reading_works,
    adapterRequests]
  cases works : outcome.init.works with
  | true =>
      rw [reading_get works]
      cases outcome.exec.succeeds with
      | true => exact .refl _
      | false => exact (List.sublist_cons_self _ _).cons_cons _
  | false =>
      cases works : outcome.dnsInit.works with
      | true =>
          rw [reading_get works]
          exact ((List.Sublist.refl _).cons _).cons _
      | false => exact List.nil_sublist _

theorem configIp_whole (succeeds : outcome.Succeeds) :
    requests (configIp wmi adapterName ip outcome) =
      adapterRequests (pathOf wmi adapterName) ip := by
  rw [requests_configIp, NetSession.addressRequests, reading_works,
    reading_get succeeds.init, succeeds.init, succeeds.exec]
  rfl

end NetWorkAdapter

def Effect.requested (wmi : String → String) : Effect → List Request
  | .configIp adapterName ip =>
      adapterRequests (NetWorkAdapter.pathOf wmi adapterName) ip
  | .destroyed _ => []

theorem Effect.requests_sublist (wmi : String → String) (effect : Effect)
    (outcome : ConfigOutcome) :
    (requests (effect.comEvents wmi outcome)).Sublist
      (effect.requested wmi) := by
  cases effect with
  | configIp adapterName ip =>
      exact NetWorkAdapter.configIp_sublist wmi adapterName ip outcome
  | destroyed server => exact .refl _

theorem Effect.requests_whole (wmi : String → String) (effect : Effect)
    {outcome : ConfigOutcome} (succeeds : outcome.Succeeds) :
    requests (effect.comEvents wmi outcome) = effect.requested wmi := by
  cases effect with
  | configIp adapterName ip =>
      exact NetWorkAdapter.configIp_whole wmi adapterName ip outcome succeeds
  | destroyed server => rfl

theorem requests_effects (wmi : String → String) (effects : List Effect)
    (com : Nat → ConfigOutcome) :
    (requests (effects.mapIdx fun place effect =>
        effect.comEvents wmi (com place)).flatten).Sublist
      (effects.flatMap (Effect.requested wmi)) ∧
    ((∀ place, (com place).Succeeds) →
      requests (effects.mapIdx fun place effect =>
          effect.comEvents wmi (com place)).flatten =
        effects.flatMap (Effect.requested wmi)) := by
  induction effects generalizing com with
  | nil => exact ⟨.refl _, fun _ => rfl⟩
  | cons effect rest ih =>
      obtain ⟨part, whole⟩ := ih fun place => com (place + 1)
      rw [List.mapIdx_cons, List.flatten_cons, requests_append,
        List.flatMap_cons]
      refine ⟨(effect.requests_sublist wmi (com 0)).append part, ?_⟩
      intro succeeds
      rw [effect.requests_whole wmi (succeeds 0),
        whole fun place => succeeds (place + 1)]

end Requests

/-- The name of the adapter that a call is for: a PoE adapter of the model in
force, or nothing when an index has none. -/
def PoeDhcpSeverImpl.Targets (impl : PoeDhcpSeverImpl) (call : ApiCall)
    (adapterName : String) : Prop :=
  match call with
  | .configPoeAdapter => ∃ info ∈ impl.poeAdapters,
      info.adapterName = adapterName
  | .setPoeAdapterAddress index _ =>
      (impl.poeAdapter? index).elim "" (·.adapterName) = adapterName
  | _ => False

theorem PoeDhcpSeverImpl.emit_targets {impl : PoeDhcpSeverImpl}
    {call : ApiCall} {adapterName : String} {ip : NetWorkIp}
    (member : .configIp adapterName ip ∈ apiMachine.emit impl call) :
    impl.Targets call adapterName := by
  cases call with
  | configPoeAdapter =>
      have effects : apiMachine.emit impl .configPoeAdapter =
          impl.configPoeAdapter.2 := rfl
      rw [effects, configPoeAdapter_eq] at member
      rcases List.mem_append.mp member with written | cleared
      · obtain ⟨index, inside, same⟩ := List.mem_mapIdx.mp written
        cases same
        exact ⟨_, List.getElem_mem inside, rfl⟩
      · obtain ⟨server, -, other⟩ := List.mem_map.mp cleared
        cases other
  | setPoeAdapterAddress index address =>
      have effects : apiMachine.emit impl
          (.setPoeAdapterAddress index address) =
            (impl.setPoeAdapterAddress index address).2 := rfl
      rw [effects, setPoeAdapterAddress_eq, settle] at member
      split at member
      · cases member
      · split at member
        · cases List.mem_singleton.mp member
          change (impl.poeAdapter? index).elim "" (·.adapterName) = _
          cases impl.poeAdapter? index with
          | none => rfl
          | some info => rfl
        · cases member
  | _ => cases member

/-- What WMI is asked over a run of the interface. -/
structure AsksForAdapters (wmi : String → String) (impl : PoeDhcpSeverImpl)
    (turns : List InterfaceCall) (asked : List Request) : Prop where
  part : asked.Sublist
    ((apiMachine.outputs impl (turns.map (·.call))).flatMap
      (Effect.requested wmi))
  whole : (∀ turn ∈ turns, ∀ place, (turn.com place).Succeeds) →
    asked = (apiMachine.outputs impl (turns.map (·.call))).flatMap
      (Effect.requested wmi)
  targets : ∀ request ∈ asked, ∃ before turn after adapterName,
    turns = before ++ turn :: after ∧
      (apiMachine.exec impl (before.map (·.call))).Targets turn.call
        adapterName ∧
      request.1 = some (NetWorkAdapter.pathOf wmi adapterName)

theorem AsksForAdapters.cons {wmi : String → String}
    {impl : PoeDhcpSeverImpl} {turn : InterfaceCall}
    {rest : List InterfaceCall} {later : List Request}
    (asks : AsksForAdapters wmi (apiMachine.next impl turn.call) rest later) :
    AsksForAdapters wmi impl (turn :: rest)
      (requests ((interfaceMachine wmi).emit impl turn) ++ later) := by
  obtain ⟨part, whole⟩ := requests_effects wmi
    (apiMachine.emit impl turn.call) turn.com
  refine
    { part := ?_
      whole := ?_
      targets := ?_ }
  · rw [List.map_cons, Machine.outputs_cons, List.flatMap_append]
    exact part.append asks.part
  · intro succeeds
    rw [List.map_cons, Machine.outputs_cons, List.flatMap_append]
    exact congrArg₂ (· ++ ·) (whole (succeeds turn List.mem_cons_self))
      (asks.whole fun other member =>
        succeeds other (List.mem_cons_of_mem _ member))
  · intro request member
    rcases List.mem_append.mp member with now | later
    · obtain ⟨effect, emitted, requested⟩ :=
        List.mem_flatMap.mp (part.subset now)
      cases effect with
      | destroyed server => cases requested
      | configIp adapterName ip =>
          refine ⟨[], turn, rest, adapterName, rfl,
            PoeDhcpSeverImpl.emit_targets emitted, ?_⟩
          simp only [Effect.requested, adapterRequests, List.mem_cons,
            List.not_mem_nil, or_false] at requested
          rcases requested with rfl | rfl | rfl <;> rfl
    · obtain ⟨before, other, after, adapterName, rfl, targets, path⟩ :=
        asks.targets request later
      exact ⟨turn :: before, other, after, adapterName, rfl, targets, path⟩

end PoeDhcp
