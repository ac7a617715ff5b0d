import PoeDhcp.Model.Service
import PoeDhcp.SystemLeases

namespace PoeDhcp

open Foundation
open DhcpServer

/-! What holds of the service in every interleaving of its two threads with the
servers. -/

namespace PoeDhcpSeverImpl

variable {impl : PoeDhcpSeverImpl}

theorem next_servers {Good : DhcpServer → Prop}
    (made : ∀ netAddress, Good (construct netAddress))
    (kept : ∀ server event, Good server →
      Good (serverMachine.next server event))
    (good : ∀ server ∈ impl.dhcpServerList, Good server) (call : ApiCall) :
    ∀ server ∈ (apiMachine.next impl call).dhcpServerList, Good server := by
  by_cases config : call = .configPoeAdapter
  · subst config
    intro server member
    obtain ⟨netAddress, -, rfl⟩ := List.mem_map.mp member
    exact made netAddress
  · have servers : (apiMachine.next impl call).dhcpServerList = _ :=
      (system_step impl config).1
    rw [servers]
    intro server member
    obtain ⟨index, bound, rfl⟩ := List.mem_mapIdx.mp member
    exact serverMachine.exec_induction _ _
      (good _ (List.getElem_mem bound)) fun event _ => (kept · event)

end PoeDhcpSeverImpl

namespace Service

open PoeDhcpSeverImpl

variable {service : Service}

/-- Where servers may be running. -/
def mayRun : MainPc → Bool
  | .start | .loop | .stopServers => true
  | _ => false

/-- Behind `StartDhcpServer` and `StopDhcpSrever` no server is running. -/
structure Guarded (service : Service) : Prop where
  tracked : ∀ impl, service.poeDhcpServer = some impl →
    ∃ started, impl.Tracks started ∧
      (mayRun service.main = false → started = false)
  supervised : ∀ impl, service.poeDhcpServer = some impl →
    ∀ server ∈ impl.dhcpServerList, server.Supervised

theorem guarded_initial : Guarded initial where
  tracked := fun _ created => by cases created
  supervised := fun _ created => by cases created

/-- A step that leaves the interface alone. -/
theorem Guarded.frame (guarded : service.Guarded) {after : Service}
    (same : after.poeDhcpServer = service.poeDhcpServer)
    (place : mayRun after.main = false → mayRun service.main = false) :
    after.Guarded where
  tracked := by
    intro impl created
    obtain ⟨started, tracks, stopped⟩ :=
      guarded.tracked impl (same ▸ created)
    exact ⟨started, tracks, fun outside => stopped (place outside)⟩
  supervised := fun impl created =>
    guarded.supervised impl (same ▸ created)

theorem call_none (created : service.poeDhcpServer = none)
    (call : ApiCall) : service.call call = (service, []) := by
  rw [Service.call, created]

theorem call_some {impl : PoeDhcpSeverImpl}
    (created : service.poeDhcpServer = some impl) (call : ApiCall) :
    service.call call =
      ({ service with poeDhcpServer := some (apiMachine.next impl call) },
        (apiMachine.emit impl call).map .effect) := by
  rw [Service.call, created]

theorem call_main (service : Service) (call : ApiCall) :
    (service.call call).1.main = service.main := by
  unfold Service.call
  split <;> rfl

/-- The effects of the interface among what the service shows. -/
def effectsOf (outputs : List ServiceOutput) : List Effect :=
  outputs.filterMap fun
    | .effect effect => some effect
    | .reported _ => none

theorem effectsOf_map (effects : List Effect) :
    effectsOf (effects.map .effect) = effects := by
  induction effects with
  | nil => rfl
  | cons effect rest ih => exact congrArg (effect :: ·) ih

theorem effectsOf_append (first second : List ServiceOutput) :
    effectsOf (first ++ second) = effectsOf first ++ effectsOf second :=
  List.filterMap_append

/-- A call of the interface on the way to another statement: servers run behind it
only where they may, and none that runs is destroyed. -/
theorem Guarded.call (guarded : service.Guarded) {after : Service}
    (same : after.poeDhcpServer = service.poeDhcpServer) (call : ApiCall)
    (config : call = .configPoeAdapter → mayRun service.main = false)
    (stops : ∀ (impl : PoeDhcpSeverImpl) started,
      (mayRun service.main = false → started = false) →
        mayRun after.main = false →
          impl.startedAfter started call = false) :
    (after.call call).1.Guarded ∧
      NoneActive (effectsOf (after.call call).2) := by
  rcases Option.eq_none_or_eq_some after.poeDhcpServer with
    missing | ⟨impl, created⟩
  · rw [call_none missing]
    refine ⟨?_, noneActive_nil⟩
    exact
      { tracked := fun impl other => by
          rw [missing] at other
          cases other
        supervised := fun impl other => by
          rw [missing] at other
          cases other }
  · obtain ⟨started, tracks, outside⟩ :=
      guarded.tracked impl (same.symm.trans created)
    rw [call_some created, effectsOf_map]
    refine ⟨?_, (tracks.emit_iff call).mpr fun same => outside (config same)⟩
    exact
      { tracked := fun other chosen => by
          cases chosen
          exact ⟨_, tracks.next call, stops impl started outside⟩
        supervised := fun other chosen => by
          cases chosen
          exact next_servers construct_supervised
            (fun _ event supervised =>
              serverMachine.next_supervised supervised event)
            (guarded.supervised impl (same.symm.trans created)) call }

theorem guarded_create {infos : List NetWorkAapterInfo}
    (created : service.poeDhcpServer = some (.create infos)) :
    service.Guarded where
  tracked := by
    intro impl same
    rw [created] at same
    cases same
    exact ⟨false, tracks_construct [] rfl, fun _ => rfl⟩
  supervised := by
    intro impl same server member
    rw [created] at same
    cases same
    cases member

theorem mainStep_guarded (guarded : service.Guarded) (env : MainEnv) :
    (service.mainStep env).1.Guarded ∧
      NoneActive (effectsOf (service.mainStep env).2) := by
  unfold mainStep
  cases main : service.main with
  | create =>
      refine ⟨?_, noneActive_nil⟩
      rcases Option.eq_none_or_eq_some service.poeDhcpServer with
        created | ⟨impl, created⟩
      · rw [created]
        exact guarded_create rfl
      · rw [created]
        exact guarded.frame created.symm fun _ => by rw [main]; rfl
  | stopFirst =>
      refine guarded.call ?_ (.stopDhcpServers env.last) ?_ fun _ _ _ _ => rfl
      · rfl
      · exact fun other => by cases other
  | configure =>
      refine guarded.call ?_ .configPoeAdapter ?_ fun _ _ _ _ => rfl
      · rfl
      · exact fun _ => by rw [main]; rfl
  | start =>
      refine guarded.call ?_ (.startDhcpServers env.outcome) ?_ ?_
      · rfl
      · exact fun other => by cases other
      · intro impl started _ outside
        dsimp only at outside
        split at outside <;> cases outside
  | stopServers =>
      refine guarded.call ?_ (.stopDhcpServers env.last) ?_ fun _ _ _ _ => rfl
      · rfl
      · exact fun other => by cases other
  | loop =>
      refine ⟨guarded.frame rfl ?_, noneActive_nil⟩
      intro outside
      dsimp only at outside
      split at outside <;> cases outside
  | reportRunning =>
      exact ⟨guarded.frame rfl fun _ => by rw [main]; rfl, noneActive_nil⟩
  | _ => exact ⟨guarded.frame rfl fun _ => by rw [main]; rfl, noneActive_nil⟩

theorem handlerStep_frame (service : Service) :
    (service.handlerStep).1.poeDhcpServer = service.poeDhcpServer ∧
      (service.handlerStep).1.main = service.main ∧
      effectsOf (service.handlerStep).2 = [] := by
  unfold handlerStep
  cases service.handler <;> exact ⟨rfl, rfl, rfl⟩

theorem next_guarded (guarded : service.Guarded) (turn : ServiceTurn) :
    (serviceMachine.next service turn).Guarded ∧
      NoneActive (effectsOf (serviceMachine.emit service turn)) := by
  cases turn with
  | serviceMain =>
      refine ⟨?_, noneActive_nil⟩
      simp only [Machine.next, serviceMachine]
      split
      · rename_i outside
        exact guarded.frame rfl fun _ => by rw [outside]; rfl
      · exact guarded
  | main env => exact mainStep_guarded guarded env
  | control request =>
      refine ⟨?_, noneActive_nil⟩
      simp only [Machine.next, serviceMachine]
      split
      · exact guarded.frame rfl id
      · exact guarded
  | handler =>
      obtain ⟨same, main, silent⟩ := handlerStep_frame service
      refine ⟨guarded.frame same fun outside => ?_, ?_⟩
      · rw [← main]
        exact outside
      · have emitted : effectsOf (serviceMachine.emit service .handler) = [] :=
          silent
        rw [emitted]
        exact noneActive_nil
  | receive index reception =>
      exact guarded.call rfl (.receive index reception)
        (fun other => by cases other)
        fun _ started stopped outside => stopped outside

theorem run_guarded (turns : List ServiceTurn) :
    (serviceMachine.exec initial turns).Guarded ∧
      NoneActive (effectsOf (serviceMachine.outputs initial turns)) := by
  apply serviceMachine.history_induction
    (I := fun service history =>
      service.Guarded ∧ NoneActive (effectsOf history))
  · exact ⟨guarded_initial, noneActive_nil⟩
  · intro turn _ service history held
    obtain ⟨guarded, silent⟩ := held
    obtain ⟨next, emitted⟩ := next_guarded guarded turn
    refine ⟨next, ?_⟩
    rw [effectsOf_append]
    exact noneActive_append.mpr ⟨silent, emitted⟩

/-- Nothing is served. -/
def Stopped (service : Service) : Prop :=
  ∀ impl, service.poeDhcpServer = some impl →
    ∀ server ∈ impl.dhcpServerList,
      server.isRunning = false ∧ server.thread ≠ some .looping

theorem Guarded.stopped (guarded : service.Guarded)
    (outside : mayRun service.main = false) : service.Stopped := by
  intro impl created server member
  obtain ⟨started, tracks, stops⟩ := guarded.tracked impl created
  have idle := tracks.stopped_iff.mp (stops outside) server member
  refine ⟨idle, ?_⟩
  intro looping
  have running := guarded.supervised impl created server member looping
  rw [isRunning, running] at idle
  cases idle

end Service

/-- Servers run only between the start loop and `StopDhcpSrever`: whenever
`ServiceMain` is elsewhere, or has returned, none does. -/
theorem service_stopped_outside (turns : List ServiceTurn)
    (outside : Service.mayRun (serviceMachine.exec .initial turns).main =
      false) :
    (serviceMachine.exec .initial turns).Stopped :=
  (Service.run_guarded turns).1.stopped outside

/-- The environment in which every server starts. -/
def readyEnv : MainEnv where
  registered := true
  adapters := sampleTable
  last := fun _ => none
  outcome := fun _ => ⟨none, sampleEnv⟩

/-- A whole run of `ServiceMain`, which a request ends. -/
def wholeRun : List ServiceTurn :=
  .serviceMain :: List.replicate 8 (.main readyEnv) ++
    [.control .stop, .handler, .handler, .handler, .main readyEnv,
      .main readyEnv]

theorem wholeRun_stopped : (serviceMachine.exec .initial wholeRun).Stopped :=
  service_stopped_outside wholeRun (by decide +kernel)

/-! Requests that come too early. -/

namespace Service

variable {service : Service}

/-- The step in which `CtrlHandler` clears `brun`. -/
def ClearsRun (service : Service) (turn : ServiceTurn) : Prop :=
  turn = .handler ∧ service.handler = .clearRun

/-- Between `brun = true` and the end of the loop that tests it. -/
def awaitsStop : MainPc → Bool
  | .create | .stopFirst | .configure | .start | .loop => true
  | _ => false

structure Awaiting (service : Service) : Prop where
  brun : service.brun = true
  place : awaitsStop service.main = true

theorem call_frame (service : Service) (call : ApiCall) :
    ∃ poeDhcpServer, (service.call call).1 =
      { service with poeDhcpServer := poeDhcpServer } := by
  unfold Service.call
  split
  · exact ⟨service.poeDhcpServer, rfl⟩
  · exact ⟨_, rfl⟩

theorem Awaiting.call {after : Service} (awaiting : after.Awaiting)
    (call : ApiCall) : (after.call call).1.Awaiting := by
  obtain ⟨poeDhcpServer, frame⟩ := call_frame after call
  rw [frame]
  exact ⟨awaiting.brun, awaiting.place⟩

theorem Awaiting.mainStep (awaiting : service.Awaiting) (env : MainEnv) :
    (service.mainStep env).1.Awaiting := by
  have place := awaiting.place
  unfold Service.mainStep
  cases main : service.main with
  | create => exact ⟨awaiting.brun, rfl⟩
  | stopFirst =>
      refine Awaiting.call ?_ _
      exact ⟨awaiting.brun, rfl⟩
  | configure =>
      refine Awaiting.call ?_ _
      exact ⟨awaiting.brun, rfl⟩
  | start =>
      refine Awaiting.call ?_ _
      refine ⟨awaiting.brun, ?_⟩
      dsimp only
      split <;> rfl
  | loop =>
      refine ⟨awaiting.brun, ?_⟩
      dsimp only
      rw [awaiting.brun]
      rfl
  | _ =>
      rw [main] at place
      cases place

theorem Awaiting.next (awaiting : service.Awaiting) {turn : ServiceTurn}
    (kept : ¬ service.ClearsRun turn) :
    (serviceMachine.next service turn).Awaiting := by
  cases turn with
  | serviceMain =>
      simp only [Machine.next, serviceMachine]
      split
      · rename_i outside
        have place := awaiting.place
        rw [outside] at place
        cases place
      · exact awaiting
  | main env => exact awaiting.mainStep env
  | control request =>
      simp only [Machine.next, serviceMachine]
      split
      · exact ⟨awaiting.brun, awaiting.place⟩
      · exact awaiting
  | handler =>
      have stepped : serviceMachine.next service .handler =
          service.handlerStep.1 := rfl
      rw [stepped, handlerStep]
      cases place : service.handler with
      | clearRun => exact absurd ⟨rfl, place⟩ kept
      | _ => exact ⟨awaiting.brun, awaiting.place⟩
  | receive index reception => exact awaiting.call (.receive index reception)

theorem Awaiting.run (awaiting : service.Awaiting)
    (turns : List ServiceTurn)
    (kept : serviceMachine.EachStep (fun service turn =>
      ¬ service.ClearsRun turn) service turns) :
    (serviceMachine.exec service turns).Awaiting := by
  induction turns generalizing service with
  | nil => exact awaiting
  | cons turn rest ih => exact ih (awaiting.next kept.1) kept.2

end Service

/-- However many requests were handled before `ServiceMain` sets `brun`, it does
not return unless a request clears `brun` after that. -/
theorem early_requests_lost (before after : List ServiceTurn) (env : MainEnv)
    (ready : (serviceMachine.exec .initial before).main = .setRun)
    (kept : serviceMachine.EachStep (fun service turn =>
        ¬ service.ClearsRun turn)
      (serviceMachine.next (serviceMachine.exec .initial before) (.main env))
      after) :
    Service.awaitsStop (serviceMachine.exec .initial
      (before ++ .main env :: after)).main = true := by
  have set : serviceMachine.next (serviceMachine.exec .initial before)
      (.main env) =
        { serviceMachine.exec .initial before with
          brun := true
          main := .create } := by
    change (Service.mainStep _ env).1 = _
    rw [Service.mainStep, ready]
  rw [Machine.exec_append, Machine.exec_cons]
  refine (Service.Awaiting.run ?_ after kept).place
  rw [set]
  exact ⟨rfl, rfl⟩

/-- A request is handled as soon as `CtrlHandler` is registered. -/
def earlyStop : List ServiceTurn :=
  [.serviceMain, .main readyEnv, .control .stop, .handler, .handler, .handler,
    .main readyEnv, .main readyEnv]

theorem earlyStop_lost :
    Service.awaitsStop (serviceMachine.exec .initial
      (earlyStop ++ .main readyEnv ::
        List.replicate 9 (.main readyEnv))).main = true := by
  refine early_requests_lost earlyStop (List.replicate 9 (.main readyEnv))
    readyEnv rfl ?_
  simp [List.replicate, Machine.EachStep, Service.ClearsRun]

/-! Without an adapter of the model there is nothing to start. -/

namespace Service

open PoeDhcpSeverImpl

variable {service : Service}

/-- `ServiceMain` has not come behind the start loop, and the interface has neither
an adapter to serve nor a server. -/
structure Barren (service : Service) : Prop where
  adapters : ∀ impl, service.poeDhcpServer = some impl →
    impl.poeAdapters = [] ∧ impl.dhcpServerList = []
  place : service.main ≠ .loop ∧ service.main ≠ .stopServers

/-- None of the adapters has the model that a new interface looks for. -/
def NoAdapter (turn : ServiceTurn) : Prop :=
  ∀ env, turn = .main env →
    (PoeDhcpSeverImpl.create env.adapters.infos).poeAdapters = []

theorem configPoeAdapter_none {impl : PoeDhcpSeverImpl}
    (none : impl.poeAdapters = []) :
    impl.configPoeAdapter.1.dhcpServerList = [] := by
  rw [configPoeAdapter_eq, getDhcpAddressList_eq, none]
  rfl

/-- The calls that the service makes. -/
def makes : ApiCall → Bool
  | .setPoeAdapterModel _ => false
  | .setPoeAdapterAddress _ _ => false
  | _ => true

theorem barren_call {impl : PoeDhcpSeverImpl} {call : ApiCall}
    (made : makes call = true) (none : impl.poeAdapters = [])
    (noServer : impl.dhcpServerList = []) :
    (apiMachine.next impl call).poeAdapters = [] ∧
      (apiMachine.next impl call).dhcpServerList = [] := by
  cases call with
  | configPoeAdapter => exact ⟨none, configPoeAdapter_none none⟩
  | startDhcpServers outcome =>
      refine ⟨none, ?_⟩
      have servers := startDhcpServers_servers impl outcome
      rw [noServer] at servers
      exact servers
  | stopDhcpServers last =>
      refine ⟨none, ?_⟩
      change impl.dhcpServerList.mapIdx _ = []
      rw [noServer]
      rfl
  | receive index reception =>
      refine ⟨none, ?_⟩
      change impl.dhcpServerList.mapIdx _ = []
      rw [noServer]
      rfl
  | setPoeAdapterModel model => cases made
  | setPoeAdapterAddress index address => cases made

theorem Barren.call {after : Service} (barren : after.Barren)
    {call : ApiCall} (made : makes call = true) :
    (after.call call).1.Barren := by
  rcases Option.eq_none_or_eq_some after.poeDhcpServer with
    missing | ⟨impl, created⟩
  · rw [call_none missing]
    exact barren
  · obtain ⟨none, noServer⟩ := barren.adapters impl created
    rw [call_some created]
    exact
      { adapters := fun other chosen => by
          cases chosen
          exact barren_call made none noServer
        place := barren.place }

/-- Without a server the start loop goes round. -/
theorem Barren.startResult (barren : service.Barren)
    (outcome : Nat → StartOutcome) :
    service.startResult outcome = false := by
  unfold Service.startResult
  split
  · rfl
  · rename_i impl created
    rw [startDhcpServers, (barren.adapters impl created).2]
    rfl

theorem Barren.mainStep (barren : service.Barren) {env : MainEnv}
    (noAdapter : (create env.adapters.infos).poeAdapters = []) :
    (service.mainStep env).1.Barren := by
  unfold Service.mainStep
  cases main : service.main with
  | create =>
      refine ⟨?_, MainPc.noConfusion, MainPc.noConfusion⟩
      intro impl created
      rcases Option.eq_none_or_eq_some service.poeDhcpServer with
        missing | ⟨existing, found⟩
      · rw [missing] at created
        cases created
        exact ⟨noAdapter, rfl⟩
      · rw [found] at created
        cases created
        exact barren.adapters _ found
  | stopFirst =>
      refine Barren.call ?_ rfl
      exact ⟨barren.adapters, MainPc.noConfusion, MainPc.noConfusion⟩
  | configure =>
      refine Barren.call ?_ rfl
      exact ⟨barren.adapters, MainPc.noConfusion, MainPc.noConfusion⟩
  | start =>
      refine Barren.call ?_ rfl
      rw [barren.startResult]
      exact ⟨barren.adapters, MainPc.noConfusion, MainPc.noConfusion⟩
  | loop => exact absurd main barren.place.1
  | stopServers => exact absurd main barren.place.2
  | outside => exact barren
  | register =>
      refine ⟨barren.adapters, ?_⟩
      dsimp only
      split <;> exact ⟨MainPc.noConfusion, MainPc.noConfusion⟩
  | _ => exact ⟨barren.adapters, MainPc.noConfusion, MainPc.noConfusion⟩

theorem Barren.next (barren : service.Barren) {turn : ServiceTurn}
    (noAdapter : NoAdapter turn) :
    (serviceMachine.next service turn).Barren := by
  cases turn with
  | serviceMain =>
      simp only [Machine.next, serviceMachine]
      split
      · exact ⟨barren.adapters, MainPc.noConfusion, MainPc.noConfusion⟩
      · exact barren
  | main env => exact barren.mainStep (noAdapter env rfl)
  | control request =>
      simp only [Machine.next, serviceMachine]
      split
      · exact ⟨barren.adapters, barren.place⟩
      · exact barren
  | handler =>
      obtain ⟨same, main, -⟩ := handlerStep_frame service
      have next : serviceMachine.next service .handler =
          service.handlerStep.1 := rfl
      rw [next]
      refine ⟨?_, ?_⟩
      · rw [same]
        exact barren.adapters
      · rw [main]
        exact barren.place
  | receive index reception => exact barren.call rfl

theorem Barren.stays (barren : service.Barren)
    (starting : service.main = .start) (turn : ServiceTurn) :
    (serviceMachine.next service turn).main = .start := by
  cases turn with
  | serviceMain =>
      simp only [Machine.next, serviceMachine, starting, reduceCtorEq,
        if_false]
  | main env =>
      change (service.mainStep env).1.main = .start
      rw [Service.mainStep, starting]
      dsimp only
      rw [call_main, barren.startResult]
      rfl
  | control request =>
      simp only [Machine.next, serviceMachine]
      split <;> exact starting
  | handler =>
      rw [← starting]
      exact (handlerStep_frame service).2.1
  | receive index reception =>
      rw [← starting]
      exact call_main service (.receive index reception)

end Service

end PoeDhcp
