import PoeDhcp.ServiceRuns

namespace PoeDhcp

open Foundation
open DhcpServer
open PoeDhcpSeverImpl

/-! What the clients of the service can rely on. -/

theorem emit_idle {server : DhcpServer}
    (idle : server.thread ≠ some .looping) (event : Event) :
    serverMachine.emit server event = [] := by
  have stopped (last : Option Reception) : (server.stop last).2 = [] := by
    unfold stop
    split
    · rfl
    · rfl
    · rename_i looping
      exact absurd looping idle
  cases event with
  | start last env =>
      have emitted : serverMachine.emit server (.start last env) =
          (server.settle last).2 := by
        change (server.start last env).2.2 = _
        rw [start_eq]
        split <;> rfl
      rw [emitted, DhcpServer.settle]
      split
      · exact stopped last
      · rfl
  | stop last => exact stopped last
  | receive reception => exact serverMachine.emit_receive_idle idle reception

theorem system_emit_idle {impl : PoeDhcpSeverImpl}
    (idle : ∀ server ∈ impl.dhcpServerList, server.thread ≠ some .looping)
    (call : ApiCall) : systemMachine.emit impl call = [] := by
  by_cases config : call = .configPoeAdapter
  · subst config
    rfl
  · rw [(system_step impl config).2]
    refine List.flatten_eq_nil_iff.mpr fun part member => ?_
    obtain ⟨index, inside, rfl⟩ := List.mem_mapIdx.mp member
    rw [List.map_eq_nil_iff]
    cases serverEvent call index with
    | none => rfl
    | some event =>
        rw [outputs_event]
        exact emit_idle (idle _ (List.getElem_mem inside)) event

theorem PoeDhcpSeverImpl.ServedBy.congr {impl other : PoeDhcpSeverImpl}
    {replies : List (Nat × Handled)} (served : ServedBy impl replies)
    (infos : other.adapterInfos = impl.adapterInfos)
    (model : other.poeAdapterModel = impl.poeAdapterModel) :
    ServedBy other replies := by
  obtain ⟨adapterInfos, servers, poeAdapterModel⟩ := impl
  obtain ⟨otherInfos, otherServers, otherModel⟩ := other
  subst infos model
  exact served

namespace Service

variable {service : Service} {turn : ServiceTurn}

/-- How a turn changes the interface, and what the servers process in it. -/
inductive Moves (service : Service) (turn : ServiceTurn) :
    Option PoeDhcpSeverImpl → List (Nat × Handled) → Prop
  | called {impl : PoeDhcpSeverImpl} {call : ApiCall}
      (created : service.poeDhcpServer = some impl)
      (calls : service.callOf turn = some call) :
      Moves service turn (some (apiMachine.next impl call))
        (systemMachine.emit impl call)
  | kept (idle : service.poeDhcpServer = none ∨ service.callOf turn = none) :
      Moves service turn service.poeDhcpServer []
  | made (missing : service.poeDhcpServer = none)
      (quiet : mayRun service.main = false)
      (silent : service.callOf turn = none) (table : AdapterTable) :
      Moves service turn (some (.create table.infos)) []

theorem handled_idle
    (idle : service.poeDhcpServer = none ∨ service.callOf turn = none) :
    service.handled turn = [] := by
  unfold handled
  rcases idle with missing | silent
  · rw [missing]
  · rw [silent]
    split <;> first | rfl | contradiction

theorem Moves.of_kept {after : Option PoeDhcpSeverImpl}
    (idle : service.poeDhcpServer = none ∨ service.callOf turn = none)
    (same : after = service.poeDhcpServer) :
    Moves service turn after (service.handled turn) := by
  rw [same, handled_idle idle]
  exact .kept idle

theorem Moves.of_call {after : Service} {call : ApiCall}
    (same : after.poeDhcpServer = service.poeDhcpServer)
    (calls : service.callOf turn = some call) :
    Moves service turn (after.call call).1.poeDhcpServer
      (service.handled turn) := by
  rcases Option.eq_none_or_eq_some service.poeDhcpServer with
    missing | ⟨impl, created⟩
  · rw [call_none (same.trans missing)]
    exact .of_kept (.inl missing) same
  · rw [call_some (same.trans created)]
    have handled : service.handled turn = systemMachine.emit impl call := by
      rw [Service.handled, created, calls]
      rfl
    rw [handled]
    exact .called created calls

theorem mainStep_moves (service : Service) (env : MainEnv) :
    Moves service (.main env) (service.mainStep env).1.poeDhcpServer
      (service.handled (.main env)) := by
  unfold mainStep
  cases main : service.main with
  | create =>
      have silent : service.callOf (.main env) = none := by
        rw [callOf, main]
      rcases Option.eq_none_or_eq_some service.poeDhcpServer with
        missing | ⟨impl, created⟩
      · rw [missing, handled_idle (.inl missing)]
        exact .made missing (by rw [main]; rfl) silent env.adapters
      · refine .of_kept (.inr silent) ?_
        rw [created]
        rfl
  | stopFirst => exact .of_call rfl (by rw [callOf, main])
  | configure => exact .of_call rfl (by rw [callOf, main])
  | start => exact .of_call rfl (by rw [callOf, main])
  | stopServers => exact .of_call rfl (by rw [callOf, main])
  | register =>
      refine .of_kept (.inr (by rw [callOf, main])) ?_
      rfl
  | _ => exact .of_kept (.inr (by rw [callOf, main])) rfl

theorem next_moves (service : Service) (turn : ServiceTurn) :
    Moves service turn (serviceMachine.next service turn).poeDhcpServer
      (service.handled turn) := by
  cases turn with
  | serviceMain =>
      refine .of_kept (.inr rfl) ?_
      simp only [Machine.next, serviceMachine]
      split <;> rfl
  | main env => exact mainStep_moves service env
  | control request =>
      refine .of_kept (.inr rfl) ?_
      simp only [Machine.next, serviceMachine]
      split <;> rfl
  | handler => exact .of_kept (.inr rfl) (handlerStep_frame service).1
  | receive index reception => exact .of_call rfl rfl

/-! One call of `ServiceMain`. -/

/-- Where no configuration follows in the same call of `ServiceMain`. -/
def configured : MainPc → Bool
  | .start | .loop | .stopServers | .outside => true
  | _ => false

theorem configured_next (behind : configured service.main = true)
    (same : turn ≠ .serviceMain) :
    configured (serviceMachine.next service turn).main = true ∧
      service.callOf turn ≠ some .configPoeAdapter := by
  cases turn with
  | serviceMain => exact absurd rfl same
  | main env =>
      change configured (service.mainStep env).1.main = true ∧ _
      unfold mainStep callOf
      cases main : service.main with
      | outside => exact ⟨congrArg configured main, by simp⟩
      | start =>
          rw [call_main]
          refine ⟨?_, by simp⟩
          dsimp only
          split <;> rfl
      | loop =>
          refine ⟨?_, by simp⟩
          dsimp only
          split <;> rfl
      | stopServers =>
          rw [call_main]
          exact ⟨rfl, by simp⟩
      | _ =>
          rw [main] at behind
          cases behind
  | control request =>
      refine ⟨?_, by simp [callOf]⟩
      simp only [Machine.next, serviceMachine]
      split <;> exact behind
  | handler =>
      refine ⟨?_, by simp [callOf]⟩
      change configured (service.handlerStep).1.main = true
      rw [(handlerStep_frame service).2.1]
      exact behind
  | receive index reception =>
      refine ⟨?_, by simp [callOf]⟩
      change configured (service.call _).1.main = true
      rw [call_main]
      exact behind

theorem mayRun_next (before : mayRun service.main = false)
    (after : mayRun (serviceMachine.next service turn).main = true) :
    service.callOf turn = some .configPoeAdapter ∧
      configured (serviceMachine.next service turn).main = true := by
  have unchanged (main : (serviceMachine.next service turn).main =
      service.main) : False := by
    rw [main, before] at after
    cases after
  cases turn with
  | serviceMain =>
      simp only [Machine.next, serviceMachine] at after
      split at after
      · cases after
      · rw [before] at after
        cases after
  | main env =>
      change mayRun (service.mainStep env).1.main = true at after
      change _ ∧ configured (service.mainStep env).1.main = true
      unfold mainStep at after ⊢
      cases main : service.main with
      | configure =>
          rw [call_main]
          exact ⟨by rw [callOf, main], rfl⟩
      | stopFirst =>
          rw [main] at after
          dsimp only at after
          rw [call_main] at after
          cases after
      | register =>
          rw [main] at after
          dsimp only at after
          split at after <;> cases after
      | outside =>
          rw [main] at after
          dsimp only at after
          rw [main] at after
          cases after
      | start | loop | stopServers =>
          rw [main] at before
          cases before
      | _ =>
          rw [main] at after
          cases after
  | control request =>
      refine (unchanged ?_).elim
      simp only [Machine.next, serviceMachine]
      split <;> rfl
  | handler => exact (unchanged (handlerStep_frame service).2.1).elim
  | receive index reception => exact (unchanged (call_main service _)).elim

theorem callOf_makes {call : ApiCall}
    (calls : service.callOf turn = some call) : makes call = true := by
  unfold callOf at calls
  split at calls
  · split at calls <;> cases calls <;> rfl
  · cases calls
    rfl
  · cases calls

/-- The interface has read the adapters. -/
def Rooted (service : Service) : Prop :=
  ∀ impl, service.poeDhcpServer = some impl →
    ∃ table : AdapterTable, impl.adapterInfos = table.infos

theorem rooted_initial : initial.Rooted := by
  intro impl created
  cases created

theorem Rooted.next (rooted : service.Rooted) (turn : ServiceTurn) :
    (serviceMachine.next service turn).Rooted := by
  have moves := next_moves service turn
  unfold Rooted
  generalize (serviceMachine.next service turn).poeDhcpServer = after,
    service.handled turn = handled at moves
  intro impl same
  subst same
  generalize held : some impl = after at moves
  cases moves with
  | called created calls =>
      cases held
      obtain ⟨table, infos⟩ := rooted _ created
      exact ⟨table, (exec_adapterInfos _ [_]).trans infos⟩
  | kept idle => exact rooted impl held.symm
  | made missing quiet silent table =>
      cases held
      exact ⟨table, rfl⟩

/-- What the servers have processed since `ServiceMain` was called: nothing up to
`ConfigPoeAdapter`, and from there on what they process for the calls behind
it. -/
inductive Session (service : Service) : List (Nat × Handled) → Prop
  | early
      (place : mayRun service.main = false ∨
        service.poeDhcpServer = none) :
      Session service []
  | late (base : PoeDhcpSeverImpl) (calls : List ApiCall)
      (made : ∀ call ∈ calls, makes call = true ∧ call ≠ .configPoeAdapter)
      (created : service.poeDhcpServer =
        some (apiMachine.exec base.configPoeAdapter.1 calls))
      (behind : configured service.main = true) :
      Session service (systemMachine.outputs base.configPoeAdapter.1 calls)

theorem systemMachine_exec (impl : PoeDhcpSeverImpl) (calls : List ApiCall) :
    systemMachine.exec impl calls = apiMachine.exec impl calls := by
  induction calls generalizing impl with
  | nil => rfl
  | cons call rest ih => exact ih _

theorem Session.early_next (quiet : mayRun service.main = false)
    (silent : service.callOf turn ≠ some .configPoeAdapter) :
    (serviceMachine.next service turn).Session [] := by
  refine .early (.inl ?_)
  cases running : mayRun (serviceMachine.next service turn).main with
  | false => rfl
  | true => exact absurd (mayRun_next quiet running).1 silent

/-- Before `ConfigPoeAdapter` the servers, if there are any, do not run. -/
theorem Session.next_early {after : Option PoeDhcpSeverImpl}
    {handled : List (Nat × Handled)} (guarded : service.Guarded)
    (place : mayRun service.main = false ∨ service.poeDhcpServer = none)
    (reached : (serviceMachine.next service turn).poeDhcpServer = after)
    (moves : Moves service turn after handled) :
    (serviceMachine.next service turn).Session handled := by
  cases moves with
  | @called impl call created calls =>
      have quiet : mayRun service.main = false := by
        rcases place with quiet | missing
        · exact quiet
        · rw [missing] at created
          cases created
      have idle : systemMachine.emit impl call = [] :=
        system_emit_idle (fun server member =>
          (guarded.stopped quiet impl created server member).2) call
      rw [idle]
      by_cases config : call = .configPoeAdapter
      · subst config
        cases running : mayRun (serviceMachine.next service turn).main with
        | false => exact .early (.inl running)
        | true =>
            exact .late impl [] (fun _ => by simp) reached
              (mayRun_next quiet running).2
      · refine early_next quiet ?_
        rw [calls]
        exact fun same => config (Option.some.inj same)
  | kept idle =>
      rcases Option.eq_none_or_eq_some service.poeDhcpServer with
        missing | ⟨impl, created⟩
      · exact .early (.inr (reached.trans missing))
      · have present : service.poeDhcpServer ≠ none := by simp [created]
        refine early_next (place.resolve_right present) ?_
        rw [idle.resolve_left present]
        exact fun same => by cases same
  | made missing quiet silent table =>
      refine early_next quiet ?_
      rw [silent]
      exact fun same => by cases same

theorem Session.next {replies : List (Nat × Handled)}
    (session : service.Session replies) (guarded : service.Guarded)
    (same : turn ≠ .serviceMain) :
    (serviceMachine.next service turn).Session
      (replies ++ service.handled turn) := by
  have moves := next_moves service turn
  cases session with
  | early place => exact next_early guarded place rfl moves
  | late base calls made created behind =>
      obtain ⟨behind', other⟩ := configured_next behind same
      generalize reached :
        (serviceMachine.next service turn).poeDhcpServer = after at moves
      generalize service.handled turn = handled at moves
      cases moves with
      | @called impl call held called =>
          cases created.symm.trans held
          have grown : systemMachine.outputs base.configPoeAdapter.1 calls ++
              systemMachine.emit
                (apiMachine.exec base.configPoeAdapter.1 calls) call =
              systemMachine.outputs base.configPoeAdapter.1
                (calls ++ [call]) := by
            rw [Machine.outputs_append, systemMachine_exec,
              Machine.outputs_cons, Machine.outputs_nil, List.append_nil]
          rw [grown]
          refine .late base (calls ++ [call]) ?_ ?_ behind'
          · intro later member
            rcases List.mem_append.mp member with old | new
            · exact made later old
            · cases List.mem_singleton.mp new
              refine ⟨callOf_makes called, fun config => other ?_⟩
              rw [called, config]
          · rw [reached, Machine.exec_append]
            rfl
      | kept idle =>
          rw [List.append_nil]
          exact .late base calls made (reached.trans created) behind'
      | made missing quiet silent table =>
          rw [created] at missing
          cases missing

/-- What the servers have processed is safe for the adapters of the interface. -/
def SafeService (service : Service) (replies : List (Nat × Handled)) : Prop :=
  match service.poeDhcpServer with
  | none => replies = []
  | some impl => SafeReplies impl replies

theorem servedBy_nil (impl : PoeDhcpSeverImpl) : ServedBy impl [] := by
  intro index handled member
  cases member

theorem exec_poeAdapterModel {impl : PoeDhcpSeverImpl} {calls : List ApiCall}
    (made : ∀ call ∈ calls, makes call = true) :
    (apiMachine.exec impl calls).poeAdapterModel = impl.poeAdapterModel := by
  refine apiMachine.exec_induction
    (I := fun state => state.poeAdapterModel = impl.poeAdapterModel) calls
    impl rfl ?_
  intro call member state kept
  have makes := made call member
  rw [← kept]
  cases call with
  | setPoeAdapterModel model => cases makes
  | _ => rfl

theorem Session.safe {replies : List (Nat × Handled)}
    (session : service.Session replies) (rooted : service.Rooted) :
    service.SafeService replies := by
  unfold SafeService
  cases session with
  | early place =>
      cases created : service.poeDhcpServer with
      | none => rfl
      | some impl =>
          obtain ⟨table, infos⟩ := rooted impl created
          exact (servedBy_nil impl).safe (poeAdapters_lt impl table infos)
  | late base calls made created behind =>
      obtain ⟨table, infos⟩ := rooted _ created
      rw [created]
      have kept : .configPoeAdapter ∉ calls := fun member =>
        (made _ member).2 rfl
      refine ((configured_served kept).congr ?_ ?_).safe
        (poeAdapters_lt _ table infos)
      · exact exec_adapterInfos _ calls
      · exact exec_poeAdapterModel fun call member => (made call member).1

/-- The session and what it rests on. -/
structure Sound (service : Service) (replies : List (Nat × Handled)) :
    Prop where
  guarded : service.Guarded
  rooted : service.Rooted
  session : service.Session replies

theorem Sound.run {replies : List (Nat × Handled)}
    (sound : service.Sound replies) {turns : List ServiceTurn}
    (once : .serviceMain ∉ turns) :
    (servedMachine.exec service turns).Sound
      (replies ++ servedMachine.outputs service turns) := by
  refine servedMachine.history_induction_from turns service replies sound ?_
  intro turn member service history sound
  exact
    { guarded := (next_guarded sound.guarded turn).1
      rooted := sound.rooted.next turn
      session := sound.session.next sound.guarded fun same =>
        once (same ▸ member) }

/-- `ServiceMain` is called while no server runs. -/
theorem sound_entered (before : List ServiceTurn)
    (idle : mayRun (serviceMachine.exec initial before).main = false) :
    (servedMachine.next (serviceMachine.exec initial before)
      .serviceMain).Sound [] where
  guarded := (next_guarded (run_guarded before).1 .serviceMain).1
  rooted := by
    refine Rooted.next ?_ .serviceMain
    exact serviceMachine.exec_induction before initial rooted_initial
      fun turn _ service rooted => rooted.next turn
  session := Session.early_next idle fun same => by cases same

theorem servedMachine_exec (service : Service) (turns : List ServiceTurn) :
    servedMachine.exec service turns = serviceMachine.exec service turns := by
  induction turns generalizing service with
  | nil => rfl
  | cons turn rest ih => exact ih _

end Service

/-- A call of `ServiceMain`, with whatever the control requests and the servers do
in the meantime: what the clients are told is safe. -/
theorem service_replies_safe (before during : List ServiceTurn)
    (idle : Service.mayRun (serviceMachine.exec .initial before).main = false)
    (once : .serviceMain ∉ during) :
    (serviceMachine.exec .initial
        (before ++ .serviceMain :: during)).SafeService
      (servedMachine.outputs (serviceMachine.exec .initial before)
        (.serviceMain :: during)) := by
  have sound := (Service.sound_entered before idle).run once
  rw [Machine.exec_append, Machine.exec_cons, ← Service.servedMachine_exec]
  have silent : servedMachine.emit (serviceMachine.exec .initial before)
      .serviceMain = [] := Service.handled_idle (.inr rfl)
  rw [Machine.outputs_cons, silent]
  exact sound.session.safe sound.rooted

/-- The service starts its server, which offers an address. -/
def servedRun : List ServiceTurn :=
  List.replicate 8 (.main readyEnv) ++
    [.receive 0 (.received (discoverOf 1) true true), .control .stop,
      .handler, .main readyEnv, .main readyEnv]

theorem servedRun_safe :
    (serviceMachine.exec .initial ([] ++ .serviceMain :: servedRun)).SafeService
      (servedMachine.outputs (serviceMachine.exec .initial [])
        (.serviceMain :: servedRun)) :=
  service_replies_safe [] servedRun rfl (by simp [servedRun])

example : (servedMachine.outputs .initial
    (.serviceMain :: servedRun)).length = 1 := by
  decide +kernel

end PoeDhcp
