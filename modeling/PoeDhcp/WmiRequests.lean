import PoeDhcp.ComResources

namespace PoeDhcp

open Foundation

/-! Which adapter the methods are executed on. -/

/-- `Get` reads the path of the object that the query has selected. -/
def InitOutcome.Reads (outcome : InitOutcome) (wmi : String → String)
    (query : String) : Prop :=
  ∀ path, outcome.get = some path → path = wmi query

/-- What the calls of `init` meet in a public call. -/
def NetConfigCall.inits : NetConfigCall → List InitOutcome
  | .setKey _ => []
  | .enableDhcp init _ => [init]
  | .setIpConfig _ _ init _ => [init]
  | .setIpConfigGateway _ _ _ init _ gatewayInit _ => [init, gatewayInit]
  | .setGateway _ init _ => [init]
  | .setDns _ _ init _ => [init]
  | .setAutoDns init _ => [init]
  | .clear => []

def ReadsPath (wmi : String → String) (session : NetSession)
    (call : NetConfigCall) : Prop :=
  ∀ outcome ∈ call.inits, outcome.Reads wmi session.config.query

/-- Only methods are executed on an object. -/
def Silent (events : List ComEvent) : Prop :=
  ∀ path method params, ComEvent.executed path method params ∉ events

theorem Silent.append {first second : List ComEvent} (early : Silent first)
    (late : Silent second) : Silent (first ++ second) := by
  intro path method params member
  rcases List.mem_append.mp member with old | new
  · exact early path method params old
  · exact late path method params new

theorem silent_nil : Silent [] :=
  fun _ _ _ => List.not_mem_nil

namespace NetConfig

variable {config : NetConfig}

@[simp] theorem store_key (pointer : Pointer) (interface : Option Nat) :
    (config.store pointer interface).key = config.key := by
  cases pointer <;> rfl

@[simp] theorem store_path (pointer : Pointer) (interface : Option Nat) :
    (config.store pointer interface).path = config.path := by
  cases pointer <;> rfl

theorem query_congr {other : NetConfig} (key : other.key = config.key) :
    other.query = config.query := by
  unfold query
  rw [key]

theorem clear_silent : Silent config.clear.2 := by
  rw [clear_events]
  refine Silent.append ?_ ?_
  · intro path method params member
    obtain ⟨interface, -, released⟩ := List.mem_map.mp member
    cases released
  · cases config.isInit with
    | true =>
        intro path method params member
        cases List.mem_singleton.mp member
    | false => exact silent_nil

end NetConfig

namespace NetSession

variable {session : NetSession} {outcome : InitOutcome}

/-! What `init` leaves alone, and the path that it reads. -/

structure Reached (key : String) (get : Option String) (result : Result) :
    Prop where
  key : result.2.1.config.key = key
  path : result.1 = true → result.2.1.config.path = get
  silent : Silent result.2.2

section Reached

variable {key : String} {get path : Option String}

theorem Reached.behind {result : Result} (reached : Reached key get result)
    {events : List ComEvent} (silent : Silent events) :
    Reached key get (result.behind events) where
  key := reached.key
  path := reached.path
  silent := silent.append reached.silent

theorem Reached.stopped (named : session.config.key = key) :
    Reached key get (false, session, []) where
  key := named
  path := fun returned => by cases returned
  silent := silent_nil

theorem Reached.create (named : session.config.key = key)
    (located : session.config.path = path) (pointer : Pointer)
    (outcome : OutPointer) {next : NetSession → Result}
    (reached : ∀ session : NetSession, session.config.key = key →
      session.config.path = path → Reached key get (next session)) :
    Reached key get (session.create pointer outcome next) := by
  cases outcome with
  | made =>
      refine (reached _ ?_ ?_).behind ?_
      · exact (NetConfig.store_key pointer _).trans named
      · exact (NetConfig.store_path pointer _).trans located
      · intro path method params member
        cases List.mem_singleton.mp member
  | failed cleared =>
      cases cleared with
      | true => exact .stopped ((NetConfig.store_key pointer none).trans named)
      | false => exact .stopped named

theorem init_reached (inactive : session.config.isInit = false) :
    Reached session.config.key outcome.get (session.init outcome) := by
  unfold init
  rw [inactive]
  cases outcome.coInitializeEx with
  | false => exact .stopped rfl
  | true =>
      refine Reached.behind ?_ ?_
      · refine .create rfl rfl _ _ fun session named located => ?_
        refine .create named located _ _ fun session named located => ?_
        cases outcome.coSetProxyBlanket with
        | false => exact .stopped named
        | true =>
            refine Reached.behind ?_ ?_
            · refine .create named located _ _ fun session named located => ?_
              refine .create named located _ _ fun session named located => ?_
              cases outcome.get with
              | none => exact .stopped named
              | some path =>
                  refine .create ?_ rfl _ _ ?_
                  · exact named
                  · exact fun session named located =>
                      ⟨named, fun _ => located, silent_nil⟩
            · intro path method params member
              cases List.mem_singleton.mp member
      · intro path method params member
        cases List.mem_singleton.mp member

end Reached

/-! The path belongs to the key, and the interfaces are held. -/

structure Ready (wmi : String → String) (config : NetConfig) : Prop where
  path : config.path = some (wmi config.query)
  held : ∀ pointer, (config.pointer pointer).isSome = true

def Addressed (wmi : String → String) (session : NetSession) : Prop :=
  session.config.isInit = true → Ready wmi session.config

theorem Addressed.idle {wmi : String → String}
    (inactive : session.config.isInit = false) : Addressed wmi session := by
  intro active
  rw [inactive] at active
  cases active

/-- What a function does for the adapter that the query selects. -/
structure Serves (wmi : String → String) (session : NetSession)
    (result : Result) : Prop where
  same : result.2.1.config.query = session.config.query
  addressed : Addressed wmi result.2.1
  stays : session.config.isInit = true → result.2.1.config.isInit = true
  onPath : ∀ path method params,
    .executed path method params ∈ result.2.2 →
      path = some (wmi session.config.query) ∧
        result.2.1.config.isInit = true

section Serves

variable {wmi : String → String}

theorem Serves.refl (addressed : Addressed wmi session) (returned : Bool) :
    Serves wmi session (returned, session, []) where
  same := rfl
  addressed := addressed
  stays := id
  onPath := fun _ _ _ member => by cases member

theorem Serves.trans {first later : Result}
    (early : Serves wmi session first)
    (late : Serves wmi first.2.1 later) :
    Serves wmi session (later.behind first.2.2) where
  same := late.same.trans early.same
  addressed := late.addressed
  stays := fun active => late.stays (early.stays active)
  onPath := by
    intro path method params member
    rcases List.mem_append.mp member with old | new
    · obtain ⟨onPath, active⟩ := early.onPath path method params old
      exact ⟨onPath, late.stays active⟩
    · rw [← early.same]
      exact late.onPath path method params new

theorem ready_initialised (path : String)
    (reads : path = wmi session.config.query) :
    Ready wmi (session.initialised path).config where
  path := congrArg some reads
  held := fun pointer => by cases pointer <;> rfl

theorem init_serves (addressed : Addressed wmi session)
    (reads : outcome.Reads wmi session.config.query) :
    Serves wmi session (session.init outcome) := by
  cases active : session.config.isInit with
  | true =>
      rw [init_of_isInit active]
      exact .refl addressed true
  | false =>
      have reached : Reached session.config.key outcome.get
          (session.init outcome) := init_reached active
      have initialises := init_initialises session outcome
      generalize session.init outcome = result at reached initialises
      refine
        { same := NetConfig.query_congr reached.key
          addressed := ?_
          stays := fun ready => by rw [active] at ready; cases ready
          onPath := fun path method params member =>
            absurd member (reached.silent path method params) }
      cases initialises with
      | ready active => exact addressed
      | refused inactive refused => exact addressed
      | complete inactive completes path =>
          have get : some path = outcome.get := reached.path rfl
          exact fun _ => ready_initialised path (reads path get.symm)
      | halfway halfway ends => exact .idle ends.isInit

theorem execMethod_serves (active : session.config.isInit = true)
    (addressed : Addressed wmi session) (method : String)
    (params : Option (List (String × ParamValue))) (outcome : ExecOutcome) :
    Serves wmi session (session.execMethod method params outcome) := by
  have ready := addressed active
  have executed (after : NetSession)
      (config : ∃ code, after.config =
        { session.config with lastErrorCode := code }) (returned : Bool) :
      Serves wmi session (returned, after,
        [.executed session.config.path method params]) := by
    obtain ⟨code, config⟩ := config
    refine ⟨?_, fun _ => ?_, fun _ => ?_, ?_⟩
    · rw [config]
      rfl
    · rw [config]
      exact ⟨ready.path, ready.held⟩
    · rw [config]
      exact active
    · intro path other values member
      cases List.mem_singleton.mp member
      refine ⟨ready.path, ?_⟩
      rw [config]
      exact active
  unfold execMethod
  cases outcome with
  | failed => exact executed session ⟨_, rfl⟩ false
  | noReturnValue => exact executed session ⟨_, rfl⟩ false
  | returned value =>
      dsimp only
      split
      · exact executed session ⟨_, rfl⟩ true
      · refine executed _ ?_ false
        exact ⟨value.toInt, rfl⟩

theorem withInit_serves (addressed : Addressed wmi session)
    (reads : outcome.Reads wmi session.config.query)
    {next : NetSession → Result}
    (serves : ∀ later : NetSession, later.config.isInit = true →
      Addressed wmi later → Serves wmi later (next later)) :
    Serves wmi session (session.withInit outcome next) := by
  have first := init_serves addressed reads
  have ready := @init_isInit session outcome
  unfold withInit
  generalize session.init outcome = result at first ready
  obtain ⟨returned, after, events⟩ := result
  cases returned with
  | false => exact first
  | true => exact first.trans (serves after (ready rfl) first.addressed)

theorem setIpConfigGateway_serves (addressed : Addressed wmi session)
    (ip mask gateway : String) {gatewayInit : InitOutcome}
    (reads : outcome.Reads wmi session.config.query)
    (gatewayReads : gatewayInit.Reads wmi session.config.query)
    (exec gatewayExec : ExecOutcome) :
    Serves wmi session (session.setIpConfigGateway ip mask gateway outcome
      exec gatewayInit gatewayExec) := by
  have first : Serves wmi session
      (session.setIpConfig ip mask outcome exec) :=
    withInit_serves addressed reads fun later active held =>
      execMethod_serves active held _ _ _
  unfold setIpConfigGateway
  generalize session.setIpConfig ip mask outcome exec = result at first
  obtain ⟨returned, middle, events⟩ := result
  cases returned with
  | false => exact first
  | true =>
      rw [← first.same] at gatewayReads
      have second : Serves wmi middle
          (middle.setGateway gateway gatewayInit gatewayExec) :=
        withInit_serves first.addressed gatewayReads fun later active held =>
          execMethod_serves active held _ _ _
      exact first.trans second

end Serves

end NetSession

/-- The methods of a call are executed on the path of the adapter whose key is in
force, by an object that holds all its interfaces. -/
def GoesToAdapter (wmi : String → String) (session : NetSession)
    (call : NetConfigCall) : Prop :=
  ∀ path method params,
    .executed path method params ∈ netConfigMachine.emit session call →
      path = some (wmi session.config.query) ∧
        ∀ pointer, ((netConfigMachine.next session call).config.pointer
          pointer).isSome = true

open NetSession

theorem step_serves {wmi : String → String} {session : NetSession}
    {call : NetConfigCall} (addressed : Addressed wmi session)
    (reads : ReadsPath wmi session call) :
    Addressed wmi (netConfigMachine.next session call) ∧
      GoesToAdapter wmi session call := by
  have goes {result : Result} (serves : Serves wmi session result)
      (next : netConfigMachine.next session call = result.2.1)
      (emit : netConfigMachine.emit session call = result.2.2) :
      Addressed wmi (netConfigMachine.next session call) ∧
        GoesToAdapter wmi session call := by
    rw [next, GoesToAdapter, emit, next]
    refine ⟨serves.addressed, ?_⟩
    intro path method params member
    obtain ⟨onPath, active⟩ := serves.onPath path method params member
    exact ⟨onPath, (serves.addressed active).held⟩
  cases call with
  | setKey key =>
      exact ⟨.idle rfl, fun path method params member =>
        absurd member (NetConfig.clear_silent path method params)⟩
  | clear =>
      exact ⟨.idle rfl, fun path method params member =>
        absurd member (NetConfig.clear_silent path method params)⟩
  | setIpConfigGateway ip mask gateway init exec gatewayInit gatewayExec =>
      exact goes (setIpConfigGateway_serves addressed ip mask gateway
        (reads init (by simp [NetConfigCall.inits]))
        (reads gatewayInit (by simp [NetConfigCall.inits])) exec gatewayExec)
        rfl rfl
  | _ =>
      exact goes (withInit_serves addressed
        (reads _ (by simp only [NetConfigCall.inits, List.mem_singleton]))
        fun later active held => execMethod_serves active held _ _ _) rfl rfl

/-- Over any calls the methods go to the adapter of the last key. -/
theorem methods_reach_adapter (wmi : String → String) (key : String)
    (calls : List NetConfigCall)
    (reads : netConfigMachine.EachStep (ReadsPath wmi)
      ⟨.construct key, 0⟩ calls) :
    netConfigMachine.EachStep (GoesToAdapter wmi)
      ⟨.construct key, 0⟩ calls := by
  refine netConfigMachine.eachStep_of_inv (Addressed wmi) ?_ calls _
    (.idle rfl) reads
  exact fun session call addressed reads => step_serves addressed reads

/-- One object configures two adapters. -/
def initOf (path : String) : InitOutcome :=
  { wholeInit with get := some path }

def sampleWmi (query : String) : String :=
  if query = (NetConfig.construct "eth2").query then "Index=2" else "Index=1"

def twoAdapterCalls : List NetConfigCall :=
  [.setKey "eth1", .setIpConfig "192.168.50.1" "255.255.255.0"
      (initOf "Index=1") (.returned 0),
    .setKey "eth2", .setIpConfig "192.168.51.1" "255.255.255.0"
      (initOf "Index=2") (.returned 0)]

theorem twoAdapterCalls_reach :
    netConfigMachine.EachStep (GoesToAdapter sampleWmi)
      ⟨.construct "", 0⟩ twoAdapterCalls := by
  refine methods_reach_adapter sampleWmi "" twoAdapterCalls ?_
  refine ⟨?_, ?_, ?_, ?_, trivial⟩
  · intro outcome member
    cases member
  · intro outcome member path get
    cases List.mem_singleton.mp member
    cases get
    decide +kernel
  · intro outcome member
    cases member
  · intro outcome member path get
    cases List.mem_singleton.mp member
    cases get
    decide +kernel

/-! What `ConfigIp` asks of WMI. -/

/-- A method with the path that it is executed on. -/
abbrev Request :=
  Option String × String × Option (List (String × ParamValue))

def requests (events : List ComEvent) : List Request :=
  events.filterMap fun
    | .executed path method params => some (path, method, params)
    | _ => none

theorem requests_append (first second : List ComEvent) :
    requests (first ++ second) = requests first ++ requests second :=
  List.filterMap_append

theorem requests_silent {events : List ComEvent} (silent : Silent events) :
    requests events = [] := by
  refine List.filterMap_eq_nil_iff.mpr fun event member => ?_
  cases event with
  | executed path method params =>
      exact absurd member (silent path method params)
  | _ => rfl

/-- The whole of `init` succeeds. -/
def InitOutcome.works (outcome : InitOutcome) : Bool :=
  outcome.coInitializeEx && outcome.completes

/-- The method reports success, with or without a reboot. -/
def ExecOutcome.succeeds : ExecOutcome → Bool
  | .returned value => decide (value = 0 ∨ value = 1)
  | _ => false

def staticRequest (path : Option String) (ip : NetWorkIp) : Request :=
  (path, "EnableStatic",
    some [("IPAddress", .strings [ip.address]),
      ("SubnetMask", .strings [ip.mask])])

def gatewayRequest (path : Option String) (ip : NetWorkIp) : Request :=
  (path, "SetGateways",
    some [("DefaultIPGateway", .strings [ip.gateWay]),
      ("GatewayCostMetric", .uint 1)])

def dnsRequest (path : Option String) (ip : NetWorkIp) : Request :=
  (path, "SetDNSServerSearchOrder",
    some [("DNSServerSearchOrder",
      if ip.dns2 ≠ "" then .strings [ip.dns, ip.dns2]
      else .strings [ip.dns])])

namespace NetSession

variable {session : NetSession} {outcome : InitOutcome}

/-- What a first `init` leads to. -/
structure Initialised (outcome : InitOutcome) (result : Result) : Prop where
  returned : result.1 = outcome.works
  isInit : result.2.1.config.isInit = outcome.works
  path : outcome.works = true → result.2.1.config.path = outcome.get
  silent : requests result.2.2 = []

theorem init_initialised (inactive : session.config.isInit = false) :
    Initialised outcome (session.init outcome) := by
  have reached : Reached session.config.key outcome.get
      (session.init outcome) := init_reached inactive
  cases opened : outcome.coInitializeEx with
  | false =>
      have works : outcome.works = false := by
        rw [InitOutcome.works, opened, Bool.false_and]
      rw [init_of_refused inactive opened]
      refine ⟨works.symm, inactive.trans works.symm, ?_, rfl⟩
      rw [works]
      exact fun impossible => by cases impossible
  | true =>
      have works : outcome.works = outcome.completes := by
        rw [InitOutcome.works, opened, Bool.true_and]
      obtain ⟨result, initialised, ends⟩ := init_ends inactive opened
      refine
        { returned := ?_
          isInit := ?_
          path := ?_
          silent := requests_silent reached.silent }
      · rw [initialised, works]
        exact ends.returned
      · rw [initialised, works]
        exact ends.isInit
      · intro worked
        refine reached.path ?_
        rw [initialised, ← worked, works]
        exact ends.returned

theorem withInit_ready (active : session.config.isInit = true)
    (next : NetSession → Result) :
    session.withInit outcome next = next session := by
  rw [withInit, init_of_isInit active]
  rfl

theorem withInit_works (inactive : session.config.isInit = false)
    (works : outcome.works = true) (next : NetSession → Result) :
    ∃ after events, session.withInit outcome next =
        (next after).behind events ∧
      after.config.isInit = true ∧ after.config.path = outcome.get ∧
      requests events = [] := by
  have initialised := @init_initialised session outcome inactive
  unfold withInit
  generalize session.init outcome = result at initialised
  obtain ⟨returned, after, events⟩ := result
  obtain ⟨succeeded, isInit, path, silent⟩ := initialised
  rw [works] at succeeded isInit
  subst succeeded
  exact ⟨after, events, rfl, isInit, path works, silent⟩

theorem withInit_fails (inactive : session.config.isInit = false)
    (fails : outcome.works = false) (next : NetSession → Result) :
    ∃ after events, session.withInit outcome next = (false, after, events) ∧
      after.config.isInit = false ∧ requests events = [] := by
  have initialised := @init_initialised session outcome inactive
  unfold withInit
  generalize session.init outcome = result at initialised
  obtain ⟨returned, after, events⟩ := result
  obtain ⟨succeeded, isInit, -, silent⟩ := initialised
  rw [fails] at succeeded isInit
  subst succeeded
  exact ⟨after, events, rfl, isInit, silent⟩

/-- A method changes nothing but the last error code. -/
theorem execMethod_eq (session : NetSession) (method : String)
    (params : Option (List (String × ParamValue))) (outcome : ExecOutcome) :
    ∃ after, session.execMethod method params outcome =
        (outcome.succeeds, after,
          [.executed session.config.path method params]) ∧
      after.config.isInit = session.config.isInit ∧
      after.config.path = session.config.path := by
  unfold execMethod
  cases outcome with
  | failed => exact ⟨_, rfl, rfl, rfl⟩
  | noReturnValue => exact ⟨_, rfl, rfl, rfl⟩
  | returned value =>
      by_cases success : value = 0 ∨ value = 1
      · simp only [success, if_true, ExecOutcome.succeeds, decide_true]
        exact ⟨_, rfl, rfl, rfl⟩
      · simp only [success, if_false, ExecOutcome.succeeds, decide_false]
        exact ⟨_, rfl, rfl, rfl⟩

section ConfigIp

variable (ip : NetWorkIp) (exec : ExecOutcome)

/-- Address, mask and gateway. -/
def addressRequests (init : InitOutcome) : List Request :=
  if init.works then
    staticRequest init.get ip ::
      if exec.succeeds then [gatewayRequest init.get ip] else []
  else []

/-- What is asked of WMI, and what a later call of `init` meets. -/
structure Asks (init : InitOutcome) (expected : List Request)
    (result : Result) : Prop where
  isInit : result.2.1.config.isInit = init.works
  path : init.works = true → result.2.1.config.path = init.get
  asked : requests result.2.2 = expected

theorem setIpConfig_eq (session : NetSession) (init : InitOutcome) :
    session.setIpConfig ip.address ip.mask init exec =
      session.withInit init fun session =>
        session.execMethod "EnableStatic" (staticRequest none ip).2.2 exec :=
  rfl

theorem setGateway_eq (session : NetSession) (init : InitOutcome) :
    session.setGateway ip.gateWay init exec =
      session.withInit init fun session =>
        session.execMethod "SetGateways" (gatewayRequest none ip).2.2 exec :=
  rfl

theorem setDns_eq (session : NetSession) (init : InitOutcome) :
    session.setDns ip.dns ip.dns2 init exec =
      session.withInit init fun session =>
        session.execMethod "SetDNSServerSearchOrder"
          (dnsRequest none ip).2.2 exec :=
  rfl

theorem setIpConfig_asks (inactive : session.config.isInit = false)
    (init : InitOutcome) :
    Asks init (if init.works then [staticRequest init.get ip] else [])
        (session.setIpConfig ip.address ip.mask init exec) ∧
      (session.setIpConfig ip.address ip.mask init exec).1 =
        (init.works && exec.succeeds) := by
  rw [setIpConfig_eq]
  cases works : init.works with
  | false =>
      obtain ⟨after, events, failed, stopped, silent⟩ :=
        withInit_fails inactive works fun session =>
          session.execMethod "EnableStatic" (staticRequest none ip).2.2 exec
      rw [failed]
      refine ⟨⟨stopped.trans works.symm, ?_, silent⟩, rfl⟩
      rw [works]
      exact fun impossible => by cases impossible
  | true =>
      obtain ⟨ready, events, static, active, path, silent⟩ :=
        withInit_works inactive works fun session =>
          session.execMethod "EnableStatic" (staticRequest none ip).2.2 exec
      obtain ⟨after, executed, stays, kept⟩ := execMethod_eq ready
        "EnableStatic" (staticRequest none ip).2.2 exec
      rw [static, executed]
      refine ⟨⟨(stays.trans active).trans works.symm,
        fun _ => kept.trans path, ?_⟩, rfl⟩
      refine (requests_append _ _).trans ?_
      rw [silent, path]
      rfl

theorem setGateway_ready (active : session.config.isInit = true)
    (gatewayInit : InitOutcome) (gatewayExec : ExecOutcome) :
    ∃ returned after, session.setGateway ip.gateWay gatewayInit gatewayExec =
        (returned, after,
          [.executed session.config.path "SetGateways"
            (gatewayRequest none ip).2.2]) ∧
      after.config.isInit = true ∧
      after.config.path = session.config.path := by
  obtain ⟨after, executed, stays, kept⟩ := execMethod_eq session
    "SetGateways" (gatewayRequest none ip).2.2 gatewayExec
  refine ⟨gatewayExec.succeeds, after, ?_, stays.trans active, kept⟩
  rw [setGateway_eq, withInit_ready active]
  exact executed

theorem setIpConfigGateway_asks
    (inactive : session.config.isInit = false) (init : InitOutcome)
    (gatewayInit : InitOutcome) (gatewayExec : ExecOutcome) :
    Asks init (addressRequests ip exec init)
      (session.setIpConfigGateway ip.address ip.mask ip.gateWay init exec
        gatewayInit gatewayExec) := by
  obtain ⟨first, returns⟩ := setIpConfig_asks ip exec inactive init
  unfold setIpConfigGateway addressRequests
  generalize session.setIpConfig ip.address ip.mask init exec = result
    at first returns
  obtain ⟨returned, middle, events⟩ := result
  dsimp only at returns
  subst returns
  cases works : init.works with
  | false =>
      have asked := first.asked
      rw [works] at asked
      exact ⟨first.isInit, first.path, asked⟩
  | true =>
      have asked := first.asked
      have active : middle.config.isInit = true := first.isInit.trans works
      rw [works] at asked
      cases exec.succeeds with
      | false => exact ⟨first.isInit, first.path, asked⟩
      | true =>
          obtain ⟨returned, after, gateway, stays, kept⟩ :=
            setGateway_ready ip active gatewayInit gatewayExec
          change Asks init _ ((middle.setGateway ip.gateWay gatewayInit
            gatewayExec).behind events)
          rw [gateway]
          refine ⟨stays.trans works.symm,
            fun worked => kept.trans (first.path worked), ?_⟩
          refine (requests_append _ _).trans ?_
          rw [show requests events = _ from asked,
            show middle.config.path = _ from first.path works]
          rfl

/-- `set_dns` asks on the path that an earlier `init` has read, or else tries an
`init` of its own. -/
theorem setDns_asks_ready (active : session.config.isInit = true)
    (dnsInit : InitOutcome) (dnsExec : ExecOutcome) :
    requests (session.setDns ip.dns ip.dns2 dnsInit dnsExec).2.2 =
      [dnsRequest session.config.path ip] := by
  obtain ⟨after, executed, -⟩ := execMethod_eq session
    "SetDNSServerSearchOrder" (dnsRequest none ip).2.2 dnsExec
  rw [setDns_eq, withInit_ready active, executed]
  rfl

theorem setDns_asks (inactive : session.config.isInit = false)
    (dnsInit : InitOutcome) (dnsExec : ExecOutcome) :
    requests (session.setDns ip.dns ip.dns2 dnsInit dnsExec).2.2 =
      if dnsInit.works then [dnsRequest dnsInit.get ip] else [] := by
  rw [setDns_eq]
  cases works : dnsInit.works with
  | false =>
      obtain ⟨after, events, failed, -, silent⟩ :=
        withInit_fails inactive works fun session =>
          session.execMethod "SetDNSServerSearchOrder"
            (dnsRequest none ip).2.2 dnsExec
      rw [failed]
      exact silent
  | true =>
      obtain ⟨ready, events, asked, active, path, silent⟩ :=
        withInit_works inactive works fun session =>
          session.execMethod "SetDNSServerSearchOrder"
            (dnsRequest none ip).2.2 dnsExec
      obtain ⟨after, executed, -⟩ := execMethod_eq ready
        "SetDNSServerSearchOrder" (dnsRequest none ip).2.2 dnsExec
      rw [asked, executed]
      refine (requests_append _ _).trans ?_
      rw [silent, path]
      rfl

theorem calls_ask (inactive : session.config.isInit = false)
    (init gatewayInit dnsInit : InitOutcome)
    (gatewayExec dnsExec : ExecOutcome) :
    requests (netConfigMachine.outputs session
        [.setIpConfigGateway ip.address ip.mask ip.gateWay init exec
            gatewayInit gatewayExec,
          .setDns ip.dns ip.dns2 dnsInit dnsExec]) =
      addressRequests ip exec init ++
        if init.works then [dnsRequest init.get ip]
        else if dnsInit.works then [dnsRequest dnsInit.get ip]
        else [] := by
  have first := setIpConfigGateway_asks ip exec inactive init gatewayInit
    gatewayExec
  let address := session.setIpConfigGateway ip.address ip.mask ip.gateWay init
    exec gatewayInit gatewayExec
  let dns := address.2.1.setDns ip.dns ip.dns2 dnsInit dnsExec
  have second : requests dns.2.2 =
      if init.works then [dnsRequest init.get ip]
      else if dnsInit.works then [dnsRequest dnsInit.get ip]
      else [] := by
    cases works : init.works with
    | true =>
        refine (setDns_asks_ready ip (first.isInit.trans works) dnsInit
          dnsExec).trans ?_
        rw [first.path works, if_pos rfl]
    | false =>
        exact setDns_asks ip (first.isInit.trans works) dnsInit dnsExec
  have events : netConfigMachine.outputs session
      [.setIpConfigGateway ip.address ip.mask ip.gateWay init exec
          gatewayInit gatewayExec,
        .setDns ip.dns ip.dns2 dnsInit dnsExec] =
      address.2.2 ++ (dns.2.2 ++ []) := rfl
  rw [events, requests_append, requests_append, first.asked, second]
  exact congrArg _ (List.append_nil _)

end ConfigIp

/-- An object that has just got its key. -/
def named (adapterName : String) : NetSession :=
  ⟨.construct adapterName, 0⟩

/-- Only what stands between the key and the destructor asks. -/
theorem requests_lifetime (key adapterName : String)
    (calls : List NetConfigCall) :
    requests (NetConfig.lifetime key (.setKey adapterName :: calls)) =
      requests (netConfigMachine.outputs (named adapterName) calls) := by
  have events : NetConfig.lifetime key (.setKey adapterName :: calls) =
      (NetConfig.construct key).clear.2 ++
          netConfigMachine.outputs (named adapterName) calls ++
        (netConfigMachine.exec (named adapterName) calls).config.clear.2 := rfl
  rw [events, requests_append, requests_append,
    requests_silent NetConfig.clear_silent,
    requests_silent NetConfig.clear_silent, List.nil_append, List.append_nil]

end NetSession

end PoeDhcp
