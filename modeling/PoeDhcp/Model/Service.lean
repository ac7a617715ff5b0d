import PoeDhcp.Model.System

namespace PoeDhcp

open Foundation

/-! The Windows service around the interface. `ServiceMain` and `CtrlHandler` run
on two threads that share `brun` and `servicestatus`. -/

/-- The values that `dwCurrentState` is set to. -/
inductive ServiceState
  | startPending
  | running
  | stopped
deriving DecidableEq

/-- The requests that `CtrlHandler` tells apart. -/
inductive ControlRequest
  | stop
  | shutdown
  | other
deriving DecidableEq

/-- The statement of `ServiceMain` that is executed next, with those of
`StartDhcpServer` and `StopDhcpSrever`. It is `outside` before the call and when
it has returned. -/
inductive MainPc
  | outside
  | register
  | setRunning
  | reportRunning
  | setRun
  | create
  | stopFirst
  | configure
  | start
  | loop
  | stopServers
deriving DecidableEq

/-- The statement of `CtrlHandler` that is executed next. -/
inductive HandlerPc
  | outside
  | clearRun
  | setStopped
  | report
deriving DecidableEq

/-- `currentState` is `none` before `ServiceMain` has set it. -/
structure Service where
  brun : Bool
  currentState : Option ServiceState
  hstatus : Bool
  poeDhcpServer : Option PoeDhcpSeverImpl
  main : MainPc
  handler : HandlerPc

/-- What the service shows: an effect of the interface, or a state that it reports
with `SetServiceStatus`. -/
inductive ServiceOutput
  | effect (effect : Effect)
  | reported (state : Option ServiceState)

/-- What a statement of `ServiceMain` meets: the result of
`RegisterServiceCtrlHandler`, the adapters that a new interface finds, and what
happens to the servers that are stopped or started. -/
structure MainEnv where
  registered : Bool
  adapters : AdapterTable
  last : Nat → Option Reception
  outcome : Nat → StartOutcome

namespace Service

/-- The globals of a new process. -/
def initial : Service where
  brun := false
  currentState := none
  hstatus := false
  poeDhcpServer := none
  main := .outside
  handler := .outside

/-- A call on `poe_dhcp_server`. -/
def call (service : Service) (call : ApiCall) :
    Service × List ServiceOutput :=
  match service.poeDhcpServer with
  | none => (service, [])
  | some impl =>
      ({ service with poeDhcpServer := some (apiMachine.next impl call) },
        (apiMachine.emit impl call).map .effect)

/-- What `StartDhcpServers` returns. -/
def startResult (service : Service) (outcome : Nat → StartOutcome) : Bool :=
  match service.poeDhcpServer with
  | none => false
  | some impl => (impl.startDhcpServers outcome).1

def mainStep (service : Service) (env : MainEnv) :
    Service × List ServiceOutput :=
  match service.main with
  | .outside => (service, [])
  | .register =>
      ({ service with
         currentState := some .startPending
         hstatus := env.registered
         main := if env.registered then .setRunning else .outside },
        [])
  | .setRunning =>
      ({ service with
         currentState := some .running
         main := .reportRunning },
        [])
  | .reportRunning =>
      ({ service with main := .setRun }, [.reported service.currentState])
  | .setRun => ({ service with brun := true, main := .create }, [])
  | .create =>
      ({ service with
         poeDhcpServer :=
           some (service.poeDhcpServer.getD (.create env.adapters.infos))
         main := .stopFirst },
        [])
  | .stopFirst =>
      { service with main := .configure }.call (.stopDhcpServers env.last)
  | .configure => { service with main := .start }.call .configPoeAdapter
  | .start =>
      -- The loop of `StartDhcpServer`, which does not look at `brun`.
      { service with
        main := if service.startResult env.outcome then .loop
          else .start }.call (.startDhcpServers env.outcome)
  | .loop =>
      ({ service with main := if service.brun then .loop else .stopServers },
        [])
  | .stopServers =>
      { service with main := .outside }.call (.stopDhcpServers env.last)

def handlerStep (service : Service) : Service × List ServiceOutput :=
  match service.handler with
  | .outside => (service, [])
  | .clearRun => ({ service with brun := false, handler := .setStopped }, [])
  | .setStopped =>
      ({ service with
         currentState := some .stopped
         handler := .report },
        [])
  | .report =>
      ({ service with handler := .outside }, [.reported service.currentState])

/-- Where `CtrlHandler` begins. -/
def handlerEntry : ControlRequest → HandlerPc
  | .stop => .clearRun
  | .shutdown => .clearRun
  | .other => .report

end Service

/-- Who executes its next statement. The dispatcher calls `ServiceMain` when it
has returned, and `CtrlHandler` once it is registered. The loop of a server may
finish a reception at any time. -/
inductive ServiceTurn
  | serviceMain
  | main (env : MainEnv)
  | control (request : ControlRequest)
  | handler
  | receive (index : Nat) (reception : Reception)

def serviceMachine : Machine Service ServiceTurn ServiceOutput where
  step service turn :=
    match turn with
    | .serviceMain =>
        (if service.main = .outside then { service with main := .register }
          else service,
          [])
    | .main env => service.mainStep env
    | .control request =>
        (if service.hstatus ∧ service.handler = .outside then
            { service with handler := Service.handlerEntry request }
          else service,
          [])
    | .handler => service.handlerStep
    | .receive index reception => service.call (.receive index reception)

namespace Service

/-- The call that a turn makes on `poe_dhcp_server`. -/
def callOf (service : Service) : ServiceTurn → Option ApiCall
  | .main env =>
      match service.main with
      | .stopFirst => some (.stopDhcpServers env.last)
      | .configure => some .configPoeAdapter
      | .start => some (.startDhcpServers env.outcome)
      | .stopServers => some (.stopDhcpServers env.last)
      | _ => none
  | .receive index reception => some (.receive index reception)
  | _ => none

/-- What the servers process in a turn. -/
def handled (service : Service) (turn : ServiceTurn) : List (Nat × Handled) :=
  match service.poeDhcpServer, service.callOf turn with
  | some impl, some call => impl.handled call
  | _, _ => []

end Service

/-- The service as `serviceMachine` has it, observed through its servers. -/
def servedMachine : Machine Service ServiceTurn (Nat × Handled) where
  step service turn := (serviceMachine.next service turn, service.handled turn)

end PoeDhcp
