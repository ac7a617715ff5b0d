import PoeDhcp.Model.Api

namespace PoeDhcp

open Foundation

/-! Configuring an adapter through WMI. The interfaces that COM hands out have
numbers. -/

/-- The members of `NetConfig` that hold an interface. -/
inductive Pointer
  | pInstance
  | pService
  | pEnum
  | pObj
  | pConfig
deriving DecidableEq

/-- The variant `path_` is empty until `init` has read it. -/
structure NetConfig where
  key : String
  isInit : Bool
  pInstance : Option Nat
  pService : Option Nat
  pEnum : Option Nat
  pObj : Option Nat
  pConfig : Option Nat
  path : Option String
  lastErrorCode : Int
deriving DecidableEq

inductive ParamValue
  | strings (values : List String)
  | uint (value : Nat)
  | null
deriving DecidableEq

/-- What is seen of the calls: the ones that succeed in taking or giving back a
resource, and what WMI is asked. -/
inductive ComEvent
  | coInitialized
  | coUninitialized
  | stored (pointer : Pointer) (interface : Nat)
  | released (interface : Nat)
  | queried (query : String)
  | executed (path : Option String) (method : String)
      (params : Option (List (String × ParamValue)))
deriving DecidableEq

/-- A call that hands out an interface. When it fails it sets the pointer to null
or leaves it as it was. -/
inductive OutPointer
  | made
  | failed (cleared : Bool)
deriving DecidableEq

/-- `Next` fails, or succeeds without an object, or finds the adapter. -/
inductive NextOutcome
  | failed (cleared : Bool)
  | noObject (cleared : Bool)
  | found
deriving DecidableEq

def NextOutcome.pObj : NextOutcome → OutPointer
  | .failed cleared => .failed cleared
  | .noObject cleared => .failed cleared
  | .found => .made

/-- What the COM calls of `init` report, in their order. -/
structure InitOutcome where
  coInitializeEx : Bool
  coCreateInstance : OutPointer
  connectServer : OutPointer
  coSetProxyBlanket : Bool
  execQuery : OutPointer
  next : NextOutcome
  get : Option String
  getObject : OutPointer
deriving DecidableEq

/-- `ExecMethod` fails, or its result has no `ReturnValue`, or has one. -/
inductive ExecOutcome
  | failed
  | noReturnValue
  | returned (value : DWORD)
deriving DecidableEq

namespace NetConfig

def construct (key : String) : NetConfig where
  key := key
  isInit := false
  pInstance := none
  pService := none
  pEnum := none
  pObj := none
  pConfig := none
  path := none
  lastErrorCode := 0

def pointer (config : NetConfig) : Pointer → Option Nat
  | .pInstance => config.pInstance
  | .pService => config.pService
  | .pEnum => config.pEnum
  | .pObj => config.pObj
  | .pConfig => config.pConfig

def store (config : NetConfig) (pointer : Pointer)
    (interface : Option Nat) : NetConfig :=
  match pointer with
  | .pInstance => { config with pInstance := interface }
  | .pService => { config with pService := interface }
  | .pEnum => { config with pEnum := interface }
  | .pObj => { config with pObj := interface }
  | .pConfig => { config with pConfig := interface }

/-- `if (p) { p->Release(); p = nullptr; }` for each of the pointers. -/
def releaseAll (config : NetConfig) :
    List Pointer → NetConfig × List ComEvent
  | [] => (config, [])
  | pointer :: rest =>
      match config.pointer pointer with
      | some interface =>
          let (config, events) :=
            (config.store pointer none).releaseAll rest
          (config, .released interface :: events)
      | none => config.releaseAll rest

def clear (config : NetConfig) : NetConfig × List ComEvent :=
  let (config, events) :=
    config.releaseAll [.pConfig, .pObj, .pEnum, .pService, .pInstance]
  ({ config with isInit := false },
    events ++ if config.isInit then [.coUninitialized] else [])

def query (config : NetConfig) : String :=
  "SELECT * FROM Win32_NetworkAdapterConfiguration WHERE SettingID = \"" ++
    config.key ++ "\""

end NetConfig

/-- An object and the number of interfaces that COM has handed out, each of them a
new one. -/
structure NetSession where
  config : NetConfig
  made : Nat
deriving DecidableEq

namespace NetSession

/-- What a member function returns, what it leaves, and what is seen of it. -/
abbrev Result := Bool × NetSession × List ComEvent

def Result.behind (events : List ComEvent) (result : Result) : Result :=
  (result.1, result.2.1, events ++ result.2.2)

/-- A call with an out parameter. `init` goes on when it has succeeded. -/
def create (session : NetSession) (pointer : Pointer) (outcome : OutPointer)
    (next : NetSession → Result) : Result :=
  match outcome with
  | .made =>
      (next
        { config := session.config.store pointer (some session.made)
          made := session.made + 1 }).behind [.stored pointer session.made]
  | .failed true =>
      (false,
        { session with config := session.config.store pointer none }, [])
  | .failed false => (false, session, [])

def init (session : NetSession) (outcome : InitOutcome) : Result :=
  if session.config.isInit then (true, session, [])
  else if outcome.coInitializeEx then
    Result.behind [.coInitialized] <|
    session.create .pInstance outcome.coCreateInstance fun session =>
    session.create .pService outcome.connectServer fun session =>
    if outcome.coSetProxyBlanket then
      Result.behind [.queried session.config.query] <|
      session.create .pEnum outcome.execQuery fun session =>
      session.create .pObj outcome.next.pObj fun session =>
      match outcome.get with
      | some path =>
          create { session with config.path := some path } .pConfig
            outcome.getObject fun session =>
          (true, { session with config.isInit := true }, [])
      | none => (false, { session with config.path := none }, [])
    else (false, session, [])
  else (false, session, [])

/-- `if (!init()) return false;` and the rest of the function. -/
def withInit (session : NetSession) (outcome : InitOutcome)
    (next : NetSession → Result) : Result :=
  match session.init outcome with
  | (true, session, events) => (next session).behind events
  | (false, session, events) => (false, session, events)

def execMethod (session : NetSession) (method : String)
    (params : Option (List (String × ParamValue))) (outcome : ExecOutcome) :
    Result :=
  let executed : List ComEvent :=
    [.executed session.config.path method params]
  match outcome with
  | .failed => (false, session, executed)
  | .noReturnValue => (false, session, executed)
  | .returned value =>
      if value = 0 ∨ value = 1 then (true, session, executed)
      else
        (false, { session with config.lastErrorCode := value.toInt },
          executed)

def setKey (session : NetSession) (key : String) :
    NetSession × List ComEvent :=
  let (config, events) := session.config.clear
  ({ session with config := { config with key } }, events)

def enableDhcp (session : NetSession) (init : InitOutcome)
    (exec : ExecOutcome) : Result :=
  session.withInit init fun session =>
    session.execMethod "EnableDHCP" none exec

def setIpConfig (session : NetSession) (ip mask : String)
    (init : InitOutcome) (exec : ExecOutcome) : Result :=
  session.withInit init fun session =>
    session.execMethod "EnableStatic"
      (some [("IPAddress", .strings [ip]), ("SubnetMask", .strings [mask])])
      exec

def setGateway (session : NetSession) (gateway : String)
    (init : InitOutcome) (exec : ExecOutcome) : Result :=
  session.withInit init fun session =>
    session.execMethod "SetGateways"
      (some [("DefaultIPGateway", .strings [gateway]),
        ("GatewayCostMetric", .uint 1)])
      exec

/-- The overload with a gateway. -/
def setIpConfigGateway (session : NetSession) (ip mask gateway : String)
    (init : InitOutcome) (exec : ExecOutcome)
    (gatewayInit : InitOutcome) (gatewayExec : ExecOutcome) : Result :=
  match session.setIpConfig ip mask init exec with
  | (true, session, events) =>
      (session.setGateway gateway gatewayInit gatewayExec).behind events
  | (false, session, events) => (false, session, events)

def setDnsBase (session : NetSession) (isAuto : Bool)
    (defaultDns backupDns : String) (init : InitOutcome)
    (exec : ExecOutcome) : Result :=
  session.withInit init fun session =>
    session.execMethod "SetDNSServerSearchOrder"
      (some [("DNSServerSearchOrder",
        if isAuto then .null
        else if backupDns ≠ "" then .strings [defaultDns, backupDns]
        else .strings [defaultDns])])
      exec

def setDns (session : NetSession) (defaultDns backupDns : String)
    (init : InitOutcome) (exec : ExecOutcome) : Result :=
  session.setDnsBase false defaultDns backupDns init exec

def setAutoDns (session : NetSession) (init : InitOutcome)
    (exec : ExecOutcome) : Result :=
  session.setDnsBase true "" "" init exec

end NetSession

/-- The public calls, with what the COM calls inside of them report. -/
inductive NetConfigCall
  | setKey (key : String)
  | enableDhcp (init : InitOutcome) (exec : ExecOutcome)
  | setIpConfig (ip mask : String) (init : InitOutcome) (exec : ExecOutcome)
  | setIpConfigGateway (ip mask gateway : String)
      (init : InitOutcome) (exec : ExecOutcome)
      (gatewayInit : InitOutcome) (gatewayExec : ExecOutcome)
  | setGateway (gateway : String) (init : InitOutcome) (exec : ExecOutcome)
  | setDns (defaultDns backupDns : String)
      (init : InitOutcome) (exec : ExecOutcome)
  | setAutoDns (init : InitOutcome) (exec : ExecOutcome)
  | clear
deriving DecidableEq

def netConfigMachine : Machine NetSession NetConfigCall ComEvent where
  step session call :=
    match call with
    | .setKey key => session.setKey key
    | .enableDhcp init exec => (session.enableDhcp init exec).2
    | .setIpConfig ip mask init exec => (session.setIpConfig ip mask init exec).2
    | .setIpConfigGateway ip mask gateway init exec gatewayInit gatewayExec =>
        (session.setIpConfigGateway ip mask gateway init exec gatewayInit
          gatewayExec).2
    | .setGateway gateway init exec =>
        (session.setGateway gateway init exec).2
    | .setDns defaultDns backupDns init exec =>
        (session.setDns defaultDns backupDns init exec).2
    | .setAutoDns init exec => (session.setAutoDns init exec).2
    | .clear =>
        ({ session with config := session.config.clear.1 },
          session.config.clear.2)

/-- Everything that is seen of an object, to the end of its destructor, which
calls `clear`. -/
def NetConfig.lifetime (key : String) (calls : List NetConfigCall) :
    List ComEvent :=
  let session : NetSession := ⟨construct key, 0⟩
  netConfigMachine.outputs session calls ++
    (netConfigMachine.exec session calls).config.clear.2

/-- The calls of `NetWorkAdapter::ConfigIp`. -/
def configIpCalls (adapterName : String) (ip : NetWorkIp)
    (init : InitOutcome) (exec : ExecOutcome)
    (gatewayInit : InitOutcome) (gatewayExec : ExecOutcome)
    (dnsInit : InitOutcome) (dnsExec : ExecOutcome) : List NetConfigCall :=
  [.setKey adapterName,
    .setIpConfigGateway ip.address ip.mask ip.gateWay init exec gatewayInit
      gatewayExec,
    .setDns ip.dns ip.dns2 dnsInit dnsExec]

end PoeDhcp
