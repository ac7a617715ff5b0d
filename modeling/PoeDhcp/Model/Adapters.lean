import PoeDhcp.Model.NetConfig

namespace PoeDhcp

open Foundation

/-! Reading the adapters from Windows. The buffers that `GetAdapters` makes have
numbers. -/

/-- The members of `IP_ADAPTER_INFO` that are read: `ipAddress` and `ipMask` are
those of the first entry of the address list. -/
structure IpAdapterInfo where
  adapterName : String
  description : String
  ipAddress : String
  ipMask : String
  gateway : String
deriving DecidableEq

/-- A call of `GetAdaptersInfo`. When it succeeds, the buffer holds an adapter and
those behind it in the chain. -/
inductive AdaptersResult
  | success (head : IpAdapterInfo) (next : List IpAdapterInfo)
  | bufferOverflow
  | failed
deriving DecidableEq

/-- The second call is made behind an overflow only. -/
structure AdaptersCall where
  first : AdaptersResult
  second : AdaptersResult
deriving DecidableEq

inductive BufferEvent
  | made (buffer : Nat)
  | deleted (buffer : Nat)
deriving DecidableEq

structure NetWorkAdapter where
  adapterInfos : List NetWorkAapterInfo
  buffers : Nat
deriving DecidableEq

namespace NetWorkAdapter

def infoOf (info : IpAdapterInfo) : NetWorkAapterInfo where
  adapterName := info.adapterName
  description := info.description
  ip :=
    { NetWorkIp.default with
      address := info.ipAddress
      mask := info.ipMask
      gateWay := info.gateway }

/-- The loop over the chain; the pointer is null where the list is empty. It
returns the adapters and the pointer that it leaves behind. -/
def readChain : List IpAdapterInfo → List NetWorkAapterInfo →
    List NetWorkAapterInfo × List IpAdapterInfo
  | [], adapterInfos => (adapterInfos, [])
  | info :: next, adapterInfos =>
      readChain next (adapterInfos ++ [infoOf info])

/-- What follows the last call of `GetAdaptersInfo`. To delete a null pointer does
nothing. -/
def finish (adapter : NetWorkAdapter) (buffer : Nat)
    (result : AdaptersResult) : NetWorkAdapter × List BufferEvent :=
  match result with
  | .success head next =>
      let (adapterInfos, pointer) := readChain (head :: next) []
      ({ adapter with adapterInfos },
        if pointer.isEmpty then [] else [.deleted buffer])
  | _ => (adapter, [.deleted buffer])

def getAdapters (adapter : NetWorkAdapter) (call : AdaptersCall) :
    NetWorkAdapter × List BufferEvent :=
  let buffer := adapter.buffers
  let adapter := { adapter with buffers := buffer + 1 }
  match call.first with
  | .bufferOverflow =>
      let (adapter, events) :=
        finish { adapter with buffers := buffer + 2 } (buffer + 1) call.second
      (adapter, .made buffer :: .deleted buffer :: .made (buffer + 1) ::
        events)
  | result =>
      let (adapter, events) := adapter.finish buffer result
      (adapter, .made buffer :: events)

/-- The object before its constructor calls `getAdapters`. -/
def empty : NetWorkAdapter where
  adapterInfos := []
  buffers := 0

end NetWorkAdapter

/-- The constructor and the destructor call `GetAdapters` once each. -/
def adapterMachine : Machine NetWorkAdapter AdaptersCall BufferEvent where
  step adapter call := adapter.getAdapters call

/-! Configuring the adapters of the interface. -/

/-- What the COM calls and the methods in `ConfigIp` report. -/
structure ConfigOutcome where
  init : InitOutcome
  exec : ExecOutcome
  gatewayInit : InitOutcome
  gatewayExec : ExecOutcome
  dnsInit : InitOutcome
  dnsExec : ExecOutcome

/-- Where `Get` succeeds it reads the path. -/
def InitOutcome.reading (path : String) (outcome : InitOutcome) :
    InitOutcome :=
  { outcome with get := outcome.get.map fun _ => path }

/-- A `NetConfig` object of its own, on a WMI that selects the object with the
path. -/
def NetWorkAdapter.configIp (wmi : String → String) (adapterName : String)
    (ip : NetWorkIp) (outcome : ConfigOutcome) : List ComEvent :=
  let read := InitOutcome.reading (wmi (NetConfig.construct adapterName).query)
  NetConfig.lifetime ""
    (configIpCalls adapterName ip (read outcome.init) outcome.exec
      (read outcome.gatewayInit) outcome.gatewayExec
      (read outcome.dnsInit) outcome.dnsExec)

/-- What is seen of an effect of the interface. -/
def Effect.comEvents (wmi : String → String) (outcome : ConfigOutcome) :
    Effect → List ComEvent
  | .configIp adapterName ip =>
      NetWorkAdapter.configIp wmi adapterName ip outcome
  | .destroyed _ => []

/-- A call, and what COM reports in each of its effects. -/
structure InterfaceCall where
  call : ApiCall
  com : Nat → ConfigOutcome

/-- The interface as `apiMachine` has it, observed through COM. `wmi` gives each
query the path of the object that it selects. -/
def interfaceMachine (wmi : String → String) :
    Machine PoeDhcpSeverImpl InterfaceCall ComEvent where
  step impl turn :=
    (apiMachine.next impl turn.call,
      ((apiMachine.emit impl turn.call).mapIdx fun place effect =>
        effect.comEvents wmi (turn.com place)).flatten)

end PoeDhcp
