import Mathlib.Algebra.Group.Nat.Defs
import PoeDhcp.Model.Run

namespace PoeDhcp

open Foundation

/-! The public interface: it configures the PoE adapters and owns the servers. -/

structure NetWorkIp where
  address : String
  mask : String
  gateWay : String
  dns : String
  dns2 : String
deriving DecidableEq

/-- The default constructor. -/
def NetWorkIp.default : NetWorkIp where
  address := "0.0.0.0"
  mask := "255.255.255.0"
  gateWay := "0.0.0.0"
  dns := "0.0.0.0"
  dns2 := "0.0.0.0"

structure NetWorkAapterInfo where
  adapterName : String
  description : String
  ip : NetWorkIp
deriving DecidableEq

def NetWorkAapterInfo.default : NetWorkAapterInfo where
  adapterName := ""
  description := ""
  ip := .default

/-- The adapters that `GetAdapters` finds. They stand in one buffer, whose size in
bytes is an unsigned 32-bit number. -/
structure AdapterTable where
  infos : List NetWorkAapterInfo
  fits : infos.length < 0x100000000

structure AdapterAddr where
  ip : String
  mask : String
  gayteWay : String
  dns : String
  dns2 : String
deriving DecidableEq

/-- What a call does outside of the object: it configures an adapter or destroys
a server. -/
inductive Effect
  | configIp (adapterName : String) (ip : NetWorkIp)
  | destroyed (server : DhcpServer)
deriving DecidableEq

/-- `adapterInfos` is what `get_adapter_infos` returns: the adapters at the time
the object was made. -/
structure PoeDhcpSeverImpl where
  adapterInfos : List NetWorkAapterInfo
  dhcpServerList : List DhcpServer
  poeAdapterModel : String

/-- What a call of `Start` meets. -/
structure StartOutcome where
  last : Option Reception
  env : InitEnv

/-- Whether the pattern starts at some position of the text. -/
def occursIn (pattern : List Char) : List Char → Bool
  | [] => pattern.isEmpty
  | first :: rest =>
      pattern.isPrefixOf (first :: rest) || occursIn pattern rest

/-- `text.find(pattern) != npos`. -/
def contains (text pattern : String) : Bool :=
  occursIn pattern.toList text.toList

def kStartPoeIpHead : String := "192.168."

def kStartPoeIpSegment : Nat := 50

namespace PoeDhcpSeverImpl

def create (adapterInfos : List NetWorkAapterInfo) : PoeDhcpSeverImpl where
  adapterInfos := adapterInfos
  dhcpServerList := []
  poeAdapterModel := "Intel(R) I211"

def isMainAdatpter (info : NetWorkAapterInfo) : Bool :=
  contains info.description "Intel(R) Ethernet"

def isPoeAdapter (impl : PoeDhcpSeverImpl) (info : NetWorkAapterInfo) : Bool :=
  contains info.description impl.poeAdapterModel

def getMainAdapterInfo (impl : PoeDhcpSeverImpl) : NetWorkAapterInfo :=
  (impl.adapterInfos.find? isMainAdatpter).getD .default

def targetGateway (poeIpSegment : Nat) : String :=
  kStartPoeIpHead ++ toString poeIpSegment ++ ".1"

/-- One pass over the conflicting addresses. The segment is an unsigned 32-bit
number. -/
def avoidConflicts : List NetWorkIp → Nat → Nat
  | [], poeIpSegment => poeIpSegment
  | it :: rest, poeIpSegment =>
      if it.gateWay = targetGateway poeIpSegment then
        avoidConflicts rest ((poeIpSegment + 1) % 2 ^ 32)
      else
        avoidConflicts rest poeIpSegment

def createPoeAdapterAddress (confictIp : List NetWorkIp) : NetWorkIp :=
  let target := targetGateway (avoidConflicts confictIp kStartPoeIpSegment)
  { NetWorkIp.default with
    address := target
    gateWay := target }

def maxAddr : Nat := 254

def step : Nat := 10

/-- The loop of `getDhcpAddressList`. The counter is an unsigned 32-bit
number. -/
def dhcpAddressLoop : Nat → List NetWorkIp → List DhcpNetWorkAddr
  | _, [] => []
  | minAddr, it :: rest =>
      let segment := String.ofList it.gateWay.toList.dropLast
      let nextAddr := (minAddr + step) % 2 ^ 32
      { address := it.address
        mask := it.mask
        minAddr := segment ++ toString minAddr
        maxAddr :=
          if nextAddr > maxAddr then segment ++ toString maxAddr
          else segment ++ toString nextAddr
        dns := it.dns
        dns2 := it.dns2 } ::
          dhcpAddressLoop ((nextAddr + 1) % 2 ^ 32) rest

def getDhcpAddressList (ips : List NetWorkIp) : List DhcpNetWorkAddr :=
  dhcpAddressLoop 2 ips

/-- The loop over the adapters: the addresses so far and what was configured. -/
def configAdapters (impl : PoeDhcpSeverImpl) :
    List NetWorkAapterInfo → List NetWorkIp → List NetWorkIp × List Effect
  | [], configIpList => (configIpList, [])
  | it :: rest, configIpList =>
      if impl.isPoeAdapter it then
        let ip := createPoeAdapterAddress configIpList
        let (configIpList, effects) :=
          configAdapters impl rest (configIpList ++ [ip])
        (configIpList, .configIp it.adapterName ip :: effects)
      else
        configAdapters impl rest configIpList

def configPoeAdapter (impl : PoeDhcpSeverImpl) :
    PoeDhcpSeverImpl × List Effect :=
  let mainInfo := impl.getMainAdapterInfo
  let (configIpList, effects) :=
    impl.configAdapters impl.adapterInfos [mainInfo.ip]
  let configIpList := configIpList.eraseP (·.address == mainInfo.ip.address)
  let cleared := impl.dhcpServerList.map Effect.destroyed
  ({ impl with
     dhcpServerList :=
       (getDhcpAddressList configIpList).map DhcpServer.construct },
    effects ++ cleared)

def getPoeAdapterCount (impl : PoeDhcpSeverImpl) : Nat :=
  impl.adapterInfos.countP impl.isPoeAdapter

/-- The search of `setPoeAdapterAddress` for the PoE adapter with an index. -/
def findPoeAdapter (impl : PoeDhcpSeverImpl) (index : Int) :
    Int → List NetWorkAapterInfo → NetWorkAapterInfo
  | _, [] => .default
  | poeIndex, it :: rest =>
      if impl.isPoeAdapter it then
        if poeIndex = index then it
        else findPoeAdapter impl index (poeIndex + 1) rest
      else
        findPoeAdapter impl index poeIndex rest

def setPoeAdapterAddress (impl : PoeDhcpSeverImpl) (index : Int)
    (address : AdapterAddr) : Bool × List Effect :=
  let info := impl.findPoeAdapter index 0 impl.adapterInfos
  if info.ip.address = address.ip then
    (true, [])
  else if info.ip.address ≠ "" then
    (true,
      [.configIp info.adapterName
        { address := address.ip
          mask := address.mask
          gateWay := address.gayteWay
          dns := address.dns
          dns2 := address.dns2 }])
  else
    (false, [])

/-- The loop of `startDhcpServers` from an index on. -/
def startLoop (outcome : Nat → StartOutcome) :
    Nat → Bool → List DhcpServer → Bool × List DhcpServer
  | _, ret, [] => (ret, [])
  | index, _, it :: rest =>
      let (_, it, _) := it.start (outcome index).last (outcome index).env
      let (ret, rest) := startLoop outcome (index + 1) it.isRunning rest
      (ret, it :: rest)

def startDhcpServers (impl : PoeDhcpSeverImpl)
    (outcome : Nat → StartOutcome) : Bool × PoeDhcpSeverImpl :=
  let (ret, dhcpServerList) := startLoop outcome 0 false impl.dhcpServerList
  (ret, { impl with dhcpServerList })

def stopDhcpServers (impl : PoeDhcpSeverImpl)
    (last : Nat → Option Reception) : Bool × PoeDhcpSeverImpl :=
  (true,
    { impl with
      dhcpServerList := impl.dhcpServerList.mapIdx fun index it =>
        (it.stop (last index)).1 })

def setPoeAdapterModel (impl : PoeDhcpSeverImpl) (model : String) :
    PoeDhcpSeverImpl :=
  { impl with poeAdapterModel := model }

/-- The destructor. -/
def destroy (impl : PoeDhcpSeverImpl) (last : Nat → Option Reception) :
    List Effect :=
  (impl.stopDhcpServers last).2.dhcpServerList.map .destroyed

end PoeDhcpSeverImpl

/-- The calls of the owner. In between the loop of a server, which is given by its
index, may finish a reception. -/
inductive ApiCall
  | configPoeAdapter
  | setPoeAdapterAddress (index : Int) (address : AdapterAddr)
  | startDhcpServers (outcome : Nat → StartOutcome)
  | stopDhcpServers (last : Nat → Option Reception)
  | setPoeAdapterModel (model : String)
  | receive (index : Nat) (reception : Reception)

def apiMachine : Machine PoeDhcpSeverImpl ApiCall Effect where
  step impl call :=
    match call with
    | .configPoeAdapter => impl.configPoeAdapter
    | .setPoeAdapterAddress index address =>
        (impl, (impl.setPoeAdapterAddress index address).2)
    | .startDhcpServers outcome => ((impl.startDhcpServers outcome).2, [])
    | .stopDhcpServers last => ((impl.stopDhcpServers last).2, [])
    | .setPoeAdapterModel model => (impl.setPoeAdapterModel model, [])
    | .receive index reception =>
        ({ impl with
           dhcpServerList := impl.dhcpServerList.mapIdx fun place it =>
             if place = index then serverMachine.next it (.receive reception)
             else it },
          [])

end PoeDhcp
