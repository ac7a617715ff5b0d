import PoeDhcp.Model.Options

namespace PoeDhcp

open Foundation

/-! The server object and its lease table. -/

structure DhcpNetWorkAddr where
  address : String
  mask : String
  minAddr : String
  maxAddr : String
  dns : String
  dns2 : String
deriving DecidableEq

structure DwordAddress where
  address : DWORD
  mask : DWORD
  minAddress : DWORD
  maxAddress : DWORD
  dns : DWORD
  dns2 : DWORD
deriving DecidableEq

/-- `pbClientIdentifier` is `none` for the null pointer, else the allocated
block. -/
structure AddressInUseInformation where
  dwAddrValue : DWORD
  pbClientIdentifier : Option (List BYTE)
  dwClientIdentifierSize : Nat
deriving DecidableEq

/-- A socket that the operating system has open for the program. -/
abbrev Socket := Nat

/-- A thread runs the receive loop until `run` returns or an exception leaves
it. -/
inductive Thread
  | looping
  | ended
deriving DecidableEq

structure DhcpServer where
  dhcpSocket : Option Socket
  thread : Option Thread
  netAddress : DhcpNetWorkAddr
  serverAddress : DwordAddress
  serverHostName : List BYTE
  addressesInUse : List AddressInUseInformation
  starting : Bool
  lastOfferAddress : DWORD
deriving DecidableEq

def setServerAddress (netAddress : DhcpNetWorkAddr) : DwordAddress where
  address := dwIpToValue (ntohl (inetAddr netAddress.address))
  mask := dwIpToValue (ntohl (inetAddr netAddress.mask))
  minAddress := dwIpToValue (ntohl (inetAddr netAddress.minAddr))
  maxAddress := dwIpToValue (ntohl (inetAddr netAddress.maxAddr))
  dns := dwIpToValue (ntohl (inetAddr netAddress.dns))
  dns2 := dwIpToValue (ntohl (inetAddr netAddress.dns2))

namespace DhcpServer

/-- The constructor. It leaves the host name buffer uninitialised; nothing reads
the buffer before `initServer` has written it. -/
def construct (netAddress : DhcpNetWorkAddr) : DhcpServer where
  dhcpSocket := none
  thread := none
  netAddress := netAddress
  serverAddress := setServerAddress netAddress
  serverHostName := []
  addressesInUse := []
  starting := false
  lastOfferAddress := dwIpToValue (setServerAddress netAddress).maxAddress

def isRunning (server : DhcpServer) : Bool := server.starting

/-- The host-order bounds of the pool and the host-order server address. -/
def minAddrValue (server : DhcpServer) : DWORD :=
  dwIpToValue server.serverAddress.minAddress

def maxAddrValue (server : DhcpServer) : DWORD :=
  dwIpToValue server.serverAddress.maxAddress

def serverAddrValue (server : DhcpServer) : DWORD :=
  dwIpToValue server.serverAddress.address

def findAddrIndex (server : DhcpServer) (addrValue : DWORD) : Int :=
  match server.addressesInUse.findIdx? (·.dwAddrValue == addrValue) with
  | some index => index
  | none => -1

/-- The condition under which `checkIsClientExist` takes an entry. -/
def sameClient (clientIdentifier : List BYTE)
    (entry : AddressInUseInformation) : Bool :=
  entry.dwClientIdentifierSize != 0 &&
    clientIdentifier.length == entry.dwClientIdentifierSize &&
    clientIdentifier ==
      (entry.pbClientIdentifier.getD []).take clientIdentifier.length

/-- Whether the client is known, and its address in network order. -/
def checkIsClientExist (server : DhcpServer) (clientIdentifier : List BYTE) :
    Bool × DWORD :=
  match server.addressesInUse.find? (sameClient clientIdentifier) with
  | some entry => (true, dwValueToIp entry.dwAddrValue)
  | none => (false, inaddrBroadcast)

/-- The start of a pass of the search loop: past the end of the pool it goes on
at the beginning. -/
def wrapOffer (minAddrValue maxAddrValue offerAddrValue : DWORD) : DWORD :=
  if offerAddrValue > maxAddrValue then minAddrValue else offerAddrValue

/-- The search loop of `assignAddress`: `none` when the loop ends without a
valid address. The counter is compared as an unsigned word. -/
def assignLoop (server : DhcpServer) (minAddrValue maxAddrValue : DWORD) :
    Nat → DWORD → DWORD → Option DWORD
  | 0, _, _ => none
  | fuel + 1, checkAddrCount, offerAddrValue =>
      let offerAddrValue := wrapOffer minAddrValue maxAddrValue offerAddrValue
      let checkAddrCount := checkAddrCount + 1
      if server.findAddrIndex offerAddrValue = -1 ∧
          minAddrValue ≤ offerAddrValue ∧ offerAddrValue ≤ maxAddrValue then
        some offerAddrValue
      else if checkAddrCount < maxAddrValue - minAddrValue then
        assignLoop server minAddrValue maxAddrValue fuel checkAddrCount
          (offerAddrValue + 1)
      else
        none

/-- The bound of the `do`/`while` loop: it runs at least once. -/
def assignFuel (server : DhcpServer) : Nat :=
  (server.maxAddrValue - server.minAddrValue).toNat + 1

def assignAddress (server : DhcpServer) : DWORD × DhcpServer :=
  match assignLoop server server.minAddrValue server.maxAddrValue
      server.assignFuel 0 (server.lastOfferAddress + 1) with
  | some offerAddrValue =>
      (offerAddrValue, { server with lastOfferAddress := offerAddrValue })
  | none => (0, server)

end DhcpServer

end PoeDhcp
