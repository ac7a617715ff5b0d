import PoeDhcp.Foundation.Machine
import PoeDhcp.Model.Reply

namespace PoeDhcp

open Foundation

/-! The receive loop, and `Start` and `Stop` around it. -/

/-- What `receiveBytes` leaves behind: the count that it returns and the memory
from `read_buffer` on. Behind the received bytes the memory is arbitrary, so the
bytes of earlier datagrams are covered. -/
structure Datagram where
  readBuffer : Memory
  bytesReceived : Nat
  bytesReceived_le : bytesReceived ≤ maxUdpMessageSize - 1

/-- The exits of one pass of the loop. -/
inductive Decision
  | parseError
  | optionsError
  | messageTypeError
  | ignored (messageType : DHCPMessageTypes)
  | ownHost
  | identifierError
  | dispatched (messageType : DHCPMessageTypes)
deriving DecidableEq

def DHCPMessageTypes.isIgnored : DHCPMessageTypes → Bool
  | .offer | .decline | .ack | .nak | .release | .inform => true
  | .none | .discover | .request => false

/-- A message that has reached the dispatch. -/
structure Query where
  request : DHCPMessage
  options : Memory
  optionsSize : Nat
  messageType : DHCPMessageTypes
  identifier : List BYTE

structure Iteration where
  server : DhcpServer
  decision : Decision
  sent : Option DhcpServer.Transmission
deriving DecidableEq

namespace DhcpServer

def clientHostName (options : Memory) (optionsSize : Nat) : List BYTE :=
  getRequestClientName options optionsSize
    (List.replicate maxHostNameLength 0) (maxHostNameLength - 1)

/-- The own-host filter. -/
def isOwnHost (server : DhcpServer) (clientHostName : List BYTE) : Bool :=
  server.serverHostName.headD 0 != 0 &&
    stricmpEqual clientHostName server.serverHostName

/-- The loop body up to the dispatch. -/
def inspect (server : DhcpServer) (datagram : Datagram) :
    Except Decision Query :=
  match parseReceiveData datagram.readBuffer datagram.bytesReceived with
  | none => .error .parseError
  | some request =>
    match getOptions datagram.readBuffer datagram.bytesReceived with
    | none => .error .optionsError
    | some (options, optionsSize) =>
      match getDHCPMessageType options optionsSize with
      | none => .error .messageTypeError
      | some messageType =>
        if messageType.isIgnored then
          .error (.ignored messageType)
        else if server.isOwnHost (clientHostName options optionsSize) then
          .error .ownHost
        else
          match getIdentifier options optionsSize with
          | none => .error .identifierError
          | some identifier =>
            .ok
              { request
                options
                optionsSize
                messageType
                identifier :=
                  datagram.readBuffer.read identifier.offset identifier.size }

/-- The loop body from the dispatch on. -/
def respond (server : DhcpServer) (query : Query) (localAlloc : Bool) :
    Iteration :=
  let (hasClientBefore, previousOfferAddr) :=
    server.checkIsClientExist query.identifier
  let dhcpReply :=
    server.packetOptions (server.createDhcpReplyPacket query.request Reply.zero)
  let (sendFlag, server, dhcpReply) :=
    match query.messageType with
    | .discover =>
        if hasClientBefore then
          let (sendFlag, dhcpReply) :=
            packetOldClientOffer dhcpReply previousOfferAddr
          (sendFlag, server, dhcpReply)
        else
          server.packetNewClientOffer dhcpReply query.identifier localAlloc
    | .request =>
        let (sendFlag, dhcpReply) :=
          server.packetRequestAck dhcpReply query.request query.options
            query.optionsSize hasClientBefore previousOfferAddr
        (sendFlag, server, dhcpReply)
    | _ => (false, server, dhcpReply)
  { server
    decision := .dispatched query.messageType
    sent :=
      if sendFlag then some (sendDhcpMessage query.request dhcpReply)
      else none }

/-- One pass of the loop over a received datagram. -/
def iteration (server : DhcpServer) (datagram : Datagram) (localAlloc : Bool) :
    Iteration :=
  match server.inspect datagram with
  | .error decision => { server, decision, sent := none }
  | .ok query => server.respond query localAlloc

end DhcpServer

/-- How a call of `receiveBytes` ends. With a datagram come the outcomes of the
calls its processing makes: whether `LocalAlloc` returns a block and whether
`sendTo` returns. -/
inductive Reception
  | threw
  | failed
  | received (datagram : Datagram) (localAlloc sendTo : Bool)

/-- A processed datagram, with the server it met. -/
structure Handled where
  before : DhcpServer
  datagram : Datagram
  localAlloc : Bool

def Handled.result (handled : Handled) : Iteration :=
  handled.before.iteration handled.datagram handled.localAlloc

/-- What the calls of `initServer` report: `gethostname` (`none` for failure),
the `SocketAddress` constructor, the `DatagramSocket` constructor (`none` when it
throws) and `setBroadcast`. -/
structure InitEnv where
  hostName : Option (List BYTE)
  socketAddress : Bool
  datagramSocket : Option Socket
  setBroadcast : Bool

namespace DhcpServer

/-- The thread that executes `run` ends when a call throws. -/
def receive (server : DhcpServer) : Reception → DhcpServer × List Handled
  | .threw => ({ server with thread := some .ended }, [])
  | .failed => (server, [])
  | .received datagram localAlloc sendTo =>
      let result := server.iteration datagram localAlloc
      let server' :=
        if result.sent.isSome && !sendTo then
          { result.server with thread := some .ended }
        else
          result.server
      (server', [⟨server, datagram, localAlloc⟩])

/-- `dhcp_socket_.reset` closes the old socket after the new one was made, so the
constructor runs while the old socket is open. -/
def initServer (server : DhcpServer) (env : InitEnv) : Bool × DhcpServer :=
  let server :=
    { server with
      serverHostName :=
        match env.hostName with
        | some name => name
        | none => 0 :: server.serverHostName.tail }
  let (ret, server) :=
    if env.socketAddress then
      match env.datagramSocket with
      | some socket =>
          (env.setBroadcast, { server with dhcpSocket := some socket })
      | none => (false, server)
    else
      (false, server)
  if ret then
    (true,
      { server with
        addressesInUse := server.addressesInUse ++
          [{ dwAddrValue := dwIpToValue server.serverAddress.address
             pbClientIdentifier := none
             dwClientIdentifierSize := 0 }] })
  else
    (false, server)

/-- The new thread enters `run`, which returns at once without a socket. -/
def launch (server : DhcpServer) : DhcpServer :=
  if server.dhcpSocket.isNone then
    { server with starting := false, thread := some .ended }
  else
    { server with thread := some .looping }

/-- `Stop` waits for the thread. A thread that is blocked in `receiveBytes`
processes one more reception, `last`, before it sees that `starting_` is
false. -/
def stop (server : DhcpServer) (last : Option Reception) :
    DhcpServer × List Handled :=
  match server.thread with
  | none => (server, [])
  | some .ended => ({ server with starting := false }, [])
  | some .looping =>
      let server := { server with starting := false }
      match last with
      | none => ({ server with thread := some .ended }, [])
      | some reception =>
          let (server, handled) := server.receive reception
          ({ server with thread := some .ended }, handled)

/-- The result of `Start`, the server after it, and what was processed in
between. -/
def start (server : DhcpServer) (last : Option Reception) (env : InitEnv) :
    Bool × DhcpServer × List Handled :=
  let (server, handled) :=
    if server.starting then server.stop last else (server, [])
  match server.initServer env with
  | (true, server) => (true, launch { server with starting := true }, handled)
  | (false, server) => (false, server, handled)

end DhcpServer

/-- What happens to one server object: its owner calls `Start` or `Stop`, or the
loop's `receiveBytes` ends. -/
inductive Event
  | start (last : Option Reception) (env : InitEnv)
  | stop (last : Option Reception)
  | receive (reception : Reception)

def serverMachine : Machine DhcpServer Event Handled where
  step server event :=
    match event with
    | .start last env => (server.start last env).2
    | .stop last => server.stop last
    | .receive reception =>
        if server.thread = some .looping then server.receive reception
        else (server, [])

end PoeDhcp
