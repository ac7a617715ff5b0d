import PoeDhcp.Model.Run

namespace PoeDhcp

open Foundation

/-! A server object together with the sockets that are open on port 67. A
`DatagramSocket` can be bound to an address exactly when no open socket is bound
to it. -/

structure BoundSocket where
  socket : Socket
  address : String
deriving DecidableEq

structure Host where
  server : DhcpServer
  openSockets : List BoundSocket
  nextSocket : Socket

namespace Host

def construct (netAddress : DhcpNetWorkAddr) : Host where
  server := DhcpServer.construct netAddress
  openSockets := []
  nextSocket := 0

def isBound (host : Host) : Bool :=
  host.openSockets.any (·.address == host.server.netAddress.address)

/-- What `initServer` meets. The address text resolves and `setBroadcast`
succeeds. -/
def env (host : Host) (hostName : Option (List BYTE)) : InitEnv where
  hostName := hostName
  socketAddress := true
  datagramSocket := if host.isBound then none else some host.nextSocket
  setBroadcast := true

/-- The open sockets after `initServer`: a new one replaces that of the
server. -/
def rebind (host : Host) : List BoundSocket :=
  if host.isBound then
    host.openSockets
  else
    ⟨host.nextSocket, host.server.netAddress.address⟩ ::
      host.openSockets.filter (some ·.socket != host.server.dhcpSocket)

end Host

inductive HostEvent
  | start (last : Option Reception) (hostName : Option (List BYTE))
  | stop (last : Option Reception)
  | receive (reception : Reception)

def HostEvent.isStart : HostEvent → Bool
  | .start _ _ => true
  | _ => false

/-- A finished call of `Start` or `Stop`. -/
structure CallReport where
  isStart : Bool
  returned : Bool
  before : DhcpServer
  after : DhcpServer

def hostMachine : Machine Host HostEvent CallReport where
  step host event :=
    match event with
    | .start last hostName =>
        let (returned, server, _) :=
          host.server.start last (host.env hostName)
        ({ server
           openSockets := host.rebind
           nextSocket := host.nextSocket + 1 },
          [⟨true, returned, host.server, server⟩])
    | .stop last =>
        let (server, _) := host.server.stop last
        ({ host with server }, [⟨false, true, host.server, server⟩])
    | .receive reception =>
        ({ host with
           server := serverMachine.next host.server (.receive reception) },
          [])

end PoeDhcp
