import PoeDhcp.Model.Api

namespace PoeDhcp

open Foundation

/-! All servers of the interface with what they process. -/

namespace PoeDhcpSeverImpl

/-- What the servers process during a call, with the index of the server. -/
def handled (impl : PoeDhcpSeverImpl) : ApiCall → List (Nat × Handled)
  | .configPoeAdapter => []
  | .setPoeAdapterAddress _ _ => []
  | .startDhcpServers outcome =>
      (impl.dhcpServerList.mapIdx fun index it =>
        (it.start (outcome index).last (outcome index).env).2.2.map
          (Prod.mk index)).flatten
  | .stopDhcpServers last =>
      (impl.dhcpServerList.mapIdx fun index it =>
        (it.stop (last index)).2.map (Prod.mk index)).flatten
  | .setPoeAdapterModel _ => []
  | .receive index reception =>
      (impl.dhcpServerList.mapIdx fun place it =>
        if place = index then
          (serverMachine.emit it (.receive reception)).map (Prod.mk place)
        else []).flatten

end PoeDhcpSeverImpl

/-- The interface as `apiMachine` has it, observed through its servers. -/
def systemMachine : Machine PoeDhcpSeverImpl ApiCall (Nat × Handled) where
  step impl call := (apiMachine.next impl call, impl.handled call)

end PoeDhcp
