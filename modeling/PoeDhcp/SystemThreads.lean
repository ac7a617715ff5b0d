import PoeDhcp.SystemLeases
import PoeDhcp.ThreadSafety

namespace PoeDhcp

open Foundation
open DhcpServer
open PoeDhcpSeverImpl

/-! The servers of all adapters with their threads. -/

def turnOf (turn : Nat × Turn) (index : Nat) : Option Turn :=
  if turn.1 = index then some turn.2 else none

/-- Any thread of any server may execute its next statement. The owner calls
`Start` and `Stop` of the servers in any order. -/
abbrev systemThreads : Machine (List Threads) (Nat × Turn) (Nat × Handled) :=
  threadsMachine.family turnOf

def configuredThreads (impl : PoeDhcpSeverImpl) : List Threads :=
  impl.configPoeAdapter.1.dhcpServerList.map fun server =>
    { shared := server
      owner := .idle
      current := none
      replaced := [] }

namespace PoeDhcpSeverImpl

variable {impl : PoeDhcpSeverImpl}

theorem configured_threads {index : Nat} {state : Threads}
    (found : (configuredThreads impl)[index]? = some state) :
    index < impl.poeAdapters.length ∧
      state = .create (impl.serverConfig index) := by
  rw [configuredThreads, List.getElem?_map, Option.map_eq_some_iff] at found
  obtain ⟨server, configured, rfl⟩ := found
  obtain ⟨inside, rfl⟩ := configured_server configured
  exact ⟨inside, rfl⟩

theorem threaded_served (turns : List (Nat × Turn)) :
    ServedBy impl (systemThreads.outputs (configuredThreads impl) turns) := by
  intro index handled member
  have part := mem_partOf.mpr member
  rw [threadsMachine.family_outputs] at part ⊢
  cases found : (configuredThreads impl)[index]? with
  | none =>
      rw [found] at part
      cases part
  | some state =>
      obtain ⟨inside, rfl⟩ := configured_threads found
      obtain ⟨events, -, -, observed⟩ := Threads.reach
        (impl.serverConfig index) (Machine.routed turnOf index turns)
      exact ⟨inside, events, observed.symm⟩

end PoeDhcpSeverImpl

/-- However the threads of the owner and of all servers take turns behind a
configuration, the replies are safe. -/
theorem threaded_system_safe (table : AdapterTable) (before : List ApiCall)
    (turns : List (Nat × Turn)) :
    SafeReplies (apiMachine.exec (.create table.infos) before)
      (systemThreads.outputs
        (configuredThreads (apiMachine.exec (.create table.infos) before))
        turns) :=
  (threaded_served turns).safe
    (poeAdapters_lt _ table (exec_adapterInfos _ before))

end PoeDhcp
