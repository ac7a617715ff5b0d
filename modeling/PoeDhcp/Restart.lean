import PoeDhcp.Model.Host
import PoeDhcp.Lifecycle

namespace PoeDhcp

open Foundation
open DhcpServer

/-! Starting a server again. -/

/-- The call returns true, leaves the server running after `Start` and not
running after `Stop`, and keeps the leases. -/
structure CallReport.Good (report : CallReport) : Prop where
  returned : report.returned = true
  running : report.after.isRunning = report.isStart
  leases : report.before.addressesInUse <+: report.after.addressesInUse

namespace Host

variable {host : Host}

theorem env_succeeds (host : Host) (hostName : Option (List BYTE)) :
    (host.env hostName).succeeds = !host.isBound := by
  unfold env InitEnv.succeeds
  cases host.isBound <;> rfl

/-! One call. -/

theorem start_good_iff (host : Host)
    (last : Option Reception) (hostName : Option (List BYTE)) :
    (∀ report ∈ hostMachine.emit host (.start last hostName), report.Good) ↔
      host.isBound = false := by
  have report : hostMachine.emit host (.start last hostName) =
      [⟨true, (host.server.start last (host.env hostName)).1, host.server,
        (host.server.start last (host.env hostName)).2.1⟩] := rfl
  have leases := serverMachine.next_table host.server
    (.start last (host.env hostName))
  rw [serverMachine.next_start] at leases
  rw [report, List.forall_mem_singleton]
  have succeeds := host.env_succeeds hostName
  cases bound : host.isBound with
  | false =>
      rw [bound] at succeeds
      rw [start_success succeeds] at leases ⊢
      exact iff_of_true ⟨rfl, rfl, leases⟩ rfl
  | true =>
      rw [bound] at succeeds
      rw [start_failure succeeds]
      exact iff_of_false (fun good => by cases good.returned) (by simp)

theorem stop_good (launched : host.server.Launched)
    (last : Option Reception) :
    ∀ report ∈ hostMachine.emit host (.stop last), report.Good := by
  have report : hostMachine.emit host (.stop last) =
      [⟨false, true, host.server, (host.server.stop last).1⟩] := rfl
  rw [report, List.forall_mem_singleton]
  exact ⟨rfl, stop_starting launched last, stop_table host.server last⟩

/-- `Start` binds the address for good, and nothing else binds or frees it. -/
theorem next_isBound (host : Host) (event : HostEvent) :
    (hostMachine.next host event).isBound =
      (host.isBound || event.isStart) := by
  cases event with
  | start last hostName =>
      have config := (serverMachine.next_config host.server
        (.start last (host.env hostName))).1
      rw [serverMachine.next_start] at config
      have sockets : (hostMachine.next host (.start last hostName)).isBound =
          host.rebind.any (·.address == host.server.netAddress.address) := by
        rw [← config]
        rfl
      rw [sockets, rebind]
      cases bound : host.isBound with
      | true =>
          rw [if_pos rfl]
          exact bound
      | false => simp [HostEvent.isStart]
  | stop last =>
      have config := (serverMachine.next_config host.server (.stop last)).1
      rw [serverMachine.next_stop] at config
      change host.openSockets.any (·.address ==
        (host.server.stop last).1.netAddress.address) = _
      rw [config]
      simp [isBound, HostEvent.isStart]
  | receive reception =>
      have config := (serverMachine.next_config host.server
        (.receive reception)).1
      change host.openSockets.any (·.address ==
        (serverMachine.next host.server
          (.receive reception)).netAddress.address) = _
      rw [config]
      simp [isBound, HostEvent.isStart]

theorem next_launched (launched : host.server.Launched) (event : HostEvent) :
    (hostMachine.next host event).server.Launched := by
  cases event with
  | start last hostName =>
      exact serverMachine.next_launched launched
        (.start last (host.env hostName))
  | stop last => exact serverMachine.next_launched launched (.stop last)
  | receive reception =>
      exact serverMachine.next_launched launched (.receive reception)

end Host

/-! A run of calls. -/

def startCount (events : List HostEvent) : Nat :=
  events.countP HostEvent.isStart

theorem reports_good_iff (events : List HostEvent) (host : Host)
    (launched : host.server.Launched) :
    (∀ report ∈ hostMachine.outputs host events, report.Good) ↔
      startCount events ≤ if host.isBound then 0 else 1 := by
  induction events generalizing host with
  | nil => simp [startCount]
  | cons event rest ih =>
      have later := ih (hostMachine.next host event)
        (Host.next_launched launched event)
      rw [Host.next_isBound] at later
      simp only [Machine.outputs_cons, List.mem_append, or_imp, forall_and,
        later]
      unfold startCount
      rw [List.countP_cons]
      cases event with
      | start last hostName =>
          rw [Host.start_good_iff]
          cases host.isBound <;> simp [HostEvent.isStart]
      | stop last =>
          rw [iff_true_intro (Host.stop_good launched last)]
          simp [HostEvent.isStart]
      | receive reception =>
          have silent : hostMachine.emit host (.receive reception) = [] := rfl
          rw [silent]
          simp [HostEvent.isStart]

/-- The calls on a server all do their work exactly when at most one of them is a
`Start`. -/
theorem restartable_iff (netAddress : DhcpNetWorkAddr)
    (events : List HostEvent) :
    (∀ report ∈ hostMachine.outputs (Host.construct netAddress) events,
      report.Good) ↔ startCount events ≤ 1 :=
  reports_good_iff events (Host.construct netAddress)
    (construct_launched netAddress)

/-- The second `Start` finds the address still bound by the first. -/
theorem restart_fails :
    ¬ ∀ report ∈ hostMachine.outputs (Host.construct sampleNetAddress)
      [.start none none, .stop none, .start none none], report.Good := by
  intro good
  have returned : (hostMachine.outputs (Host.construct sampleNetAddress)
      [.start none none, .stop none, .start none none]).map
        CallReport.returned = [true, true, false] := by decide +kernel
  have failed : false ∈ (hostMachine.outputs (Host.construct sampleNetAddress)
      [.start none none, .stop none, .start none none]).map
        CallReport.returned := by
    rw [returned]
    decide
  obtain ⟨report, member, false_⟩ := List.mem_map.mp failed
  rw [(good report member).returned] at false_
  cases false_

end PoeDhcp
