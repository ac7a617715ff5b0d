import PoeDhcp.LeaseLimits

namespace PoeDhcp

open Foundation
open DhcpServer

/-! The memory of the client identifiers. -/

namespace DhcpServer

/-- The blocks that the destructor hands to `LocalFree`. -/
def freed (server : DhcpServer) : List (List BYTE) :=
  server.addressesInUse.filterMap (·.pbClientIdentifier)

end DhcpServer

/-- The block that `LocalAlloc` returns while the datagram is processed. -/
def Handled.allocated? (handled : Handled) : Option (List BYTE) :=
  match handled.before.inspect handled.datagram with
  | .error _ => none
  | .ok query =>
      if query.messageType = .discover ∧
          (handled.before.checkIsClientExist query.identifier).1 = false ∧
          handled.before.assignAddress.1 ≠ 0 ∧ handled.localAlloc = true then
        some query.identifier
      else
        none

namespace DhcpServer

variable {server other : DhcpServer}

theorem freed_congr (table : other.addressesInUse = server.addressesInUse) :
    other.freed = server.freed := by
  rw [freed, table, freed]

theorem freed_lease (server : DhcpServer) (addr : DWORD)
    (identifier : List BYTE) :
    (server.lease addr identifier).freed = server.freed ++ [identifier] :=
  List.filterMap_append

theorem freed_serverEntry
    (table : other.addressesInUse =
      server.addressesInUse ++ [server.serverEntry]) :
    other.freed = server.freed := by
  rw [freed, table, List.filterMap_append]
  exact List.append_nil _

/-- One pass keeps exactly the block that it has allocated. -/
theorem freed_result (handled : Handled) :
    handled.result.server.freed =
      handled.before.freed ++ handled.allocated?.toList := by
  unfold Handled.result Handled.allocated?
  refine iteration_rule handled.before handled.datagram handled.localAlloc
    ?_ ?_
  · intro decision inspected
    simp only [inspected, Option.toList_none, List.append_nil]
  · intro query result inspected responds
    simp only [inspected]
    cases responds with
    | grant discover unknown found nonzero allocated =>
        rw [if_pos ⟨discover, by rw [checkIsClientExist_unknown unknown],
          by rw [assignAddress_found found]; exact nonzero, allocated⟩]
        exact freed_lease _ _ _
    | renew discover known nonzero =>
        simp [checkIsClientExist_known known]
    | zeroEntry discover known zero =>
        simp [checkIsClientExist_known known]
    | outOfMemory discover unknown found nonzero refused =>
        simp only [refused, Bool.false_eq_true, and_false, if_false,
          Option.toList_none, List.append_nil]
        rfl
    | zeroAddress discover unknown found =>
        simp only [assignAddress_found found, ne_eq, not_true_eq_false,
          false_and, and_false, if_false, Option.toList_none, List.append_nil]
        rfl
    | exhausted discover unknown full =>
        simp [assignAddress_exhausted full]
    | ack request known acked => simp [request]
    | nak request refused => simp [request]
    | invalid request silent => simp [request]
    | other notDiscover notRequest => simp [notDiscover]

/-- A step allocates what it adds to the table. -/
def Accounted (server : DhcpServer) (result : DhcpServer × List Handled) :
    Prop :=
  result.1.freed = server.freed ++ result.2.filterMap Handled.allocated?

theorem Accounted.nothing (table : other.freed = server.freed) :
    Accounted server (other, []) :=
  table.trans (List.append_nil _).symm

theorem Accounted.frame {handled : List Handled} {after before : DhcpServer}
    (accounted : Accounted server (other, handled))
    (first : before.freed = server.freed)
    (last : after.freed = other.freed) :
    Accounted before (after, handled) := by
  unfold Accounted at accounted ⊢
  dsimp only at accounted ⊢
  rw [last, accounted, first]

theorem receive_accounted (server : DhcpServer) (reception : Reception) :
    Accounted server (server.receive reception) := by
  cases reception with
  | threw => exact .nothing rfl
  | failed => exact .nothing rfl
  | received datagram localAlloc sendTo =>
      have kept := freed_result ⟨server, datagram, localAlloc⟩
      have whole : Accounted server
          ((server.iteration datagram localAlloc).server,
            [⟨server, datagram, localAlloc⟩]) := by
        refine kept.trans ?_
        simp only [List.filterMap_cons, List.filterMap_nil]
        cases Handled.allocated? ⟨server, datagram, localAlloc⟩ <;> rfl
      simp only [receive]
      split
      · exact whole.frame rfl rfl
      · exact whole

theorem stop_accounted (server : DhcpServer) (last : Option Reception) :
    Accounted server (server.stop last) := by
  refine stop_rule server last (fun _ => .nothing rfl)
    (fun _ => .nothing rfl) ?_
  intro reception _
  exact (receive_accounted { server with starting := false } reception).frame
    rfl rfl

theorem start_accounted (server : DhcpServer) (last : Option Reception)
    (env : InitEnv) : Accounted server (server.start last env).2 := by
  have settled : Accounted server (server.settle last) := by
    unfold settle
    split
    · exact stop_accounted server last
    · exact .nothing rfl
  cases success : env.succeeds with
  | true =>
      rw [start_success success]
      exact settled.frame rfl
        (freed_serverEntry (initServer_success success))
  | false =>
      rw [start_failure success]
      exact settled.frame rfl (freed_congr (initServer_failure success))

theorem next_accounted (server : DhcpServer) (event : Event) :
    (serverMachine.next server event).freed =
      server.freed ++
        (serverMachine.emit server event).filterMap Handled.allocated? := by
  cases event with
  | start last env => exact start_accounted server last env
  | stop last => exact stop_accounted server last
  | receive reception =>
      by_cases looping : server.thread = some .looping
      · rw [serverMachine.next_receive looping,
          serverMachine.emit_receive looping]
        exact receive_accounted server reception
      · rw [serverMachine.next_receive_idle looping,
          serverMachine.emit_receive_idle looping]
        exact (List.append_nil _).symm

end DhcpServer

/-- Whenever a server is destroyed, its destructor frees each block that was
allocated in its life, and each of them once. -/
theorem blocks_freed_once (netAddress : DhcpNetWorkAddr)
    (events : List Event) :
    (serverMachine.exec (construct netAddress) events).freed =
      (serverMachine.outputs (construct netAddress) events).filterMap
        Handled.allocated? := by
  refine serverMachine.history_induction
    (I := fun server history =>
      server.freed = history.filterMap Handled.allocated?) events _ rfl ?_
  intro event _ server history freed
  rw [next_accounted, freed, List.filterMap_append]

end PoeDhcp
