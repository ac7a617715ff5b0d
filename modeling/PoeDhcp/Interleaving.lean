import PoeDhcp.Foundation.Simulation
import PoeDhcp.LeaseGuarantees
import PoeDhcp.Model.Threads

namespace PoeDhcp

open Foundation
open DhcpServer

/-! Every interleaving of the two threads is a run of the server whose `Start` and
`Stop` are single steps. -/

namespace Threads

variable {state : Threads}

/-- The server as the owner sees it: `thread_` holds a thread in the loop, or one
that has ended. -/
def view (state : Threads) : DhcpServer :=
  { state.shared with thread := state.current.map LoopPc.thread }

/-- No thread is in the loop. -/
def Quiet (state : Threads) : Prop :=
  ∀ pc, state.current = some pc → pc = .ended

structure Sound (state : Threads) : Prop where
  replaced : ∀ pc ∈ state.replaced, pc = .ended
  notItself : state.current ≠ some .joiningItself
  socket : state.current = some .entered →
    state.shared.dhcpSocket.isNone = false
  joinable : ∀ restart, state.owner = .clear restart → state.current ≠ none

/-- Where the owner has not begun to change the server. -/
def isOutside : OwnerPc → Bool
  | .idle | .start | .stop _ | .clear _ => true
  | _ => false

/-- How the state relates to a server whose thread stops with its last reception
and starts with `initServer`. -/
inductive Follows (state : Threads) (model : DhcpServer) : Prop
  | outside (place : isOutside state.owner = true)
      (same : model = state.view)
      (supervised : state.view.Supervised) (launched : state.view.Launched)
  | waiting {restart} (place : state.owner = .join restart)
      (same : model = { state.view with starting := true })
      (cleared : state.shared.starting = false)
      (looping : state.view.thread = some .looping)
  | finishing {restart} (place : state.owner = .join restart)
      (same : model = { state.view with thread := some .ended })
      (cleared : state.shared.starting = false)
      (testing : state.current = some .testing)
  | finished {restart} (place : state.owner = .join restart)
      (same : model = state.view)
      (cleared : state.shared.starting = false)
      (ended : state.current = some .ended)
  | settled (place : state.owner = .initServer)
      (same : model = state.view)
      (cleared : state.shared.starting = false) (quiet : state.Quiet)
  | initialised (place : state.owner = .setStarting)
      (same : model =
        { state.view with starting := true, thread := some .looping })
      (quiet : state.Quiet) (socket : state.shared.dhcpSocket.isNone = false)
  | launching (place : state.owner = .launch)
      (same : model = { state.view with thread := some .looping })
      (quiet : state.Quiet) (socket : state.shared.dhcpSocket.isNone = false)
      (starting : state.shared.starting = true)

/-- The events after which the server follows the next state, with the same
datagrams processed. -/
def Matched (state : Threads) (model : DhcpServer) (turn : Turn) : Prop :=
  ∃ events, Follows (threadsMachine.next state turn)
      (serverMachine.exec model events) ∧
    serverMachine.outputs model events = threadsMachine.emit state turn

theorem thread_eq_looping {pc : LoopPc} :
    pc.thread = .looping ↔ pc ≠ .ended := by
  cases pc <;> simp [LoopPc.thread]

theorem view_looping_iff : state.view.thread = some .looping ↔
    ∃ pc, state.current = some pc ∧ pc ≠ .ended := by
  simp only [view, Option.map_eq_some_iff, thread_eq_looping]

theorem Quiet.view_not_looping (quiet : state.Quiet) :
    state.view.thread ≠ some .looping := by
  intro looping
  obtain ⟨pc, current, active⟩ := view_looping_iff.mp looping
  exact active (quiet pc current)

theorem quiet_of_not_looping (idle : state.view.thread ≠ some .looping) :
    state.Quiet := by
  intro pc current
  by_contra active
  exact idle (view_looping_iff.mpr ⟨pc, current, active⟩)

/-! The statements of `run`. -/

section Loop

variable {model : DhcpServer} {pc : LoopPc}

theorem next_loop (current : state.current = some pc) (reception : Reception) :
    threadsMachine.next state (.loop reception) =
      { state with
        shared := (loopStep state.shared reception pc).1
        current := some (loopStep state.shared reception pc).2.1 } := by
  simp only [Machine.next, threadsMachine, current]

theorem emit_loop (current : state.current = some pc) (reception : Reception) :
    threadsMachine.emit state (.loop reception) =
      (loopStep state.shared reception pc).2.2 := by
  simp only [Machine.emit, threadsMachine, current]

theorem loop_none (current : state.current = none) (reception : Reception) :
    threadsMachine.step state (.loop reception) = (state, []) := by
  simp only [threadsMachine, current]

theorem loop_ended (current : state.current = some .ended)
    (reception : Reception) :
    threadsMachine.step state (.loop reception) = (state, []) := by
  obtain ⟨shared, owner, _, replaced⟩ := state
  subst current
  rfl

/-- A turn of the loop while nothing is in the loop. -/
theorem loop_quiet (quiet : state.Quiet) (reception : Reception) :
    threadsMachine.step state (.loop reception) = (state, []) := by
  cases current : state.current with
  | none => exact loop_none current reception
  | some pc =>
      rw [quiet pc current] at current
      exact loop_ended current reception

theorem Matched.idle {turn : Turn} (follows : Follows state model)
    (same : threadsMachine.step state turn = (state, [])) :
    Matched state model turn := by
  refine ⟨[], ?_, ?_⟩
  · rw [Machine.next, same]
    exact follows
  · rw [Machine.emit, same]
    rfl

theorem Matched.single {turn : Turn} {event : Event} {after : DhcpServer}
    {handled : List Handled}
    (step : serverMachine.step model event = (after, handled))
    (follows : Follows (threadsMachine.next state turn) after)
    (emit : threadsMachine.emit state turn = handled) :
    Matched state model turn := by
  refine ⟨[event], ?_, ?_⟩
  · have next : serverMachine.exec model [event] = after :=
      congrArg Prod.fst step
    rw [next]
    exact follows
  · have emitted : serverMachine.emit model event = handled :=
      congrArg Prod.snd step
    rw [Machine.outputs_cons, Machine.outputs_nil, List.append_nil, emitted,
      emit]

theorem iteration_thread (server : DhcpServer) (datagram : Datagram)
    (localAlloc : Bool) :
    (server.iteration datagram localAlloc).server.thread = server.thread := by
  obtain ⟨table, last, frame⟩ := iteration_frame server datagram localAlloc
  rw [frame]

theorem with_thread {server : DhcpServer} {thread : Option Thread}
    (same : server.thread = thread) :
    { server with thread := thread } = server := by
  subst same
  rfl

theorem view_processing {datagram : Datagram} {localAlloc sendTo : Bool}
    (current : state.current =
      some (.processing datagram localAlloc sendTo))
    (reception : Reception) :
    (threadsMachine.next state (.loop reception)).view =
        (state.view.receive (.received datagram localAlloc sendTo)).1 ∧
      threadsMachine.emit state (.loop reception) =
        (state.view.receive (.received datagram localAlloc sendTo)).2 := by
  have before : state.view =
      { state.shared with thread := some .looping } := by
    rw [view, current]
    rfl
  have thread := iteration_thread state.view datagram localAlloc
  rw [next_loop current, emit_loop current, receive, loopStep, ← before]
  refine ⟨?_, rfl⟩
  have looping : state.view.thread = some .looping := by
    rw [before]
  rw [looping] at thread
  generalize state.view.iteration datagram localAlloc = result at thread
  cases ends : result.sent.isSome && !sendTo with
  | true => simp only [view, if_true, Option.map_some, LoopPc.thread]
  | false =>
      simp only [view, Bool.false_eq_true, if_false, Option.map_some,
        LoopPc.thread]
      exact with_thread thread

/-- A statement of `run` that changes nothing but the place. -/
theorem next_inner {reception : Reception} {place : LoopPc}
    (current : state.current = some pc)
    (inner : loopStep state.shared reception pc = (state.shared, place, []))
    (same : place.thread = pc.thread) :
    threadsMachine.next state (.loop reception) =
        { state with current := some place } ∧
      (threadsMachine.next state (.loop reception)).view = state.view ∧
      threadsMachine.emit state (.loop reception) = [] := by
  rw [next_loop current, emit_loop current, inner]
  refine ⟨rfl, ?_, rfl⟩
  simp only [view, current, Option.map_some, same]

theorem matched_inner {reception : Reception} (place : LoopPc)
    (current : state.current = some pc)
    (inner : loopStep state.shared reception pc = (state.shared, place, []))
    (same : place.thread = pc.thread)
    (follows : Follows { state with current := some place } model) :
    Matched state model (.loop reception) := by
  obtain ⟨next, -, emit⟩ := next_inner current inner same
  refine ⟨[], ?_, ?_⟩
  · rw [next]
    exact follows
  · rw [emit]
    rfl

theorem matched_receive {reception : Reception} (handled : Reception)
    (current : state.current = some pc)
    (place : isOutside state.owner = true)
    (supervised : state.view.Supervised)
    (looping : state.view.thread = some .looping)
    (next : (threadsMachine.next state (.loop reception)).view =
      (state.view.receive handled).1)
    (emit : threadsMachine.emit state (.loop reception) =
      (state.view.receive handled).2) :
    Matched state state.view (.loop reception) := by
  have owner : (threadsMachine.next state (.loop reception)).owner =
      state.owner := by
    rw [next_loop current]
  have step : serverMachine.step state.view (.receive handled) =
      state.view.receive handled := if_pos looping
  refine .single step (.outside ?_ next.symm ?_ ?_) emit
  · rw [owner]
    exact place
  · rw [next]
    exact receive_supervised supervised looping handled
  · rw [next]
    intro _
    refine receive_thread ?_ handled
    rw [looping]
    exact Option.some_ne_none _

theorem step_stop_waiting {server : DhcpServer}
    (cleared : server.starting = false)
    (looping : server.thread = some .looping) (handled : Reception) :
    serverMachine.step { server with starting := true }
        (.stop (some handled)) =
      ({ (server.receive handled).1 with thread := some .ended },
        (server.receive handled).2) := by
  cases server
  subst cleared looping
  rfl

theorem step_stop_idle {server : DhcpServer}
    (cleared : server.starting = false)
    (looping : server.thread = some .looping) :
    serverMachine.step { server with starting := true } (.stop none) =
      ({ server with thread := some .ended }, []) := by
  cases server
  subst cleared looping
  rfl

/-- The last reception of a thread that the owner waits for. -/
theorem matched_last {restart : Bool} {reception : Reception}
    (handled : Reception) (place : LoopPc) (owner : state.owner = .join restart)
    (cleared : state.shared.starting = false)
    (looping : state.view.thread = some .looping)
    (current : (threadsMachine.next state (.loop reception)).current =
      some place)
    (last : place = .testing ∨ place = .ended)
    (next : (threadsMachine.next state (.loop reception)).view =
      (state.view.receive handled).1)
    (emit : threadsMachine.emit state (.loop reception) =
      (state.view.receive handled).2)
    (kept : (threadsMachine.next state (.loop reception)).owner =
      state.owner) :
    Matched state { state.view with starting := true } (.loop reception) := by
  have stopped := step_stop_waiting (show state.view.starting = false from
    cleared) looping handled
  have starting : (threadsMachine.next state (.loop reception)).view.starting =
      false := by
    rw [next, receive_starting]
    exact cleared
  refine .single stopped ?_ emit
  rw [← next]
  rcases last with rfl | rfl
  · exact .finishing (kept.trans owner) rfl starting current
  · refine .finished (kept.trans owner) (with_thread ?_) starting current
    rw [view, current]
    rfl

theorem loop_outside (sound : state.Sound)
    (place : isOutside state.owner = true)
    (supervised : state.view.Supervised) (launched : state.view.Launched)
    (reception : Reception) :
    Matched state state.view (.loop reception) := by
  have follows {pc place' : LoopPc} (current : state.current = some pc)
      (same : place'.thread = pc.thread) :
      Follows { state with current := some place' } state.view := by
    have view : view { state with current := some place' } = state.view := by
      simp only [Threads.view, current, Option.map_some, same]
    exact .outside place view.symm (view ▸ supervised) (view ▸ launched)
  cases current : state.current with
  | none =>
      exact .idle (.outside place rfl supervised launched)
        (loop_none current reception)
  | some pc =>
      have looping (active : pc ≠ .ended) :
          state.view.thread = some .looping :=
        view_looping_iff.mpr ⟨pc, current, active⟩
      cases pc with
      | entered =>
          refine matched_inner .testing current ?_ rfl (follows current rfl)
          rw [loopStep, sound.socket current]
          rfl
      | testing =>
          refine matched_inner .receiving current ?_ rfl (follows current rfl)
          have starting : state.shared.starting = true :=
            supervised (looping LoopPc.noConfusion)
          rw [loopStep, starting]
          rfl
      | receiving =>
          cases reception with
          | threw =>
              refine matched_receive .threw current place supervised
                (looping LoopPc.noConfusion) ?_ ?_
              · rw [next_loop current]
                rfl
              · rw [emit_loop current]
                rfl
          | failed =>
              exact matched_inner .testing current rfl rfl
                (follows current rfl)
          | received datagram localAlloc sendTo =>
              exact matched_inner (.processing datagram localAlloc sendTo)
                current rfl rfl (follows current rfl)
      | processing datagram localAlloc sendTo =>
          obtain ⟨next, emit⟩ := view_processing current reception
          exact matched_receive _ current place supervised
            (looping LoopPc.noConfusion) next emit
      | joiningItself => exact absurd current sound.notItself
      | ended =>
          exact .idle (.outside place rfl supervised launched)
            (loop_ended current reception)

theorem loop_waiting (sound : state.Sound) {restart : Bool}
    (owner : state.owner = .join restart)
    (cleared : state.shared.starting = false)
    (looping : state.view.thread = some .looping) (reception : Reception) :
    Matched state { state.view with starting := true }
      (.loop reception) := by
  obtain ⟨pc, current, active⟩ := view_looping_iff.mp looping
  have follows {place : LoopPc} (same : place.thread = pc.thread) :
      Follows { state with current := some place }
        { state.view with starting := true } := by
    have view : view { state with current := some place } = state.view := by
      simp only [Threads.view, current, Option.map_some, same]
    exact .waiting owner (by rw [view]) cleared (view ▸ looping)
  have kept : (threadsMachine.next state (.loop reception)).owner =
      state.owner := by
    rw [next_loop current]
  cases pc with
  | entered =>
      refine matched_inner .testing current ?_ rfl (follows rfl)
      rw [loopStep, sound.socket current]
      rfl
  | testing =>
      have stopped := step_stop_idle (show state.view.starting = false from
        cleared) looping
      have exits : loopStep state.shared reception .testing =
          (state.shared, .ended, []) := by
        rw [loopStep, cleared]
        rfl
      refine .single stopped ?_ ?_
      · rw [next_loop current, exits]
        exact .finished owner rfl cleared rfl
      · rw [emit_loop current, exits]
  | receiving =>
      cases reception with
      | threw =>
          refine matched_last .threw .ended owner cleared looping ?_
            (Or.inr rfl) ?_ ?_ kept
          · rw [next_loop current]
            rfl
          · rw [next_loop current]
            rfl
          · rw [emit_loop current]
            rfl
      | failed => exact matched_inner .testing current rfl rfl (follows rfl)
      | received datagram localAlloc sendTo =>
          exact matched_inner (.processing datagram localAlloc sendTo) current
            rfl rfl (follows rfl)
  | processing datagram localAlloc sendTo =>
      obtain ⟨next, emit⟩ := view_processing current reception
      refine matched_last _
        (loopStep state.shared reception
          (.processing datagram localAlloc sendTo)).2.1
        owner cleared looping ?_ ?_ next emit kept
      · rw [next_loop current]
      · rw [loopStep]
        split
        · exact Or.inr rfl
        · exact Or.inl rfl
  | joiningItself => exact absurd current sound.notItself
  | ended => exact absurd rfl active

theorem loop_matched (sound : state.Sound) (follows : Follows state model)
    (reception : Reception) : Matched state model (.loop reception) := by
  cases follows with
  | outside place same supervised launched =>
      subst same
      exact loop_outside sound place supervised launched reception
  | waiting place same cleared looping =>
      subst same
      exact loop_waiting sound place cleared looping reception
  | finishing place same cleared testing =>
      have exits : loopStep state.shared reception .testing =
          (state.shared, .ended, []) := by
        rw [loopStep, cleared]
        rfl
      refine ⟨[], ?_, ?_⟩
      · rw [next_loop testing, exits]
        exact .finished place same cleared rfl
      · rw [emit_loop testing, exits]
        rfl
  | finished place same cleared ended =>
      exact .idle (.finished place same cleared ended)
        (loop_ended ended reception)
  | settled place same cleared quiet =>
      exact .idle (.settled place same cleared quiet)
        (loop_quiet quiet reception)
  | initialised place same quiet socket =>
      exact .idle (.initialised place same quiet socket)
        (loop_quiet quiet reception)
  | launching place same quiet socket starting =>
      exact .idle (.launching place same quiet socket starting)
        (loop_quiet quiet reception)

end Loop

/-! The statements of the owner. -/

section Owner

variable {model : DhcpServer} {env : InitEnv}

theorem view_initServer (state : Threads) (env : InitEnv) :
    state.view.initServer env =
      ((state.shared.initServer env).1,
        { (state.shared.initServer env).2 with
          thread := state.view.thread }) := by
  unfold initServer view
  dsimp only
  cases env.socketAddress with
  | false => rfl
  | true =>
      cases env.datagramSocket with
      | none => rfl
      | some socket => cases env.setBroadcast <;> rfl

theorem start_settled {server : DhcpServer} (cleared : server.starting = false)
    (env : InitEnv) :
    serverMachine.step server (.start none env) =
      if (server.initServer env).1 then
        ({ (server.initServer env).2 with
           starting := true
           thread := some .looping }, [])
      else ((server.initServer env).2, []) := by
  have settled : server.settle none = (server, []) := by
    rw [settle, cleared]
    rfl
  rw [initServer_result]
  change (server.start none env).2 = _
  cases success : env.succeeds with
  | true => rw [start_success success, settled, if_pos rfl]
  | false =>
      rw [start_failure success, settled]
      rfl

theorem quiet_of_starting (supervised : state.view.Supervised)
    (stopped : state.shared.starting = false) : state.Quiet := by
  refine quiet_of_not_looping ?_
  intro looping
  have starting : state.shared.starting = true := supervised looping
  rw [stopped] at starting
  cases starting

theorem Matched.goes_on {place : OwnerPc}
    (step : state.ownerStep env = { state with owner := place })
    (follows : Follows { state with owner := place } model) :
    Matched state model (.owner env) := by
  refine ⟨[], ?_, rfl⟩
  have next : threadsMachine.next state (.owner env) =
      { state with owner := place } := step
  rw [next]
  exact follows

theorem follows_afterStop (restart : Bool) (same : model = state.view)
    (cleared : state.shared.starting = false) (quiet : state.Quiet) :
    Follows { state with owner := afterStop restart } model := by
  cases restart with
  | true => exact .settled rfl same cleared quiet
  | false =>
      refine .outside rfl same ?_ ?_
      · exact fun looping => absurd looping quiet.view_not_looping
      · intro starting
        have running : state.shared.starting = true := starting
        rw [cleared] at running
        cases running

theorem with_starting {server : DhcpServer} {starting : Bool}
    (same : server.starting = starting) :
    { server with starting := starting } = server := by
  subst same
  rfl

/-- The owner has cleared `starting_`. The coarse server stops at once when its
thread has ended already, and later otherwise. -/
theorem clear_matched (sound : state.Sound) {restart : Bool}
    (owner : state.owner = .clear restart)
    (supervised : state.view.Supervised) (env : InitEnv) :
    Matched state state.view (.owner env) := by
  have next : threadsMachine.next state (.owner env) =
      { state with
        shared := { state.shared with starting := false }
        owner := .join restart } := by
    change state.ownerStep env = _
    rw [ownerStep, owner]
  by_cases looping : state.view.thread = some .looping
  · have starting : state.view.starting = true := supervised looping
    refine ⟨[], ?_, rfl⟩
    rw [next]
    exact .waiting rfl (with_starting starting).symm rfl looping
  · obtain ⟨pc, current⟩ :=
      Option.ne_none_iff_exists'.mp (sound.joinable restart owner)
    rw [quiet_of_not_looping looping pc current] at current
    have ended : state.view.thread = some .ended := by
      rw [view, current]
      rfl
    have step : serverMachine.step state.view (.stop none) =
        ({ state.view with starting := false }, []) := by
      simp only [serverMachine, stop, ended]
    refine .single step ?_ rfl
    rw [next]
    exact .finished rfl rfl rfl current

theorem owner_outside (sound : state.Sound)
    (place : isOutside state.owner = true)
    (supervised : state.view.Supervised) (launched : state.view.Launched)
    (env : InitEnv) : Matched state state.view (.owner env) := by
  cases owner : state.owner with
  | idle =>
      have step : state.ownerStep env = state := by
        simp only [ownerStep, owner]
      exact .idle (.outside place rfl supervised launched)
        (Prod.ext step rfl)
  | start =>
      cases starting : state.shared.starting with
      | true =>
          have step : state.ownerStep env =
              { state with owner := .stop true } := by
            simp only [ownerStep, owner, starting, if_true]
          exact .goes_on step (.outside rfl rfl supervised launched)
      | false =>
          have step : state.ownerStep env =
              { state with owner := .initServer } := by
            simp only [ownerStep, owner, starting, Bool.false_eq_true,
              if_false]
          exact .goes_on step (.settled rfl rfl starting
            (quiet_of_starting supervised starting))
  | stop restart =>
      cases current : state.current with
      | none =>
          have step : state.ownerStep env =
              { state with owner := afterStop restart } := by
            simp only [ownerStep, owner, current, Option.isSome_none,
              Bool.false_eq_true, if_false]
          have cleared : state.shared.starting = false := by
            by_contra starting
            refine launched (Bool.not_eq_false _ ▸ starting) ?_
            rw [view, current]
            rfl
          exact .goes_on step (follows_afterStop restart rfl cleared
            (quiet_of_starting supervised cleared))
      | some pc =>
          have step : state.ownerStep env =
              { state with owner := .clear restart } := by
            simp only [ownerStep, owner, current, Option.isSome_some, if_true]
          exact .goes_on step (.outside rfl rfl supervised launched)
  | clear restart => exact clear_matched sound owner supervised env
  | _ =>
      rw [owner] at place
      cases place

theorem owner_join {restart : Bool} (owner : state.owner = .join restart)
    (cleared : state.shared.starting = false) (same : model = state.view)
    (ended : state.current = some .ended) (env : InitEnv) :
    Matched state model (.owner env) := by
  have step : state.ownerStep env =
      { state with owner := afterStop restart } := by
    simp only [ownerStep, owner, ended]
  refine .goes_on step (follows_afterStop restart same cleared ?_)
  intro pc current
  rw [ended, Option.some.injEq] at current
  exact current.symm

theorem owner_waits {restart : Bool} (owner : state.owner = .join restart)
    (active : state.current ≠ some .ended) (env : InitEnv) :
    state.ownerStep env = state := by
  unfold ownerStep
  rw [owner]
  dsimp only
  split
  · rename_i ended
    exact absurd ended active
  · rfl

theorem owner_initServer (owner : state.owner = .initServer)
    (cleared : state.shared.starting = false) (quiet : state.Quiet)
    (env : InitEnv) : Matched state state.view (.owner env) := by
  have start := start_settled (show state.view.starting = false from cleared)
    env
  have next : threadsMachine.next state (.owner env) =
      { state with
        shared := (state.shared.initServer env).2
        owner := if (state.shared.initServer env).1 then .setStarting
          else .idle } := by
    change state.ownerStep env = _
    rw [ownerStep, owner]
  obtain ⟨socket, name, spec, bound⟩ := initServer_spec state.shared env
  rw [view_initServer, spec] at start
  rw [spec] at next
  cases success : env.succeeds with
  | true =>
      rw [success, if_pos rfl] at start next
      refine .single start ?_ rfl
      rw [next]
      exact .initialised rfl rfl quiet (bound success)
  | false =>
      rw [success, if_neg Bool.false_ne_true] at start next
      refine .single start ?_ rfl
      rw [next]
      refine .outside rfl rfl ?_ ?_
      · exact fun looping => absurd looping quiet.view_not_looping
      · intro starting
        have running : state.shared.starting = true := starting
        rw [cleared] at running
        cases running

theorem owner_matched (sound : state.Sound) (follows : Follows state model)
    (env : InitEnv) : Matched state model (.owner env) := by
  cases follows with
  | outside place same supervised launched =>
      subst same
      exact owner_outside sound place supervised launched env
  | waiting place same cleared looping =>
      obtain ⟨pc, current, active⟩ := view_looping_iff.mp looping
      refine .idle (.waiting place same cleared looping)
        (Prod.ext (owner_waits place ?_ env) rfl)
      rw [current]
      exact fun ended => active (Option.some.inj ended)
  | finishing place same cleared testing =>
      refine .idle (.finishing place same cleared testing)
        (Prod.ext (owner_waits place ?_ env) rfl)
      rw [testing]
      exact fun ended => LoopPc.noConfusion (Option.some.inj ended)
  | finished place same cleared ended =>
      exact owner_join place cleared same ended env
  | settled place same cleared quiet =>
      subst same
      exact owner_initServer place cleared quiet env
  | initialised place same quiet socket =>
      have step : state.ownerStep env =
          { state with
            shared := { state.shared with starting := true }
            owner := .launch } := by
        rw [ownerStep, place]
      refine ⟨[], ?_, rfl⟩
      have next : threadsMachine.next state (.owner env) = _ := step
      rw [next]
      exact .launching rfl same quiet socket rfl
  | launching place same quiet socket starting =>
      have step : state.ownerStep env =
          { state with
            owner := .idle
            current := some .entered
            replaced := state.replaced ++ state.current.toList } := by
        rw [ownerStep, place]
      refine ⟨[], ?_, rfl⟩
      have next : threadsMachine.next state (.owner env) = _ := step
      rw [next]
      refine .outside rfl same (fun _ => starting) ?_
      exact fun _ => Option.some_ne_none _

end Owner

/-! All turns. -/

variable {model : DhcpServer}

theorem replaced_idle (sound : state.Sound) (index : Nat)
    (reception : Reception) :
    threadsMachine.step state (.replaced index reception) = (state, []) := by
  unfold threadsMachine
  dsimp only
  cases found : state.replaced[index]? with
  | none => rfl
  | some pc =>
      have ended := sound.replaced pc (List.mem_of_getElem? found)
      subst ended
      obtain ⟨bound, same⟩ := List.getElem?_eq_some_iff.mp found
      have kept : state.replaced.set index .ended = state.replaced := by
        rw [← same, List.set_getElem_self]
      simp only [loopStep, kept]

theorem call_matched (place : OwnerPc) (outside : isOutside place = true)
    (follows : Follows state model) :
    Follows (if state.owner = .idle then { state with owner := place }
      else state) model := by
  by_cases idle : state.owner = .idle
  · rw [if_pos idle]
    cases follows with
    | outside _ same supervised launched =>
        exact .outside outside same supervised launched
    | _ other =>
        rw [idle] at other
        cases other
  · rw [if_neg idle]
    exact follows

theorem turn_matched (sound : state.Sound) (follows : Follows state model)
    (turn : Turn) : Matched state model turn := by
  cases turn with
  | callStart => exact ⟨[], call_matched .start rfl follows, rfl⟩
  | callStop => exact ⟨[], call_matched (.stop false) rfl follows, rfl⟩
  | owner env => exact owner_matched sound follows env
  | loop reception => exact loop_matched sound follows reception
  | replaced index reception =>
      exact .idle follows (replaced_idle sound index reception)

/-- Where no thread may be in the loop. -/
def isAlone : OwnerPc → Bool
  | .initServer | .setStarting | .launch => true
  | _ => false

theorem Follows.quiet_of_place (follows : Follows state model)
    (place : isAlone state.owner = true) : state.Quiet := by
  cases follows with
  | outside outside =>
      have never : ∀ place, isOutside place = true → isAlone place = false := by
        intro place
        cases place <;> simp [isOutside, isAlone]
      rw [never _ outside] at place
      cases place
  | settled _ _ _ quiet => exact quiet
  | initialised _ _ quiet => exact quiet
  | launching _ _ quiet => exact quiet
  | _ owner =>
      rw [owner] at place
      cases place

theorem Follows.socket_of_launch (follows : Follows state model)
    (launch : state.owner = .launch) :
    state.shared.dhcpSocket.isNone = false := by
  cases follows with
  | launching _ _ _ socket => exact socket
  | outside outside =>
      rw [launch] at outside
      cases outside
  | _ owner =>
      rw [launch] at owner
      cases owner

theorem sound_call (sound : state.Sound) (place : OwnerPc)
    (joinable : ∀ restart, place ≠ .clear restart) :
    (if state.owner = .idle then { state with owner := place }
      else state).Sound := by
  split
  · exact
      { replaced := sound.replaced
        notItself := sound.notItself
        socket := sound.socket
        joinable := fun restart owner => absurd owner (joinable restart) }
  · exact sound

theorem sound_owner (sound : state.Sound) (follows : Follows state model)
    (env : InitEnv) : (state.ownerStep env).Sound := by
  have goesOn (place : OwnerPc)
      (joinable : ∀ restart, place = .clear restart →
        state.current ≠ none) : Sound { state with owner := place } :=
    { replaced := sound.replaced
      notItself := sound.notItself
      socket := sound.socket
      joinable := joinable }
  unfold ownerStep
  split
  · exact sound
  · refine goesOn _ fun restart place => ?_
    split at place <;> cases place
  · rename_i restart owner
    refine goesOn _ fun _ place => ?_
    split at place
    · rename_i joinable
      exact Option.isSome_iff_ne_none.mp joinable
    · cases restart <;> cases place
  · exact
      { replaced := sound.replaced
        notItself := sound.notItself
        socket := sound.socket
        joinable := fun _ place => by cases place }
  · rename_i restart owner
    split
    · refine goesOn _ fun _ place => ?_
      cases restart <;> cases place
    · exact sound
  · rename_i owner
    have quiet : state.Quiet := follows.quiet_of_place (by rw [owner]; rfl)
    exact
      { replaced := sound.replaced
        notItself := sound.notItself
        socket := fun current => absurd (quiet _ current) LoopPc.noConfusion
        joinable := fun _ place => by
          dsimp only at place
          split at place <;> cases place }
  · exact
      { replaced := sound.replaced
        notItself := sound.notItself
        socket := sound.socket
        joinable := fun _ place => by cases place }
  · rename_i owner
    have quiet : state.Quiet := follows.quiet_of_place (by rw [owner]; rfl)
    refine
      { replaced := ?_
        notItself := fun current => by cases current
        socket := fun _ => follows.socket_of_launch owner
        joinable := fun _ place => by cases place }
    intro pc member
    rcases List.mem_append.mp member with earlier | last
    · exact sound.replaced pc earlier
    · exact quiet pc (Option.mem_toList.mp last)

theorem loopStep_place (shared : DhcpServer) (reception : Reception)
    (pc : LoopPc) (socket : pc = .entered → shared.dhcpSocket.isNone = false)
    (other : pc ≠ .joiningItself) :
    (loopStep shared reception pc).2.1 ≠ .joiningItself ∧
      (loopStep shared reception pc).2.1 ≠ .entered := by
  cases pc with
  | entered =>
      rw [loopStep, socket rfl]
      exact ⟨LoopPc.noConfusion, LoopPc.noConfusion⟩
  | testing =>
      rw [loopStep]
      split <;> exact ⟨LoopPc.noConfusion, LoopPc.noConfusion⟩
  | receiving =>
      cases reception <;> exact ⟨LoopPc.noConfusion, LoopPc.noConfusion⟩
  | processing datagram localAlloc sendTo =>
      rw [loopStep]
      dsimp only
      split <;> exact ⟨LoopPc.noConfusion, LoopPc.noConfusion⟩
  | joiningItself => exact absurd rfl other
  | ended => exact ⟨LoopPc.noConfusion, LoopPc.noConfusion⟩

theorem sound_loop (sound : state.Sound) (reception : Reception) :
    (threadsMachine.next state (.loop reception)).Sound := by
  cases current : state.current with
  | none =>
      rw [Machine.next, loop_none current]
      exact sound
  | some pc =>
      obtain ⟨notItself, notEntered⟩ :=
        loopStep_place state.shared reception pc
          (fun entered => sound.socket (entered ▸ current))
          (fun itself => sound.notItself (itself ▸ current))
      rw [next_loop current]
      exact
        { replaced := sound.replaced
          notItself := fun place => notItself (Option.some.inj place)
          socket := fun place => absurd (Option.some.inj place) notEntered
          joinable := fun _ _ => Option.some_ne_none _ }

theorem sound_next (sound : state.Sound) (follows : Follows state model)
    (turn : Turn) : (threadsMachine.next state turn).Sound := by
  cases turn with
  | callStart => exact sound_call sound .start fun _ => OwnerPc.noConfusion
  | callStop =>
      exact sound_call sound (.stop false) fun _ => OwnerPc.noConfusion
  | owner env => exact sound_owner sound follows env
  | loop reception => exact sound_loop sound reception
  | replaced index reception =>
      rw [Machine.next, replaced_idle sound]
      exact sound

theorem sound_create (netAddress : DhcpNetWorkAddr) :
    (create netAddress).Sound where
  replaced := fun _ member => by cases member
  notItself := fun current => by cases current
  socket := fun current => by cases current
  joinable := fun _ place => by cases place

theorem follows_create (netAddress : DhcpNetWorkAddr) :
    Follows (create netAddress) (construct netAddress) :=
  .outside rfl rfl (construct_supervised netAddress)
    (construct_launched netAddress)

/-- The interleavings refine the server whose calls are single steps. -/
def simulation : Simulation threadsMachine serverMachine where
  Related state model := state.Sound ∧ Follows state model
  step := by
    intro state model turn related
    obtain ⟨sound, follows⟩ := related
    obtain ⟨events, next, observed⟩ := turn_matched sound follows turn
    exact ⟨events, ⟨sound_next sound follows turn, next⟩, observed⟩

end Threads

end PoeDhcp
