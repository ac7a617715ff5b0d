import Mathlib.Tactic.SplitIfs
import PoeDhcp.Foundation.Ledger
import PoeDhcp.Model.NetConfig

namespace PoeDhcp

open Foundation

/-! The COM resources of a `NetConfig` object. -/

/-- Each initialisation of COM is undone, and each interface that was stored is
released once. -/
structure Balanced (events : List ComEvent) : Prop where
  apartment : events.count .coInitialized = events.count .coUninitialized
  interfaces : ∀ pointer interface, .stored pointer interface ∈ events →
    events.count (.released interface) = 1

/-- Every call behind `CoInitializeEx` succeeds. -/
def InitOutcome.completes (outcome : InitOutcome) : Bool :=
  outcome.coCreateInstance == .made && outcome.connectServer == .made &&
    outcome.coSetProxyBlanket && outcome.execQuery == .made &&
    outcome.next == .found && outcome.get.isSome &&
    outcome.getObject == .made

/-- What the first `init` of a call meets. A second one, in `set_gateway`, only
runs when the first one has succeeded. -/
def NetConfigCall.init? : NetConfigCall → Option InitOutcome
  | .setKey _ => none
  | .enableDhcp init _ => some init
  | .setIpConfig _ _ init _ => some init
  | .setIpConfigGateway _ _ _ init _ _ _ => some init
  | .setGateway _ init _ => some init
  | .setDns _ _ init _ => some init
  | .setAutoDns init _ => some init
  | .clear => none

/-- COM is initialised and then a later call of `init` fails. -/
def NetSession.Halfway (session : NetSession) (outcome : InitOutcome) :
    Prop :=
  session.config.isInit = false ∧ outcome.coInitializeEx = true ∧
    outcome.completes = false

def HalfwayInit (session : NetSession) (call : NetConfigCall) : Prop :=
  ∃ outcome, call.init? = some outcome ∧ session.Halfway outcome

namespace NetConfig

variable {config : NetConfig}

@[simp] theorem store_pointer_self (pointer : Pointer)
    (interface : Option Nat) :
    (config.store pointer interface).pointer pointer = interface := by
  cases pointer <;> rfl

theorem store_pointer_of_ne {pointer other : Pointer}
    (different : other ≠ pointer) (interface : Option Nat) :
    (config.store pointer interface).pointer other = config.pointer other := by
  cases pointer <;> cases other <;> first | rfl | exact absurd rfl different

@[simp] theorem store_isInit (pointer : Pointer)
    (interface : Option Nat) :
    (config.store pointer interface).isInit = config.isInit := by
  cases pointer <;> rfl

/-! What `clear` does. -/

@[simp] theorem releaseAll_isInit (slots : List Pointer) :
    (config.releaseAll slots).1.isInit = config.isInit := by
  induction slots generalizing config with
  | nil => rfl
  | cons pointer rest ih =>
      rw [releaseAll]
      split
      · exact ih.trans (store_isInit pointer none)
      · exact ih

theorem releaseAll_pointer (slots : List Pointer) (pointer : Pointer) :
    (config.releaseAll slots).1.pointer pointer =
      if pointer ∈ slots then none else config.pointer pointer := by
  induction slots generalizing config with
  | nil => rfl
  | cons first rest ih =>
      rw [releaseAll]
      by_cases same : pointer = first
      · subst same
        rw [if_pos List.mem_cons_self]
        split
        · refine ih.trans ?_
          rw [store_pointer_self, ite_self]
        · rename_i empty
          refine ih.trans ?_
          rw [empty, ite_self]
      · have member : pointer ∈ first :: rest ↔ pointer ∈ rest := by
          simp [same]
        simp only [member]
        split
        · refine ih.trans ?_
          rw [store_pointer_of_ne same]
        · exact ih

theorem releaseAll_events {slots : List Pointer} (distinct : slots.Nodup) :
    (config.releaseAll slots).2 =
      (slots.filterMap config.pointer).map .released := by
  induction slots generalizing config with
  | nil => rfl
  | cons pointer rest ih =>
      obtain ⟨absent, later⟩ := List.nodup_cons.mp distinct
      rw [releaseAll]
      split
      · rename_i interface held
        have others : rest.filterMap (config.store pointer none).pointer =
            rest.filterMap config.pointer := by
          refine List.filterMap_congr ?_
          intro other member
          refine store_pointer_of_ne ?_ none
          rintro rfl
          exact absent member
        refine (congrArg (List.cons (.released interface)) (ih later)).trans ?_
        rw [List.filterMap_cons_some held, List.map_cons, others]
      · rename_i empty
        rw [List.filterMap_cons_none empty]
        exact ih later

/-- The pointers in the order in which they are released. -/
def pointers : List Pointer :=
  [.pConfig, .pObj, .pEnum, .pService, .pInstance]

theorem mem_pointers (pointer : Pointer) : pointer ∈ pointers := by
  cases pointer <;> decide

theorem clear_pointer (pointer : Pointer) :
    config.clear.1.pointer pointer = none := by
  have released := config.releaseAll_pointer pointers pointer
  rw [if_pos (mem_pointers pointer)] at released
  exact released

theorem clear_events :
    config.clear.2 = (pointers.filterMap config.pointer).map .released ++
      if config.isInit then [.coUninitialized] else [] := by
  have released : config.clear.2 = (config.releaseAll pointers).2 ++
      if (config.releaseAll pointers).1.isInit then [.coUninitialized]
      else [] := rfl
  rw [released, releaseAll_isInit, releaseAll_events (by decide)]

end NetConfig

/-! The accounts of the initialisation of COM, of each interface, and of the
numbers under which interfaces are handed out. -/

namespace NetSession

def stores (interface : Nat) : ComEvent → Bool
  | .stored _ other => other == interface
  | _ => false

def apartment : Account NetSession ComEvent where
  held session := if session.config.isInit then 1 else 0
  takes event := event == .coInitialized
  gives event := event == .coUninitialized

def reference (interface : Nat) : Account NetSession ComEvent where
  held session :=
    heldIn NetConfig.pointers session.config.pointer interface
  takes := stores interface
  gives event := event == .released interface

/-- An interface that was handed out is never handed out again. -/
def issue (interface : Nat) : Account NetSession ComEvent where
  held session := if interface < session.made then 1 else 0
  takes := stores interface
  gives _ := false

/-- What does not touch a resource. -/
structure Neutral (before after : NetSession) (events : List ComEvent) :
    Prop where
  isInit : after.config.isInit = before.config.isInit
  pointer : after.config.pointer = before.config.pointer
  made : after.made = before.made
  executed : ∀ event ∈ events, ∃ path method params,
    event = .executed path method params

/-- The account does not see what is neutral. -/
structure Blind (account : Account NetSession ComEvent) : Prop where
  held : ∀ {before after : NetSession} {events : List ComEvent},
    Neutral before after events → account.held after = account.held before
  takes : ∀ path method params,
    account.takes (.executed path method params) = false
  gives : ∀ path method params,
    account.gives (.executed path method params) = false

theorem apartment_blind : Blind apartment where
  held neutral := by simp only [apartment, neutral.isInit]
  takes _ _ _ := rfl
  gives _ _ _ := rfl

theorem reference_blind (interface : Nat) :
    Blind (reference interface) where
  held neutral := by simp only [reference, neutral.pointer]
  takes _ _ _ := rfl
  gives _ _ _ := rfl

theorem issue_blind (interface : Nat) : Blind (issue interface) where
  held neutral := by simp only [issue, neutral.made]
  takes _ _ _ := rfl
  gives _ _ _ := rfl

section Neutral

variable {first second third : NetSession} {early late : List ComEvent}

theorem Neutral.refl (session : NetSession) : Neutral session session [] where
  isInit := rfl
  pointer := rfl
  made := rfl
  executed := by simp

theorem Neutral.trans (before : Neutral first second early)
    (after : Neutral second third late) :
    Neutral first third (early ++ late) where
  isInit := after.isInit.trans before.isInit
  pointer := after.pointer.trans before.pointer
  made := after.made.trans before.made
  executed event member := by
    rcases List.mem_append.mp member with old | new
    · exact before.executed event old
    · exact after.executed event new

theorem Neutral.settles (neutral : Neutral first second early)
    {account : Account NetSession ComEvent} (blind : Blind account) :
    account.Settles first second early := by
  have none_taken : account.taken early = 0 := by
    refine List.countP_eq_zero.mpr ?_
    intro event member
    obtain ⟨path, method, params, rfl⟩ := neutral.executed event member
    simp [blind.takes]
  have none_given : account.given early = 0 := by
    refine List.countP_eq_zero.mpr ?_
    intro event member
    obtain ⟨path, method, params, rfl⟩ := neutral.executed event member
    simp [blind.gives]
  rw [Account.Settles, none_taken, none_given, blind.held neutral]

theorem neutral_execMethod (session : NetSession) (method : String)
    (params : Option (List (String × ParamValue))) (outcome : ExecOutcome) :
    Neutral session (session.execMethod method params outcome).2.1
      (session.execMethod method params outcome).2.2 := by
  have executed : ∀ event ∈
      [ComEvent.executed session.config.path method params],
      ∃ path method params, event = .executed path method params := by
    intro event member
    exact ⟨_, _, _, List.mem_singleton.mp member⟩
  unfold execMethod
  cases outcome with
  | failed => exact ⟨rfl, rfl, rfl, executed⟩
  | noReturnValue => exact ⟨rfl, rfl, rfl, executed⟩
  | returned value =>
      dsimp only
      split
      · exact ⟨rfl, rfl, rfl, executed⟩
      · exact ⟨rfl, rfl, rfl, executed⟩

end Neutral

/-! How `init` ends. -/

section Init

variable {session : NetSession} {outcome : InitOutcome}

theorem init_of_isInit (ready : session.config.isInit = true) :
    session.init outcome = (true, session, []) := by
  rw [init, if_pos ready]

theorem init_of_refused (inactive : session.config.isInit = false)
    (refused : outcome.coInitializeEx = false) :
    session.init outcome = (false, session, []) := by
  rw [init, inactive, refused]
  rfl

/-- Behind `CoInitializeEx` COM is not touched any more. -/
structure Ends (result : Result) (completes : Bool) : Prop where
  returned : result.1 = completes
  isInit : result.2.1.config.isInit = completes
  taken : apartment.taken result.2.2 = 0
  given : apartment.given result.2.2 = 0

theorem Ends.behind {result : Result} {completes : Bool}
    (ends : Ends result completes) {events : List ComEvent}
    (taken : apartment.taken events = 0)
    (given : apartment.given events = 0) :
    Ends (result.behind events) completes where
  returned := ends.returned
  isInit := ends.isInit
  taken := by
    rw [Result.behind, Account.taken_append, taken, ends.taken]
  given := by
    rw [Result.behind, Account.given_append, given, ends.given]

theorem Ends.stopped (inactive : session.config.isInit = false) :
    Ends (false, session, []) false :=
  ⟨rfl, inactive, rfl, rfl⟩

theorem Ends.create (inactive : session.config.isInit = false)
    (pointer : Pointer) (outcome : OutPointer) {next : NetSession → Result}
    {completes : Bool}
    (ends : ∀ session : NetSession, session.config.isInit = false →
      Ends (next session) completes) :
    Ends (session.create pointer outcome next)
      (outcome == .made && completes) := by
  have stored (interface : Option Nat) :
      (session.config.store pointer interface).isInit = false :=
    (NetConfig.store_isInit pointer interface).trans inactive
  cases outcome with
  | made => exact (ends _ (stored _)).behind rfl rfl
  | failed cleared =>
      cases cleared with
      | true => exact .stopped (stored none)
      | false => exact .stopped inactive

theorem completes_eq (outcome : InitOutcome) :
    outcome.completes =
      (outcome.coCreateInstance == .made &&
        (outcome.connectServer == .made &&
          (outcome.coSetProxyBlanket &&
            (outcome.execQuery == .made &&
              (outcome.next.pObj == .made &&
                (outcome.get.isSome &&
                  (outcome.getObject == .made && true))))))) := by
  have found : (outcome.next.pObj == .made) = (outcome.next == .found) := by
    cases outcome.next <;> rfl
  rw [found, Bool.and_true, InitOutcome.completes]
  simp only [Bool.and_assoc]

theorem init_ends (inactive : session.config.isInit = false)
    (opened : outcome.coInitializeEx = true) :
    ∃ result, session.init outcome = result.behind [.coInitialized] ∧
      Ends result outcome.completes := by
  refine ⟨_, by rw [init, inactive, opened]; rfl, ?_⟩
  rw [completes_eq]
  refine .create inactive _ _ fun session inactive => ?_
  refine .create inactive _ _ fun session inactive => ?_
  cases outcome.coSetProxyBlanket with
  | false => exact .stopped inactive
  | true =>
      refine Ends.behind ?_ rfl rfl
      refine .create inactive _ _ fun session inactive => ?_
      refine .create inactive _ _ fun session inactive => ?_
      cases outcome.get with
      | none => exact .stopped inactive
      | some path =>
          rw [Option.isSome_some, Bool.true_and]
          refine .create ?_ _ _ fun session inactive => ?_
          · exact inactive
          · exact ⟨rfl, rfl, rfl, rfl⟩

/-- What is seen of an `init` that succeeds. -/
def initEvents (session : NetSession) : List ComEvent :=
  [.coInitialized, .stored .pInstance session.made,
    .stored .pService (session.made + 1), .queried session.config.query,
    .stored .pEnum (session.made + 2), .stored .pObj (session.made + 3),
    .stored .pConfig (session.made + 4)]

def initialised (session : NetSession) (path : String) : NetSession where
  config :=
    { session.config with
      isInit := true
      pInstance := some session.made
      pService := some (session.made + 1)
      pEnum := some (session.made + 2)
      pObj := some (session.made + 3)
      pConfig := some (session.made + 4)
      path := some path }
  made := session.made + 5

theorem init_complete (inactive : session.config.isInit = false)
    (opened : outcome.coInitializeEx = true)
    (completes : outcome.completes = true) :
    ∃ path, session.init outcome =
      (true, session.initialised path, session.initEvents) := by
  simp only [InitOutcome.completes, Bool.and_eq_true, beq_iff_eq,
    Option.isSome_iff_exists] at completes
  obtain ⟨⟨⟨⟨⟨⟨locator, service⟩, blanket⟩, enum⟩, next⟩, path, get⟩,
    object⟩ := completes
  refine ⟨path, ?_⟩
  unfold init
  rw [inactive, opened, locator, service, blanket, enum, next, get, object]
  rfl

/-- The ways through `init`. -/
inductive Initialises (session : NetSession) (outcome : InitOutcome) :
    Result → Prop
  | ready (active : session.config.isInit = true) :
      Initialises session outcome (true, session, [])
  | refused (inactive : session.config.isInit = false)
      (refused : outcome.coInitializeEx = false) :
      Initialises session outcome (false, session, [])
  | complete (inactive : session.config.isInit = false)
      (completes : outcome.completes = true) (path : String) :
      Initialises session outcome
        (true, session.initialised path, session.initEvents)
  | halfway {result} (halfway : Halfway session outcome)
      (ends : Ends result false) :
      Initialises session outcome (result.behind [.coInitialized])

theorem init_initialises (session : NetSession) (outcome : InitOutcome) :
    Initialises session outcome (session.init outcome) := by
  cases active : session.config.isInit with
  | true =>
      rw [init_of_isInit active]
      exact .ready active
  | false =>
      cases opened : outcome.coInitializeEx with
      | false =>
          rw [init_of_refused active opened]
          exact .refused active opened
      | true =>
          cases completes : outcome.completes with
          | true =>
              obtain ⟨path, complete⟩ :=
                init_complete active opened completes
              rw [complete]
              exact .complete active completes path
          | false =>
              obtain ⟨result, initialised, ends⟩ :=
                init_ends active opened
              rw [completes] at ends
              rw [initialised]
              exact .halfway ⟨active, opened, completes⟩ ends

theorem stored_initEvents (session : NetSession) (interface : Nat) :
    session.initEvents.countP (stores interface) =
      if session.made ≤ interface ∧ interface < session.made + 5 then 1
      else 0 := by
  simp only [initEvents, List.countP_cons, List.countP_nil, stores,
    beq_iff_eq, Bool.false_eq_true, if_false]
  split_ifs <;> omega

theorem released_initEvents (session : NetSession) (interface : Nat) :
    session.initEvents.countP (· == .released interface) = 0 := by
  simp [initEvents]

theorem heldIn_initialised (session : NetSession) (path : String)
    (interface : Nat) :
    heldIn NetConfig.pointers (session.initialised path).config.pointer
        interface =
      if session.made ≤ interface ∧ interface < session.made + 5 then 1
      else 0 := by
  simp only [heldIn, NetConfig.pointers, initialised, NetConfig.pointer,
    List.countP_cons, List.countP_nil, decide_eq_true_eq,
    Option.some.injEq]
  split_ifs <;> omega

theorem init_covers (session : NetSession) (outcome : InitOutcome) :
    apartment.Covers session (session.init outcome).2.1
      (session.init outcome).2.2 ∧
    (apartment.Settles session (session.init outcome).2.1
        (session.init outcome).2.2 ↔ ¬ Halfway session outcome) := by
  have initialises := init_initialises session outcome
  generalize session.init outcome = result at initialises
  cases initialises with
  | ready active =>
      refine ⟨Nat.le_refl _, iff_of_true rfl ?_⟩
      intro halfway
      rw [halfway.1] at active
      cases active
  | refused inactive refused =>
      refine ⟨Nat.le_refl _, iff_of_true rfl ?_⟩
      intro halfway
      rw [halfway.2.1] at refused
      cases refused
  | complete inactive completes path =>
      have settled : apartment.Settles session (session.initialised path)
          session.initEvents := by
        simp only [Account.Settles, apartment, inactive]
        rfl
      refine ⟨Nat.le_of_eq settled, iff_of_true settled ?_⟩
      intro halfway
      rw [halfway.2.2] at completes
      cases completes
  | halfway halfway ends =>
      have taken : apartment.taken [.coInitialized] = 1 := rfl
      have given : apartment.given [.coInitialized] = 0 := rfl
      rw [Account.Covers, Account.Settles, Result.behind,
        Account.taken_append, Account.given_append, taken, given, ends.taken,
        ends.given]
      simp [apartment, ends.isInit, halfway.1, halfway]

/-- An object that is not initialised holds no interface. -/
def Vacant (session : NetSession) : Prop :=
  session.config.isInit = false →
    ∀ pointer, session.config.pointer pointer = none

/-- What a call does that leaves nothing behind. -/
structure Tidy (before after : NetSession) (events : List ComEvent) :
    Prop where
  vacant : Vacant after
  apartment : apartment.Settles before after events
  reference : ∀ interface, (reference interface).Settles before after events
  issue : ∀ interface, (issue interface).Settles before after events

theorem Tidy.refl {session : NetSession} (vacant : Vacant session) :
    Tidy session session [] :=
  ⟨vacant, .refl _, fun _ => .refl _, fun _ => .refl _⟩

theorem Tidy.neutral {before after later : NetSession}
    {early late : List ComEvent} (tidy : Tidy before after early)
    (neutral : Neutral after later late) :
    Tidy before later (early ++ late) where
  vacant := by
    intro inactive pointer
    rw [neutral.isInit] at inactive
    rw [neutral.pointer]
    exact tidy.vacant inactive pointer
  apartment := tidy.apartment.trans (neutral.settles apartment_blind)
  reference interface := (tidy.reference interface).trans
    (neutral.settles (reference_blind interface))
  issue interface := (tidy.issue interface).trans
    (neutral.settles (issue_blind interface))

theorem init_tidy (vacant : Vacant session)
    (whole : ¬ Halfway session outcome) :
    Tidy session (session.init outcome).2.1 (session.init outcome).2.2 := by
  have settled := (init_covers session outcome).2.mpr whole
  have initialises := init_initialises session outcome
  generalize session.init outcome = result at settled initialises
  cases initialises with
  | ready active => exact .refl vacant
  | refused inactive refused => exact .refl vacant
  | halfway halfway ends => exact absurd halfway whole
  | complete inactive completes path =>
      refine ⟨?_, settled, ?_, ?_⟩
      · intro vacated
        cases vacated
      · intro interface
        have empty : heldIn NetConfig.pointers session.config.pointer
            interface = 0 :=
          heldIn_empty (fun pointer _ => vacant inactive pointer) interface
        simp only [Account.Settles, Account.taken, Account.given,
          reference, empty, stored_initEvents, released_initEvents,
          heldIn_initialised, Nat.zero_add, Nat.add_zero]
      · intro interface
        simp only [Account.Settles, Account.taken, Account.given, issue,
          stored_initEvents, initialised, List.countP_false,
          Function.const_apply]
        split_ifs <;> omega

end Init

/-! The calls. -/

section Calls

variable {session : NetSession} {outcome : InitOutcome}

/-- A call that runs `init` and then nothing that touches a resource. -/
def Follows (session : NetSession) (outcome : InitOutcome)
    (after : NetSession) (events : List ComEvent) : Prop :=
  ∃ rest, events = (session.init outcome).2.2 ++ rest ∧
    Neutral (session.init outcome).2.1 after rest

theorem init_isInit (returned : (session.init outcome).1 = true) :
    (session.init outcome).2.1.config.isInit = true := by
  have initialises := init_initialises session outcome
  generalize session.init outcome = result at returned initialises
  cases initialises with
  | ready active => exact active
  | complete inactive completes path => rfl
  | refused inactive refused => cases returned
  | halfway halfway ends =>
      have failed := ends.returned
      rw [Result.behind, failed] at returned
      cases returned

theorem withInit_returned {next : NetSession → Result}
    (returned : (session.withInit outcome next).1 = true) :
    (session.init outcome).1 = true := by
  unfold withInit at returned
  generalize session.init outcome = result at returned ⊢
  obtain ⟨ready, after, events⟩ := result
  cases ready with
  | true => rfl
  | false => cases returned

theorem withInit_follows {next : NetSession → Result}
    (neutral : ∀ session : NetSession, session.config.isInit = true →
      Neutral session (next session).2.1 (next session).2.2) :
    Follows session outcome (session.withInit outcome next).2.1
      (session.withInit outcome next).2.2 := by
  have ready := @init_isInit session outcome
  unfold Follows withInit
  generalize session.init outcome = result at ready
  obtain ⟨returned, after, events⟩ := result
  cases returned with
  | true => exact ⟨_, rfl, neutral after (ready rfl)⟩
  | false => exact ⟨[], (List.append_nil events).symm, .refl after⟩

/-- The second `init` finds the object initialised. -/
theorem setIpConfigGateway_follows (ip mask gateway : String)
    (exec : ExecOutcome) (gatewayInit : InitOutcome)
    (gatewayExec : ExecOutcome) :
    Follows session outcome
      (session.setIpConfigGateway ip mask gateway outcome exec gatewayInit
        gatewayExec).2.1
      (session.setIpConfigGateway ip mask gateway outcome exec gatewayInit
        gatewayExec).2.2 := by
  have follows : Follows session outcome
      (session.setIpConfig ip mask outcome exec).2.1
      (session.setIpConfig ip mask outcome exec).2.2 :=
    withInit_follows fun session _ => neutral_execMethod session _ _ _
  have ready (returned :
      (session.setIpConfig ip mask outcome exec).1 = true) :=
    init_isInit (withInit_returned returned)
  unfold setIpConfigGateway
  generalize session.setIpConfig ip mask outcome exec = result
    at follows ready
  obtain ⟨returned, middle, events⟩ := result
  cases returned with
  | false => exact follows
  | true =>
      obtain ⟨rest, rfl, neutral⟩ := follows
      have active : middle.config.isInit = true :=
        neutral.isInit.trans (ready rfl)
      obtain ⟨later, gatewayEvents, after⟩ :
          Follows middle gatewayInit
            (middle.setGateway gateway gatewayInit gatewayExec).2.1
            (middle.setGateway gateway gatewayInit gatewayExec).2.2 :=
        withInit_follows fun session _ => neutral_execMethod session _ _ _
      rw [init_of_isInit active, List.nil_append] at gatewayEvents
      rw [init_of_isInit active] at after
      refine ⟨rest ++ later, ?_, neutral.trans after⟩
      rw [← List.append_assoc, ← gatewayEvents]
      rfl

theorem step_follows {call : NetConfigCall}
    (initialises : call.init? = some outcome) :
    Follows session outcome (netConfigMachine.next session call)
      (netConfigMachine.emit session call) := by
  cases call with
  | setKey key => cases initialises
  | clear => cases initialises
  | setIpConfigGateway ip mask gateway init exec gatewayInit gatewayExec =>
      cases initialises
      exact setIpConfigGateway_follows ip mask gateway exec gatewayInit
        gatewayExec
  | _ =>
      cases initialises
      exact withInit_follows fun session _ =>
        neutral_execMethod session _ _ _

@[simp] theorem released_beq (first second : Nat) :
    (ComEvent.released first == .released second) = (first == second) := by
  rw [Bool.eq_iff_iff, beq_iff_eq, beq_iff_eq, ComEvent.released.injEq]

@[simp] theorem released_beq_coInitialized (number : Nat) :
    (ComEvent.released number == .coInitialized) = false :=
  beq_false_of_ne ComEvent.noConfusion

@[simp] theorem released_beq_coUninitialized (number : Nat) :
    (ComEvent.released number == .coUninitialized) = false :=
  beq_false_of_ne ComEvent.noConfusion

theorem clear_tidy {after : NetSession}
    (inactive : after.config.isInit = false)
    (vacant : ∀ pointer, after.config.pointer pointer = none)
    (made : after.made = session.made) :
    Tidy session after session.config.clear.2 := by
  refine ⟨fun _ => vacant, ?_, ?_, ?_⟩
  · simp only [Account.Settles, Account.taken, Account.given, apartment,
      inactive, NetConfig.clear_events, List.countP_append, List.countP_map]
    cases session.config.isInit <;> simp [Function.comp_def]
  · intro interface
    have empty : heldIn NetConfig.pointers after.config.pointer interface =
        0 := heldIn_empty (fun pointer _ => vacant pointer) interface
    simp only [Account.Settles, Account.taken, Account.given, reference,
      empty, NetConfig.clear_events, List.countP_append, List.countP_map]
    rw [← count_filterMap_slots]
    cases session.config.isInit <;>
      simp [Function.comp_def, stores, List.count]
  · intro interface
    simp only [Account.Settles, Account.taken, Account.given, issue, made,
      NetConfig.clear_events, List.countP_append, List.countP_map]
    cases session.config.isInit <;> simp [Function.comp_def, stores]

theorem step_clears {call : NetConfigCall} (clears : call.init? = none) :
    Tidy session (netConfigMachine.next session call)
      (netConfigMachine.emit session call) := by
  cases call with
  | setKey key =>
      exact clear_tidy rfl (fun pointer => NetConfig.clear_pointer pointer)
        rfl
  | clear =>
      exact clear_tidy rfl (fun pointer => NetConfig.clear_pointer pointer)
        rfl
  | _ => cases clears

theorem step_tidy {call : NetConfigCall} (vacant : Vacant session)
    (whole : ¬ HalfwayInit session call) :
    Tidy session (netConfigMachine.next session call)
      (netConfigMachine.emit session call) := by
  cases initialises : call.init? with
  | none => exact step_clears initialises
  | some outcome =>
      obtain ⟨rest, events, neutral⟩ :=
        @step_follows session outcome call initialises
      rw [events]
      refine (init_tidy vacant ?_).neutral neutral
      exact fun halfway => whole ⟨outcome, initialises, halfway⟩

/-- A call never undoes more initialisations of COM than there are, and it leaves
one behind exactly when `init` ends halfway. -/
theorem step_covers (session : NetSession) (call : NetConfigCall) :
    apartment.Covers session (netConfigMachine.next session call)
      (netConfigMachine.emit session call) ∧
    (apartment.StepSettles netConfigMachine session call ↔
      ¬ HalfwayInit session call) := by
  unfold Account.StepSettles
  cases initialises : call.init? with
  | none =>
      have settled := (@step_clears session call initialises).apartment
      refine ⟨Nat.le_of_eq settled, iff_of_true settled ?_⟩
      intro halfway
      obtain ⟨outcome, other, -⟩ := halfway
      rw [initialises] at other
      cases other
  | some outcome =>
      obtain ⟨rest, events, neutral⟩ :=
        @step_follows session outcome call initialises
      obtain ⟨covers, settles⟩ := init_covers session outcome
      have kept := neutral.settles apartment_blind
      have halfway : HalfwayInit session call ↔
          session.Halfway outcome := by
        constructor
        · intro halfway
          obtain ⟨other, same, halfway⟩ := halfway
          rw [initialises, Option.some.injEq] at same
          subst same
          exact halfway
        · exact fun halfway => ⟨outcome, initialises, halfway⟩
      rw [halfway, ← settles, events]
      unfold Account.Covers at covers ⊢
      unfold Account.Settles at kept ⊢
      rw [Account.taken_append, Account.given_append]
      omega

end Calls

end NetSession

/-! The life of an object. -/

section Lifetime

open NetSession

variable (key : String) (calls : List NetConfigCall)

/-- The destructor does what one more `clear` does. -/
theorem lifetime_eq : NetConfig.lifetime key calls =
    netConfigMachine.outputs ⟨NetConfig.construct key, 0⟩
      (calls ++ [.clear]) := by
  rw [Machine.outputs_append, NetConfig.lifetime, Machine.outputs_cons,
    Machine.outputs_nil, List.append_nil]
  rfl

def afterLifetime : NetSession :=
  netConfigMachine.exec ⟨NetConfig.construct key, 0⟩ (calls ++ [.clear])

theorem afterLifetime_isInit :
    (afterLifetime key calls).config.isInit = false := by
  rw [afterLifetime, Machine.exec_append]
  rfl

theorem afterLifetime_pointer (pointer : Pointer) :
    (afterLifetime key calls).config.pointer pointer = none := by
  rw [afterLifetime, Machine.exec_append]
  exact NetConfig.clear_pointer pointer

theorem apartment_lifetime :
    apartment.Settles ⟨NetConfig.construct key, 0⟩ (afterLifetime key calls)
        (NetConfig.lifetime key calls) ↔
      (NetConfig.lifetime key calls).count .coInitialized =
        (NetConfig.lifetime key calls).count .coUninitialized := by
  have start : apartment.held ⟨NetConfig.construct key, 0⟩ = 0 := rfl
  have finish : apartment.held (afterLifetime key calls) = 0 := by
    simp only [apartment, afterLifetime_isInit, Bool.false_eq_true, if_false]
  rw [Account.Settles, start, finish, Nat.zero_add, Nat.zero_add, eq_comm]
  rfl

theorem reference_lifetime {interface : Nat}
    (settled : (reference interface).Settles ⟨NetConfig.construct key, 0⟩
      (afterLifetime key calls) (NetConfig.lifetime key calls)) :
    (NetConfig.lifetime key calls).count (.released interface) =
      (NetConfig.lifetime key calls).countP (stores interface) := by
  have start : (reference interface).held ⟨NetConfig.construct key, 0⟩ =
      0 := rfl
  have finish : (reference interface).held (afterLifetime key calls) = 0 :=
    heldIn_empty (fun pointer _ => afterLifetime_pointer key calls pointer)
      interface
  rw [Account.Settles, start, finish, Nat.zero_add, Nat.zero_add] at settled
  exact settled

theorem issue_lifetime {interface : Nat}
    (settled : (issue interface).Settles ⟨NetConfig.construct key, 0⟩
      (afterLifetime key calls) (NetConfig.lifetime key calls)) :
    (NetConfig.lifetime key calls).countP (stores interface) ≤ 1 := by
  have start : (issue interface).held ⟨NetConfig.construct key, 0⟩ = 0 := rfl
  have finish : (issue interface).held (afterLifetime key calls) ≤ 1 := by
    simp only [issue]
    split <;> omega
  have given : (issue interface).given (NetConfig.lifetime key calls) = 0 :=
    List.countP_eq_zero.mpr fun _ _ => Bool.false_ne_true
  rw [Account.Settles, start, given, Nat.zero_add, Nat.add_zero] at settled
  rw [settled] at finish
  exact finish

/-- A run of tidy calls settles every account that each of them settles. -/
theorem settles_lifetime {account : Account NetSession ComEvent}
    (settles : ∀ session call, Tidy session
      (netConfigMachine.next session call)
      (netConfigMachine.emit session call) →
      account.StepSettles netConfigMachine session call)
    (whole : netConfigMachine.EachStep
      (fun session call => ¬ HalfwayInit session call)
      ⟨NetConfig.construct key, 0⟩ calls) :
    account.Settles ⟨NetConfig.construct key, 0⟩ (afterLifetime key calls)
      (NetConfig.lifetime key calls) := by
  have vacant : Vacant ⟨NetConfig.construct key, 0⟩ := by
    intro _ pointer
    cases pointer <;> rfl
  rw [lifetime_eq]
  refine Account.run_settles ?_
  rw [Machine.eachStep_append]
  refine ⟨?_, settles _ _ (step_clears rfl), trivial⟩
  refine netConfigMachine.eachStep_of_inv Vacant ?_ calls _ vacant whole
  intro session call vacant whole
  have tidy := step_tidy vacant whole
  exact ⟨tidy.vacant, settles session call tidy⟩

end Lifetime

/-- The resources are balanced at the end of the destructor exactly when no call
ends in the middle of `init`. -/
theorem lifetime_balanced_iff (key : String) (calls : List NetConfigCall) :
    Balanced (NetConfig.lifetime key calls) ↔
      netConfigMachine.EachStep
        (fun session call => ¬ HalfwayInit session call)
        ⟨NetConfig.construct key, 0⟩ calls := by
  constructor
  · intro balanced
    have settled := (apartment_lifetime key calls).mpr balanced.apartment
    rw [afterLifetime, lifetime_eq, Account.run_settles_iff
      (fun session call => (NetSession.step_covers session call).1),
      Machine.eachStep_append] at settled
    refine netConfigMachine.eachStep_of_inv (fun _ => True) ?_ calls _
      trivial settled.1
    intro session call _ settles
    exact ⟨trivial, (NetSession.step_covers session call).2.mp settles⟩
  · intro whole
    refine ⟨(apartment_lifetime key calls).mp (settles_lifetime key calls
      (fun _ _ tidy => tidy.apartment) whole), ?_⟩
    intro pointer interface stored
    have released := reference_lifetime key calls (settles_lifetime key calls
      (fun _ _ tidy => tidy.reference interface) whole)
    have once := issue_lifetime key calls (settles_lifetime key calls
      (fun _ _ tidy => tidy.issue interface) whole)
    have found : 0 < (NetConfig.lifetime key calls).countP
        (NetSession.stores interface) :=
      List.countP_pos_iff.mpr ⟨_, stored, beq_self_eq_true interface⟩
    omega

/-! `ConfigIp` when WMI cannot be reached at first. -/

def wholeInit : InitOutcome where
  coInitializeEx := true
  coCreateInstance := .made
  connectServer := .made
  coSetProxyBlanket := true
  execQuery := .made
  next := .found
  get := some "Win32_NetworkAdapterConfiguration.Index=1"
  getObject := .made

def brokenInit : InitOutcome :=
  { wholeInit with connectServer := .failed true }

def retriedCalls : List NetConfigCall :=
  configIpCalls "eth1" .default brokenInit (.returned 0) wholeInit
    (.returned 0) wholeInit (.returned 0)

/-- `set_dns` initialises COM again. One initialisation and the first locator are
left behind. -/
theorem retriedCalls_unbalanced :
    (NetConfig.lifetime "" retriedCalls).count .coInitialized = 2 ∧
      (NetConfig.lifetime "" retriedCalls).count .coUninitialized = 1 ∧
      .stored .pInstance 0 ∈ NetConfig.lifetime "" retriedCalls ∧
      (NetConfig.lifetime "" retriedCalls).count (.released 0) = 0 ∧
      ¬ Balanced (NetConfig.lifetime "" retriedCalls) := by
  have opened : (NetConfig.lifetime "" retriedCalls).count .coInitialized =
      2 := by decide +kernel
  have closed : (NetConfig.lifetime "" retriedCalls).count
      .coUninitialized = 1 := by decide +kernel
  refine ⟨opened, closed, by decide +kernel, by decide +kernel, ?_⟩
  intro balanced
  have same := balanced.apartment
  rw [opened, closed] at same
  cases same

end PoeDhcp
