import PoeDhcp.PoeAddresses

namespace PoeDhcp

open Foundation

namespace PoeDhcpSeverImpl

/-! The adapter that `setPoeAdapterAddress` finds. -/

variable (impl : PoeDhcpSeverImpl)

/-- The PoE adapter with an index, in the order of the list. -/
def poeAdapter? (index : Int) : Option NetWorkAapterInfo :=
  if 0 ≤ index then impl.poeAdapters[index.toNat]? else none

theorem findPoeAdapter_eq (index start : Int)
    (infos : List NetWorkAapterInfo) :
    impl.findPoeAdapter index start infos =
      (if start ≤ index then
        (infos.filter impl.isPoeAdapter)[(index - start).toNat]?
      else none).getD .default := by
  induction infos generalizing start with
  | nil => simp [findPoeAdapter]
  | cons it rest ih =>
      rw [findPoeAdapter]
      by_cases isPoe : impl.isPoeAdapter it = true
      · rw [if_pos isPoe, List.filter_cons_of_pos isPoe]
        by_cases here : start = index
        · subst here
          simp
        · rw [if_neg here, ih]
          by_cases before : start ≤ index
          · have later : start + 1 ≤ index := by omega
            have next : (index - start).toNat =
                (index - (start + 1)).toNat + 1 := by omega
            rw [if_pos before, if_pos later, next, List.getElem?_cons_succ]
          · have past : ¬ start + 1 ≤ index := by omega
            rw [if_neg before, if_neg past]
      · rw [if_neg isPoe, List.filter_cons_of_neg isPoe, ih]

theorem findPoeAdapter_adapterInfos (index : Int) :
    impl.findPoeAdapter index 0 impl.adapterInfos =
      (impl.poeAdapter? index).getD .default := by
  rw [findPoeAdapter_eq, Int.sub_zero]
  rfl

theorem poeAdapter?_eq_none {index : Int} :
    impl.poeAdapter? index = none ↔
      ¬ (0 ≤ index ∧ index < impl.getPoeAdapterCount) := by
  have count : impl.getPoeAdapterCount = impl.poeAdapters.length :=
    List.countP_eq_length_filter
  unfold poeAdapter?
  split
  · rw [List.getElem?_eq_none_iff, count]
    omega
  · simp
    omega

/-- What is written to an adapter. -/
def requestedIp (address : AdapterAddr) : NetWorkIp where
  address := address.ip
  mask := address.mask
  gateWay := address.gayteWay
  dns := address.dns
  dns2 := address.dns2

/-- The two comparisons of `setPoeAdapterAddress` with what it has found. -/
def settle (info : NetWorkAapterInfo) (address : AdapterAddr) :
    Bool × List Effect :=
  if info.ip.address = address.ip then (true, [])
  else if info.ip.address ≠ "" then
    (true, [.configIp info.adapterName (requestedIp address)])
  else (false, [])

theorem setPoeAdapterAddress_eq (index : Int) (address : AdapterAddr) :
    impl.setPoeAdapterAddress index address =
      settle ((impl.poeAdapter? index).getD .default) address := by
  rw [← findPoeAdapter_adapterInfos]
  rfl

theorem settle_default (address : AdapterAddr) :
    (settle .default address).1 = true := by
  have nonempty : NetWorkAapterInfo.default.ip.address ≠ "" := by decide
  unfold settle
  rw [if_pos nonempty]
  split <;> rfl

/-- For an existing index the adapter already has the address or is configured,
once, and the call returns true. For any other index nothing is configured, and
the call returns false. -/
def AddressesRequested (index : Int) (address : AdapterAddr) : Prop :=
  if 0 ≤ index ∧ index < impl.getPoeAdapterCount then
    ∃ info, impl.poeAdapter? index = some info ∧
      ((info.ip.address = address.ip ∧
          impl.setPoeAdapterAddress index address = (true, [])) ∨
        impl.setPoeAdapterAddress index address =
          (true, [.configIp info.adapterName (requestedIp address)]))
  else
    impl.setPoeAdapterAddress index address = (false, [])

theorem addressesRequested_missing {index : Int}
    (missing : impl.poeAdapter? index = none) (address : AdapterAddr) :
    ¬ impl.AddressesRequested index address := by
  intro refused
  have returned := settle_default address
  rw [AddressesRequested, if_neg (impl.poeAdapter?_eq_none.mp missing),
    setPoeAdapterAddress_eq, missing, Option.getD_none] at refused
  rw [refused] at returned
  cases returned

theorem settle_valid_iff (info : NetWorkAapterInfo) (address : AdapterAddr) :
    (info.ip.address = address.ip ∧ settle info address = (true, [])) ∨
        settle info address =
          (true, [.configIp info.adapterName (requestedIp address)]) ↔
      info.ip.address ≠ "" ∨ address.ip = "" := by
  unfold settle
  by_cases already : info.ip.address = address.ip
  · rw [if_pos already, already]
    exact iff_of_true (Or.inl ⟨rfl, rfl⟩) (ne_or_eq _ _)
  · rw [if_neg already]
    by_cases nonempty : info.ip.address ≠ ""
    · rw [if_pos nonempty]
      exact iff_of_true (Or.inr rfl) (Or.inl nonempty)
    · have empty := not_not.mp nonempty
      rw [if_neg nonempty, empty]
      have other : address.ip ≠ "" :=
        fun blank => already (empty.trans blank.symm)
      simp [other]

theorem addressesRequested_iff (index : Int) (address : AdapterAddr) :
    impl.AddressesRequested index address ↔
      ∃ info, impl.poeAdapter? index = some info ∧
        (info.ip.address ≠ "" ∨ address.ip = "") := by
  cases search : impl.poeAdapter? index with
  | none =>
      refine iff_of_false (impl.addressesRequested_missing search address) ?_
      intro found
      obtain ⟨info, impossible, -⟩ := found
      cases impossible
  | some info =>
      have present : 0 ≤ index ∧ index < impl.getPoeAdapterCount := by
        by_contra missing
        rw [impl.poeAdapter?_eq_none.mpr missing] at search
        cases search
      rw [AddressesRequested, if_pos present, setPoeAdapterAddress_eq, search]
      simp only [Option.some.injEq, exists_eq_left', Option.getD_some,
        settle_valid_iff]

def sampleAddr : AdapterAddr where
  ip := "192.168.1.1"
  mask := "255.255.255.0"
  gayteWay := "192.168.1.254"
  dns := "8.8.8.8"
  dns2 := "8.8.4.4"

/-- There is no adapter, and one without a name is configured. -/
theorem missing_adapter_configured :
    ¬ (create []).AddressesRequested 0 sampleAddr := by
  have configured : (create []).setPoeAdapterAddress 0 sampleAddr =
      (true, [.configIp "" (requestedIp sampleAddr)]) := by decide
  intro requested
  rw [AddressesRequested, if_neg (by decide), configured] at requested
  cases requested

end PoeDhcpSeverImpl

/-! The adapters themselves, whose addresses `ConfigIp` changes. The list that the
interface keeps is not changed by it. -/

/-- `ConfigIp` puts the address on the adapters with the name. -/
def Effect.configure (effect : Effect) (info : NetWorkAapterInfo) :
    NetWorkAapterInfo :=
  match effect with
  | .configIp adapterName ip =>
      if info.adapterName = adapterName then { info with ip } else info
  | .destroyed _ => info

/-- An adapter after these effects. -/
def configured (effects : List Effect) (info : NetWorkAapterInfo) :
    NetWorkAapterInfo :=
  effects.foldl (fun info effect => effect.configure info) info

/-- The last address that was put on the adapters with a name. -/
def lastConfigured (adapterName : String) :
    List Effect → Option NetWorkIp
  | [] => none
  | .configIp name ip :: rest =>
      (lastConfigured adapterName rest).or
        (if adapterName = name then some ip else none)
  | .destroyed _ :: rest => lastConfigured adapterName rest

theorem configured_eq (effects : List Effect) (info : NetWorkAapterInfo) :
    configured effects info =
      { info with
        ip := (lastConfigured info.adapterName effects).getD info.ip } := by
  induction effects generalizing info with
  | nil => rfl
  | cons effect rest ih =>
      have later : configured (effect :: rest) info =
          configured rest (effect.configure info) := rfl
      rw [later, ih]
      cases effect with
      | destroyed server => rfl
      | configIp name ip =>
          simp only [Effect.configure, lastConfigured]
          by_cases same : info.adapterName = name
          · subst same
            simp only [if_true]
            cases lastConfigured info.adapterName rest with
            | none => rfl
            | some later => rfl
          · simp only [same, if_false, Option.or_none]

theorem configured_concat_configIp (effects : List Effect)
    (info : NetWorkAapterInfo) (ip : NetWorkIp) :
    (configured (effects ++ [.configIp info.adapterName ip]) info).ip = ip := by
  have name : (configured effects info).adapterName = info.adapterName := by
    rw [configured_eq]
  unfold configured at name ⊢
  rw [List.foldl_append, List.foldl_cons, List.foldl_nil, Effect.configure,
    if_pos name]

namespace PoeDhcpSeverImpl

/-- The PoE adapter with an index as it is after these effects, when it was in
`infos` before. -/
def realPoeAdapter? (impl : PoeDhcpSeverImpl) (infos : List NetWorkAapterInfo)
    (effects : List Effect) (index : Int) : Option NetWorkAapterInfo :=
  { impl with adapterInfos := infos.map (configured effects) }.poeAdapter?
    index

theorem realPoeAdapter?_eq (impl : PoeDhcpSeverImpl) (effects : List Effect)
    (index : Int) :
    impl.realPoeAdapter? impl.adapterInfos effects index =
      (impl.poeAdapter? index).map (configured effects) := by
  have isPoe : impl.isPoeAdapter ∘ configured effects = impl.isPoeAdapter := by
    funext info
    rw [Function.comp, configured_eq]
    rfl
  have adapters : (impl.adapterInfos.map (configured effects)).filter
      impl.isPoeAdapter = impl.poeAdapters.map (configured effects) := by
    rw [List.filter_map, isPoe]
    rfl
  unfold realPoeAdapter? poeAdapter?
  split
  · rw [← List.getElem?_map, ← adapters]
    rfl
  · rfl

/-- A call that returns true leaves the address on the adapter, and one that does
so without configuring it finds the address there. -/
structure Truthful (impl : PoeDhcpSeverImpl) (infos : List NetWorkAapterInfo)
    (effects : List Effect) (index : Int) (address : AdapterAddr) : Prop where
  applied : (impl.setPoeAdapterAddress index address).1 = true →
    ∀ info, impl.realPoeAdapter? infos
        (effects ++ (impl.setPoeAdapterAddress index address).2) index =
          some info →
      info.ip.address = address.ip
  shortcut : impl.setPoeAdapterAddress index address = (true, []) →
    ∀ info, impl.realPoeAdapter? infos effects index = some info →
      info.ip.address = address.ip

/-- If the call asks for the address in the list that the interface keeps, then
the adapter was not given another one last. -/
def KeptIsCurrent (impl : PoeDhcpSeverImpl) (effects : List Effect)
    (index : Int) (address : AdapterAddr) : Prop :=
  ∀ info, impl.poeAdapter? index = some info →
    info.ip.address = address.ip →
      ∀ ip, lastConfigured info.adapterName effects = some ip →
        ip.address = address.ip

section Found

variable {impl : PoeDhcpSeverImpl} {info : NetWorkAapterInfo} {index : Int}
variable {effects : List Effect} {address : AdapterAddr}

theorem setPoeAdapterAddress_found
    (search : impl.poeAdapter? index = some info) :
    impl.setPoeAdapterAddress index address = settle info address := by
  rw [setPoeAdapterAddress_eq, search]
  rfl

theorem realPoeAdapter?_found (search : impl.poeAdapter? index = some info)
    (effects : List Effect) :
    impl.realPoeAdapter? impl.adapterInfos effects index =
      some (configured effects info) := by
  rw [realPoeAdapter?_eq, search]
  rfl

theorem truthful_of_missing (missing : impl.poeAdapter? index = none) :
    impl.Truthful impl.adapterInfos effects index address := by
  have real : ∀ effects,
      impl.realPoeAdapter? impl.adapterInfos effects index = none := by
    intro effects
    rw [realPoeAdapter?_eq, missing]
    rfl
  exact ⟨by simp [real], by simp [real]⟩

theorem truthful_iff_of_already
    (search : impl.poeAdapter? index = some info)
    (already : info.ip.address = address.ip) :
    impl.Truthful impl.adapterInfos effects index address ↔
      (configured effects info).ip.address = address.ip := by
  have shortcut : impl.setPoeAdapterAddress index address = (true, []) := by
    rw [setPoeAdapterAddress_found search]
    exact if_pos already
  constructor
  · intro truthful
    exact truthful.shortcut shortcut _ (realPoeAdapter?_found search effects)
  · intro current
    have holds : ∀ found,
        impl.realPoeAdapter? impl.adapterInfos effects index = some found →
          found.ip.address = address.ip := by
      intro found real
      rw [realPoeAdapter?_found search, Option.some.injEq] at real
      rw [← real, current]
    refine ⟨?_, fun _ => holds⟩
    rw [shortcut, List.append_nil]
    exact fun _ => holds

theorem truthful_of_differs (search : impl.poeAdapter? index = some info)
    (differs : info.ip.address ≠ address.ip) :
    impl.Truthful impl.adapterInfos effects index address := by
  have result : impl.setPoeAdapterAddress index address =
      settle info address := setPoeAdapterAddress_found search
  rw [settle, if_neg differs] at result
  split at result
  · refine ⟨?_, by simp [result]⟩
    intro _ found real
    rw [result, realPoeAdapter?_found search, Option.some.injEq] at real
    rw [← real, configured_concat_configIp]
    rfl
  · exact ⟨by simp [result], by simp [result]⟩

theorem configured_address_iff (already : info.ip.address = address.ip) :
    (configured effects info).ip.address = address.ip ↔
      ∀ ip, lastConfigured info.adapterName effects = some ip →
        ip.address = address.ip := by
  rw [configured_eq]
  cases lastConfigured info.adapterName effects with
  | none => simp [already]
  | some ip => simp

end Found

theorem truthful_iff (impl : PoeDhcpSeverImpl) (effects : List Effect)
    (index : Int) (address : AdapterAddr) :
    impl.Truthful impl.adapterInfos effects index address ↔
      impl.KeptIsCurrent effects index address := by
  unfold KeptIsCurrent
  cases search : impl.poeAdapter? index with
  | none =>
      refine iff_of_true (truthful_of_missing search) ?_
      intro info impossible
      cases impossible
  | some info =>
      simp only [Option.some.injEq, forall_eq']
      by_cases already : info.ip.address = address.ip
      · rw [truthful_iff_of_already search already,
          configured_address_iff already]
        exact (imp_iff_right already).symm
      · exact iff_of_true (truthful_of_differs search already)
          fun asked => absurd asked already

theorem exec_adapterInfos (impl : PoeDhcpSeverImpl) (calls : List ApiCall) :
    (apiMachine.exec impl calls).adapterInfos = impl.adapterInfos := by
  refine apiMachine.exec_induction
    (I := fun state => state.adapterInfos = impl.adapterInfos) calls impl rfl ?_
  intro call _ state kept
  rw [← kept]
  cases call <;> rfl

/-- The calls of `setPoeAdapterAddress` in a run are truthful exactly when none
of them asks for a kept address that is out of date. -/
theorem setPoeAdapterAddress_truthful_iff (infos : List NetWorkAapterInfo)
    (calls : List ApiCall) :
    (∀ before index address after,
        calls = before ++ .setPoeAdapterAddress index address :: after →
        (apiMachine.exec (create infos) before).Truthful infos
          (apiMachine.outputs (create infos) before) index address) ↔
      ∀ before index address after,
        calls = before ++ .setPoeAdapterAddress index address :: after →
        (apiMachine.exec (create infos) before).KeptIsCurrent
          (apiMachine.outputs (create infos) before) index address := by
  have each : ∀ before index address,
      (apiMachine.exec (create infos) before).Truthful infos
          (apiMachine.outputs (create infos) before) index address ↔
        (apiMachine.exec (create infos) before).KeptIsCurrent
          (apiMachine.outputs (create infos) before) index address := by
    intro before index address
    have kept := exec_adapterInfos (create infos) before
    rw [← truthful_iff, kept]
    rfl
  simp only [each]

def sampleInfos : List NetWorkAapterInfo :=
  [⟨"PoE 1", "Intel(R) I211 Gigabit",
    { NetWorkIp.default with address := "192.168.1.1" }⟩]

/-- The address 192.168.1.1 is replaced, and then asked for again. -/
def replaceAddr : ApiCall :=
  .setPoeAdapterAddress 0 { sampleAddr with ip := "192.168.2.1" }

theorem replaced_address_reported :
    ¬ ∀ before index address after,
      [replaceAddr, .setPoeAdapterAddress 0 sampleAddr] =
          before ++ .setPoeAdapterAddress index address :: after →
        (apiMachine.exec (create sampleInfos) before).Truthful sampleInfos
          (apiMachine.outputs (create sampleInfos) before) index address := by
  intro truthful
  have last := (truthful [replaceAddr] 0 sampleAddr [] rfl).shortcut
    (by decide) _ rfl
  exact absurd last (by decide)

end PoeDhcpSeverImpl

end PoeDhcp
