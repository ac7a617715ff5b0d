import PoeDhcp.Discovery
import PoeDhcp.Foundation.CyclicSearch

namespace PoeDhcp

open Foundation
open DhcpServer

/-! The search loop of `assignAddress` as a list of tries. -/

namespace DhcpServer

section Tries

variable (low high : DWORD)

/-- The addresses that the loop looks at, from an offer on. -/
def triesFrom : Nat → DWORD → List DWORD
  | 0, _ => []
  | count + 1, offer =>
      wrapOffer low high offer ::
        triesFrom count (wrapOffer low high offer + 1)

/-- How often the loop runs. -/
def tryCount : Nat := max 1 (high - low).toNat

variable {low high}

theorem wrapOffer_of_le {offer : DWORD} (inside : offer ≤ high) :
    wrapOffer low high offer = offer :=
  if_neg (BitVec.not_lt.mpr inside)

theorem wrapOffer_le (ordered : low ≤ high) (offer : DWORD) :
    wrapOffer low high offer ≤ high := by
  unfold wrapOffer
  split
  · exact ordered
  · rename_i inside
    exact BitVec.not_lt.mp inside

theorem triesFrom_wrapOffer (ordered : low ≤ high) (count : Nat)
    (offer : DWORD) :
    triesFrom low high count (wrapOffer low high offer) =
      triesFrom low high count offer := by
  cases count with
  | zero => rfl
  | succ count =>
      rw [triesFrom, triesFrom,
        wrapOffer_of_le (wrapOffer_le ordered offer)]

/-- Up to the end of the pool the tries go on one by one. -/
theorem triesFrom_stretch {length : Nat} {offer : DWORD}
    (inside : length = 0 ∨ offer.toNat + length ≤ high.toNat + 1)
    (more : Nat) :
    (triesFrom low high (length + more) offer).map BitVec.toNat =
      List.range' offer.toNat length ++
        (triesFrom low high more (offer + BitVec.ofNat 32 length)).map
          BitVec.toNat := by
  induction length generalizing offer with
  | zero => simp
  | succ length ih =>
      have bound : offer.toNat + (length + 1) ≤ high.toNat + 1 :=
        inside.resolve_left (Nat.succ_ne_zero length)
      have inPool : offer ≤ high := by
        rw [BitVec.le_def]
        omega
      have next : length = 0 ∨ (offer + 1).toNat = offer.toNat + 1 := by
        have upper := high.isLt
        rw [BitVec.toNat_add]
        simp only [BitVec.reduceToNat]
        omega
      have offset : offer + 1 + BitVec.ofNat 32 length =
          offer + BitVec.ofNat 32 (length + 1) := by
        rw [BitVec.add_assoc, Nat.add_comm length, BitVec.ofNat_add]
        rfl
      have rest : List.range' (offer + 1).toNat length =
          List.range' (offer.toNat + 1) length := by
        rcases next with rfl | next
        · rfl
        · rw [next]
      rw [Nat.add_right_comm, triesFrom, wrapOffer_of_le inPool,
        List.map_cons, ih (next.imp_right (by omega)), rest, offset,
        List.range'_succ, List.cons_append]

/-- The loop finds the first try that is free and in the pool. -/
theorem assignLoop_eq_find (server : DhcpServer) {fuel tries : Nat}
    {count offer : DWORD} (enough : tries ≤ fuel)
    (remaining : tries + count.toNat = tryCount low high)
    (positive : 0 < tries) :
    server.assignLoop low high fuel count offer =
      (triesFrom low high tries offer).find? fun addr =>
        server.findAddrIndex addr = -1 ∧ low ≤ addr ∧ addr ≤ high := by
  induction fuel generalizing tries count offer with
  | zero => omega
  | succ fuel ih =>
      obtain ⟨later, rfl⟩ : ∃ later, tries = later + 1 :=
        ⟨tries - 1, by omega⟩
      have bound : tryCount low high < 2 ^ 32 := by
        have upper := (high - low).isLt
        simp only [tryCount]
        omega
      have counted : (count + 1).toNat = count.toNat + 1 := by
        rw [BitVec.toNat_add]
        simp only [BitVec.reduceToNat]
        omega
      have continues : count + 1 < high - low ↔ 0 < later := by
        rw [BitVec.lt_def, counted]
        simp only [tryCount] at remaining
        omega
      rw [assignLoop, triesFrom]
      by_cases valid :
          server.findAddrIndex (wrapOffer low high offer) = -1 ∧
            low ≤ wrapOffer low high offer ∧ wrapOffer low high offer ≤ high
      · rw [if_pos valid, List.find?_cons_of_pos (by simpa using valid)]
      · rw [if_neg valid, List.find?_cons_of_neg (by simpa using valid)]
        by_cases more : 0 < later
        · rw [if_pos (continues.mpr more)]
          exact ih (by omega) (by omega) more
        · rw [if_neg fun further => more (continues.mp further),
            Nat.eq_zero_of_not_pos more]
          rfl

end Tries

/-! The tries as numbers: from the one behind the last offer up to the end of the
pool, and then from where the loop restarts. -/

/-- Behind the end of the pool the loop goes on here. When the pool ends with
255.255.255.255 this is 0. -/
def restart (low high : DWORD) : DWORD := wrapOffer low high (high + 1)

/-- The tries that are left for the second part. -/
def restTries (low high last : DWORD) : Nat :=
  tryCount low high - (high.toNat - last.toNat)

section Numbers

variable {low high last : DWORD}

theorem toNat_sub_of_le (ordered : low ≤ high) :
    (high - low).toNat = high.toNat - low.toNat := by
  have lower : low.toNat ≤ high.toNat := ordered
  have upper := high.isLt
  rw [BitVec.toNat_sub]
  omega

theorem restart_of_lt (below : high < inaddrBroadcast) :
    restart low high = low := by
  have upper : high.toNat < 4294967295 := below
  have past : high < high + 1 := by
    rw [BitVec.lt_def, BitVec.toNat_add]
    simp only [BitVec.reduceToNat]
    omega
  exact if_pos past

theorem restart_of_top (top : high = inaddrBroadcast) :
    restart low high = 0 := by
  subst top
  have zero : inaddrBroadcast + 1 = 0 := by decide
  rw [restart, zero]
  exact if_neg (by decide)

theorem lt_inaddrBroadcast {addr : DWORD} (other : addr ≠ inaddrBroadcast) :
    addr < inaddrBroadcast := by
  have upper := addr.isLt
  have different : addr.toNat ≠ inaddrBroadcast.toNat :=
    fun same => other (BitVec.eq_of_toNat_eq same)
  rw [BitVec.lt_def]
  simp only [inaddrBroadcast, BitVec.reduceToNat] at different ⊢
  omega

theorem restart_le (low high : DWORD) :
    (restart low high).toNat ≤ low.toNat := by
  by_cases top : high = inaddrBroadcast
  · rw [restart_of_top top]
    exact Nat.zero_le _
  · rw [restart_of_lt (lt_inaddrBroadcast top)]

theorem tryCount_eq (ordered : low ≤ high) :
    tryCount low high = max 1 (high.toNat - low.toNat) := by
  rw [tryCount, toNat_sub_of_le ordered]

/-- Up to the last offer only the last offer itself is too late for a pool that
ends below 255.255.255.255. -/
theorem late_iff_of_lt (low_le : low ≤ last) (le_high : last ≤ high)
    (below : high < inaddrBroadcast) {number : Nat}
    (upper : number ≤ last.toNat) :
    (restart low high).toNat + restTries low high last ≤ number ↔
      number = last.toNat ∧ low < high := by
  have lower : low.toNat ≤ last.toNat := low_le
  have bound : last.toNat ≤ high.toNat := le_high
  rw [restart_of_lt below, restTries,
    tryCount_eq (BitVec.le_trans low_le le_high), BitVec.lt_def]
  omega

theorem late_iff_of_top (low_le : low ≤ last) (le_high : last ≤ high)
    (top : high = inaddrBroadcast) {number : Nat} (positive : 0 < number) :
    (restart low high).toNat + restTries low high last ≤ number ↔
      last.toNat ≤ number + low.toNat := by
  have le_last : low.toNat ≤ last.toNat := low_le
  have bound : last.toNat ≤ high.toNat := le_high
  rw [restart_of_top top, restTries,
    tryCount_eq (BitVec.le_trans low_le le_high)]
  simp only [BitVec.reduceToNat]
  omega

theorem triesFrom_numbers (low_le : low ≤ last) (le_high : last ≤ high) :
    (triesFrom low high (tryCount low high) (last + 1)).map BitVec.toNat =
      List.range' (last.toNat + 1) (high.toNat - last.toNat) ++
        List.range' (restart low high).toNat (restTries low high last) := by
  have lower : low.toNat ≤ last.toNat := low_le
  have upper : last.toNat ≤ high.toNat := le_high
  have bound := high.isLt
  have ordered : low ≤ high := BitVec.le_trans low_le le_high
  have count := tryCount_eq ordered
  have split : tryCount low high =
      (high.toNat - last.toNat) + restTries low high last := by
    rw [restTries]
    omega
  have next : high.toNat - last.toNat = 0 ∨
      (last + 1).toNat = last.toNat + 1 := by
    rw [BitVec.toNat_add]
    simp only [BitVec.reduceToNat]
    omega
  have stretch : List.range' (last + 1).toNat (high.toNat - last.toNat) =
      List.range' (last.toNat + 1) (high.toNat - last.toNat) := by
    rcases next with empty | next
    · rw [empty]
      rfl
    · rw [next]
  have past : last + 1 + BitVec.ofNat 32 (high.toNat - last.toNat) =
      high + 1 := by
    apply BitVec.eq_of_toNat_eq
    simp only [BitVec.toNat_add, BitVec.toNat_ofNat]
    omega
  have again : restTries low high last = 0 ∨ (restart low high).toNat +
      restTries low high last ≤ high.toNat + 1 := by
    have early := restart_le low high
    rw [restTries]
    omega
  have second : (triesFrom low high (restTries low high last + 0)
      (restart low high)).map BitVec.toNat = _ := triesFrom_stretch again 0
  rw [Nat.add_zero, triesFrom, List.map_nil, List.append_nil] at second
  rw [split, triesFrom_stretch (next.imp_right (by omega)), stretch, past,
    ← triesFrom_wrapOffer ordered, ← second]
  rfl

end Numbers

/-- No entry of the table has this address. -/
def isFree (server : DhcpServer) (number : Nat) : Bool :=
  server.addressesInUse.all fun entry => entry.dwAddrValue.toNat != number

theorem isFree_iff {server : DhcpServer} {addr : DWORD} :
    server.isFree addr.toNat = true ↔ server.findAddrIndex addr = -1 := by
  rw [findAddrIndex_eq_neg_one]
  simp [isFree, BitVec.toNat_inj]

/-- The loop is a cyclic search. -/
theorem searchAddress_eq_search {server : DhcpServer}
    (low_le : server.minAddrValue ≤ server.lastOfferAddress)
    (le_high : server.lastOfferAddress ≤ server.maxAddrValue) :
    server.searchAddress.map BitVec.toNat =
      CyclicSearch.search server.minAddrValue.toNat server.maxAddrValue.toNat
        server.lastOfferAddress.toNat server.isFree
        (restart server.minAddrValue server.maxAddrValue).toNat
        (restTries server.minAddrValue server.maxAddrValue
          server.lastOfferAddress) := by
  have enough : tryCount server.minAddrValue server.maxAddrValue ≤
      server.assignFuel := by
    rw [tryCount, assignFuel]
    omega
  have positive : 0 < tryCount server.minAddrValue server.maxAddrValue :=
    Nat.lt_of_lt_of_le Nat.one_pos (Nat.le_max_left _ _)
  have valid : (fun addr => decide (server.findAddrIndex addr = -1 ∧
      server.minAddrValue ≤ addr ∧ addr ≤ server.maxAddrValue)) =
        CyclicSearch.inRange server.minAddrValue.toNat
          server.maxAddrValue.toNat server.isFree ∘ BitVec.toNat := by
    funext addr
    rw [Function.comp, Bool.eq_iff_iff, decide_eq_true_eq,
      CyclicSearch.inRange_iff, isFree_iff]
    rfl
  rw [searchAddress, assignLoop_eq_find server enough (Nat.add_zero _)
    positive, valid, ← List.find?_map, triesFrom_numbers low_le le_high]
  rfl

/-! The last offer is an address of the pool in every state of a run. -/

structure LastInPool (server : DhcpServer) : Prop where
  min_le : server.minAddrValue ≤ server.lastOfferAddress
  le_max : server.lastOfferAddress ≤ server.maxAddrValue

section LastOffer

variable {server : DhcpServer}

theorem LastInPool.frame (inPool : server.LastInPool) {other : DhcpServer}
    (address : other.serverAddress = server.serverAddress)
    (last : other.lastOfferAddress = server.lastOfferAddress) :
    other.LastInPool where
  min_le := by
    rw [minAddrValue, address, last]
    exact inPool.min_le
  le_max := by
    rw [maxAddrValue, address, last]
    exact inPool.le_max

theorem LastInPool.found {addr : DWORD}
    (found : server.searchAddress = some addr) {other : DhcpServer}
    (address : other.serverAddress = server.serverAddress)
    (last : other.lastOfferAddress = addr) : other.LastInPool where
  min_le := by
    rw [minAddrValue, address, last]
    exact (searchAddress_some found).2.1
  le_max := by
    rw [maxAddrValue, address, last]
    exact (searchAddress_some found).2.2

theorem iteration_lastInPool (inPool : server.LastInPool)
    (datagram : Datagram) (localAlloc : Bool) :
    (server.iteration datagram localAlloc).server.LastInPool := by
  refine iteration_rule server datagram localAlloc (fun _ _ => inPool) ?_
  intro query result _ responds
  cases responds with
  | grant _ _ found => exact .found found rfl rfl
  | outOfMemory _ _ found => exact .found found rfl rfl
  | zeroAddress _ _ found => exact .found found rfl rfl
  | _ => exact inPool

theorem receive_lastInPool (inPool : server.LastInPool)
    (reception : Reception) : (server.receive reception).1.LastInPool := by
  cases reception with
  | threw => exact inPool.frame rfl rfl
  | failed => exact inPool
  | received datagram localAlloc sendTo =>
      have kept := iteration_lastInPool inPool datagram localAlloc
      simp only [receive]
      split
      · exact kept.frame rfl rfl
      · exact kept

theorem stop_lastInPool (inPool : server.LastInPool)
    (last : Option Reception) : (server.stop last).1.LastInPool := by
  refine stop_rule server last ?_ ?_ ?_
  · exact fun _ => inPool
  · exact fun _ => inPool.frame rfl rfl
  · intro reception _
    have stopping : { server with starting := false }.LastInPool :=
      inPool.frame rfl rfl
    exact (receive_lastInPool stopping reception).frame rfl rfl

theorem start_lastInPool (inPool : server.LastInPool)
    (last : Option Reception) (env : InitEnv) :
    (server.start last env).2.1.LastInPool := by
  have settled : (server.settle last).1.LastInPool := by
    unfold settle
    split
    · exact stop_lastInPool inPool last
    · exact inPool
  obtain ⟨_, _, _, initialised⟩ := initServer_frame (server.settle last).1 env
  have ready : ((server.settle last).1.initServer env).2.LastInPool := by
    rw [initialised]
    exact settled.frame rfl rfl
  cases success : env.succeeds with
  | true =>
      rw [start_success success]
      exact ready.frame rfl rfl
  | false =>
      rw [start_failure success]
      exact ready

theorem next_lastInPool (inPool : server.LastInPool) (event : Event) :
    (serverMachine.next server event).LastInPool := by
  cases event with
  | start last env => exact start_lastInPool inPool last env
  | stop last => exact stop_lastInPool inPool last
  | receive reception =>
      exact serverMachine.next_receive_rule server reception
        (fun _ => inPool) fun _ => receive_lastInPool inPool reception

end LastOffer

end DhcpServer

theorem run_lastInPool {netAddress : DhcpNetWorkAddr}
    (ordered : minAddrValueOf netAddress ≤ maxAddrValueOf netAddress)
    (events : List Event) :
    (serverMachine.exec (construct netAddress) events).LastInPool := by
  apply serverMachine.exec_induction
  · exact ⟨ordered, BitVec.le_refl _⟩
  · exact fun event _ server inPool => next_lastInPool inPool event

/-! The free address that the search should find, and the one that it does not
come to. -/

namespace DhcpServer

def InUse (server : DhcpServer) (addr : DWORD) : Prop :=
  ∃ entry ∈ server.addressesInUse, entry.dwAddrValue = addr

/-- `assignAddress` returns the first free address behind the last offer. -/
structure FindsFree (server : DhcpServer) : Prop where
  returns : server.assignAddress.1.toNat =
    (CyclicSearch.firstFree server.minAddrValue.toNat
      server.maxAddrValue.toNat server.lastOfferAddress.toNat
      server.isFree).getD 0
  exhausted : server.assignAddress.1 = 0 → ∀ addr,
    server.minAddrValue ≤ addr → addr ≤ server.maxAddrValue →
      server.InUse addr
  kept : server.assignAddress.1 = 0 →
    server.assignAddress.2.lastOfferAddress = server.lastOfferAddress

/-- The loop makes one try less than the pool has addresses, and when the pool
ends with 255.255.255.255 it goes on at 0 and not at the start of the pool. -/
inductive OverlooksFree (server : DhcpServer) : Prop
  | lastOnly
      (below : server.maxAddrValue < inaddrBroadcast)
      (several : server.minAddrValue < server.maxAddrValue)
      (free : ¬ server.InUse server.lastOfferAddress)
      (taken : ∀ addr, server.minAddrValue ≤ addr →
        addr ≤ server.maxAddrValue → addr ≠ server.lastOfferAddress →
          server.InUse addr)
  | lateRestart {addr}
      (top : server.maxAddrValue = inaddrBroadcast)
      (lower : server.minAddrValue ≤ addr)
      (upper : addr ≤ server.lastOfferAddress)
      (free : ¬ server.InUse addr)
      (taken_above : ∀ other, server.lastOfferAddress < other →
        other ≤ server.maxAddrValue → server.InUse other)
      (taken : ∀ other, server.minAddrValue ≤ other → other < addr →
        server.InUse other)
      (late : server.lastOfferAddress.toNat ≤
        addr.toNat + server.minAddrValue.toNat)

section Exactness

variable {server : DhcpServer}

theorem isFree_eq_false {addr : DWORD} :
    server.isFree addr.toNat = false ↔ server.InUse addr := by
  rw [← Bool.not_eq_true, isFree_iff, findAddrIndex_eq_neg_one]
  simp [InUse]

theorem isFree_eq_true {addr : DWORD} :
    server.isFree addr.toNat = true ↔ ¬ server.InUse addr := by
  rw [← isFree_eq_false, Bool.not_eq_false]

theorem exists_toNat {number : Nat} {bound : DWORD}
    (inside : number ≤ bound.toNat) : ∃ addr : DWORD, addr.toNat = number := by
  have upper := bound.isLt
  exact ⟨BitVec.ofNat 32 number, by rw [BitVec.toNat_ofNat]; omega⟩

/-- The search of this server does not come to the number. -/
def Overlooks (server : DhcpServer) : Nat → Prop :=
  CyclicSearch.Overlooks server.minAddrValue.toNat
    server.maxAddrValue.toNat server.lastOfferAddress.toNat server.isFree
    (restart server.minAddrValue server.maxAddrValue).toNat
    (restTries server.minAddrValue server.maxAddrValue
      server.lastOfferAddress)

theorem OverlooksFree.exists_number (positive : 0 < server.minAddrValue)
    (inPool : server.LastInPool) (overlooks : server.OverlooksFree) :
    ∃ number, server.Overlooks number := by
  have positive : 0 < server.minAddrValue.toNat := positive
  cases overlooks with
  | lastOnly below several free taken =>
      have low_le : server.minAddrValue.toNat ≤
          server.lastOfferAddress.toNat := inPool.min_le
      have le_high : server.lastOfferAddress.toNat ≤
          server.maxAddrValue.toNat := inPool.le_max
      have other_taken : ∀ other : Nat,
          server.minAddrValue.toNat ≤ other →
            other ≤ server.maxAddrValue.toNat →
              other ≠ server.lastOfferAddress.toNat →
                server.isFree other = false := by
        intro other lower upper different
        obtain ⟨addr, rfl⟩ := exists_toNat upper
        exact isFree_eq_false.mpr
          (taken addr lower upper fun same => different (by rw [same]))
      refine ⟨server.lastOfferAddress.toNat, low_le, Nat.le_refl _,
        isFree_eq_true.mpr free, ?_, ?_, ?_⟩
      · exact fun other lower upper =>
          other_taken other (by omega) upper (by omega)
      · exact fun other lower upper =>
          other_taken other lower (by omega) (by omega)
      · exact (late_iff_of_lt inPool.min_le inPool.le_max below
          (Nat.le_refl _)).mpr ⟨rfl, several⟩
  | lateRestart top lower upper free taken_above taken late =>
      rename_i addr
      have low_le : server.minAddrValue.toNat ≤ addr.toNat := lower
      refine ⟨addr.toNat, lower, upper, isFree_eq_true.mpr free, ?_, ?_, ?_⟩
      · intro other after before
        obtain ⟨other, rfl⟩ := exists_toNat before
        exact isFree_eq_false.mpr (taken_above other after before)
      · intro other after before
        obtain ⟨other, rfl⟩ := exists_toNat (Nat.le_of_lt before)
        exact isFree_eq_false.mpr (taken other after before)
      · exact (late_iff_of_top inPool.min_le inPool.le_max top
          (by omega)).mpr late

theorem OverlooksFree.of_number (positive : 0 < server.minAddrValue)
    (inPool : server.LastInPool) {number : Nat}
    (overlooks : server.Overlooks number) : server.OverlooksFree := by
  obtain ⟨lower, upper, isFree, taken_above, taken, late⟩ := overlooks
  obtain ⟨addr, rfl⟩ := exists_toNat upper
  have positive : 0 < server.minAddrValue.toNat := positive
  have free := isFree_eq_true.mp isFree
  have used_above : ∀ other, server.lastOfferAddress < other →
      other ≤ server.maxAddrValue → server.InUse other :=
    fun other after before => isFree_eq_false.mp
      (taken_above other.toNat after before)
  have used_below : ∀ other, server.minAddrValue ≤ other → other < addr →
      server.InUse other :=
    fun other after before => isFree_eq_false.mp
      (taken other.toNat after before)
  by_cases top : server.maxAddrValue = inaddrBroadcast
  · rw [late_iff_of_top inPool.min_le inPool.le_max top (by omega)] at late
    exact .lateRestart top lower upper free used_above used_below late
  · have below := lt_inaddrBroadcast top
    rw [late_iff_of_lt inPool.min_le inPool.le_max below upper] at late
    obtain ⟨last, several⟩ := late
    have same : addr = server.lastOfferAddress := BitVec.eq_of_toNat_eq last
    subst same
    refine .lastOnly below several free ?_
    intro other after before different
    by_cases above : server.lastOfferAddress < other
    · exact used_above other above before
    · exact used_below other after
        (BitVec.lt_of_le_ne (BitVec.not_lt.mp above) different)

theorem assignAddress_toNat (server : DhcpServer) :
    server.assignAddress.1.toNat =
      (server.searchAddress.map BitVec.toNat).getD 0 := by
  cases search : server.searchAddress with
  | none =>
      rw [assignAddress_exhausted search]
      rfl
  | some addr =>
      rw [assignAddress_found search]
      rfl

theorem assignAddress_kept (positive : 0 < server.minAddrValue)
    (exhausted : server.assignAddress.1 = 0) :
    server.assignAddress.2.lastOfferAddress = server.lastOfferAddress := by
  cases search : server.searchAddress with
  | none => rw [assignAddress_exhausted search]
  | some addr =>
      rw [assignAddress_found search] at exhausted
      have zero : addr = 0 := exhausted
      have lower := (searchAddress_some search).2.1
      rw [zero] at lower
      exact absurd positive (BitVec.not_lt.mpr lower)

/-- Which free address the search finds, from a last offer in the pool. -/
theorem findsFree_iff (positive : 0 < server.minAddrValue)
    (inPool : server.LastInPool) :
    server.FindsFree ↔ ¬ server.OverlooksFree := by
  have low_pos : 0 < server.minAddrValue.toNat := positive
  have searched := searchAddress_eq_search inPool.min_le inPool.le_max
  have overlooked : server.OverlooksFree ↔ ∃ number, server.Overlooks number :=
    ⟨fun overlooks => overlooks.exists_number positive inPool,
      fun ⟨_, found⟩ => .of_number positive inPool found⟩
  rw [overlooked, not_exists]
  unfold Overlooks
  rw [← CyclicSearch.search_eq_firstFree_iff
    (restart_le server.minAddrValue server.maxAddrValue)
    inPool.min_le inPool.le_max, ← searched]
  constructor
  · intro finds
    have returns := finds.returns
    rw [assignAddress_toNat, searched] at returns
    rw [searched]
    exact CyclicSearch.eq_of_getD_eq low_pos inPool.min_le returns
  · intro found
    have returns := assignAddress_toNat server
    rw [found] at returns
    refine ⟨returns, ?_, assignAddress_kept positive⟩
    intro zero addr lower upper
    rw [zero] at returns
    exact isFree_eq_false.mp
      (CyclicSearch.taken_of_getD_eq_zero low_pos inPool.min_le returns.symm
        lower upper)

end Exactness

end DhcpServer

/-- In every state of a run `assignAddress` finds the next free address, unless
the loop ends before it comes to it. -/
theorem assignAddress_findsFree_iff (netAddress : DhcpNetWorkAddr)
    (positive : 0 < minAddrValueOf netAddress)
    (ordered : minAddrValueOf netAddress ≤ maxAddrValueOf netAddress)
    (events : List Event) :
    (serverMachine.exec (construct netAddress) events).FindsFree ↔
      ¬ (serverMachine.exec (construct netAddress) events).OverlooksFree := by
  apply findsFree_iff
  · rw [minAddrValue_eq (exec_serverAddress netAddress events)]
    exact positive
  · exact run_lastInPool ordered events

theorem sampleServer_findsFree :
    (serverMachine.exec (construct sampleNetAddress)
      [.start none sampleEnv]).FindsFree := by
  refine (assignAddress_findsFree_iff sampleNetAddress (by decide +kernel)
    (by decide +kernel) [.start none sampleEnv]).mpr ?_
  intro overlooks
  have unused : ¬ sampleServer.InUse (minAddrValueOf sampleNetAddress) := by
    rw [← isFree_eq_true]
    decide +kernel
  cases overlooks with
  | lastOnly below several free taken =>
      exact unused (taken _ (by decide +kernel) (by decide +kernel)
        (by decide +kernel))
  | lateRestart top =>
      revert top
      decide +kernel

/-- A pool of two addresses, with the address of the server in it. -/
def pairNetAddress : DhcpNetWorkAddr :=
  { sampleNetAddress with
    minAddr := "192.168.50.1"
    maxAddr := "192.168.50.2" }

/-- The second address of the pool is free and is not found. -/
theorem secondAddress_overlooked :
    (0 < minAddrValueOf pairNetAddress ∧
      minAddrValueOf pairNetAddress ≤ maxAddrValueOf pairNetAddress) ∧
    ¬ (serverMachine.exec (construct pairNetAddress)
      [.start none sampleEnv]).FindsFree := by
  refine ⟨by decide +kernel, ?_⟩
  intro finds
  have used := finds.exhausted (by decide +kernel)
    (maxAddrValueOf pairNetAddress) (by decide +kernel) (by decide +kernel)
  rw [← isFree_eq_false] at used
  revert used
  decide +kernel

end PoeDhcp
