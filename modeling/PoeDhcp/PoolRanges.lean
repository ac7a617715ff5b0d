import PoeDhcp.DottedQuad
import PoeDhcp.PoeAddresses

namespace PoeDhcp

open Foundation

/-! The pools that `getDhcpAddressList` gives to the servers. -/

/-- Three octets that the addresses of a subnet share. -/
structure SubnetPrefix where
  first : BYTE
  second : BYTE
  third : BYTE

def SubnetPrefix.host (net : SubnetPrefix) (number : Nat) : String :=
  octetText net.first ++ "." ++ octetText net.second ++ "." ++
    octetText net.third ++ "." ++ toString number

theorem SubnetPrefix.host_injective (net : SubnetPrefix) :
    Function.Injective net.host := by
  intro first second same
  have texts := congrArg String.toList same
  simp only [host, String.toList_append, List.append_cancel_left_eq] at texts
  exact decimal_injective (String.toList_injective texts)

/-- The gateway without its last character is the prefix with its dot. -/
theorem SubnetPrefix.dropLast_host_one (net : SubnetPrefix) :
    String.ofList (net.host 1).toList.dropLast =
      octetText net.first ++ "." ++ octetText net.second ++ "." ++
        octetText net.third ++ "." := by
  have one : (toString 1).toList = ['1'] := by decide
  rw [host, String.toList_append, one, List.dropLast_concat,
    String.ofList_toList]

namespace PoeDhcpSeverImpl

/-- The pool is a range of host numbers on the subnet of the server, without the
server's own number 1. -/
structure UsablePool (it : NetWorkIp) (config : DhcpNetWorkAddr)
    (low high : Nat) : Prop where
  bounds : ∃ net : SubnetPrefix, it.gateWay = net.host 1 ∧
    config.minAddr = net.host low ∧ config.maxAddr = net.host high
  two_le : 2 ≤ low
  low_le_high : low ≤ high
  high_le : high ≤ 254

/-- Every pool is usable, and no two overlap. -/
def UsablePools (ips : List NetWorkIp) : Prop :=
  ∃ low high : Nat → Nat,
    (∀ index it config, ips[index]? = some it →
      (getDhcpAddressList ips)[index]? = some config →
        UsablePool it config (low index) (high index)) ∧
    ∀ first < ips.length, ∀ second < ips.length, first ≠ second →
      high first < low second ∨ high second < low first

/-- The address is number 1 of its subnet. -/
def IsFirstHost (it : NetWorkIp) : Prop :=
  ∃ net : SubnetPrefix, it.address = net.host 1 ∧ it.gateWay = net.host 1

theorem poolConfig_minAddr {it : NetWorkIp} {net : SubnetPrefix}
    (gateWay : it.gateWay = net.host 1) (minAddr : Nat) :
    (poolConfig it minAddr).minAddr = net.host minAddr := by
  rw [poolConfig, gateWay]
  dsimp only
  rw [net.dropLast_host_one]
  rfl

theorem poolConfig_maxAddr {it : NetWorkIp} {net : SubnetPrefix}
    (gateWay : it.gateWay = net.host 1) {minAddr : Nat}
    (small : minAddr + step < 0x100000000) :
    (poolConfig it minAddr).maxAddr =
      net.host (min (minAddr + step) maxAddr) := by
  rw [poolConfig, gateWay]
  dsimp only
  rw [net.dropLast_host_one, Nat.mod_eq_of_lt small]
  split
  · rename_i above
    rw [Nat.min_eq_right (Nat.le_of_lt above)]
    rfl
  · rename_i below
    rw [Nat.min_eq_left (Nat.le_of_not_gt below)]
    rfl

theorem getDhcpAddressList_getElem? {ips : List NetWorkIp} {index : Nat}
    {it : NetWorkIp} (found : ips[index]? = some it) :
    (getDhcpAddressList ips)[index]? =
      some (poolConfig it ((2 + (step + 1) * index) % 0x100000000)) := by
  rw [getDhcpAddressList_eq, List.getElem?_mapIdx, found]
  rfl

theorem usablePools_of_short {ips : List NetWorkIp}
    (firstHosts : ∀ it ∈ ips, IsFirstHost it) (short : ips.length ≤ 23) :
    UsablePools ips := by
  refine ⟨fun index => 2 + (step + 1) * index,
    fun index => min (2 + (step + 1) * index + step) maxAddr, ?_, ?_⟩
  · intro index it config found pooled
    have bound := (List.getElem?_eq_some_iff.mp found).1
    obtain ⟨net, -, gateWay⟩ := firstHosts it (List.mem_of_getElem? found)
    have last : 2 + (step + 1) * index ≤ maxAddr := by
      simp only [step, maxAddr]
      omega
    have small : 2 + (step + 1) * index + step < 0x100000000 := by
      simp only [step, maxAddr] at last ⊢
      omega
    rw [getDhcpAddressList_getElem? found, Option.some.injEq,
      Nat.mod_eq_of_lt (Nat.lt_of_le_of_lt (Nat.le_add_right _ _) small)]
      at pooled
    subst pooled
    exact
      { bounds := ⟨net, gateWay, poolConfig_minAddr gateWay _,
          poolConfig_maxAddr gateWay small⟩
        two_le := Nat.le_add_right _ _
        low_le_high := Nat.le_min.mpr ⟨Nat.le_add_right _ _, last⟩
        high_le := Nat.min_le_right _ _ }
  · intro first _ second _ different
    simp only [step]
    omega

/-- The twenty-fourth pool would start at host number 255. -/
theorem not_usablePools_of_long {ips : List NetWorkIp}
    (long : 23 < ips.length) : ¬ UsablePools ips := by
  intro usable
  obtain ⟨low, high, pools, -⟩ := usable
  have found := List.getElem?_eq_getElem long
  obtain ⟨⟨net, gateWay, minAddr, -⟩, -, ordered, bounded⟩ :=
    pools 23 _ _ found (getDhcpAddressList_getElem? found)
  rw [poolConfig_minAddr gateWay] at minAddr
  have number := net.host_injective minAddr
  simp only [step] at number
  omega

theorem usablePools_iff {ips : List NetWorkIp}
    (firstHosts : ∀ it ∈ ips, IsFirstHost it) :
    UsablePools ips ↔ ips.length ≤ 23 := by
  constructor
  · intro usable
    by_contra long
    exact not_usablePools_of_long (by omega) usable
  · exact usablePools_of_short firstHosts

theorem isFirstHost_poeIp_zero : IsFirstHost (poeIp 0) :=
  ⟨⟨192, 168, 50⟩, by decide, by decide⟩

/-- The adapters 192.168.50.1 to 192.168.72.1. -/
def twentyThreeIps : List NetWorkIp :=
  (List.range 23).map poeIp

theorem usablePools_twentyThree : UsablePools twentyThreeIps := by
  refine (usablePools_iff ?_).mpr (by decide)
  have texts : ∀ index < 23, poeGateway index =
      SubnetPrefix.host ⟨192, 168, BitVec.ofNat 8 (50 + index)⟩ 1 := by
    decide +kernel
  intro it member
  obtain ⟨index, inside, rfl⟩ := List.mem_map.mp member
  have text := texts index (List.mem_range.mp inside)
  exact ⟨_, text, text⟩

theorem not_usablePools_twentyFour :
    (∀ it ∈ List.replicate 24 (poeIp 0), IsFirstHost it) ∧
      ¬ UsablePools (List.replicate 24 (poeIp 0)) := by
  refine ⟨?_, not_usablePools_of_long (by simp)⟩
  intro it member
  rw [List.eq_of_mem_replicate member]
  exact isFirstHost_poeIp_zero

end PoeDhcpSeverImpl

end PoeDhcp
