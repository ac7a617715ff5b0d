import PoeDhcp.LeaseTable
import PoeDhcp.PoolRanges

namespace PoeDhcp

open Foundation

/-! The addresses of the pools as numbers, for any number of adapters. -/

/-! A decimal number is read back as it was written, also when it is no octet. -/

theorem digitValue?_isDigit {digit : Char} (isDigit : digit.isDigit = true) :
    digitValue? 10 digit = some (digit.toNat - '0'.toNat) := by
  obtain ⟨zero_le, le_nine⟩ := Char.isDigit_iff_toNat.mp isDigit
  have low : '0' ≤ digit := Char.le_def.mpr (UInt32.le_iff_toNat_le.mpr zero_le)
  have high : digit ≤ '9' := Char.le_def.mpr (UInt32.le_iff_toNat_le.mpr le_nine)
  have small : digit.toNat - '0'.toNat < 10 := by
    have bounds : digit.toNat ≤ 57 := le_nine
    have zero : '0'.toNat = 48 := rfl
    omega
  unfold digitValue?
  dsimp only
  rw [if_pos (And.intro low high), if_pos small]

theorem numeral?_digits (digits : List Char)
    (areDigits : ∀ digit ∈ digits, digit.isDigit = true) (value : Nat) :
    numeral? 10 digits value = some (Nat.ofDigitChars 10 digits value) := by
  induction digits generalizing value with
  | nil => simp [numeral?]
  | cons digit rest ih =>
      obtain ⟨first, later⟩ := List.forall_mem_cons.mp areDigits
      rw [numeral?, digitValue?_isDigit first, Option.bind_some, ih later,
        Nat.ofDigitChars_cons, Nat.mul_comm value 10]

theorem isDigit_decimal {number : Nat} {digit : Char}
    (member : digit ∈ (toString number).toList) : digit.isDigit = true := by
  rw [Nat.toString_eq_repr, Nat.toList_repr] at member
  exact Nat.isDigit_of_mem_toDigits (by decide) (by decide) member

theorem dot_notMem_decimal (number : Nat) : '.' ∉ (toString number).toList := by
  intro member
  exact absurd (isDigit_decimal member) (by decide)

theorem head_toDigits (number : Nat) (positive : 0 < number) :
    (Nat.toDigits 10 number).head? ≠ some '0' := by
  induction number using Nat.strongRecOn with
  | ind number ih =>
      rw [Nat.toDigits_eq_if (by decide)]
      split
      · rename_i small
        have digits : ∀ digit < 10, 0 < digit →
            ([Nat.digitChar digit].head? : Option Char) ≠ some '0' := by
          decide
        exact digits number small positive
      · rename_i large
        have lower : number / 10 < number := Nat.div_lt_self positive (by decide)
        have upper : 0 < number / 10 := by omega
        rw [List.head?_append_of_ne_nil _ Nat.toDigits_ne_nil]
        exact ih _ lower upper

theorem addressPart?_decimal (number : Nat) :
    addressPart? (toString number).toList = some number := by
  have digits := numeral?_digits (toString number).toList
    (fun _ member => isDigit_decimal member) 0
  rcases Nat.eq_zero_or_pos number with rfl | positive
  · decide
  · have head := head_toDigits number positive
    rw [Nat.toString_eq_repr, Nat.toList_repr] at digits ⊢
    rw [Nat.ofDigitChars_ten_toDigits] at digits
    rw [← digits]
    unfold addressPart?
    split
    · rename_i empty
      exact absurd empty Nat.toDigits_ne_nil
    · rename_i zero
      rw [zero] at head
      exact absurd rfl head
    · rename_i zero
      rw [zero] at head
      exact absurd rfl head
    · rename_i zero
      rw [zero] at head
      exact absurd rfl head
    · rfl

/-! The texts that are made up for a segment. -/

namespace PoeDhcpSeverImpl

def segmentHost (segment host : Nat) : String :=
  kStartPoeIpHead ++ toString segment ++ "." ++ toString host

def segmentValue (segment host : Nat) : Nat :=
  192 * 0x1000000 + 168 * 0x10000 + segment * 0x100 + host

theorem splitOn_segmentHost (segment host : Nat) :
    (segmentHost segment host).toList.splitOn '.' =
      [['1', '9', '2'], ['1', '6', '8'], (toString segment).toList,
        (toString host).toList] := by
  have head : kStartPoeIpHead.toList =
      ['1', '9', '2'] ++ '.' :: (['1', '6', '8'] ++ ['.']) := by decide
  have dot : ".".toList = ['.'] := rfl
  simp only [segmentHost, String.toList_append, head, dot, List.append_assoc,
    List.cons_append, List.nil_append]
  have first := List.splitOn_append_cons_self_of_not_mem
    (show '.' ∉ ['1', '9', '2'] by decide)
    ('1' :: '6' :: '8' :: '.' :: ((toString segment).toList ++
      '.' :: (toString host).toList))
  have second := List.splitOn_append_cons_self_of_not_mem
    (show '.' ∉ ['1', '6', '8'] by decide)
    ((toString segment).toList ++ '.' :: (toString host).toList)
  simp only [List.cons_append, List.nil_append] at first second
  rw [first, second,
    List.splitOn_append_cons_self_of_not_mem (dot_notMem_decimal _),
    List.splitOn_eq_singleton (dot_notMem_decimal _)]

/-- A number above 255 makes the text invalid. -/
theorem inetAddr_segmentHost (segment host : Nat) :
    inetAddr (segmentHost segment host) =
      if segment < 256 ∧ host < 256 then
        htonl (BitVec.ofNat 32 (segmentValue segment host))
      else inaddrNone := by
  have notBlank : (segmentHost segment host).toList ≠ [' '] := by
    intro blank
    have parts := splitOn_segmentHost segment host
    rw [blank, List.splitOn_eq_singleton (by decide)] at parts
    exact absurd (congrArg List.length parts) (by simp)
  have parts : ((segmentHost segment host).toList.splitOn '.').mapM
      addressPart? = some [192, 168, segment, host] := by
    have first : addressPart? ['1', '9', '2'] = some 192 := by decide
    have second : addressPart? ['1', '6', '8'] = some 168 := by decide
    rw [splitOn_segmentHost]
    simp only [List.mapM_cons, List.mapM_nil, first, second,
      addressPart?_decimal, Option.bind_eq_bind, Option.bind_some,
      Option.pure_def]
  unfold inetAddr
  rw [if_neg notBlank, parts]
  simp only [Option.bind_some, addressValue?]
  by_cases octets : segment < 256 ∧ host < 256
  · have all : 192 < 256 ∧ 168 < 256 ∧ segment < 256 ∧ host < 256 :=
      ⟨by decide, by decide, octets⟩
    rw [if_pos all, if_pos octets]
    rfl
  · have notAll : ¬ (192 < 256 ∧ 168 < 256 ∧ segment < 256 ∧ host < 256) :=
      fun all => octets all.2.2
    rw [if_neg notAll, if_neg octets]

/-- The number that the configuration makes of such a text. -/
def hostValue (segment host : Nat) : DWORD :=
  if segment < 256 ∧ host < 256 then
    BitVec.ofNat 32 (segmentValue segment host)
  else inaddrNone

theorem ntohl_segmentHost (segment host : Nat) :
    ntohl (inetAddr (segmentHost segment host)) = hostValue segment host := by
  rw [inetAddr_segmentHost, hostValue]
  split
  · exact Word32.reverseBytes_reverseBytes _
  · decide

theorem toNat_hostValue {segment host : Nat} (octet : segment < 256)
    (small : host < 256) :
    (hostValue segment host).toNat = segmentValue segment host := by
  rw [hostValue, if_pos ⟨octet, small⟩, BitVec.toNat_ofNat]
  refine Nat.mod_eq_of_lt ?_
  simp only [segmentValue]
  omega

theorem toNat_hostValue_invalid {segment host : Nat}
    (invalid : ¬ (segment < 256 ∧ host < 256)) :
    (hostValue segment host).toNat = 0xffffffff := by
  rw [hostValue, if_neg invalid]
  rfl

/-! The pools of the adapters. -/

/-- The segment of the made up address with an index. -/
def poeSegment (index : Nat) : Nat :=
  (kStartPoeIpSegment + index) % 0x100000000

theorem poeGateway_eq (index : Nat) :
    poeGateway index = segmentHost (poeSegment index) 1 := by
  have one : toString 1 = "1" := by decide
  have tail : ".1" = "." ++ "1" := by decide
  rw [poeGateway, targetGateway, segmentHost, one, tail, ← String.append_assoc]
  rfl

theorem dropLast_poeGateway (index : Nat) :
    String.ofList (poeGateway index).toList.dropLast =
      kStartPoeIpHead ++ toString (poeSegment index) ++ "." := by
  have one : (toString 1).toList = ['1'] := by decide
  rw [poeGateway_eq, segmentHost, String.toList_append, one,
    List.dropLast_concat, String.ofList_toList]

def lastHost (host : Nat) : Nat :=
  min ((host + step) % 0x100000000) maxAddr

theorem poolConfig_texts (index host : Nat) :
    (poolConfig (poeIp index) host).address =
        segmentHost (poeSegment index) 1 ∧
      (poolConfig (poeIp index) host).minAddr =
        segmentHost (poeSegment index) host ∧
      (poolConfig (poeIp index) host).maxAddr =
        segmentHost (poeSegment index) (lastHost host) := by
  have segment := dropLast_poeGateway index
  refine ⟨poeGateway_eq index, ?_, ?_⟩
  · change String.ofList (poeGateway index).toList.dropLast ++ _ = _
    rw [segment]
    rfl
  · change (if _ then String.ofList (poeGateway index).toList.dropLast ++ _
      else String.ofList (poeGateway index).toList.dropLast ++ _) = _
    rw [segment, lastHost]
    split
    · rename_i above
      rw [Nat.min_eq_right (Nat.le_of_lt above)]
      rfl
    · rename_i below
      rw [Nat.min_eq_left (Nat.le_of_not_gt below)]
      rfl

theorem poolConfig_values (index host : Nat) :
    serverAddrValueOf (poolConfig (poeIp index) host) =
        hostValue (poeSegment index) 1 ∧
      minAddrValueOf (poolConfig (poeIp index) host) =
        hostValue (poeSegment index) host ∧
      maxAddrValueOf (poolConfig (poeIp index) host) =
        hostValue (poeSegment index) (lastHost host) := by
  obtain ⟨address, minAddr, maxAddr⟩ := poolConfig_texts index host
  have twice : ∀ dw, dwIpToValue (dwIpToValue dw) = dw :=
    Word32.reverseBytes_reverseBytes
  simp only [serverAddrValueOf, minAddrValueOf, maxAddrValueOf,
    setServerAddress, address, minAddr, maxAddr, ntohl_segmentHost, twice,
    and_self]

theorem lastHost_le (host : Nat) : lastHost host ≤ 254 :=
  Nat.min_le_right _ _

/-- An address that the server of an adapter can lease is a host of the adapter's
segment. -/
theorem pool_hosts {index host : Nat} {addr : DWORD}
    (pooled : PoolAddress (poolConfig (poeIp index) host) addr) :
    poeSegment index < 256 ∧ host < 256 ∧
      ∃ number, host ≤ number ∧ number ≤ lastHost host ∧
        addr.toNat = segmentValue (poeSegment index) number := by
  obtain ⟨serverAddr, minAddr, maxAddr⟩ := poolConfig_values index host
  have low := BitVec.le_def.mp pooled.min_le
  have high := BitVec.le_def.mp pooled.le_max
  have other := pooled.not_server
  have last := lastHost_le host
  rw [minAddr] at low
  rw [maxAddr] at high
  rw [serverAddr] at other
  have bound := addr.isLt
  by_cases octet : poeSegment index < 256
  · by_cases small : host < 256
    · rw [toNat_hostValue octet small] at low
      rw [toNat_hostValue octet (by omega)] at high
      refine ⟨octet, small, addr.toNat - segmentValue (poeSegment index) 0,
        ?_, ?_, ?_⟩ <;> simp only [segmentValue] at low high ⊢ <;> omega
    · rw [toNat_hostValue_invalid (fun valid => small valid.2)] at low
      rw [toNat_hostValue octet (by omega)] at high
      simp only [segmentValue] at high
      omega
  · -- The server's own address is as invalid as the bounds of the pool.
    rw [toNat_hostValue_invalid (fun valid => octet valid.1)] at low
    refine absurd (BitVec.eq_of_toNat_eq ?_) other
    rw [toNat_hostValue_invalid (fun valid => octet valid.1)]
    omega

/-- The number of the first host of a pool. -/
def firstHost (index : Nat) : Nat :=
  (2 + (step + 1) * index) % 0x100000000

/-- Segments and host numbers wrap around, but no pool with an address in it is
behind the twenty-third. -/
theorem index_of_hosts {start index : Nat} (early : start ≤ 1)
    (bound : index < 0x100000000)
    (octet : poeSegment (start + index) < 256)
    (small : firstHost index ≤ 254) :
    index ≤ 22 := by
  simp only [poeSegment, kStartPoeIpSegment, firstHost, step] at octet small
  rcases Nat.lt_or_ge (50 + (start + index)) 0x100000000 with below | above
  · rw [Nat.mod_eq_of_lt below] at octet
    rw [Nat.mod_eq_of_lt (by omega)] at small
    omega
  · -- Here the host numbers have wrapped around to just below 2 ^ 32.
    have high : 10 * 0x100000000 + 256 ≤ 2 + (10 + 1) * index := by omega
    obtain ⟨rest, split⟩ := Nat.exists_eq_add_of_le high
    have wrapped : 10 * 0x100000000 + 256 + rest =
        256 + rest + 0x100000000 * 10 := by omega
    rw [split, wrapped, Nat.add_mul_mod_self_left,
      Nat.mod_eq_of_lt (by omega)] at small
    omega

/-- The addresses that the server with an index can lease. -/
structure OwnHost (start index : Nat) (addr : DWORD) : Prop where
  index_le : index ≤ 22
  host : ∃ number, 2 + (step + 1) * index ≤ number ∧ number ≤ 254 ∧
    addr.toNat =
      segmentValue (kStartPoeIpSegment + (start + index)) number

theorem ownHost_of_pool {start index : Nat} (early : start ≤ 1)
    (bound : index < 0x100000000) {addr : DWORD}
    (pooled : PoolAddress
      (poolConfig (poeIp (start + index)) (firstHost index)) addr) :
    OwnHost start index addr := by
  obtain ⟨octet, -, number, low, high, value⟩ := pool_hosts pooled
  have last := lastHost_le (firstHost index)
  have index_le := index_of_hosts early bound octet (by omega)
  have first : firstHost index = 2 + (step + 1) * index := by
    refine Nat.mod_eq_of_lt ?_
    simp only [step]
    omega
  have segment : poeSegment (start + index) =
      kStartPoeIpSegment + (start + index) := by
    refine Nat.mod_eq_of_lt ?_
    simp only [kStartPoeIpSegment]
    omega
  refine ⟨index_le, number, ?_, by omega, ?_⟩
  · rw [← first]
    exact low
  · rw [← segment]
    exact value

/-- No two servers lease the same address. -/
theorem OwnHost.index_eq {start first second : Nat} {addr : DWORD}
    (one : OwnHost start first addr) (other : OwnHost start second addr) :
    first = second := by
  obtain ⟨_, number, _, small, value⟩ := one
  obtain ⟨_, number', _, small', value'⟩ := other
  rw [value] at value'
  simp only [segmentValue, kStartPoeIpSegment] at value'
  omega

end PoeDhcpSeverImpl

end PoeDhcp
