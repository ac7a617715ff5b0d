import PoeDhcp.Model.Server

namespace PoeDhcp

open Foundation

/-! Dotted quads, and the words that the configuration makes of them. -/

/-- A byte in decimal. -/
def octetText (octet : BYTE) : String := toString octet.toNat

theorem addressPart?_octetText (octet : BYTE) :
    addressPart? (octetText octet).toList = some octet.toNat := by
  revert octet
  decide +kernel

theorem dot_notMem_octetText (octet : BYTE) :
    '.' ∉ (octetText octet).toList := by
  revert octet
  decide +kernel

structure DottedQuad where
  first : BYTE
  second : BYTE
  third : BYTE
  fourth : BYTE

namespace DottedQuad

def text (quad : DottedQuad) : String :=
  octetText quad.first ++ "." ++ octetText quad.second ++ "." ++
    octetText quad.third ++ "." ++ octetText quad.fourth

def bytes (quad : DottedQuad) : List BYTE :=
  [quad.first, quad.second, quad.third, quad.fourth]

/-- The number that the quad stands for. -/
def value (quad : DottedQuad) : Nat :=
  quad.first.toNat * 0x1000000 + quad.second.toNat * 0x10000 +
    quad.third.toNat * 0x100 + quad.fourth.toNat

theorem splitOn_text (quad : DottedQuad) :
    quad.text.toList.splitOn '.' =
      [(octetText quad.first).toList, (octetText quad.second).toList,
        (octetText quad.third).toList, (octetText quad.fourth).toList] := by
  have dot : ".".toList = ['.'] := rfl
  simp only [text, String.toList_append, dot, List.append_assoc,
    List.cons_append, List.nil_append]
  rw [List.splitOn_append_cons_self_of_not_mem (dot_notMem_octetText _),
    List.splitOn_append_cons_self_of_not_mem (dot_notMem_octetText _),
    List.splitOn_append_cons_self_of_not_mem (dot_notMem_octetText _),
    List.splitOn_eq_singleton (dot_notMem_octetText _)]

theorem inetAddr_text (quad : DottedQuad) :
    inetAddr quad.text = htonl (BitVec.ofNat 32 quad.value) := by
  have notBlank : quad.text.toList ≠ [' '] := by
    intro blank
    have parts := quad.splitOn_text
    rw [blank, List.splitOn_eq_singleton (by decide)] at parts
    exact absurd (congrArg List.length parts) (by simp)
  have parts : (quad.text.toList.splitOn '.').mapM addressPart? =
      some [quad.first.toNat, quad.second.toNat, quad.third.toNat,
        quad.fourth.toNat] := by
    rw [splitOn_text]
    simp [addressPart?_octetText]
  have octets : quad.first.toNat < 256 ∧ quad.second.toNat < 256 ∧
      quad.third.toNat < 256 ∧ quad.fourth.toNat < 256 :=
    ⟨quad.first.isLt, quad.second.isLt, quad.third.isLt, quad.fourth.isLt⟩
  unfold inetAddr
  rw [if_neg notBlank, parts]
  simp only [Option.bind_some, addressValue?, octets, and_self, if_true]
  rfl

/-- Stored as a word, the quad is its four numbers in the order in which they are
written. -/
theorem toBytes_inetAddr (quad : DottedQuad) :
    Word32.toBytes (inetAddr quad.text) = quad.bytes := by
  rw [inetAddr_text, htonl, Word32.toBytes_reverseBytes]
  have first := quad.first.isLt
  have second := quad.second.isLt
  have third := quad.third.isLt
  have fourth := quad.fourth.isLt
  simp only [Word32.bigEndian, bytes, List.cons.injEq, and_true]
  refine ⟨?_, ?_, ?_, ?_⟩ <;> apply BitVec.eq_of_toNat_eq <;>
    simp [value, Nat.shiftRight_eq_div_pow] <;> omega

end DottedQuad

@[simp] theorem dwIpToValue_ntohl (dw : DWORD) : dwIpToValue (ntohl dw) = dw :=
  Word32.reverseBytes_reverseBytes dw

theorem toBytes_dwValueToIp (dw : DWORD) :
    Word32.toBytes (dwValueToIp dw) = Word32.bigEndian dw :=
  Word32.toBytes_reverseBytes dw

/-- The texts of a configuration that are not the bounds of the pool are dotted
quads. -/
structure DhcpNetWorkAddr.Quads (netAddress : DhcpNetWorkAddr)
    (address mask dns dns2 : DottedQuad) : Prop where
  address : netAddress.address = address.text
  mask : netAddress.mask = mask.text
  dns : netAddress.dns = dns.text
  dns2 : netAddress.dns2 = dns2.text

theorem DhcpNetWorkAddr.Quads.toBytes {netAddress : DhcpNetWorkAddr}
    {address mask dns dns2 : DottedQuad}
    (quads : netAddress.Quads address mask dns dns2) :
    Word32.toBytes (setServerAddress netAddress).address = address.bytes ∧
      Word32.toBytes (setServerAddress netAddress).mask = mask.bytes ∧
      Word32.toBytes (setServerAddress netAddress).dns = dns.bytes ∧
      Word32.toBytes (setServerAddress netAddress).dns2 = dns2.bytes := by
  simp only [setServerAddress, dwIpToValue_ntohl, quads.address, quads.mask,
    quads.dns, quads.dns2, DottedQuad.toBytes_inetAddr, and_self]

end PoeDhcp
