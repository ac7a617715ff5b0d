import Mathlib.Data.List.TakeWhile
import PoeDhcp.Inspection

namespace PoeDhcp

open Foundation

/-! Names as the own-host filter compares them: up to the first zero byte and
without case. -/

theorem toLower_toLower (byte : BYTE) : toLower (toLower byte) = toLower byte := by
  revert byte
  decide +kernel

theorem toLower_ne_zero {byte : BYTE} (nonzero : byte ≠ 0) :
    toLower byte ≠ 0 := by
  revert byte
  decide +kernel

def foldedName (name : List BYTE) : List BYTE :=
  (cString name).map toLower

theorem cString_append_of_mem {name : List BYTE} (ends : 0 ∈ name)
    (rest : List BYTE) : cString (name ++ rest) = cString name := by
  unfold cString
  induction name with
  | nil => cases ends
  | cons byte name ih =>
      by_cases zero : byte = 0
      · simp [zero]
      · have later : 0 ∈ name :=
          (List.mem_cons.mp ends).resolve_left (Ne.symm zero)
        simp only [List.cons_append, ne_eq, zero, not_false_eq_true,
          decide_true, List.takeWhile_cons_of_pos]
        exact congrArg (List.cons byte) (ih later)

theorem cString_append_of_not_mem {name : List BYTE} (open_ : 0 ∉ name)
    (rest : List BYTE) : cString (name ++ rest) = name ++ cString rest := by
  unfold cString
  apply List.takeWhile_append_of_pos
  intro byte member
  have nonzero : byte ≠ 0 := fun zero => open_ (zero ▸ member)
  simpa using nonzero

theorem foldedName_ne_zero {name : List BYTE} {byte : BYTE}
    (member : byte ∈ foldedName name) : byte ≠ 0 := by
  obtain ⟨original, horiginal, rfl⟩ := List.mem_map.mp member
  have kept := List.mem_takeWhile_imp horiginal
  exact toLower_ne_zero (by simpa using kept)

theorem foldedName_ne_nil {name : List BYTE} (nonempty : name.headD 0 ≠ 0) :
    foldedName name ≠ [] := by
  cases name with
  | nil => exact False.elim (nonempty rfl)
  | cons head rest =>
      rw [List.headD_cons] at nonempty
      unfold foldedName cString
      rw [List.takeWhile_cons_of_pos (by simpa using nonempty)]
      exact List.cons_ne_nil _ _

theorem toLower_of_mem_foldedName {name : List BYTE} {byte : BYTE}
    (member : byte ∈ foldedName name) : toLower byte = byte := by
  obtain ⟨original, -, rfl⟩ := List.mem_map.mp member
  exact toLower_toLower original

namespace DhcpServer

theorem isOwnHost_iff {server : DhcpServer} {name : List BYTE} :
    server.isOwnHost name = true ↔
      server.serverHostName.headD 0 ≠ 0 ∧
        foldedName name = foldedName server.serverHostName := by
  simp [isOwnHost, stricmpEqual, foldedName]

end DhcpServer

/-! The buffer that the request's name is copied into. -/

namespace Datagram

variable {datagram : Datagram} {found : OptionData}

theorem clientName_none
    (missing : datagram.findOption optionHostName = none) :
    datagram.clientName = List.replicate maxHostNameLength 0 := by
  have search : findOptionData optionHostName datagram.options
      datagram.optionsSize = none := missing
  unfold clientName DhcpServer.clientHostName getRequestClientName
  rw [search]

theorem clientName_some
    (hfound : datagram.findOption optionHostName = some found) :
    datagram.clientName =
      datagram.options.read found.offset (min (found.size + 1) 255) ++
        List.replicate (256 - min (found.size + 1) 255) 0 := by
  have search : findOptionData optionHostName datagram.options
      datagram.optionsSize = some found := hfound
  unfold clientName DhcpServer.clientHostName getRequestClientName
  rw [search]
  simp only [maxHostNameLength, List.drop_replicate]

theorem clientName_short
    (hfound : datagram.findOption optionHostName = some found)
    (short : found.size ≤ 254) :
    datagram.clientName =
      datagram.options.read found.offset found.size ++
        datagram.options (found.offset + found.size) ::
          0 :: List.replicate (254 - found.size) 0 := by
  have size : min (found.size + 1) 255 = found.size + 1 := by omega
  have padding : 256 - (found.size + 1) = 254 - found.size + 1 := by omega
  rw [clientName_some hfound, size, Memory.read_append, padding,
    List.replicate_succ, List.append_assoc]
  rfl

/-- A zero byte inside the name ends it, whatever follows. -/
theorem foldedName_of_mem
    (hfound : datagram.findOption optionHostName = some found)
    (short : found.size ≤ 254)
    (ends : 0 ∈ datagram.options.read found.offset found.size) :
    foldedName datagram.clientName =
      foldedName (datagram.options.read found.offset found.size) := by
  unfold foldedName
  rw [clientName_short hfound short, cString_append_of_mem ends]

theorem foldedName_of_zero
    (hfound : datagram.findOption optionHostName = some found)
    (short : found.size ≤ 254)
    (runs : 0 ∉ datagram.options.read found.offset found.size)
    (zero : datagram.options (found.offset + found.size) = 0) :
    foldedName datagram.clientName =
      (datagram.options.read found.offset found.size).map toLower := by
  unfold foldedName
  rw [clientName_short hfound short, cString_append_of_not_mem runs, zero]
  simp [cString]

/-- Otherwise the byte behind the name becomes a part of it. -/
theorem foldedName_of_nonzero
    (hfound : datagram.findOption optionHostName = some found)
    (short : found.size ≤ 254)
    (runs : 0 ∉ datagram.options.read found.offset found.size)
    (nonzero : datagram.options (found.offset + found.size) ≠ 0) :
    foldedName datagram.clientName =
      (datagram.options.read found.offset found.size).map toLower ++
        [toLower (datagram.options (found.offset + found.size))] := by
  unfold foldedName
  rw [clientName_short hfound short, cString_append_of_not_mem runs]
  unfold cString
  rw [List.takeWhile_cons_of_pos (by simpa using nonzero),
    List.takeWhile_cons_of_neg (by simp), List.map_append]
  rfl

end Datagram

end PoeDhcp
