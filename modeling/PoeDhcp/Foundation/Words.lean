import Mathlib.Data.List.Basic

namespace Foundation

/-! Bytes, 32-bit words and byte-addressed memory. -/

abbrev Byte := BitVec 8

abbrev Word16 := BitVec 16

abbrev Word32 := BitVec 32

abbrev Memory := Nat → Byte

namespace Word32

/-- The value of byte `index` of a word, least significant byte first. -/
def byteAt (index : Nat) (word : Word32) : Word32 :=
  (word >>> (8 * index)) &&& 0xff#32

def reverseBytes (word : Word32) : Word32 :=
  (byteAt 0 word <<< 24) ||| (byteAt 1 word <<< 16) |||
    (byteAt 2 word <<< 8) ||| byteAt 3 word

private theorem mask_getLsbD (index : Nat) :
    (0xff#32).getLsbD index = decide (index < 8) := by
  by_cases bound : index < 32
  · revert bound
    revert index
    decide
  · rw [BitVec.getLsbD_of_ge _ _ (by omega)]
    simp
    omega

theorem byteAt_getLsbD (index : Nat) (word : Word32) (bit : Nat) :
    (byteAt index word).getLsbD bit =
      (decide (bit < 8) && word.getLsbD (8 * index + bit)) := by
  simp [byteAt, mask_getLsbD, Bool.and_comm]

/-- A word that holds a single byte. -/
def IsByte (word : Word32) : Prop :=
  ∀ index, 8 ≤ index → word.getLsbD index = false

theorem isByte_byteAt (index : Nat) (word : Word32) :
    IsByte (byteAt index word) := by
  intro bit high
  rw [byteAt_getLsbD, decide_eq_false (by omega), Bool.false_and]

theorem isByte_setWidth (byte : Byte) : IsByte (byte.setWidth 32) := by
  intro bit high
  rw [BitVec.getLsbD_setWidth, BitVec.getLsbD_of_ge _ _ high, Bool.and_false]

/-- A byte that is shifted to a lane is there and nowhere else. -/
theorem IsByte.getLsbD_shiftLeft {word : Word32} (isByte : IsByte word)
    (lane : Nat) {bit : Nat} (bound : bit < 32) :
    (word <<< (8 * lane)).getLsbD bit =
      (decide (bit / 8 = lane) && word.getLsbD (bit % 8)) := by
  rw [BitVec.getLsbD_shiftLeft]
  by_cases here : bit / 8 = lane
  · have offset : bit - 8 * lane = bit % 8 := by omega
    have above : ¬ bit < 8 * lane := by omega
    simp [bound, here, above, offset]
  · by_cases below : bit < 8 * lane
    · simp [here, below]
    · rw [isByte (bit - 8 * lane) (by omega)]
      simp [here]

theorem reverseBytes_getLsbD (word : Word32) (bit : Nat) (bound : bit < 32) :
    (reverseBytes word).getLsbD bit =
      word.getLsbD (8 * (3 - bit / 8) + bit % 8) := by
  have place := fun index lane =>
    (isByte_byteAt index word).getLsbD_shiftLeft lane bound
  have first : (byteAt 0 word <<< 24).getLsbD bit = _ := place 0 3
  have second : (byteAt 1 word <<< 16).getLsbD bit = _ := place 1 2
  have third : (byteAt 2 word <<< 8).getLsbD bit = _ := place 2 1
  have fourth := place 3 0
  rw [Nat.mul_zero, BitVec.shiftLeft_zero] at fourth
  simp only [reverseBytes, BitVec.getLsbD_or, first, second, third, fourth,
    byteAt_getLsbD]
  have lane : bit / 8 = 0 ∨ bit / 8 = 1 ∨ bit / 8 = 2 ∨ bit / 8 = 3 := by omega
  have inside : bit % 8 < 8 := by omega
  rcases lane with lane | lane | lane | lane <;> simp [lane, inside]

@[simp] theorem reverseBytes_reverseBytes (word : Word32) :
    reverseBytes (reverseBytes word) = word := by
  apply BitVec.eq_of_getLsbD_eq
  intro bit bound
  rw [reverseBytes_getLsbD _ _ bound, reverseBytes_getLsbD _ _ (by omega)]
  congr 1
  omega

theorem reverseBytes_injective {left right : Word32}
    (equality : reverseBytes left = reverseBytes right) : left = right := by
  rw [← reverseBytes_reverseBytes left, equality, reverseBytes_reverseBytes]

@[simp] theorem reverseBytes_inj {left right : Word32} :
    reverseBytes left = reverseBytes right ↔ left = right :=
  ⟨reverseBytes_injective, congrArg reverseBytes⟩

theorem reverseBytes_eq_zero {word : Word32} :
    reverseBytes word = 0 ↔ word = 0 := by
  rw [show (0 : Word32) = reverseBytes 0 by decide, reverseBytes_inj]
  rfl

/-! Little-endian storage. -/

def toBytes (word : Word32) : List Byte :=
  [word.setWidth 8, (word >>> 8).setWidth 8, (word >>> 16).setWidth 8,
    (word >>> 24).setWidth 8]

def ofBytes (first second third fourth : Byte) : Word32 :=
  first.setWidth 32 ||| (second.setWidth 32 <<< 8) |||
    (third.setWidth 32 <<< 16) ||| (fourth.setWidth 32 <<< 24)

@[simp] theorem length_toBytes (word : Word32) : word.toBytes.length = 4 := rfl

theorem ofBytes_getLsbD (first second third fourth : Byte) {bit : Nat}
    (bound : bit < 32) :
    (ofBytes first second third fourth).getLsbD bit =
      (decide (bit / 8 = 0) && first.getLsbD (bit % 8) ||
        decide (bit / 8 = 1) && second.getLsbD (bit % 8) ||
        decide (bit / 8 = 2) && third.getLsbD (bit % 8) ||
        decide (bit / 8 = 3) && fourth.getLsbD (bit % 8)) := by
  have place := fun byte lane =>
    (isByte_setWidth byte).getLsbD_shiftLeft lane bound
  have inside : bit % 8 < 32 := by omega
  simp only [BitVec.getLsbD_setWidth, inside, decide_true, Bool.true_and]
    at place
  have lowest := place first 0
  rw [Nat.mul_zero, BitVec.shiftLeft_zero] at lowest
  simp only [ofBytes, BitVec.getLsbD_or, lowest]
  rw [← place second 1, ← place third 2, ← place fourth 3]

theorem ofBytes_toBytes (word : Word32) :
    ofBytes (word.setWidth 8) ((word >>> 8).setWidth 8)
      ((word >>> 16).setWidth 8) ((word >>> 24).setWidth 8) = word := by
  apply BitVec.eq_of_getLsbD_eq
  intro bit bound
  rw [ofBytes_getLsbD _ _ _ _ bound]
  have inside : bit % 8 < 8 := by omega
  have whole : 8 * (bit / 8) + bit % 8 = bit := by omega
  simp only [BitVec.getLsbD_setWidth, BitVec.getLsbD_ushiftRight, inside,
    decide_true, Bool.true_and]
  have lane : bit / 8 = 0 ∨ bit / 8 = 1 ∨ bit / 8 = 2 ∨ bit / 8 = 3 := by omega
  rcases lane with lane | lane | lane | lane <;> rw [lane] at whole <;>
    simp only [Nat.mul_zero, Nat.zero_add, Nat.reduceMul] at whole <;>
    simp [lane, whole]

theorem toBytes_injective {left right : Word32}
    (same : toBytes left = toBytes right) : left = right := by
  simp only [toBytes, List.cons.injEq, and_true] at same
  obtain ⟨first, second, third, fourth⟩ := same
  rw [← ofBytes_toBytes left, first, second, third, fourth, ofBytes_toBytes]

/-! Big-endian storage. -/

def bigEndian (word : Word32) : List Byte :=
  [(word >>> 24).setWidth 8, (word >>> 16).setWidth 8,
    (word >>> 8).setWidth 8, word.setWidth 8]

theorem setWidth_reverseBytes (word : Word32) {lane : Nat} (bound : lane < 4) :
    (reverseBytes word >>> (8 * lane)).setWidth 8 =
      (word >>> (8 * (3 - lane))).setWidth 8 := by
  apply BitVec.eq_of_getLsbD_eq
  intro bit inside
  simp only [BitVec.getLsbD_setWidth, BitVec.getLsbD_ushiftRight, inside,
    decide_true, Bool.true_and]
  rw [reverseBytes_getLsbD _ _ (by omega)]
  congr 1
  omega

theorem toBytes_reverseBytes (word : Word32) :
    toBytes (reverseBytes word) = bigEndian word := by
  have lane := fun index => @setWidth_reverseBytes word index
  have lowest := lane 0 (by decide)
  rw [Nat.mul_zero, BitVec.ushiftRight_zero] at lowest
  have highest := lane 3 (by decide)
  rw [Nat.sub_self, Nat.mul_zero, BitVec.ushiftRight_zero] at highest
  rw [toBytes, lowest]
  simp only [bigEndian, List.cons.injEq, true_and, and_true]
  exact ⟨lane 1 (by decide), lane 2 (by decide), highest⟩

end Word32

def Word16.toBytes (word : Word16) : List Byte :=
  [word.setWidth 8, (word >>> 8).setWidth 8]

@[simp] theorem Word16.length_toBytes (word : Word16) :
    word.toBytes.length = 2 := rfl

namespace Memory

def read (memory : Memory) (offset : Nat) : Nat → List Byte
  | 0 => []
  | count + 1 => memory offset :: read memory (offset + 1) count

def load16 (memory : Memory) (offset : Nat) : Word16 :=
  (memory offset).setWidth 16 ||| ((memory (offset + 1)).setWidth 16 <<< 8)

def load32 (memory : Memory) (offset : Nat) : Word32 :=
  Word32.ofBytes (memory offset) (memory (offset + 1)) (memory (offset + 2))
    (memory (offset + 3))

def shift (memory : Memory) (offset : Nat) : Memory :=
  fun index => memory (offset + index)

/-- Two memories agree on their first `count` bytes. -/
def AgreeBelow (count : Nat) (left right : Memory) : Prop :=
  ∀ index, index < count → left index = right index

@[simp] theorem length_read (memory : Memory) (offset count : Nat) :
    (memory.read offset count).length = count := by
  induction count generalizing offset with
  | zero => rfl
  | succ count ih => simp [read, ih]

theorem read_append (memory : Memory) (offset first second : Nat) :
    memory.read offset (first + second) =
      memory.read offset first ++ memory.read (offset + first) second := by
  induction first generalizing offset with
  | zero => simp [read]
  | succ first ih =>
      rw [Nat.add_right_comm]
      simp only [read, List.cons_append]
      rw [ih, Nat.add_right_comm, Nat.add_assoc]

theorem drop_read (memory : Memory) (offset total count : Nat) :
    (memory.read offset total).drop count =
      memory.read (offset + count) (total - count) := by
  by_cases bound : count ≤ total
  · obtain ⟨rest, rfl⟩ := Nat.exists_eq_add_of_le bound
    rw [read_append, List.drop_left' (by simp)]
    congr 1
    omega
  · have empty : total - count = 0 := by omega
    rw [empty, List.drop_eq_nil_of_le (by simp; omega)]
    rfl

theorem take_read (memory : Memory) (offset total count : Nat)
    (bound : count ≤ total) :
    (memory.read offset total).take count = memory.read offset count := by
  obtain ⟨rest, rfl⟩ := Nat.exists_eq_add_of_le bound
  rw [read_append, List.take_left' (by simp)]

theorem read_shift (memory : Memory) (base offset count : Nat) :
    (memory.shift base).read offset count =
      memory.read (base + offset) count := by
  induction count generalizing offset with
  | zero => rfl
  | succ count ih =>
      simp only [read, shift]
      rw [ih, Nat.add_assoc]

theorem load32_of_read {memory : Memory} {offset : Nat} {word : Word32}
    (bytes : memory.read offset 4 = word.toBytes) :
    memory.load32 offset = word := by
  simp only [read, Word32.toBytes, List.cons.injEq] at bytes
  obtain ⟨first, second, third, fourth, -⟩ := bytes
  rw [load32, first, second, third, fourth]
  exact Word32.ofBytes_toBytes word

/-- These bytes are in the memory, from an offset on. -/
def HoldsAt (memory : Memory) (offset : Nat) (bytes : List Byte) : Prop :=
  memory.read offset bytes.length = bytes

theorem holdsAt_append {memory : Memory} {offset : Nat}
    {first second : List Byte} :
    memory.HoldsAt offset (first ++ second) ↔
      memory.HoldsAt offset first ∧
        memory.HoldsAt (offset + first.length) second := by
  unfold HoldsAt
  rw [List.length_append, read_append]
  constructor
  · intro holds
    exact List.append_inj holds (by simp)
  · intro both
    rw [both.1, both.2]

theorem holdsAt_cons {memory : Memory} {offset : Nat} {byte : Byte}
    {rest : List Byte} :
    memory.HoldsAt offset (byte :: rest) ↔
      memory offset = byte ∧ memory.HoldsAt (offset + 1) rest := by
  simp [HoldsAt, read]

@[simp] theorem holdsAt_nil (memory : Memory) (offset : Nat) :
    memory.HoldsAt offset [] := rfl

theorem holdsAt_getD (bytes : List Byte) :
    HoldsAt (fun index => bytes.getD index 0) 0 bytes := by
  have read_drop : ∀ count offset, offset + count = bytes.length →
      read (fun index => bytes.getD index 0) offset count =
        bytes.drop offset := by
    intro count
    induction count with
    | zero =>
        intro offset length
        rw [List.drop_eq_nil_of_le (by omega)]
        rfl
    | succ count ih =>
        intro offset length
        have inside : offset < bytes.length := by omega
        rw [read, ih (offset + 1) (by omega), List.drop_eq_getElem_cons inside,
          List.getD_eq_getElem?_getD, List.getElem?_eq_getElem inside,
          Option.getD_some]
  exact read_drop bytes.length 0 (Nat.zero_add _)

theorem HoldsAt.load32 {memory : Memory} {offset : Nat} {word : Word32}
    (holds : memory.HoldsAt offset word.toBytes) :
    memory.load32 offset = word :=
  load32_of_read holds

theorem HoldsAt.load16 {memory : Memory} {offset : Nat} {word : Word16}
    (holds : memory.HoldsAt offset word.toBytes) :
    memory.load16 offset = word := by
  simp only [HoldsAt, Word16.toBytes, List.length_cons, List.length_nil, read,
    List.cons.injEq] at holds
  obtain ⟨low, high, -⟩ := holds
  rw [Memory.load16, low, high]
  apply BitVec.eq_of_getLsbD_eq
  intro bit bound
  simp only [BitVec.getLsbD_or, BitVec.getLsbD_shiftLeft,
    BitVec.getLsbD_setWidth, BitVec.getLsbD_ushiftRight, bound, decide_true,
    Bool.true_and]
  by_cases below : bit < 8
  · simp [below]
  · have upper : bit - 8 < 8 := by omega
    have whole : 8 + (bit - 8) = bit := by omega
    have inside : bit - 8 < 16 := by omega
    simp [below, upper, whole, inside]

namespace AgreeBelow

variable {count : Nat} {left right : Memory}

theorem read (agree : AgreeBelow count left right) (offset length : Nat)
    (bound : offset + length ≤ count) :
    left.read offset length = right.read offset length := by
  induction length generalizing offset with
  | zero => rfl
  | succ length ih =>
      simp only [Memory.read]
      rw [agree offset (by omega), ih (offset + 1) (by omega)]

theorem load16 (agree : AgreeBelow count left right) (offset : Nat)
    (bound : offset + 2 ≤ count) : left.load16 offset = right.load16 offset := by
  simp only [Memory.load16, agree offset (by omega),
    agree (offset + 1) (by omega)]

theorem load32 (agree : AgreeBelow count left right) (offset : Nat)
    (bound : offset + 4 ≤ count) : left.load32 offset = right.load32 offset := by
  simp only [Memory.load32, agree offset (by omega),
    agree (offset + 1) (by omega), agree (offset + 2) (by omega),
    agree (offset + 3) (by omega)]

theorem shift (agree : AgreeBelow count left right) (base : Nat) :
    AgreeBelow (count - base) (left.shift base) (right.shift base) :=
  fun index bound => agree (base + index) (by omega)

end AgreeBelow

end Memory

end Foundation
