import PoeDhcp.Model.Message

namespace PoeDhcp

open Foundation

/-! Reading a received message. A pointer into the receive buffer is the memory
behind it; `options` is the memory that starts after the magic cookie. -/

/-- A found option: where its value starts, counted from `options`, and the
value of its length byte. -/
structure OptionData where
  offset : Nat
  size : Nat
deriving DecidableEq

/-- The scan of `findOptionData`. Every pass consumes at least one byte, so
`optionsSize` passes are enough (`scanOptions_eq`). -/
def findOptionLoop (findOptionValue : BYTE) (options : Memory)
    (optionsSize : Nat) : Nat → Nat → Option OptionData
  | 0, _ => none
  | fuel + 1, i =>
      if i < optionsSize then
        let currentOptionValue := options i
        let i := i + 1
        if currentOptionValue = optionPad then
          findOptionLoop findOptionValue options optionsSize fuel i
        else if optionEnd ≤ currentOptionValue then
          none
        else if findOptionValue = currentOptionValue ∧ i < optionsSize then
          some ⟨i + 1, (options i).toNat⟩
        else if i < optionsSize then
          findOptionLoop findOptionValue options optionsSize fuel
            (i + 1 + (options i).toNat)
        else
          findOptionLoop findOptionValue options optionsSize fuel i
      else
        none

def findOptionData (findOptionValue : BYTE) (options : Memory)
    (optionsSize : Nat) : Option OptionData :=
  if optionEnd ≤ findOptionValue then
    none
  else if optionsSize > 2 then
    findOptionLoop findOptionValue options optionsSize optionsSize 0
  else
    none

def isDhcpRequest (dhcpRequest : Memory) (dataSize : Nat) : Bool :=
  decide (sizeofDHCPMessage + dhcpMagicCookie.length ≤ dataSize) &&
    dhcpRequest 0 == opBootRequest &&
    dhcpRequest.read sizeofDHCPMessage dhcpMagicCookie.length ==
      dhcpMagicCookie

def parseReceiveData (data : Memory) (len : Nat) : Option DHCPMessage :=
  if len < sizeofDHCPMessage then
    none
  else if isDhcpRequest data len then
    some (DHCPMessage.overlay data)
  else
    none

def optionsOffset : Nat := sizeofDHCPMessage + dhcpMagicCookie.length

/-- The size is an unsigned 32-bit subtraction. -/
def getOptions (message : Memory) (size : Nat) : Option (Memory × Nat) :=
  if size = 0 then
    none
  else
    some (message.shift optionsOffset,
      (BitVec.ofNat 32 size - BitVec.ofNat 32 sizeofDHCPMessage -
        BitVec.ofNat 32 dhcpMagicCookie.length).toNat)

def getDHCPMessageType (options : Memory) (size : Nat) :
    Option DHCPMessageTypes :=
  match findOptionData optionDhcpMessageType options size with
  | none => none
  | some found =>
      if found.size = 1 ∧ 1 ≤ options found.offset ∧
          options found.offset ≤ 8 then
        some (DHCPMessageTypes.ofCode (options found.offset))
      else
        none

/-- Copies the host name over the front of `clientName`. The copy takes one byte
more than the value has, up to `len`. -/
def getRequestClientName (options : Memory) (size : Nat)
    (clientName : List BYTE) (len : Nat) : List BYTE :=
  match findOptionData optionHostName options size with
  | none => clientName
  | some found =>
      let copySize := min (found.size + 1) len
      options.read found.offset copySize ++ clientName.drop copySize

/-- Where the identifier is in the receive buffer: the value of option 61, or
else `chaddr`. -/
def getIdentifier (options : Memory) (size : Nat) : Option OptionData :=
  if size = 0 then
    none
  else
    match findOptionData optionClientIdentifier options size with
    | some found => some ⟨optionsOffset + found.offset, found.size⟩
    | none => some ⟨chaddrOffset, sizeofChaddr⟩

/-! C strings. -/

def cString (buffer : List BYTE) : List BYTE :=
  buffer.takeWhile (· ≠ 0)

def toLower (byte : BYTE) : BYTE :=
  if 0x41 ≤ byte ∧ byte ≤ 0x5a then byte + 0x20 else byte

def stricmpEqual (left right : List BYTE) : Bool :=
  (cString left).map toLower == (cString right).map toLower

/-! The fuel of the scan is never used up. -/

private theorem findOptionLoop_fuel (findOptionValue : BYTE) (options : Memory)
    (optionsSize : Nat) (first second i : Nat)
    (hfirst : optionsSize - i ≤ first) (hsecond : optionsSize - i ≤ second) :
    findOptionLoop findOptionValue options optionsSize first i =
      findOptionLoop findOptionValue options optionsSize second i := by
  induction first generalizing second i with
  | zero =>
      have done : ¬ i < optionsSize := by omega
      cases second with
      | zero => rfl
      | succ second => simp [findOptionLoop, done]
  | succ first ih =>
      cases second with
      | zero =>
          have done : ¬ i < optionsSize := by omega
          simp [findOptionLoop, done]
      | succ second =>
          simp only [findOptionLoop]
          by_cases bound : i < optionsSize
          · simp only [bound, if_true]
            rw [ih second (i + 1) (by omega) (by omega),
              ih second (i + 1 + 1 + (options (i + 1)).toNat) (by omega)
                (by omega)]
          · simp [bound]

/-- The scan from index `i` on. -/
def scanOptions (findOptionValue : BYTE) (options : Memory)
    (optionsSize i : Nat) : Option OptionData :=
  findOptionLoop findOptionValue options optionsSize (optionsSize - i) i

theorem scanOptions_eq (findOptionValue : BYTE) (options : Memory)
    (optionsSize i : Nat) :
    scanOptions findOptionValue options optionsSize i =
      if i < optionsSize then
        if options i = optionPad then
          scanOptions findOptionValue options optionsSize (i + 1)
        else if optionEnd ≤ options i then
          none
        else if findOptionValue = options i ∧ i + 1 < optionsSize then
          some ⟨i + 2, (options (i + 1)).toNat⟩
        else if i + 1 < optionsSize then
          scanOptions findOptionValue options optionsSize
            (i + 2 + (options (i + 1)).toNat)
        else
          none
      else
        none := by
  by_cases bound : i < optionsSize
  · obtain ⟨fuel, hfuel⟩ : ∃ fuel, optionsSize - i = fuel + 1 :=
      ⟨optionsSize - i - 1, by omega⟩
    rw [scanOptions, hfuel]
    simp only [findOptionLoop, bound, if_true, scanOptions]
    rw [findOptionLoop_fuel findOptionValue options optionsSize fuel
        (optionsSize - (i + 1)) (i + 1) (by omega) (by omega),
      findOptionLoop_fuel findOptionValue options optionsSize fuel
        (optionsSize - (i + 2 + (options (i + 1)).toNat))
        (i + 1 + 1 + (options (i + 1)).toNat) (by omega) (by omega)]
    by_cases next : i + 1 < optionsSize
    · simp [next]
    · have done : optionsSize - (i + 1) = 0 := by omega
      simp [next, done, findOptionLoop]
  · have done : optionsSize - i = 0 := by omega
    simp [bound, scanOptions, done, findOptionLoop]

theorem findOptionData_eq (findOptionValue : BYTE) (options : Memory)
    (optionsSize : Nat) :
    findOptionData findOptionValue options optionsSize =
      if optionEnd ≤ findOptionValue then none
      else if optionsSize > 2 then
        scanOptions findOptionValue options optionsSize 0
      else none := rfl

end PoeDhcp
