import PoeDhcp.Foundation.Words

namespace PoeDhcp

open Foundation

abbrev BYTE := Byte

abbrev WORD := Word16

abbrev DWORD := Word32

/-! Address words. The two macros of the source have the same body: one reads a
word in network order as a number, the other goes back. -/

def dwIp0 (dw : DWORD) : DWORD := Word32.byteAt 0 dw
def dwIp1 (dw : DWORD) : DWORD := Word32.byteAt 1 dw
def dwIp2 (dw : DWORD) : DWORD := Word32.byteAt 2 dw
def dwIp3 (dw : DWORD) : DWORD := Word32.byteAt 3 dw

def dwIpToValue (dw : DWORD) : DWORD :=
  (dwIp0 dw <<< 24) ||| (dwIp1 dw <<< 16) ||| (dwIp2 dw <<< 8) ||| dwIp3 dw

def dwValueToIp (dw : DWORD) : DWORD :=
  (dwIp0 dw <<< 24) ||| (dwIp1 dw <<< 16) ||| (dwIp2 dw <<< 8) ||| dwIp3 dw

@[simp] theorem dwIpToValue_dwValueToIp (dw : DWORD) :
    dwIpToValue (dwValueToIp dw) = dw :=
  Word32.reverseBytes_reverseBytes dw

@[simp] theorem dwValueToIp_dwIpToValue (dw : DWORD) :
    dwValueToIp (dwIpToValue dw) = dw :=
  Word32.reverseBytes_reverseBytes dw

def ntohl (dw : DWORD) : DWORD := Word32.reverseBytes dw

def htonl (dw : DWORD) : DWORD := Word32.reverseBytes dw

def inaddrBroadcast : DWORD := 0xffffffff

def inaddrLoopback : DWORD := 0x7f000001

def inaddrNone : DWORD := 0xffffffff

/-! The Winsock text-to-address conversion: one to four decimal, octal or
hexadecimal parts, the last of which fills the remaining bytes. -/

def digitValue? (base : Nat) (digit : Char) : Option Nat :=
  let value :=
    if '0' ≤ digit ∧ digit ≤ '9' then digit.toNat - '0'.toNat
    else if 'a' ≤ digit ∧ digit ≤ 'f' then digit.toNat - 'a'.toNat + 10
    else if 'A' ≤ digit ∧ digit ≤ 'F' then digit.toNat - 'A'.toNat + 10
    else base
  if value < base then some value else none

def numeral? (base : Nat) : List Char → Nat → Option Nat
  | [], value => some value
  | digit :: rest, value =>
      (digitValue? base digit).bind fun next =>
        numeral? base rest (value * base + next)

def addressPart? : List Char → Option Nat
  | [] => none
  | '0' :: 'x' :: digits => if digits = [] then none else numeral? 16 digits 0
  | '0' :: 'X' :: digits => if digits = [] then none else numeral? 16 digits 0
  | '0' :: digits => numeral? 8 digits 0
  | digits => numeral? 10 digits 0

def addressValue? : List Nat → Option Nat
  | [a] => if a < 0x100000000 then some a else none
  | [a, b] =>
      if a < 256 ∧ b < 0x1000000 then some (a * 0x1000000 + b) else none
  | [a, b, c] =>
      if a < 256 ∧ b < 256 ∧ c < 0x10000 then
        some (a * 0x1000000 + b * 0x10000 + c)
      else none
  | [a, b, c, d] =>
      if a < 256 ∧ b < 256 ∧ c < 256 ∧ d < 256 then
        some (a * 0x1000000 + b * 0x10000 + c * 0x100 + d)
      else none
  | _ => none

def inetAddr (text : String) : DWORD :=
  if text.toList = [' '] then
    0
  else
    match ((text.toList.splitOn '.').mapM addressPart?).bind addressValue? with
    | none => inaddrNone
    | some value => htonl (BitVec.ofNat 32 value)

example : inetAddr "192.168.50.1" = 0x0132a8c0 := by decide

/-! Constants of the protocol. -/

def dhcpServerPort : Nat := 67

def dhcpClientPort : Nat := 68

def broadcastFlag : WORD := 0x80

def maxHostNameLength : Nat := 256

def maxUdpMessageSize : Nat := 65536 - 8

def dhcpMagicCookie : List BYTE := [99, 130, 83, 99]

def opBootRequest : BYTE := 1

def opBootReply : BYTE := 2

def optionPad : BYTE := 0
def optionSubnetMask : BYTE := 1
def optionDns : BYTE := 6
def optionHostName : BYTE := 12
def optionRequestedIpAddress : BYTE := 50
def optionIpAddressLeaseTime : BYTE := 51
def optionDhcpMessageType : BYTE := 53
def optionServerIdentifier : BYTE := 54
def optionClientIdentifier : BYTE := 61
def optionEnd : BYTE := 255

inductive DHCPMessageTypes
  | none
  | discover
  | offer
  | request
  | decline
  | ack
  | nak
  | release
  | inform
deriving DecidableEq

namespace DHCPMessageTypes

def code : DHCPMessageTypes → BYTE
  | .none => 0
  | .discover => 1
  | .offer => 2
  | .request => 3
  | .decline => 4
  | .ack => 5
  | .nak => 6
  | .release => 7
  | .inform => 8

/-- The cast of a byte that `getDHCPMessageType` has checked. -/
def ofCode (byte : BYTE) : DHCPMessageTypes :=
  match byte.toNat with
  | 1 => .discover
  | 2 => .offer
  | 3 => .request
  | 4 => .decline
  | 5 => .ack
  | 6 => .nak
  | 7 => .release
  | 8 => .inform
  | _ => .none

end DHCPMessageTypes

/-! The fixed part of a message. `options` starts behind it, at the offset
`sizeofDHCPMessage`. -/

structure DHCPMessage where
  op : BYTE
  htype : BYTE
  hlen : BYTE
  hops : BYTE
  xid : DWORD
  secs : WORD
  flags : WORD
  ciaddr : DWORD
  yiaddr : DWORD
  siaddr : DWORD
  giaddr : DWORD
  chaddr : List BYTE
  sname : List BYTE
  file : List BYTE
deriving DecidableEq

def sizeofDHCPMessage : Nat := 236

def chaddrOffset : Nat := 28

def sizeofChaddr : Nat := 16

def sizeofSname : Nat := 64

/-- The overlay of `DHCPMessage` on a receive buffer. -/
def DHCPMessage.overlay (data : Memory) : DHCPMessage where
  op := data 0
  htype := data 1
  hlen := data 2
  hops := data 3
  xid := data.load32 4
  secs := data.load16 8
  flags := data.load16 10
  ciaddr := data.load32 12
  yiaddr := data.load32 16
  siaddr := data.load32 20
  giaddr := data.load32 24
  chaddr := data.read chaddrOffset sizeofChaddr
  sname := data.read 44 sizeofSname
  file := data.read 108 128

theorem DHCPMessage.overlay_congr {left right : Memory}
    (agree : Memory.AgreeBelow sizeofDHCPMessage left right) :
    overlay left = overlay right := by
  simp only [sizeofDHCPMessage] at agree
  simp only [overlay, chaddrOffset, sizeofChaddr, sizeofSname,
    agree 0 (by decide), agree 1 (by decide), agree 2 (by decide),
    agree 3 (by decide), agree.load32 4 (by decide),
    agree.load16 8 (by decide),
    agree.load16 10 (by decide),
    agree.load32 12 (by decide),
    agree.load32 16 (by decide),
    agree.load32 20 (by decide),
    agree.load32 24 (by decide),
    agree.read 28 16 (by decide),
    agree.read 44 64 (by decide),
    agree.read 108 128 (by decide)]

/-! The bytes of a message in memory: the members in order, without padding. -/

structure DHCPMessage.Sized (message : DHCPMessage) : Prop where
  chaddr : message.chaddr.length = sizeofChaddr
  sname : message.sname.length = sizeofSname
  file : message.file.length = 128

def DHCPMessage.toBytes (message : DHCPMessage) : List BYTE :=
  [message.op, message.htype, message.hlen, message.hops] ++
    Word32.toBytes message.xid ++ Word16.toBytes message.secs ++
    Word16.toBytes message.flags ++ Word32.toBytes message.ciaddr ++
    Word32.toBytes message.yiaddr ++ Word32.toBytes message.siaddr ++
    Word32.toBytes message.giaddr ++ message.chaddr ++ message.sname ++
    message.file

theorem DHCPMessage.sized_overlay (data : Memory) : (overlay data).Sized where
  chaddr := Memory.length_read _ _ _
  sname := Memory.length_read _ _ _
  file := Memory.length_read _ _ _

theorem DHCPMessage.holdsAt_yiaddr {message : DHCPMessage} {data : Memory}
    (holds : data.HoldsAt 0 message.toBytes) :
    data.HoldsAt 16 (Word32.toBytes message.yiaddr) := by
  simp only [toBytes, Memory.holdsAt_append, List.length_append,
    List.length_cons, List.length_nil, Word32.length_toBytes,
    Word16.length_toBytes, Nat.reduceAdd, and_assoc] at holds
  exact holds.2.2.2.2.2.1

namespace DHCPMessage.Sized

variable {message : DHCPMessage}

theorem length_toBytes (sized : message.Sized) :
    message.toBytes.length = sizeofDHCPMessage := by
  simp only [toBytes, List.length_append, sized.chaddr, sized.sname,
    sized.file, Word32.length_toBytes]
  rfl

theorem overlay_eq (sized : message.Sized) {data : Memory}
    (holds : data.HoldsAt 0 message.toBytes) : overlay data = message := by
  simp only [toBytes, Memory.holdsAt_append, Memory.holdsAt_cons,
    Memory.holdsAt_nil, and_true, and_assoc, List.length_append,
    List.length_cons, List.length_nil, Word32.length_toBytes,
    Word16.length_toBytes, sized.chaddr, sized.sname, sizeofChaddr,
    sizeofSname, Nat.reduceAdd] at holds
  obtain ⟨hop, hhtype, hhlen, hhops, hxid, hsecs, hflags, hciaddr, hyiaddr,
    hsiaddr, hgiaddr, hchaddr, hsname, hfile⟩ := holds
  unfold Memory.HoldsAt at hchaddr hsname hfile
  rw [sized.chaddr] at hchaddr
  rw [sized.sname] at hsname
  rw [sized.file] at hfile
  unfold overlay
  rw [hop, hhtype, hhlen, hhops, hxid.load32, hsecs.load16, hflags.load16,
    hciaddr.load32, hyiaddr.load32, hsiaddr.load32, hgiaddr.load32]
  rw [chaddrOffset, hchaddr, hsname, hfile]

end DHCPMessage.Sized

/-- The option part of a reply, one byte array after the other. -/
structure DHCPServerOptions where
  pbMagicCookie : List BYTE
  pbMessageType : List BYTE
  pbLeaseTime : List BYTE
  pbSubnetMask : List BYTE
  pbDNS : List BYTE
  pbServerID : List BYTE
  bEND : BYTE
deriving DecidableEq

def sizeofDHCPServerOptions : Nat := 36

/-- `pbMessageType[2]`. -/
def DHCPServerOptions.messageType (options : DHCPServerOptions) : BYTE :=
  options.pbMessageType.getD 2 0

def DHCPServerOptions.setMessageType (options : DHCPServerOptions)
    (type : DHCPMessageTypes) : DHCPServerOptions :=
  { options with pbMessageType := options.pbMessageType.set 2 type.code }

/-- The reply buffer: a message and, in its `options`, the server's options. -/
structure Reply where
  message : DHCPMessage
  options : DHCPServerOptions
deriving DecidableEq

def Reply.zero : Reply where
  message := DHCPMessage.overlay fun _ => 0
  options :=
    { pbMagicCookie := List.replicate 4 0
      pbMessageType := List.replicate 3 0
      pbLeaseTime := List.replicate 6 0
      pbSubnetMask := List.replicate 6 0
      pbDNS := List.replicate 10 0
      pbServerID := List.replicate 6 0
      bEND := 0 }

def DHCPServerOptions.toBytes (options : DHCPServerOptions) : List BYTE :=
  options.pbMagicCookie ++ options.pbMessageType ++ options.pbLeaseTime ++
    options.pbSubnetMask ++ options.pbDNS ++ options.pbServerID ++
    [options.bEND]

def Reply.toBytes (reply : Reply) : List BYTE :=
  reply.message.toBytes ++ reply.options.toBytes

end PoeDhcp
