import FlyNes.ByteString

namespace FlyNes.LanMvp

open ByteString

/-!
# The LAN invitation text

An invitation is one line of text: a version prefix, the host's IPv4 address and
port, the pin of its certificate and the join token, separated by colons.
-/

/-- The bytes of an ASCII literal. -/
def ascii (text : String) : Bytes :=
  text.toList.map fun character => UInt8.ofNat character.toNat

/-- Where and how a guest reaches its host. -/
structure Invite where
  ipv4 : Block 4 := default
  port : Nat := 0
  spkiPin : Block 32 := default
  token : Block 16 := default
deriving DecidableEq

/-- Version prefix of the invitation text. -/
def kPrefix : Bytes :=
  ascii "flynes-lan-v1:"

/-- The decimal digits of a number. -/
def decimal (value : Nat) : Bytes :=
  (Nat.toDigits 10 value).map fun digit => UInt8.ofNat digit.toNat

/-- Take one decimal digit, refusing a value above the maximum. -/
def takeDigit (maximum value : Nat) (digit : UInt8) : Option Nat :=
  if digit.toNat < 48 ∨ digit.toNat > 57 then
    none
  else if value * 10 + (digit.toNat - 48) > maximum then
    none
  else
    some (value * 10 + (digit.toNat - 48))

/-- Parse a decimal number without leading zeros. -/
def parseDecimal (text : Bytes) (maximum : Nat) : Option Nat :=
  if text = [] ∨ (text.length > 1 ∧ text.head? = some 48) then
    none
  else
    text.foldlM (takeDigit maximum) 0

/-- Addresses a LAN peer can have. -/
def allowedAddress (ip : Block 4) : Bool :=
  let octet := fun index => (ip.bytes.getD index 0).toNat
  octet 0 ≠ 0 && octet 0 ≠ 127 && octet 0 < 224 &&
    !(octet 0 = 169 && octet 1 = 254) && octet 3 ≠ 0 && octet 3 ≠ 255

/-- Split a text at the first separator; `none` when there is none. -/
def splitFirst (separator : UInt8) (text : Bytes) : Option (Bytes × Bytes) :=
  if separator ∈ text then
    some
      (text.takeWhile (· ≠ separator),
        (text.dropWhile (· ≠ separator)).drop 1)
  else
    none

/-- The octets of a dotted address, `remaining` of them before the last one. -/
def parseOctets : Nat → Bytes → Option Bytes
  | 0, text =>
      if 46 ∈ text then
        none
      else
        (parseDecimal text 255).map fun octet => [UInt8.ofNat octet]
  | remaining + 1, text => do
      let (part, rest) ← splitFirst 46 text
      let octet ← parseDecimal part 255
      let octets ← parseOctets remaining rest
      return UInt8.ofNat octet :: octets

/-- Parse a dotted IPv4 address a LAN peer can have. -/
def parseIp (text : Bytes) : Option (Block 4) := do
  let octets ← parseOctets 3 text
  let ip := Block.copy 4 octets
  if allowedAddress ip then some ip else none

/-- Value of one hexadecimal digit of either case. -/
def hexValue (digit : UInt8) : Option Nat :=
  let code := digit.toNat
  if 48 ≤ code ∧ code ≤ 57 then some (code - 48)
  else if 97 ≤ code ∧ code ≤ 102 then some (code - 97 + 10)
  else if 65 ≤ code ∧ code ≤ 70 then some (code - 65 + 10)
  else none

/-- Decode pairs of hexadecimal digits. -/
def parseHexPairs : Bytes → Option Bytes
  | [] => some []
  | [_] => none
  | high :: low :: rest => do
      let high ← hexValue high
      let low ← hexValue low
      let bytes ← parseHexPairs rest
      return UInt8.ofNat (high * 16 + low) :: bytes

/-- Decode a hexadecimal block of exactly the wanted size. -/
def parseHex (size : Nat) (text : Bytes) : Option (Block size) :=
  if text.length ≠ size * 2 then
    none
  else
    (parseHexPairs text).map (Block.copy size)

/-- One lower-case hexadecimal digit. -/
def hexDigit (value : Nat) : UInt8 :=
  UInt8.ofNat (if value < 10 then 48 + value else 97 + (value - 10))

/-- The lower-case hexadecimal text of a byte string. -/
def appendHex (bytes : Bytes) : Bytes :=
  bytes.flatMap fun byte =>
    [hexDigit (byte.toNat / 16), hexDigit (byte.toNat % 16)]

/-- The public address parser. -/
def parseLanIpv4 (text : Bytes) : Option (Block 4) :=
  parseIp text

/-- The dotted text of an address. -/
def dotted (ip : Block 4) : Bytes :=
  List.intercalate [46] (ip.bytes.map fun octet => decimal octet.toNat)

/-- The `address:port` text of an invitation. -/
def endpoint (invite : Invite) : Bytes :=
  dotted invite.ipv4 ++ 58 :: decimal invite.port

/-- The invitation text; an address or port nobody can reach has none. -/
def formatInvite (invite : Invite) : Option Bytes :=
  if ¬ allowedAddress invite.ipv4 ∨ invite.port = 0 then
    none
  else
    some
      (kPrefix ++ endpoint invite ++ 58 :: appendHex invite.spkiPin.bytes ++
        58 :: appendHex invite.token.bytes)

/-- Parse an invitation text; nothing may follow the token. -/
def parseInvite (text : Bytes) : Option Invite :=
  if text.take kPrefix.length ≠ kPrefix then
    none
  else do
    let (ipText, text) ← splitFirst 58 (text.drop kPrefix.length)
    let (portText, text) ← splitFirst 58 text
    let (pinText, text) ← splitFirst 58 text
    let ipv4 ← parseIp ipText
    let port ← parseDecimal portText 65535
    if port = 0 then
      none
    else do
      let spkiPin ← parseHex 32 pinText
      let token ← parseHex 16 text
      return { ipv4, port, spkiPin, token }

end FlyNes.LanMvp
