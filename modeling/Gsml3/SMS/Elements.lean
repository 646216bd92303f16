import Gsml3.Core.FieldCodec
import Gsml3.RR.Elements

/-!
# SMS elements

Addresses, time stamps and the four TPDUs.  Every call of their `write` puts one octet, so a
value is written as the list of its octets.
-/

namespace Gsml3

open BitWriter (Op)
open FieldParser (readOctet readOctets remainingBits)

namespace SMS

/-! ## Data coding scheme -/

/-- The alphabets a data coding scheme can select. -/
inductive SmsDcsAlphabet where
  | gsm7Bit
  | data8Bit
  | ucs2
  | undefined
deriving DecidableEq, Repr

/-- The alphabet of a coding scheme. -/
def decodeSmsDcs (dcs : UInt8) : SmsDcsAlphabet :=
  let cg := dcs >>> 4
  if cg &&& 0x0C = 0 then
    match ((dcs >>> 2) &&& 0x03).toNat with
    | 0 => .gsm7Bit
    | 1 => .data8Bit
    | 2 => .ucs2
    | _ => .undefined
  else if cg = 0xC ∨ cg = 0xD then .gsm7Bit
  else if cg = 0xE then .ucs2
  else if dcs &&& 0x04 ≠ 0 then .data8Bit
  else .gsm7Bit

/-- The octets of as many characters. -/
def tpudOctets (udl dcs : UInt8) : Nat :=
  if decodeSmsDcs dcs = .gsm7Bit then (udl.toNat * 7 + 7) / 8 else udl.toNat

/-- As many octets as the length announces, or as are left. -/
def readUserData (udl dcs : UInt8) : FieldParser (List UInt8) := do
  let bits ← remainingBits
  readOctets (min (tpudOctets udl dcs) (bits / 8))

/-! ## First octet -/

/-- The first octet of a TPDU, each field shifted to its place. -/
def tpduFirstOctet (mti bit2 vpf sri udhi rp : Nat) : UInt8 :=
  UInt8.ofNat (rp <<< 7 ||| udhi <<< 6 ||| sri <<< 5 ||| (vpf &&& 0x3) <<< 3 |||
    (bit2 &&& 0x1) <<< 2 ||| (mti &&& 0x3))

def tpduMti (octet : UInt8) : Nat := octet.toNat &&& 0x3
def tpduBit2 (octet : UInt8) : Nat := octet.toNat >>> 2 &&& 0x1
def tpduVpf (octet : UInt8) : Nat := octet.toNat >>> 3 &&& 0x3
def tpduSri (octet : UInt8) : Nat := octet.toNat >>> 5 &&& 0x1
def tpduUdhi (octet : UInt8) : Nat := octet.toNat >>> 6 &&& 0x1
def tpduRp (octet : UInt8) : Nat := octet.toNat >>> 7 &&& 0x1

/-- The error of a TPDU parser that finds another message type. -/
def unexpectedMti (message : String) : ParseError where
  code := .invalidValue
  message := message

end SMS

open SMS

/-! ## Time stamp -/

/-- A service centre time stamp, octet by octet as it is coded. -/
structure TPSCTimeStamp where
  year : UInt8 := 0
  month : UInt8 := 0
  day : UInt8 := 0
  hour : UInt8 := 0
  minute : UInt8 := 0
  second : UInt8 := 0
  timezone : Int8 := 0
deriving DecidableEq

namespace TPSCTimeStamp

/-- The seven octets, the time zone as a signed number. -/
def parse : FieldParser TPSCTimeStamp := do
  let year ← readOctet
  let month ← readOctet
  let day ← readOctet
  let hour ← readOctet
  let minute ← readOctet
  let second ← readOctet
  let timezone ← readOctet
  pure { year, month, day, hour, minute, second, timezone := timezone.toInt8 }

/-- The seven octets of the stamp. -/
def octets (stamp : TPSCTimeStamp) : List UInt8 :=
  [stamp.year, stamp.month, stamp.day, stamp.hour, stamp.minute, stamp.second,
    stamp.timezone.toUInt8]

end TPSCTimeStamp

/-! ## Address -/

/-- Type of number and numbering plan are kept in as many bits as they have on the wire.  The
length octet of the source is the number of digits, cut to eight bits. -/
structure L3TPAddress where
  ton : BitVec 3 := 1
  npi : BitVec 4 := 1
  digits : List UInt8 := []
deriving DecidableEq

namespace L3TPAddress

/-- The number of digits, cut to an octet. -/
def lengthV (address : L3TPAddress) : UInt8 :=
  UInt8.ofNat address.digits.length

/-- The length octet, the type octet and the digits; an empty address is its length octet. -/
def totalLength (address : L3TPAddress) : Nat :=
  if address.lengthV = 0 then 1 else 2 + (address.lengthV.toNat + 1) / 2

/-- The digits of as many octets as they need, the earlier digit of an octet in its low half. -/
def parseDigits : Nat → FieldParser (List UInt8)
  | 0 => pure []
  | 1 => do
      let byte ← readOctet
      pure [byte &&& 0x0F]
  | count + 2 => do
      let byte ← readOctet
      let digits ← parseDigits count
      pure ((byte &&& 0x0F) :: (byte >>> 4 &&& 0x0F) :: digits)

/-- An address of length 0 has neither type octet nor digits. -/
def parse : FieldParser L3TPAddress := do
  let length ← readOctet
  if length = 0 then pure {}
  else
    let tonNpi ← readOctet
    let digits ← parseDigits length.toNat
    pure {
      ton := BitVec.ofNat 3 (tonNpi.toNat >>> 4 &&& 0x07)
      npi := BitVec.ofNat 4 (tonNpi.toNat &&& 0x0F)
      digits := digits }

/-- Pairs of digits, an odd one with a filler. -/
def digitOctets : List UInt8 → List UInt8
  | [] => []
  | [digit] => [(0x0F : UInt8) <<< 4 ||| (digit &&& 0x0F)]
  | digit :: next :: digits => ((next &&& 0x0F) <<< 4 ||| (digit &&& 0x0F)) :: digitOctets digits

/-- The type of number and the numbering plan behind the extension bit. -/
def tonNpiOctet (address : L3TPAddress) : UInt8 :=
  UInt8.ofNat (0x80 ||| (address.ton.toNat &&& 0x07) <<< 4 ||| (address.npi.toNat &&& 0x0F))

/-- The length octet, then type octet and digits when there are digits. -/
def octets (address : L3TPAddress) : List UInt8 :=
  address.lengthV ::
    if address.lengthV = 0 then [] else address.tonNpiOctet :: digitOctets address.digits

end L3TPAddress

/-! ## Deliver -/

/-- A message from the service centre to a mobile. -/
structure L3TPDeliver where
  mms : Bool := false
  sri : Bool := false
  udhi : Bool := false
  rp : Bool := false
  originatingAddress : L3TPAddress := {}
  pid : UInt8 := 0
  dcs : UInt8 := 0
  scts : Option TPSCTimeStamp := none
  udl : UInt8 := 0
  userData : List UInt8 := []
deriving DecidableEq

namespace L3TPDeliver

def bodyLength (msg : L3TPDeliver) : Nat :=
  1 + msg.originatingAddress.totalLength + 1 + 1 + (if msg.scts.isSome then 7 else 0) + 1 +
    msg.userData.length

def parse : FieldParser L3TPDeliver := do
  let header ← readOctet
  if tpduMti header ≠ 0 then throw (unexpectedMti "unexpected TP-MTI in SMS-Deliver header")
  else
    let originatingAddress ← L3TPAddress.parse
    let pid ← readOctet
    let dcs ← readOctet
    let scts ← TPSCTimeStamp.parse
    let udl ← readOctet
    let userData ← readUserData udl dcs
    pure {
      mms := tpduBit2 header ≠ 0, sri := tpduSri header ≠ 0, udhi := tpduUdhi header ≠ 0
      rp := tpduRp header ≠ 0, originatingAddress, pid, dcs, scts := some scts, udl, userData }

/-- The first octet of a Deliver. -/
def header (msg : L3TPDeliver) : UInt8 :=
  tpduFirstOctet 0 msg.mms.toNat 0 msg.sri.toNat msg.udhi.toNat msg.rp.toNat

/-- The octets of the message, field by field. -/
def octets (msg : L3TPDeliver) : List UInt8 :=
  msg.header :: (msg.originatingAddress.octets ++ msg.pid :: msg.dcs ::
    (msg.scts.elim [] TPSCTimeStamp.octets ++ msg.udl :: msg.userData))

def write (msg : L3TPDeliver) : List Op :=
  writeOctets msg.octets

end L3TPDeliver

/-! ## Submit -/

/-- A message from a mobile to the service centre. -/
structure L3TPSubmit where
  rd : Bool := true
  vpf : BitVec 2 := 0
  srr : Bool := false
  udhi : Bool := false
  rp : Bool := false
  mr : UInt8 := 0
  destinationAddress : L3TPAddress := {}
  pid : UInt8 := 0
  dcs : UInt8 := 0
  validityPeriod : List UInt8 := []
  udl : UInt8 := 0
  userData : List UInt8 := []
deriving DecidableEq

namespace L3TPSubmit

def bodyLength (msg : L3TPSubmit) : Nat :=
  1 + 1 + msg.destinationAddress.totalLength + 1 + 1 + msg.validityPeriod.length + 1 +
    msg.userData.length

/-- The octets of a validity period, by its format. -/
def validityOctets (vpf : Nat) : Nat :=
  if vpf = 0x01 then 1 else if vpf = 0x02 then 7 else if vpf = 0x03 then 10 else 0

def parse : FieldParser L3TPSubmit := do
  let header ← readOctet
  if tpduMti header ≠ 1 then throw (unexpectedMti "unexpected TP-MTI in SMS-Submit header")
  else
    let mr ← readOctet
    let destinationAddress ← L3TPAddress.parse
    let pid ← readOctet
    let dcs ← readOctet
    let validityPeriod ← readOctets (validityOctets (tpduVpf header))
    let udl ← readOctet
    let userData ← readUserData udl dcs
    pure {
      rd := tpduBit2 header ≠ 0, vpf := BitVec.ofNat 2 (tpduVpf header)
      srr := tpduSri header ≠ 0, udhi := tpduUdhi header ≠ 0, rp := tpduRp header ≠ 0
      mr, destinationAddress, pid, dcs, validityPeriod, udl, userData }

/-- The first octet of a Submit, with the format of the validity period. -/
def header (msg : L3TPSubmit) : UInt8 :=
  tpduFirstOctet 1 msg.rd.toNat msg.vpf.toNat msg.srr.toNat msg.udhi.toNat msg.rp.toNat

/-- The octets of the message, field by field. -/
def octets (msg : L3TPSubmit) : List UInt8 :=
  msg.header :: msg.mr :: (msg.destinationAddress.octets ++ msg.pid :: msg.dcs ::
    (msg.validityPeriod ++ msg.udl :: msg.userData))

def write (msg : L3TPSubmit) : List Op :=
  writeOctets msg.octets

end L3TPSubmit

/-! ## Status report -/

/-- The report of the service centre on a message. -/
structure L3TPStatusReport where
  mr : UInt8 := 0
  destinationAddress : L3TPAddress := {}
  pid : UInt8 := 0
  dcs : UInt8 := 0
  scts : Option TPSCTimeStamp := none
  sts : UInt8 := 0
deriving DecidableEq

namespace L3TPStatusReport

def bodyLength (msg : L3TPStatusReport) : Nat :=
  1 + 1 + msg.destinationAddress.totalLength + 1 + 1 + (if msg.scts.isSome then 7 else 0) + 1

def parse : FieldParser L3TPStatusReport := do
  let header ← readOctet
  if tpduMti header ≠ 2 then
    throw (unexpectedMti "unexpected TP-MTI in SMS-Status Report header")
  else
    let mr ← readOctet
    let destinationAddress ← L3TPAddress.parse
    let pid ← readOctet
    let dcs ← readOctet
    let scts ← TPSCTimeStamp.parse
    let sts ← readOctet
    pure { mr, destinationAddress, pid, dcs, scts := some scts, sts }

/-- The octets of the message, field by field. -/
def octets (msg : L3TPStatusReport) : List UInt8 :=
  tpduFirstOctet 2 0 0 0 0 0 :: msg.mr :: (msg.destinationAddress.octets ++ msg.pid :: msg.dcs ::
    (msg.scts.elim [] TPSCTimeStamp.octets ++ [msg.sts]))

def write (msg : L3TPStatusReport) : List Op :=
  writeOctets msg.octets

end L3TPStatusReport

/-! ## Command -/

/-- A command of a mobile to the service centre. -/
structure L3TPCommand where
  mr : UInt8 := 0
  pid : UInt8 := 0
  dcs : UInt8 := 0
  cmd : UInt8 := 0
  address : Option L3TPAddress := none
deriving DecidableEq

namespace L3TPCommand

def bodyLength (msg : L3TPCommand) : Nat :=
  1 + 1 + 1 + 1 + 1 + msg.address.elim 0 L3TPAddress.totalLength

/-- An address is written but never parsed. -/
def parse : FieldParser L3TPCommand := do
  let header ← readOctet
  if tpduMti header ≠ 2 then throw (unexpectedMti "unexpected TP-MTI in SMS-Command header")
  else
    let mr ← readOctet
    let pid ← readOctet
    let dcs ← readOctet
    let cmd ← readOctet
    pure { mr, pid, dcs, cmd }

/-- The octets of the message; the first octet has the message type of a status report. -/
def octets (msg : L3TPCommand) : List UInt8 :=
  tpduFirstOctet 2 0 0 0 0 0 :: msg.mr :: msg.pid :: msg.dcs :: msg.cmd ::
    msg.address.elim [] L3TPAddress.octets

def write (msg : L3TPCommand) : List Op :=
  writeOctets msg.octets

end L3TPCommand

end Gsml3
