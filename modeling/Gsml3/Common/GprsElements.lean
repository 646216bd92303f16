import Gsml3.Core.FieldCodec
import Gsml3.Core.OctetBits
import Gsml3.RR.Elements

/-!
# GPRS elements

Cell options, mobile allocation and power control parameters of the SI13 rest octets.  Each
has a parser, a length in bits and a `writeBits`, which agree on the optional groups.  Values
are kept in as many bits as their setters let through.
-/

namespace Gsml3

open BitWriter (Op fields endPos)
open FieldParser (Takes Ensures Leaves ReadsBack readBits readFlag readFlags remainingBits)
open OctetBits (firstBits packBits bitAt)

/-! ## Cell options -/

/-- The GPRS options of a cell. -/
structure L3GPRSCellOptions where
  nmo : BitVec 2 := 0
  t3168 : BitVec 3 := 0
  t3192 : BitVec 3 := 0
  drxTimerMax : BitVec 3 := 0
  accessBurstType : BitVec 1 := 0
  controlAckType : BitVec 1 := 0
  bsCvMax : BitVec 4 := 0
  panPresence : Bool := false
  panDec : BitVec 3 := 0
  panInc : BitVec 3 := 0
  panMax : BitVec 3 := 0
  extInfoPresence : Bool := false
  extInfoLength : BitVec 6 := 0
  extInfo : List UInt8 := []
deriving DecidableEq

namespace L3GPRSCellOptions

/-- The bits of the options, by what is announced. -/
def lengthBits (options : L3GPRSCellOptions) : Nat :=
  (2 + 3 + 3 + 3 + 1 + 1 + 4) + (if options.panPresence then 1 + 3 + 3 + 3 else 1) +
    if options.extInfoPresence then 1 + 6 + options.extInfoLength.toNat else 1

/-- The group of the packet access neighbour. -/
def parsePan (panPresence : Bool) : FieldParser (BitVec 3 × BitVec 3 × BitVec 3) :=
  if panPresence then do
    let panDec ← readBits 3
    let panInc ← readBits 3
    let panMax ← readBits 3
    pure (panDec, panInc, panMax)
  else pure (0, 0, 0)

/-- The extension bits, captured as they are. -/
def parseExtInfo (extInfoPresence : Bool) : FieldParser (BitVec 6 × List UInt8) :=
  if extInfoPresence then do
    let extInfoLength ← readBits 6
    let bits ← readFlags extInfoLength.toNat
    pure (extInfoLength, packBits bits)
  else pure (0, [])

/-- The fixed fields, then the parts that are announced. -/
def parse : FieldParser L3GPRSCellOptions := do
  let nmo ← readBits 2
  let t3168 ← readBits 3
  let t3192 ← readBits 3
  let drxTimerMax ← readBits 3
  let accessBurstType ← readBits 1
  let controlAckType ← readBits 1
  let bsCvMax ← readBits 4
  let panPresence ← readFlag
  let pan ← parsePan panPresence
  let extInfoPresence ← readFlag
  let ext ← parseExtInfo extInfoPresence
  pure {
    nmo, t3168, t3192, drxTimerMax, accessBurstType, controlAckType, bsCvMax, panPresence
    panDec := pan.1, panInc := pan.2.1, panMax := pan.2.2
    extInfoPresence, extInfoLength := ext.1, extInfo := ext.2 }

/-- The three values of the PAN counter, when announced. -/
def writePan (options : L3GPRSCellOptions) : List Op :=
  if options.panPresence then
    [writeValue options.panDec, writeValue options.panInc, writeValue options.panMax]
  else []

/-- The extension: its length and as many bits. -/
def writeExtInfo (options : L3GPRSCellOptions) : List Op :=
  if options.extInfoPresence then
    writeValue options.extInfoLength ::
      (firstBits options.extInfo options.extInfoLength.toNat).map writeFlag
  else []

/-- The fields in the order they are read. -/
def writeBits (options : L3GPRSCellOptions) : List Op :=
  [writeValue options.nmo, writeValue options.t3168, writeValue options.t3192,
    writeValue options.drxTimerMax, writeValue options.accessBurstType,
    writeValue options.controlAckType, writeValue options.bsCvMax,
    writeFlag options.panPresence] ++ options.writePan ++
    (writeFlag options.extInfoPresence :: options.writeExtInfo)

end L3GPRSCellOptions

/-! ## Mobile allocation -/

theorem unlisted_fits : ([] : List (BitVec 4)).length ≤ 8 := Nat.zero_le 8

/-- Compact storage of at most eight numbers. -/
structure RflNumbers where
  numbers : List (BitVec 4) := []
  fits : numbers.length ≤ 8 := by exact unlisted_fits
deriving DecidableEq

/-- A number for which there is no room is dropped. -/
def RflNumbers.push (stored : RflNumbers) (rfl : BitVec 4) : RflNumbers :=
  if room : stored.numbers.length < 8 then
    { numbers := stored.numbers ++ [rfl], fits := by rw [List.length_append]; exact room }
  else stored

/-- The frequencies of a GPRS cell, as a list of numbers or a bitmap. -/
structure L3GprsMobileAllocation where
  hsn : BitVec 6 := 0
  rflNumberListPresent : Bool := false
  rflNumbers : RflNumbers := {}
  maPresent : Bool := false
  maLength : BitVec 6 := 0
  maBitmap : Vector UInt8 8 := Vector.replicate 8 0
deriving DecidableEq

namespace L3GprsMobileAllocation

/-- The bits of the allocation, by what is announced. -/
def lengthBits (allocation : L3GprsMobileAllocation) : Nat :=
  (6 + 1) + 5 * allocation.rflNumbers.numbers.length + 1 +
    if allocation.maPresent then 0 else 6 + allocation.maLength.toNat

/-- `while (br.remainingBits() >= 5)`: a number and whether another one follows.  A round
reads five bits, so one for each bit is enough. -/
def parseRfl : Nat → RflNumbers → FieldParser RflNumbers
  | 0, stored => pure stored
  | rounds + 1, stored => do
      let bits ← remainingBits
      if 5 ≤ bits then
        let number ← readBits 4
        let more ← readFlag
        if more then parseRfl rounds (stored.push number) else pure (stored.push number)
      else pure stored

/-- The list of numbers, when announced. -/
def parseRflList (rflNumberListPresent : Bool) : FieldParser RflNumbers :=
  if rflNumberListPresent then do
    let bits ← remainingBits
    parseRfl bits {}
  else pure {}

/-- The octets in the array of eight. -/
def bitmapOctets (octets : List UInt8) : Vector UInt8 8 :=
  Vector.ofFn fun i : Fin 8 => octets.getD i 0

/-- The bitmap, which is there when its flag is not set. -/
def parseMa (maPresent : Bool) : FieldParser (BitVec 6 × Vector UInt8 8) :=
  if maPresent then pure (0, Vector.replicate 8 0)
  else do
    let maLength ← readBits 6
    let bits ← readFlags maLength.toNat
    pure (maLength, bitmapOctets (packBits bits))

/-- The two parts behind their flags. -/
def parse : FieldParser L3GprsMobileAllocation := do
  let hsn ← readBits 6
  let rflNumberListPresent ← readFlag
  let rflNumbers ← parseRflList rflNumberListPresent
  let maPresent ← readFlag
  let ma ← parseMa maPresent
  pure {
    hsn, rflNumberListPresent, rflNumbers, maPresent, maLength := ma.1, maBitmap := ma.2 }

/-- Each number with the flag that tells whether another follows. -/
def writeRfl : List (BitVec 4) → List Op
  | [] => []
  | number :: numbers => writeValue number :: writeFlag (!numbers.isEmpty) :: writeRfl numbers

/-- The length and the bits of the map, 64 at most. -/
def writeMa (allocation : L3GprsMobileAllocation) : List Op :=
  if allocation.maPresent then []
  else
    writeValue allocation.maLength ::
      (firstBits allocation.maBitmap.toList (min allocation.maLength.toNat 64)).map writeFlag

/-- The fields in the order they are read. -/
def writeBits (allocation : L3GprsMobileAllocation) : List Op :=
  [writeValue allocation.hsn, writeFlag allocation.rflNumberListPresent] ++
    writeRfl allocation.rflNumbers.numbers ++ (writeFlag allocation.maPresent :: allocation.writeMa)

end L3GprsMobileAllocation

/-! ## Power control -/

/-- The power control parameters of SI13. -/
structure L3GPRSSI13PowerControlParameters where
  alpha : BitVec 4 := 0
  tAvgW : BitVec 5 := 0
  tAvgT : BitVec 5 := 0
  pcMeasChan : Bool := false
  nAvgI : BitVec 4 := 0
deriving DecidableEq

namespace L3GPRSSI13PowerControlParameters

/-- The parameters have 19 bits. -/
def lengthBits : Nat := 19

/-- The five fields. -/
def parse : FieldParser L3GPRSSI13PowerControlParameters := do
  let alpha ← readBits 4
  let tAvgW ← readBits 5
  let tAvgT ← readBits 5
  let pcMeasChan ← readFlag
  let nAvgI ← readBits 4
  pure { alpha, tAvgW, tAvgT, pcMeasChan, nAvgI }

/-- The five fields. -/
def writeBits (parameters : L3GPRSSI13PowerControlParameters) : List Op :=
  [writeValue parameters.alpha, writeValue parameters.tAvgW, writeValue parameters.tAvgT,
    writeFlag parameters.pcMeasChan, writeValue parameters.nAvgI]

end L3GPRSSI13PowerControlParameters

end Gsml3
