import Mathlib

/-!
# Shared protocol types

Error values and the enumerations several components of the parser use: the
service access points and primitives of layer 2.
-/

namespace Gsml3

/-- Error codes of the parser. -/
inductive ParseError.Code where
  | ok
  | truncatedInput
  | invalidPD
  | invalidMTI
  | lengthMismatch
  | invalidIE
  | invalidValue
  | unsupportedFeature
  | sourceExhausted
  | bufferTooSmall
deriving DecidableEq, Repr

/-- A parse error: its code, its text and the bit it was found at. -/
structure ParseError where
  code : ParseError.Code
  message : String
  bitPosition : Nat := 0
deriving DecidableEq, Repr

/-- Service access point indicator.  Only the values 0 and 3 are defined on the
Um interface; `undefined` stands for every other three-bit value. -/
inductive SAPI where
  | sapi0
  | sapi3
  | undefined
deriving DecidableEq, Repr

/-- The enumerator values of `SAPI`. -/
def SAPI.code : SAPI → UInt8
  | .sapi0 => 0
  | .sapi3 => 3
  | .undefined => 16

/-- Primitives layer 2 passes to the upper layer. -/
inductive Primitive where
  | L2_DATA
  | L3_DATA
  | L3_DATA_CONFIRM
  | L3_UNIT_DATA
  | L3_ESTABLISH_REQUEST
  | L3_ESTABLISH_INDICATION
  | L3_ESTABLISH_CONFIRM
  | L3_RELEASE_REQUEST
  | L3_RELEASE_CONFIRM
  | L3_HARDRELEASE_REQUEST
  | MDL_ERROR_INDICATION
  | L3_RELEASE_INDICATION
  | PH_CONNECT
  | HANDOVER_ACCESS
deriving DecidableEq, Repr

end Gsml3
