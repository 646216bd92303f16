import Gsml3.SMS.TpduRoundTrip

/-!
# SMS messages of the CP and RP layers

Payloads are written behind a length octet that is cut to eight bits, and read as far as the
input goes: a body that ends within its payload is a shorter message.
-/

namespace Gsml3

open BitWriter (Op fields)
open FieldParser (Takes TakesAll Ensures Steady readOctet hasMore)
open Foundation (bitString)

/-! ## Payload -/

namespace SMS

/-- `for (i = 0; i < count && br.hasMore(); ++i)`. -/
def readAvailable : Nat → FieldParser (List UInt8)
  | 0 => pure []
  | count + 1 => do
      if ← hasMore then
        let octet ← readOctet
        let octets ← readAvailable count
        pure (octet :: octets)
      else pure []

/-- A length octet, and as many octets as there are of them. -/
def parsePayload : FieldParser (List UInt8) := do
  let length ← readOctet
  readAvailable length.toNat

/-- The length octet keeps eight bits of the size. -/
def payloadOctets (payload : List UInt8) : List UInt8 :=
  UInt8.ofNat payload.length :: payload

end SMS

open SMS

/-! ## CP layer -/

/-- A CP-DATA, which carries an RPDU. -/
structure L3CPData where
  rpdu : List UInt8 := []
deriving DecidableEq

namespace L3CPData

/-- The length octet and the RPDU. -/
def bodyLength (msg : L3CPData) : Nat :=
  1 + msg.rpdu.length

/-- The RPDU behind its length octet. -/
def parse : FieldParser L3CPData := do
  let rpdu ← parsePayload
  pure { rpdu := rpdu }

/-- The length octet and the RPDU. -/
def octets (msg : L3CPData) : List UInt8 :=
  payloadOctets msg.rpdu

def write (msg : L3CPData) : List Op :=
  writeOctets msg.octets

end L3CPData

/-- A CP-SMT, which carries an RPDU. -/
structure L3CPSMT where
  rpdu : List UInt8 := []
deriving DecidableEq

namespace L3CPSMT

/-- The length octet and the RPDU. -/
def bodyLength (msg : L3CPSMT) : Nat :=
  1 + msg.rpdu.length

/-- The RPDU behind its length octet. -/
def parse : FieldParser L3CPSMT := do
  let rpdu ← parsePayload
  pure { rpdu := rpdu }

/-- The length octet and the RPDU. -/
def octets (msg : L3CPSMT) : List UInt8 :=
  payloadOctets msg.rpdu

def write (msg : L3CPSMT) : List Op :=
  writeOctets msg.octets

end L3CPSMT

/-! ## RP layer -/

/-- The message type indicator is one of the eight values. -/
structure L3RPData where
  rpMti : BitVec 3 := 0
  messageRef : UInt8 := 0
  originatorAddress : Option L3TPAddress := none
  destinationAddress : Option L3TPAddress := none
  userData : List UInt8 := []
deriving DecidableEq

namespace L3RPData

/-- An address that is not there takes one octet. -/
def rpAddressWireLength (address : Option L3TPAddress) : Nat :=
  address.elim 1 L3TPAddress.totalLength

/-- The two header octets, both addresses, and the user data with its length. -/
def bodyLength (msg : L3RPData) : Nat :=
  2 + rpAddressWireLength msg.originatorAddress + rpAddressWireLength msg.destinationAddress +
    (1 + msg.userData.length)

/-- An address without digits is none. -/
def parseAddress : FieldParser (Option L3TPAddress) := do
  let address ← L3TPAddress.parse
  pure (if address.lengthV ≠ 0 then some address else none)

/-- The octets in front of the user data. -/
def parseHeader : FieldParser L3RPData := do
  let header ← readOctet
  if header &&& 0xF8 ≠ 0 then
    let pos ← FieldParser.position
    throw { code := .invalidValue, message := "invalid RP header octet", bitPosition := pos }
  else
    let messageRef ← readOctet
    let originatorAddress ← parseAddress
    let destinationAddress ← parseAddress
    pure {
      rpMti := BitVec.ofNat 3 header.toNat, messageRef, originatorAddress, destinationAddress }

/-- The header with the addresses, then the user data behind its length octet. -/
def parse : FieldParser L3RPData := do
  let msg ← parseHeader
  let userData ← parsePayload
  pure { msg with userData := userData }

/-- An address that is not there is an octet 0. -/
def addressOctets (address : Option L3TPAddress) : List UInt8 :=
  address.elim [0] L3TPAddress.octets

/-- The type, the reference and the two addresses. -/
def headerOctets (msg : L3RPData) : List UInt8 :=
  UInt8.ofNat msg.rpMti.toNat :: msg.messageRef :: (addressOctets msg.originatorAddress ++
    addressOctets msg.destinationAddress)

/-- The header, then the user data behind its length octet. -/
def octets (msg : L3RPData) : List UInt8 :=
  msg.headerOctets ++ payloadOctets msg.userData

def write (msg : L3RPData) : List Op :=
  writeOctets msg.octets

end L3RPData

/-! ## Payloads read back -/

namespace SMS

/-- As many octets as are there are taken. -/
theorem takes_readAvailable (payload : List UInt8) :
    Takes (readAvailable payload.length) (bitString payload) (some payload) := by
  induction payload with
  | nil => exact Takes.pure []
  | cons octet payload ih =>
      refine Takes.more (List.cons_ne_nil _ _) ?_
      rw [if_pos rfl]
      exact Takes.octet (ih.yield (octet :: ·))

/-- A payload that ends before its announced length is read as it is. -/
theorem takes_cutShort {payload : List UInt8} {count : Nat} (short : payload.length ≤ count) :
    TakesAll (readAvailable count) (bitString payload) (some payload) := by
  induction count generalizing payload with
  | zero =>
      rw [List.eq_nil_of_length_eq_zero (Nat.le_zero.mp short)]
      exact (Takes.pure []).all
  | succ count ih =>
      cases payload with
      | nil =>
          refine TakesAll.finished ?_
          exact (Takes.pure []).all
      | cons octet payload =>
          refine TakesAll.unfinished (List.cons_ne_nil _ _) ?_
          exact TakesAll.octet ((ih (Nat.le_of_succ_le_succ short)).yield (octet :: ·))

theorem ensures_readAvailable (count : Nat) :
    Ensures (readAvailable count) fun payload _ => payload.length ≤ count := by
  induction count with
  | zero => exact Ensures.pure (Nat.le_refl 0)
  | succ count ih =>
      have more : Ensures hasMore fun _ _ => True := by
        intro before after value next run
        obtain ⟨rfl, rfl⟩ := Prod.mk.inj (Except.ok.inj run)
        exact ⟨[], after, rfl, by rw [List.append_nil], trivial⟩
      refine more.bind fun more _ _ => ?_
      cases more with
      | true =>
          refine FieldParser.ensures_readOctet.bind fun octet _ _ => ?_
          exact ih.bind fun payload _ short => Ensures.pure (Nat.succ_le_succ short)
      | false => exact Ensures.pure (Nat.zero_le _)

/-- A payload that fits its length octet comes back. -/
theorem takes_payload {payload : List UInt8} (fits : payload.length ≤ 255) :
    Takes parsePayload (bitString (payloadOctets payload)) (some payload) := by
  have length : (UInt8.ofNat payload.length).toNat = payload.length :=
    UInt8.toNat_ofNat_of_lt' (Nat.lt_succ_of_le fits)
  refine Takes.octet ?_
  rw [length]
  exact takes_readAvailable payload

/-- A payload that is cut off is read as far as it goes. -/
theorem takes_cutPayload {length : UInt8} {payload : List UInt8}
    (short : payload.length ≤ length.toNat) :
    TakesAll parsePayload (bitString (length :: payload)) (some payload) :=
  TakesAll.octet (takes_cutShort short)

/-- A payload that is read has 255 octets at most. -/
theorem ensures_parsePayload : Ensures parsePayload fun payload _ => payload.length ≤ 255 := by
  refine FieldParser.ensures_readOctet.bind fun length _ _ => ?_
  exact (ensures_readAvailable length.toNat).mono fun _ _ short =>
    short.trans (Nat.le_of_lt_succ length.toNat_lt)

/-! ## Messages written and read back -/

/-- No proper prefix of the octets is a message. -/
def PrefixesRefused {α : Type} (parser : FieldParser α) (octets : List UInt8) : Prop :=
  ∀ front back, octets = front ++ back → back ≠ [] → FieldParser.parse parser front = none

/-- The octets of a message are written and parsed to the message, and no proper prefix of them
is a message. -/
structure Recovered {α : Type} (parser : FieldParser α) (msg : α) (write : List Op)
    (octets : List UInt8) : Prop where
  written : ∀ pos, fields pos write = bitString octets
  parsed : FieldParser.parse parser octets = some msg
  refused : PrefixesRefused parser octets

section Prefixes

variable {α β : Type} {lead : FieldParser α} {next : α → FieldParser β} {value : α}
  {octets payload : List UInt8}

/-- Octets that a parser needs to its end. -/
theorem PrefixesRefused.of_steady (steady : Steady lead)
    (takes : Takes lead (bitString octets) (some value)) :
    PrefixesRefused (lead >>= next) octets := by
  intro front back split longer
  rw [split, Foundation.bitString_append] at takes
  have nonempty : bitString back ≠ [] := by
    intro empty
    have length := congrArg List.length empty
    rw [Foundation.bitString_length] at length
    exact longer (List.eq_nil_of_length_eq_zero (by simpa using length))
  rw [FieldParser.parse, FieldParser.toOption_bind, steady.refuses_prefix takes nonempty]
  rfl

/-- A payload in front of which a message ends. -/
theorem PrefixesRefused.payload_nil (refused : PrefixesRefused lead (octets ++ payload))
    (ends : FieldParser.parse lead octets = some value) : payload = [] := by
  by_contra longer
  rw [refused octets payload rfl longer] at ends
  cases ends

end Prefixes

/-! ### CP layer -/

section Payload

variable {α : Type} {f : List UInt8 → α}

/-- A payload comes back exactly when it fits its length octet. -/
theorem payload_parsed_iff (injective : Function.Injective f) (payload : List UInt8) :
    FieldParser.parse (parsePayload >>= fun payload => pure (f payload)) (payloadOctets payload) =
      some (f payload) ↔ payload.length ≤ 255 := by
  constructor
  · intro parsed
    rw [FieldParser.parse_yield] at parsed
    obtain ⟨read, parsed, same⟩ := Option.map_eq_some_iff.mp parsed
    rw [injective same] at parsed
    have fits := FieldParser.parse_ensures ensures_parsePayload parsed
    exact fits
  · intro fits
    exact ((takes_payload fits).yield f).parse_eq

/-- Every prefix is refused for the empty payload only. -/
theorem payload_refused_iff (payload : List UInt8) :
    PrefixesRefused (parsePayload >>= fun payload => pure (f payload)) (payloadOctets payload) ↔
      payload = [] := by
  have cut : FieldParser.parse (parsePayload >>= fun payload => pure (f payload))
      [UInt8.ofNat payload.length] = some (f []) :=
    ((takes_cutPayload (Nat.zero_le _)).yield f).parse_eq
  constructor
  · intro refused
    exact PrefixesRefused.payload_nil refused cut
  · intro empty
    unfold parsePayload
    rw [empty, bind_assoc]
    exact PrefixesRefused.of_steady FieldParser.steady_readOctet (FieldParser.takes_readOctet 0)

end Payload

end SMS

/-- A CP-DATA comes back exactly when its RPDU fits. -/
theorem L3CPData.parsed_iff (msg : L3CPData) :
    FieldParser.parse L3CPData.parse msg.octets = some msg ↔ msg.rpdu.length ≤ 255 :=
  payload_parsed_iff (fun _ _ same => congrArg L3CPData.rpdu same) msg.rpdu

/-- Every prefix is refused for the empty RPDU only. -/
theorem L3CPData.refused_iff (msg : L3CPData) :
    PrefixesRefused L3CPData.parse msg.octets ↔ msg.rpdu = [] :=
  payload_refused_iff msg.rpdu

theorem L3CPSMT.parsed_iff (msg : L3CPSMT) :
    FieldParser.parse L3CPSMT.parse msg.octets = some msg ↔ msg.rpdu.length ≤ 255 :=
  payload_parsed_iff (fun _ _ same => congrArg L3CPSMT.rpdu same) msg.rpdu

theorem L3CPSMT.refused_iff (msg : L3CPSMT) :
    PrefixesRefused L3CPSMT.parse msg.octets ↔ msg.rpdu = [] :=
  payload_refused_iff msg.rpdu

/-! ### RP layer -/

namespace L3RPData

/-- An address that is there has digits. -/
def AddressCanonical (address : Option L3TPAddress) : Prop :=
  ∀ present ∈ address, present.Canonical ∧ present.digits ≠ []

/-- The addresses that reading leaves as they are. -/
structure HeaderCanonical (msg : L3RPData) : Prop where
  originator : AddressCanonical msg.originatorAddress
  destination : AddressCanonical msg.destinationAddress

theorem ensures_parseAddress : Ensures parseAddress fun address _ => AddressCanonical address := by
  refine L3TPAddress.ensures_parse.bind fun address _ canonical => Ensures.pure ?_
  intro present member
  by_cases empty : address.lengthV ≠ 0
  · rw [if_pos empty] at member
    obtain rfl : address = present := Option.some.inj member
    exact ⟨canonical, mt (L3TPAddress.lengthV_eq_zero canonical.counted).mpr empty⟩
  · rw [if_neg empty] at member
    cases member

/-- A canonical address comes back. -/
theorem takes_addressOctets {address : Option L3TPAddress} (canonical : AddressCanonical address) :
    Takes parseAddress (bitString (addressOctets address)) (some address) := by
  cases address with
  | none =>
      have default : L3TPAddress.Canonical {} :=
        ⟨Nat.zero_le _, fun _ member => absurd member List.not_mem_nil, fun _ => ⟨rfl, rfl⟩⟩
      exact (L3TPAddress.takes_octets default).yield fun address =>
        if address.lengthV ≠ 0 then some address else none
  | some address =>
      obtain ⟨canonical, digits⟩ := canonical address rfl
      have takes := (L3TPAddress.takes_octets canonical).yield fun address =>
        if address.lengthV ≠ 0 then some address else none
      rw [Option.map_some, if_pos (mt (L3TPAddress.lengthV_eq_zero canonical.counted).mp digits)]
        at takes
      exact takes

theorem header_fields (mti : BitVec 3) :
    UInt8.ofNat mti.toNat &&& 0xF8 = 0 ∧ BitVec.ofNat 3 (UInt8.ofNat mti.toNat).toNat = mti := by
  revert mti
  decide

/-- A header that is read is canonical. -/
theorem ensures_parseHeader : Ensures parseHeader fun msg _ => HeaderCanonical msg := by
  refine FieldParser.ensures_readOctet.bind fun header _ _ => ?_
  by_cases reserved : header &&& 0xF8 ≠ 0
  · rw [if_pos reserved]
    exact FieldParser.ensures_position.bind fun pos _ _ => Ensures.throw _
  · rw [if_neg reserved]
    refine FieldParser.ensures_readOctet.bind fun ref _ _ => ?_
    refine ensures_parseAddress.bind fun originator _ first => ?_
    exact ensures_parseAddress.bind fun destination _ second => Ensures.pure ⟨first, second⟩

/-- A canonical header comes back. -/
theorem takes_headerOctets {msg : L3RPData} (canonical : HeaderCanonical msg) :
    Takes parseHeader (bitString msg.headerOctets) (some { msg with userData := [] }) := by
  obtain ⟨reserved, mti⟩ := header_fields msg.rpMti
  unfold headerOctets
  refine Takes.octet ?_
  rw [if_neg (not_not.mpr reserved), mti]
  refine Takes.octet ((takes_addressOctets canonical.originator).octets ?_)
  exact (takes_addressOctets canonical.destination).yield fun destination =>
    L3RPData.mk msg.rpMti msg.messageRef msg.originatorAddress destination []

/-- A message comes back exactly when its addresses are canonical and its user data fits. -/
theorem parsed_iff (msg : L3RPData) :
    FieldParser.parse parse msg.octets = some msg ↔
      msg.HeaderCanonical ∧ msg.userData.length ≤ 255 := by
  apply FieldParser.reparse_iff
  · refine ensures_parseHeader.bind fun header _ canonical => ?_
    refine ensures_parsePayload.bind fun userData _ fits => Ensures.pure ?_
    exact ⟨⟨canonical.originator, canonical.destination⟩, fits⟩
  · rintro msg ⟨canonical, fits⟩
    refine (takes_headerOctets canonical).octets_all ?_
    exact ((takes_payload fits).yield fun userData => { msg with userData := userData }).all

theorem steady_parseDigits (count : Nat) : Steady (L3TPAddress.parseDigits count) := by
  induction count using L3TPAddress.parseDigits.induct with
  | case1 => exact Steady.pure []
  | case2 => exact FieldParser.steady_readOctet.bind fun byte => Steady.pure _
  | case3 count ih =>
      exact FieldParser.steady_readOctet.bind fun byte => ih.bind fun digits => Steady.pure _

theorem steady_parseAddress : Steady parseAddress := by
  refine Steady.bind ?_ fun address => Steady.pure _
  refine FieldParser.steady_readOctet.bind fun length => ?_
  split
  · exact Steady.pure _
  · refine FieldParser.steady_readOctet.bind fun tonNpi => ?_
    exact (steady_parseDigits length.toNat).bind fun digits => Steady.pure _

theorem steady_parseHeader : Steady parseHeader := by
  refine FieldParser.steady_readOctet.bind fun header => ?_
  split
  · exact FieldParser.steady_position.bind fun pos => Steady.throw _
  · refine FieldParser.steady_readOctet.bind fun ref => ?_
    refine steady_parseAddress.bind fun originator => ?_
    exact steady_parseAddress.bind fun destination => Steady.pure _

/-- Every prefix is refused for empty user data only. -/
theorem refused_iff {msg : L3RPData} (canonical : HeaderCanonical msg) :
    PrefixesRefused parse msg.octets ↔ msg.userData = [] := by
  have header := takes_headerOctets canonical
  constructor
  · intro refused
    have cut : FieldParser.parse parse (msg.headerOctets ++ [UInt8.ofNat msg.userData.length]) =
        some { msg with userData := [] } := by
      have none : ([] : List UInt8).length ≤ (UInt8.ofNat msg.userData.length).toNat :=
        Nat.zero_le _
      refine TakesAll.parse_eq (header.octets_all ?_)
      exact (takes_cutPayload none).yield fun userData => { msg with userData := userData }
    apply PrefixesRefused.payload_nil _ cut
    rw [List.append_assoc]
    exact refused
  · intro empty
    -- the header and the length octet are needed in full
    have lead : parse =
        (parseHeader >>= fun msg => readOctet >>= fun length => pure (msg, length)) >>= fun read =>
          readAvailable read.2.toNat >>= fun userData =>
            pure { read.1 with userData := userData } := by
      simp only [parse, parsePayload, bind_assoc, pure_bind]
    rw [lead]
    unfold octets
    rw [empty]
    have takes : Takes (parseHeader >>= fun msg => readOctet >>= fun length => pure (msg, length))
        (bitString (msg.headerOctets ++ [0])) (some ({ msg with userData := [] }, 0)) :=
      header.octets ((FieldParser.takes_readOctet 0).yield fun length =>
        ({ msg with userData := [] }, length))
    refine PrefixesRefused.of_steady ?_ takes
    refine steady_parseHeader.bind fun msg => ?_
    exact FieldParser.steady_readOctet.bind fun length => Steady.pure _

end L3RPData

/-! ### All messages -/

/-- CP-DATA, CP-SMT and RP-DATA come back, and only from all of their octets, if and only if they
carry no payload.  They come back at all if and only if the payload fits its length octet. -/
theorem sms_messages_recovered (data : L3CPData) (smt : L3CPSMT) (rp : L3RPData) :
    (Recovered L3CPData.parse data data.write data.octets ↔ data.rpdu = []) ∧
      (Recovered L3CPSMT.parse smt smt.write smt.octets ↔ smt.rpdu = []) ∧
      (Recovered L3RPData.parse rp rp.write rp.octets ↔
        rp.HeaderCanonical ∧ rp.userData = []) := by
  refine ⟨?_, ?_, ?_⟩
  · constructor
    · exact fun recovered => data.refused_iff.mp recovered.refused
    · intro empty
      refine ⟨fields_writeOctets data.octets, data.parsed_iff.mpr ?_, data.refused_iff.mpr empty⟩
      rw [empty]
      exact Nat.zero_le _
  · constructor
    · exact fun recovered => smt.refused_iff.mp recovered.refused
    · intro empty
      refine ⟨fields_writeOctets smt.octets, smt.parsed_iff.mpr ?_, smt.refused_iff.mpr empty⟩
      rw [empty]
      exact Nat.zero_le _
  · constructor
    · intro recovered
      obtain ⟨canonical, _⟩ := rp.parsed_iff.mp recovered.parsed
      exact ⟨canonical, (L3RPData.refused_iff canonical).mp recovered.refused⟩
    · rintro ⟨canonical, empty⟩
      refine ⟨fields_writeOctets rp.octets, rp.parsed_iff.mpr ⟨canonical, ?_⟩,
        (L3RPData.refused_iff canonical).mpr empty⟩
      rw [empty]
      exact Nat.zero_le _

/-- The first octet of three announces the rest, and is a message without them. -/
theorem cut_cp_data_accepted :
    ¬ PrefixesRefused L3CPData.parse (L3CPData.octets { rpdu := [0xAA, 0xBB, 0xCC] }) := by
  intro refused
  have empty := (L3CPData.refused_iff { rpdu := [0xAA, 0xBB, 0xCC] }).mp refused
  cases empty

end Gsml3
