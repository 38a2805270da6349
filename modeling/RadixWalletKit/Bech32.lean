import RadixWalletKit.Basic

/-!
# The bech32 codec

The `bech32` crate that the address helpers delegate to, as it encodes and decodes the
BIP-173 and BIP-350 formats: a human readable part, the separator `1`, data characters from
a 32 letter alphabet and a six character checksum.  Strings are handled as lists of
characters, and the crate's `u5` values as naturals below 32.

Decoding accepts a string in lower case or in upper case, and returns its human readable
part in lower case.  This is the behaviour the address checks depend on.
-/

namespace RadixWalletKit
namespace Bech32

/-- `Error` of the crate. -/
inductive Error where
  | missingSeparator
  | invalidChecksum
  | invalidLength
  | invalidChar (c : Char)
  | invalidData (value : Nat)
  | invalidPadding
  | mixedCase
  deriving DecidableEq, Repr

/-- `Variant`: the original checksum constant or the BIP-350 one. -/
inductive Variant where
  | bech32
  | bech32m
  deriving DecidableEq, Repr

/-- `Variant::constant`. -/
def Variant.constant : Variant → Nat
  | .bech32 => 1
  | .bech32m => 0x2bc830a3

/-- `Variant::from_remainder`. -/
def Variant.fromRemainder (c : Nat) : Option Variant :=
  if c = 1 then some .bech32 else if c = 0x2bc830a3 then some .bech32m else none

/-- `CHARSET`, the data alphabet. -/
def charset : List Char := "qpzry9x8gf2tvdw0s3jn54khce6mua7l".data

/-- `CHARSET_REV`, which maps a letter of either case to its value. -/
def charsetRev (c : Char) : Option Nat := charset.indexOf? c.toLower

/-- `GEN`, the generator of the checksum code. -/
def gen : List Nat := [0x3b6a57b2, 0x26508e6d, 0x1ea119fa, 0x3d4233dd, 0x2a1462b3]

/-- The xor of the generators selected by the five low bits of `b`. -/
def genXor (b : Nat) : Nat :=
  ((List.range 5).zip gen).foldl
    (fun chk item => if (b >>> item.1) &&& 1 = 1 then chk ^^^ item.2 else chk) 0

/-- One iteration of the loop of `polymod`. -/
def polymodStep (chk v : Nat) : Nat :=
  (((chk &&& 0x1ffffff) <<< 5) ^^^ v) ^^^ genXor (chk >>> 25)

/-- `polymod`: the checksum register after feeding `values`. -/
def polymod (values : List Nat) : Nat := values.foldl polymodStep 1

/-- `hrp_expand`: the high bits of each byte, a zero, then the low five bits of each. -/
def hrpExpand (hrp : List Char) : List Nat :=
  hrp.map (fun c => c.toNat >>> 5) ++ [0] ++ hrp.map (fun c => c.toNat &&& 0x1f)

/-- `verify_checksum`. -/
def verifyChecksum (hrp : List Char) (data : List Nat) : Option Variant :=
  Variant.fromRemainder (polymod (hrpExpand hrp ++ data))

/-- `create_checksum`: the six values that complete `data`. -/
def createChecksum (hrp : List Char) (data : List Nat) (variant : Variant) : List Nat :=
  let plm := polymod (hrpExpand hrp ++ data ++ List.replicate 6 0) ^^^ variant.constant
  (List.range 6).map fun p => (plm >>> (5 * (5 - p))) &&& 0x1f

/-- `Case` of a string. -/
inductive Case where
  | upper
  | lower
  | none
  deriving DecidableEq, Repr

/-- The loop of `check_hrp` over the bytes of the human readable part. -/
def checkHrpChars : List Char → Bool → Bool → Except Error Case
  | [], hasLower, hasUpper =>
    .ok (if hasUpper then .upper else if hasLower then .lower else .none)
  | c :: cs, hasLower, hasUpper =>
    if c.toNat < 33 ∨ 126 < c.toNat then .error (.invalidChar c)
    else
      let hasLower := hasLower || c.isLower
      let hasUpper := hasUpper || (!c.isLower && c.isUpper)
      if hasLower && hasUpper then .error .mixedCase else checkHrpChars cs hasLower hasUpper

/-- `check_hrp`: a non-empty printable ASCII part of at most 83 bytes, not of mixed case. -/
def checkHrp (hrp : List Char) : Except Error Case :=
  if hrp.isEmpty || 83 < hrp.length then .error .invalidLength
  else checkHrpChars hrp false false

/-- The case a data character forces, given the case seen so far. -/
def Case.update (case : Case) (c : Char) : Except Error Case :=
  if c.isLower then
    match case with
    | .upper => .error .mixedCase
    | _ => .ok .lower
  else if c.isUpper then
    match case with
    | .lower => .error .mixedCase
    | _ => .ok .upper
  else .ok case

/-- The data loop of `split_and_decode`: each character's value, with the case of every
letter agreeing with the case seen before it. -/
def decodeData : List Char → Case → Except Error (List Nat)
  | [], _ => .ok []
  | c :: cs, case =>
    if 128 ≤ c.toNat then .error (.invalidChar c)
    else
      match case.update c with
      | .error e => .error e
      | .ok case =>
        match charsetRev c with
        | none => .error (.invalidChar c)
        | some v => (v :: ·) <$> decodeData cs case

/-- `s.rfind(SEP)` and the split around it: the part before the last `1`, and the part
after it. -/
def splitAtSeparator (s : List Char) : Option (List Char × List Char) :=
  match s.reverse.span (· ≠ '1') with
  | (_, []) => none
  | (revData, _ :: revHrp) => some (revHrp.reverse, revData.reverse)

/-- `split_and_decode`: the human readable part in lower case, and the data values. -/
def splitAndDecode (s : List Char) : Except Error (List Char × List Nat) :=
  match splitAtSeparator s with
  | none => .error .missingSeparator
  | some (rawHrp, rawData) => do
    let case ← checkHrp rawHrp
    let hrpLower := if case = .upper then rawHrp.map Char.toLower else rawHrp
    let data ← decodeData rawData case
    pure (hrpLower, data)

/-- `decode`: the human readable part, the data without its checksum, and the variant the
checksum is of. -/
def decode (s : String) : Except Error (String × List Nat × Variant) := do
  let (hrpLower, data) ← splitAndDecode s.data
  if data.length < 6 then throw .invalidLength
  match verifyChecksum hrpLower data with
  | some variant => pure (⟨hrpLower⟩, data.take (data.length - 6), variant)
  | none => throw .invalidChecksum

/-- `encode`: the human readable part in lower case, the separator, then the data and its
checksum in the alphabet.  The data are `u5` values, below 32. -/
def encode (hrp : String) (data : List Nat) (variant : Variant) : Except Error String := do
  let case ← checkHrp hrp.data
  let hrpLower := if case = .upper then hrp.data.map Char.toLower else hrp.data
  pure ⟨hrpLower ++ ['1'] ++ (data ++ createChecksum hrpLower data variant).map (charset.getD · 'q')⟩

/-- The inner `while bits >= to` loop of `convert_bits`: emit each whole group of `to` bits
of `acc`, highest first.  Each turn lowers `bits`, so `bits` turns are enough. -/
def emitGroups (toBits acc : Nat) : Nat → Nat → List Nat → List Nat × Nat
  | 0, bits, ret => (ret, bits)
  | fuel + 1, bits, ret =>
    if 0 < toBits ∧ toBits ≤ bits then
      emitGroups toBits acc fuel (bits - toBits)
        (ret ++ [(acc >>> (bits - toBits)) &&& ((1 <<< toBits) - 1)])
    else (ret, bits)

/-- The outer loop of `convert_bits` over the input values, with its accumulator, the
number of bits it holds, and the groups emitted so far. -/
def convertBitsLoop (fromBits toBits : Nat) : List Nat → Nat → Nat → List Nat →
    Except Error (Nat × Nat × List Nat)
  | [], acc, bits, ret => .ok (acc, bits, ret)
  | v :: vs, acc, bits, ret =>
    if v >>> fromBits ≠ 0 then .error (.invalidData v)
    else
      let acc := (acc <<< fromBits) ||| v
      let (ret, bits) := emitGroups toBits acc (bits + fromBits) (bits + fromBits) ret
      convertBitsLoop fromBits toBits vs acc bits ret

/-- `convert_bits(data, from, to, pad)`: regroup the bits of `from`-bit values into
`to`-bit values.  With `pad`, leftover bits are padded with zeros into one more group;
without it, leftover bits must be fewer than `from` and all zero. -/
def convertBits (data : List Nat) (fromBits toBits : Nat) (pad : Bool) :
    Except Error (List Nat) := do
  let (acc, bits, ret) ← convertBitsLoop fromBits toBits data 0 0 []
  let maxv := (1 <<< toBits) - 1
  if pad then
    pure (if 0 < bits then ret ++ [(acc <<< (toBits - bits)) &&& maxv] else ret)
  else if fromBits ≤ bits then throw .invalidPadding
  else if (acc <<< (toBits - bits)) &&& maxv ≠ 0 then throw .invalidPadding
  else pure ret

/-- `ToBase32` of bytes: the groups `convert_bits(data, 8, 5, true)` gives, which is what
the crate's buffered writer emits. -/
def toBase32 (bytes : List UInt8) : List Nat :=
  match convertBits (bytes.map UInt8.toNat) 8 5 true with
  | .ok groups => groups
  | .error _ => []

/-- `Vec::<u8>::from_base32`, which is `convert_bits(data, 5, 8, false)`. -/
def fromBase32 (data : List Nat) : Except Error (List UInt8) :=
  (·.map Nat.toUInt8) <$> convertBits data 5 8 false

end Bech32
end RadixWalletKit
