import RadixWalletKit.Address

/-!
# Secp256k1 private keys and their byte and hex forms

`Secp256k1PrivateKey` of `private_key.rs` wraps the engine's key, which holds a secp256k1
secret scalar: 32 bytes whose big-endian value lies between 1 and the order of the curve's
group, less one.  The model keeps the 32 bytes with that range as a field, so an invalid key
cannot be built.  A key is read from bytes through the engine's `from_bytes`, and from a
string through `Hex32Bytes::from_hex` and then `from_bytes`; it is written by `to_bytes`, and as
hex by the `hex` crate's lower case `encode`.

`from_bytes` accepts exactly the slices that are a valid scalar, and returns the key whose
bytes they are.  The hex form round-trips: `from_str` reads back what `to_hex` writes, and a
key it reads from a string writes back as that string in lower case.  Each error names the
stage that failed: `InvalidSecp256k1PrivateKeyFromString` for a string that is not 64 hex digits, and
`InvalidSecp256k1PrivateKeyFromBytes` for 64 digits whose value is not a scalar.
-/

namespace RadixWalletKit

/-- `KeyError`, restricted to the variants the private key returns. -/
inductive KeyError where
  | invalidSecp256k1PrivateKeyFromBytes
  | invalidSecp256k1PrivateKeyFromString
  deriving DecidableEq, Repr

/-! ## Hex -/

section Hex

/-- The digits `hex::encode` writes. -/
def hexChars : List Char := "0123456789abcdef".data

/-- `hex::encode`: two lower case digits per byte, the high half first. -/
def hexEncode (bytes : List UInt8) : String :=
  ⟨bytes.flatMap fun b => [hexChars.getD (b.toNat / 16) '0', hexChars.getD (b.toNat % 16) '0']⟩

/-- `hex::decode` of a string: an even number of digits of either case, two per byte, the high
half first.  The crate reads the UTF-8 bytes of the string; a character outside ASCII is never
a digit, so it rejects the same strings. -/
def hexDecode : List Char → Option (List UInt8)
  | [] => some []
  | [_] => none
  | hi :: lo :: rest => do
    let h ← hexDigit hi
    let l ← hexDigit lo
    let bytes ← hexDecode rest
    pure ((h * 16 + l).toUInt8 :: bytes)

@[simp] theorem hexEncode_nil : (hexEncode []).data = [] := rfl

@[simp] theorem hexEncode_cons (b : UInt8) (bytes : List UInt8) :
    (hexEncode (b :: bytes)).data =
      hexChars.getD (b.toNat / 16) '0' :: hexChars.getD (b.toNat % 16) '0' :: (hexEncode bytes).data :=
  rfl

theorem length_hexEncode (bytes : List UInt8) : (hexEncode bytes).data.length = 2 * bytes.length := by
  induction bytes with
  | nil => rfl
  | cons b bytes ih => simp only [hexEncode_cons, List.length_cons, ih]; omega

/-- Each of the sixteen digits reads back as its own value. -/
theorem hexDigit_hexChars : ∀ d < 16, hexDigit (hexChars.getD d '0') = some d := by decide

theorem hexDigit_ascii {c : Char} {d : Nat} (h : hexDigit c = some d) : c.toNat < 128 := by
  unfold hexDigit at h
  split_ifs at h with h1 h2 h3
  · exact Nat.lt_of_le_of_lt h1.2 (by decide)
  · exact Nat.lt_of_le_of_lt h2.2 (by decide)
  · exact Nat.lt_of_le_of_lt h3.2 (by decide)

/-- The digits of either case, checked over all of ASCII. -/
theorem ascii_hexDigit : ∀ n < 128, (hexDigit (Char.ofNat n)).all
    (fun d => d < 16 && hexChars.getD d '0' == (Char.ofNat n).toLower) := by decide

/-- A digit of either case has a value below sixteen, written back as its lower case. -/
theorem hexDigit_eq_some {c : Char} {d : Nat} (h : hexDigit c = some d) :
    d < 16 ∧ hexChars.getD d '0' = c.toLower := by
  have := ascii_hexDigit c.toNat (hexDigit_ascii h)
  rw [Char.ofNat_toNat, h] at this
  simpa using this

/-- A byte is its high half times sixteen plus its low half. -/
theorem byte_halves (b : UInt8) : (b.toNat / 16 * 16 + b.toNat % 16).toUInt8 = b := by
  rw [Nat.div_add_mod', UInt8.toUInt8_toNat]

/-- The byte of two digits has the first as its high half and the second as its low half. -/
theorem toNat_byte {h l : Nat} (hh : h < 16) (hl : l < 16) :
    (h * 16 + l).toUInt8.toNat / 16 = h ∧ (h * 16 + l).toUInt8.toNat % 16 = l := by
  rw [Nat.toUInt8, UInt8.toNat_ofNat_of_lt (by simp only [UInt8.size]; omega)]
  omega

theorem hexDecode_cons_cons {hi lo : Char} {rest : List Char} {bytes : List UInt8}
    (h : hexDecode (hi :: lo :: rest) = some bytes) :
    ∃ dh dl tail, hexDigit hi = some dh ∧ hexDigit lo = some dl ∧ hexDecode rest = some tail ∧
      bytes = (dh * 16 + dl).toUInt8 :: tail := by
  simp only [hexDecode, Option.bind_eq_bind, Option.bind_eq_some, Option.pure_def,
    Option.some.injEq] at h
  obtain ⟨dh, hh, dl, hl, tail, ht, rfl⟩ := h
  exact ⟨dh, dl, tail, hh, hl, ht, rfl⟩

/-- `hex::decode` reads back what `hex::encode` writes. -/
theorem hexDecode_hexEncode : ∀ bytes : List UInt8, hexDecode (hexEncode bytes).data = some bytes
  | [] => rfl
  | b :: bytes => by
    have hb : b.toNat < 256 := b.toNat_lt_size
    rw [hexEncode_cons, hexDecode, hexDigit_hexChars _ (by omega), hexDigit_hexChars _ (by omega),
      hexDecode_hexEncode bytes]
    simp only [Option.bind_eq_bind, Option.some_bind, Option.pure_def, byte_halves]

/-- What `hex::decode` accepts, `hex::encode` writes back in lower case. -/
theorem hexEncode_hexDecode : ∀ {l : List Char} {bytes : List UInt8}, hexDecode l = some bytes →
    (hexEncode bytes).data = l.map Char.toLower
  | [], _, h => by
    cases h
    rfl
  | [_], _, h => by cases h
  | hi :: lo :: rest, _, h => by
    obtain ⟨dh, dl, tail, hh, hl, ht, rfl⟩ := hexDecode_cons_cons h
    obtain ⟨hh16, hhi⟩ := hexDigit_eq_some hh
    obtain ⟨hl16, hlo⟩ := hexDigit_eq_some hl
    obtain ⟨hdiv, hmod⟩ := toNat_byte hh16 hl16
    rw [hexEncode_cons, hdiv, hmod, hhi, hlo, hexEncode_hexDecode ht]
    rfl

/-- `hex::decode` accepts exactly the strings of an even number of digits. -/
theorem hexDecode_isSome_iff : ∀ l : List Char,
    (hexDecode l).isSome ↔ l.length % 2 = 0 ∧ ∀ c ∈ l, (hexDigit c).isSome
  | [] => by simp [hexDecode]
  | [c] => by simp [hexDecode]
  | hi :: lo :: rest => by
    have hstep : (hexDecode (hi :: lo :: rest)).isSome =
        ((hexDigit hi).isSome && (hexDigit lo).isSome && (hexDecode rest).isSome) := by
      simp only [hexDecode]
      cases hexDigit hi <;> cases hexDigit lo <;> cases hexDecode rest <;> rfl
    have hmod : (rest.length + 1 + 1) % 2 = rest.length % 2 := by omega
    simp only [hstep, Bool.and_eq_true, hexDecode_isSome_iff rest, List.length_cons, hmod,
      List.forall_mem_cons]
    tauto

/-- `hex::decode` gives one byte per two digits. -/
theorem length_of_hexDecode {l : List Char} {bytes : List UInt8} (h : hexDecode l = some bytes) :
    l.length = 2 * bytes.length := by
  rw [← List.length_map l Char.toLower, ← hexEncode_hexDecode h, length_hexEncode]

end Hex

/-- `Hex32Bytes::from_hex` (not under src/): the bytes `hex::decode` gives, which must be
exactly 32.  The tests of `private_key.rs` reject `"dead"` and `"not hex"` through it. -/
def Hex32Bytes.fromHex (s : String) : Option Hex32Bytes :=
  match hexDecode s.data with
  | none => none
  | some bytes => if h : bytes.length = 32 then some ⟨bytes, h⟩ else none

/-- `Hex32Bytes::from_hex` accepts exactly the strings of 64 digits. -/
theorem Hex32Bytes.fromHex_isSome_iff (s : String) :
    (Hex32Bytes.fromHex s).isSome ↔ s.length = 64 ∧ ∀ c ∈ s.data, (hexDigit c).isSome := by
  have hiff := hexDecode_isSome_iff s.data
  unfold Hex32Bytes.fromHex
  cases hdec : hexDecode s.data with
  | none =>
    simp only [hdec, Option.isSome_none, Bool.false_eq_true, false_iff] at hiff ⊢
    exact fun ⟨hlen, hdigits⟩ => hiff ⟨by rw [String.length] at hlen; omega, hdigits⟩
  | some bytes =>
    have hlen := length_of_hexDecode hdec
    simp only [hdec, Option.isSome_some, true_iff] at hiff
    rw [String.length]
    dsimp only
    split_ifs with h32
    · exact iff_of_true rfl ⟨by omega, hiff.2⟩
    · exact iff_of_false Bool.false_ne_true fun ⟨h64, _⟩ => h32 (by omega)

/-! ## The key -/

/-- The order of the group of secp256k1. -/
def Secp256k1.groupOrder : Nat := 0xFFFFFFFFFFFFFFFFFFFFFFFFFFFFFFFEBAAEDCE6AF48A03BBFD25E8CD0364141

/-- The big-endian value of bytes. -/
def bigEndianValue (bytes : List UInt8) : Nat := bytes.foldl (fun acc b => acc * 256 + b.toNat) 0

/-- A secp256k1 secret scalar: a value from 1 to the group order less one. -/
def IsSecretScalar (bytes : List UInt8) : Prop :=
  0 < bigEndianValue bytes ∧ bigEndianValue bytes < Secp256k1.groupOrder

instance : DecidablePred IsSecretScalar := fun _ => inferInstanceAs (Decidable (_ ∧ _))

/-- `Secp256k1PrivateKey`: the engine key it wraps, as the 32 bytes of its scalar, which is in
range. -/
structure Secp256k1PrivateKey where
  bytes : Bytes 32
  isSecretScalar : IsSecretScalar bytes.toList

/-- The engine's `Secp256k1PrivateKey::from_bytes`: a slice of 32 bytes that
`SecretKey::from_slice` accepts as a scalar. -/
def EngineSecp256k1PrivateKey.fromBytes (slice : List UInt8) : Option Secp256k1PrivateKey :=
  if h : slice.length = 32 then
    if hs : IsSecretScalar slice then some ⟨⟨slice, h⟩, hs⟩ else none
  else none

namespace Secp256k1PrivateKey

/-- `to_bytes`. -/
def toBytes (key : Secp256k1PrivateKey) : List UInt8 := key.bytes.toList

/-- `to_hex`. -/
def toHex (key : Secp256k1PrivateKey) : String := hexEncode key.toBytes

/-- `from_bytes`. -/
def fromBytes (slice : List UInt8) : Except KeyError Secp256k1PrivateKey :=
  match EngineSecp256k1PrivateKey.fromBytes slice with
  | some key => .ok key
  | none => .error .invalidSecp256k1PrivateKeyFromBytes

/-- `from_vec`. -/
def fromVec (bytes : List UInt8) : Except KeyError Secp256k1PrivateKey := fromBytes bytes

/-- `from_hex32_bytes`. -/
def fromHex32Bytes (bytes : Hex32Bytes) : Except KeyError Secp256k1PrivateKey :=
  fromVec bytes.toList

/-- `from_str`: the string as `Hex32Bytes`, then those bytes as a key. -/
def fromStr (hex : String) : Except KeyError Secp256k1PrivateKey :=
  match Hex32Bytes.fromHex hex with
  | none => .error .invalidSecp256k1PrivateKeyFromString
  | some bytes => fromBytes bytes.toList

/-- `generate`, with the 32 bytes `Hex32Bytes::generate` draws as its argument. -/
def generate (random : Hex32Bytes) : Returns Secp256k1PrivateKey :=
  match fromHex32Bytes random with
  | .ok key => .value key
  | .error _ => .panic "Should be able to generate 32 bytes"

/-- `PartialEq`: the bytes are equal. -/
def eq (a b : Secp256k1PrivateKey) : Bool := a.toBytes == b.toBytes

@[ext] theorem ext {a b : Secp256k1PrivateKey} (h : a.toBytes = b.toBytes) : a = b := by
  obtain ⟨⟨bytes, _⟩, _⟩ := a
  obtain ⟨⟨bytes', _⟩, _⟩ := b
  cases h
  rfl

/-- Two keys are equal under `PartialEq` exactly when they are the same key. -/
theorem eq_iff (a b : Secp256k1PrivateKey) : a.eq b = true ↔ a = b :=
  ⟨fun h => ext (beq_iff_eq.mp h), fun h => h ▸ beq_self_eq_true _⟩

theorem engineFromBytes_eq_some_iff {slice : List UInt8} {key : Secp256k1PrivateKey} :
    EngineSecp256k1PrivateKey.fromBytes slice = some key ↔ key.toBytes = slice := by
  constructor
  · intro h
    unfold EngineSecp256k1PrivateKey.fromBytes at h
    split_ifs at h
    cases h
    rfl
  · rintro rfl
    simp [EngineSecp256k1PrivateKey.fromBytes, key.bytes.length_eq, key.isSecretScalar, toBytes]

theorem engineFromBytes_eq_none_iff {slice : List UInt8} :
    EngineSecp256k1PrivateKey.fromBytes slice = none ↔
      ¬ (slice.length = 32 ∧ IsSecretScalar slice) := by
  unfold EngineSecp256k1PrivateKey.fromBytes
  split_ifs <;> simp_all

theorem fromBytes_eq_ok_iff {slice : List UInt8} {key : Secp256k1PrivateKey} :
    fromBytes slice = .ok key ↔ key.toBytes = slice := by
  rw [← engineFromBytes_eq_some_iff, fromBytes]
  split <;> simp_all

/-- `from_bytes` fails only with its own error, and exactly off the valid scalars. -/
theorem fromBytes_eq_error_iff {slice : List UInt8} {e : KeyError} :
    fromBytes slice = .error e ↔
      e = .invalidSecp256k1PrivateKeyFromBytes ∧ ¬ (slice.length = 32 ∧ IsSecretScalar slice) := by
  rw [← engineFromBytes_eq_none_iff, fromBytes]
  cases EngineSecp256k1PrivateKey.fromBytes slice with
  | some key => simp
  | none => simp only [Except.error.injEq, and_true]; exact eq_comm

/-- `Hex32Bytes::from_hex` gives the bytes `hex::decode` reads. -/
theorem fromHex_eq_some_iff {s : String} {bytes : Hex32Bytes} :
    Hex32Bytes.fromHex s = some bytes ↔ hexDecode s.data = some bytes.toList := by
  obtain ⟨l, hl⟩ := bytes
  unfold Hex32Bytes.fromHex
  cases hexDecode s.data with
  | none => simp
  | some l' =>
    dsimp only
    split_ifs with h
    · simp only [Option.some.injEq, Bytes.mk.injEq]
    · simp only [Option.some.injEq, reduceCtorEq, false_iff]
      rintro rfl
      exact h hl

theorem fromHex_toHex (key : Secp256k1PrivateKey) :
    Hex32Bytes.fromHex key.toHex = some key.bytes :=
  fromHex_eq_some_iff.mpr (hexDecode_hexEncode _)

/-- The hex form round-trips.  `from_str` reads back every key `to_hex` writes, and a key it
reads from a string writes back as that string in lower case. -/
theorem fromStr_toHex_roundtrip :
    (∀ key : Secp256k1PrivateKey, fromStr key.toHex = .ok key) ∧
    (∀ s key, fromStr s = .ok key → key.toHex = ⟨s.data.map Char.toLower⟩) := by
  refine ⟨fun key => by rw [fromStr, fromHex_toHex]; exact fromBytes_eq_ok_iff.mpr rfl,
    fun s key h => ?_⟩
  unfold fromStr at h
  cases hhex : Hex32Bytes.fromHex s with
  | none => simp only [hhex, reduceCtorEq] at h
  | some bytes =>
    rw [hhex, fromBytes_eq_ok_iff] at h
    rw [toHex, h, ← hexEncode_hexDecode (fromHex_eq_some_iff.mp hhex)]

/-- Each error of `from_str` names the stage that failed: it is
`InvalidSecp256k1PrivateKeyFromString` exactly for a string that is not 64 hex digits, and
`InvalidSecp256k1PrivateKeyFromBytes` exactly for 64 digits whose 32 bytes are no scalar. -/
theorem fromStr_error_iff (s : String) :
    (fromStr s = .error .invalidSecp256k1PrivateKeyFromString ↔
      ¬ (s.length = 64 ∧ ∀ c ∈ s.data, (hexDigit c).isSome)) ∧
    (fromStr s = .error .invalidSecp256k1PrivateKeyFromBytes ↔
      ∃ bytes, hexDecode s.data = some bytes ∧ bytes.length = 32 ∧ ¬ IsSecretScalar bytes) := by
  rw [← Hex32Bytes.fromHex_isSome_iff, fromStr]
  cases hhex : Hex32Bytes.fromHex s with
  | none =>
    refine ⟨by simp, ?_⟩
    simp only [Except.error.injEq, reduceCtorEq, false_iff, not_exists, not_and]
    intro bytes hdec hlen _
    have : Hex32Bytes.fromHex s = some ⟨bytes, hlen⟩ := fromHex_eq_some_iff.mpr hdec
    simp only [hhex, reduceCtorEq] at this
  | some b =>
    have hdec := fromHex_eq_some_iff.mp hhex
    refine ⟨by simp [fromBytes_eq_error_iff], ?_⟩
    simp only [fromBytes_eq_error_iff, b.length_eq, true_and]
    exact ⟨fun hs => ⟨b.toList, hdec, b.length_eq, hs⟩, fun ⟨bytes, h, _, hs⟩ =>
      Option.some_injective _ (hdec.symm.trans h) ▸ hs⟩

example : fromStr "dead" = .error .invalidSecp256k1PrivateKeyFromString := rfl

example : fromBytes (List.replicate 32 0xFF) = .error .invalidSecp256k1PrivateKeyFromBytes := rfl

end Secp256k1PrivateKey

end RadixWalletKit
