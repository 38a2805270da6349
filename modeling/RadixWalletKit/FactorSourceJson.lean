import RadixWalletKit.Factors

/-!
# The JSON form of factor sources

`FactorSource` of `factor_source.rs` is written as an object holding a `discriminator` and
the payload under the key the discriminator names.  It is read through a wrapper: a
`discriminator` field that must be a string, and the enum flattened beside it.  The enum is
`untagged`, so its variants are tried in order, each by the key of its payload, and the
value of the discriminator is never looked at.

The codecs of the payloads are serde derives of types that are not under src/; they are
parameters here, each with its round trip law.
-/

namespace RadixWalletKit

/-- A JSON value; an object keeps its keys in order, repeated keys included. -/
inductive Json where
  | null
  | bool (b : Bool)
  | number (n : Nat)
  | string (s : String)
  | array (elements : List Json)
  | object (fields : List (String × Json))

instance : Inhabited Json := ⟨.null⟩

/-- Why a JSON value does not decode. -/
inductive DecodeError where
  | invalidType (expected : String)
  | missingField (field : String)
  | duplicateField (field : String)
  | unknownVariant (variant : String)
  | invalidLength (length : Nat)
  | noVariantMatched (enum : String)
  /-- `de::Error::custom`, with the error whose message it carries. -/
  | custom (error : CommonError)
  deriving DecidableEq, Repr

namespace Json

def asObject : Json → Except DecodeError (List (String × Json))
  | .object fields => .ok fields
  | _ => .error (.invalidType "struct")

def asString : Json → Except DecodeError String
  | .string s => .ok s
  | _ => .error (.invalidType "string")

def asArray : Json → Except DecodeError (List Json)
  | .array elements => .ok elements
  | _ => .error (.invalidType "sequence")

def asNumber : Json → Except DecodeError Nat
  | .number n => .ok n
  | _ => .error (.invalidType "integer")

/-- A field of a struct: serde fails on a missing or a repeated key and skips other keys. -/
def field (fields : List (String × Json)) (key : String) : Except DecodeError Json :=
  match fields.filter (fun f => f.1 = key) with
  | [] => .error (.missingField key)
  | [f] => .ok f.2
  | _ => .error (.duplicateField key)

@[simp] theorem field_single (key : String) (v : Json) : field [(key, v)] key = .ok v := by
  simp [field]

/-- The two fields of an object with two distinct keys. -/
theorem field_pair {key key' : String} (h : key ≠ key') (v v' : Json) :
    field [(key, v), (key', v')] key = .ok v ∧ field [(key, v), (key', v')] key' = .ok v' := by
  simp [field, h, Ne.symm h]

end Json

/-- A JSON codec that reads back what it writes. -/
structure JsonCodec (α : Type) where
  encode : α → Json
  decode : Json → Except DecodeError α
  decode_encode : ∀ a, decode (encode a) = .ok a

namespace FactorSource

section Codec

variable (device : JsonCodec DeviceFactorSource) (ledger : JsonCodec LedgerHardwareWalletFactorSource)

/-- `Serialize for FactorSource`. -/
def serialize : FactorSource → Json
  | .device factor =>
    .object [("discriminator", .string "device"), ("device", device.encode factor)]
  | .ledger factor =>
    .object [("discriminator", .string "ledgerHQHardwareWallet"),
      ("ledgerHQHardwareWallet", ledger.encode factor)]

/-- One variant of the untagged enum: a struct whose one field is the payload under `key`. -/
def deserializeVariant {α : Type} (codec : JsonCodec α) (key : String)
    (fields : List (String × Json)) : Except DecodeError α := do
  codec.decode (← Json.field fields key)

/-- The untagged enum: `Device` when its payload key decodes, else `Ledger`. -/
def deserializeUntagged (fields : List (String × Json)) : Except DecodeError FactorSource :=
  match deserializeVariant device "device" fields with
  | .ok factor => .ok (.device factor)
  | .error _ =>
    match deserializeVariant ledger "ledgerHQHardwareWallet" fields with
    | .ok factor => .ok (.ledger factor)
    | .error _ => .error (.noVariantMatched "FactorSource")

/-- `Deserialize for FactorSource`: the wrapper reads `discriminator` as a string and hands
the other fields to the untagged enum. -/
def deserialize (v : Json) : Except DecodeError FactorSource := do
  let fields ← v.asObject
  let _discriminator ← (← Json.field fields "discriminator").asString
  deserializeUntagged device ledger (fields.filter fun f => f.1 ≠ "discriminator")

/-- A key other than `discriminator` reads the same among the fields the wrapper passes on. -/
theorem deserializeVariant_rest {α : Type} (codec : JsonCodec α) (key : String)
    (hkey : key ≠ "discriminator") (fields : List (String × Json)) :
    deserializeVariant codec key (fields.filter fun f => f.1 ≠ "discriminator") =
      deserializeVariant codec key fields := by
  have hfilter : ((fields.filter fun f => f.1 ≠ "discriminator").filter fun f => f.1 = key) =
      fields.filter fun f => f.1 = key := by
    rw [List.filter_filter]
    refine List.filter_congr fun f _ => ?_
    by_cases h : f.1 = key <;> simp [h, hkey]
  simp only [deserializeVariant, Json.field, hfilter]

/-- The payload of a factor source is what the key of its own variant decodes to among
`fields`, and a ledger is read only when the `device` key does not decode. -/
def PayloadReadFrom (fields : List (String × Json)) : FactorSource → Prop
  | .device factor => deserializeVariant device "device" fields = .ok factor
  | .ledger factor =>
    (∃ e, deserializeVariant device "device" fields = .error e) ∧
    deserializeVariant ledger "ledgerHQHardwareWallet" fields = .ok factor

theorem deserializeUntagged_eq_ok {fields : List (String × Json)} {fs : FactorSource}
    (h : deserializeUntagged device ledger fields = .ok fs) :
    PayloadReadFrom device ledger fields fs := by
  unfold deserializeUntagged at h
  split at h
  · rename_i factor hd
    cases h
    exact hd
  · rename_i e hd
    split at h
    · rename_i factor hl
      cases h
      exact ⟨⟨e, hd⟩, hl⟩
    · cases h

/-- What a successful read says about the value read: an object with a string
`discriminator`, whose payload of the result is read from the key of its own variant. -/
theorem deserialize_eq_ok {v : Json} {fs : FactorSource}
    (h : deserialize device ledger v = .ok fs) :
    ∃ fields s, v = .object fields ∧ Json.field fields "discriminator" = .ok (.string s) ∧
      PayloadReadFrom device ledger fields fs := by
  obtain ⟨fields, hv, hrest⟩ := Except.bind_eq_ok.mp h
  obtain ⟨j, hj, hrest⟩ := Except.bind_eq_ok.mp hrest
  obtain ⟨s, hs, hu⟩ := Except.bind_eq_ok.mp hrest
  cases v <;> cases hv
  cases j <;> cases hs
  refine ⟨fields, s, rfl, hj, ?_⟩
  have hread := deserializeUntagged_eq_ok device ledger hu
  cases fs <;> simpa only [PayloadReadFrom, deserializeVariant_rest device "device" (by decide),
    deserializeVariant_rest ledger "ledgerHQHardwareWallet" (by decide)] using hread

theorem deserialize_serialize (fs : FactorSource) :
    deserialize device ledger (serialize device ledger fs) = .ok fs := by
  cases fs <;> simp only [serialize, deserialize, deserializeUntagged, deserializeVariant,
    Json.asObject, Json.asString, Except.ok_bind, Json.field, List.filter, String.reduceEq,
    decide_False, decide_True, JsonCodec.decode_encode]
  rfl

/-- The codec of factor sources is a faithful round trip, and a successful read takes the
payload from the key of the variant it returns, whatever string the discriminator holds. -/
theorem json_codec_reads_payload_key :
    (∀ fs, deserialize device ledger (serialize device ledger fs) = .ok fs) ∧
    (∀ v fs, deserialize device ledger v = .ok fs →
      ∃ fields s, v = .object fields ∧ Json.field fields "discriminator" = .ok (.string s) ∧
        PayloadReadFrom device ledger fields fs) :=
  ⟨deserialize_serialize device ledger, fun _ _ h => deserialize_eq_ok device ledger h⟩

end Codec

end FactorSource

section Codecs

/-- Lists as JSON arrays. -/
def JsonCodec.list {α : Type} (codec : JsonCodec α) : JsonCodec (List α) where
  encode xs := .array (xs.map codec.encode)
  decode j := do (← j.asArray).mapM codec.decode
  decode_encode xs := by
    simp only [Json.asArray, Except.ok_bind]
    induction xs with
    | nil => rfl
    | cons x xs ih =>
      rw [List.map_cons, List.mapM_cons, codec.decode_encode, Except.ok_bind, ih]
      rfl

/-- A byte as a JSON number. -/
def JsonCodec.byte : JsonCodec UInt8 where
  encode x := .number x.toNat
  decode j := do
    let n ← j.asNumber
    if n < 256 then pure n.toUInt8 else throw (.invalidType "u8")
  decode_encode x := by
    have hlt : x.toNat < 256 := x.toNat_lt_size
    simp only [Json.asNumber, Except.ok_bind, hlt, if_true]
    exact congrArg Except.ok (UInt8.toUInt8_toNat x)

/-- `n` bytes as an array of `n` numbers. -/
def JsonCodec.bytes (n : Nat) : JsonCodec (Bytes n) where
  encode b := (JsonCodec.list .byte).encode b.toList
  decode j := do
    let xs ← (JsonCodec.list .byte).decode j
    if h : xs.length = n then pure ⟨xs, h⟩ else throw (.invalidLength xs.length)
  decode_encode b := by
    simp only [JsonCodec.decode_encode, Except.ok_bind, b.length_eq, dif_pos]
    rfl

/-- `FactorSourceKind` by its serde name. -/
def FactorSourceKind.jsonCodec : JsonCodec FactorSourceKind where
  encode
    | .device => .string "device"
    | .ledgerHQHardwareWallet => .string "ledgerHQHardwareWallet"
  decode j := do
    match ← j.asString with
    | "device" => pure .device
    | "ledgerHQHardwareWallet" => pure .ledgerHQHardwareWallet
    | s => throw (.unknownVariant s)
  decode_encode k := by cases k <;> rfl

/-- `FactorSourceFlag` by its serde name. -/
def FactorSourceFlag.jsonCodec : JsonCodec FactorSourceFlag where
  encode
    | .main => .string "main"
    | .deletedByUser => .string "deletedByUser"
  decode j := do
    match ← j.asString with
    | "main" => pure .main
    | "deletedByUser" => pure .deletedByUser
    | s => throw (.unknownVariant s)
  decode_encode f := by cases f <;> rfl

/-- `FactorSourceIDFromHash` as an object of its two fields. -/
def FactorSourceIDFromHash.jsonCodec : JsonCodec FactorSourceIDFromHash where
  encode id := .object [("kind", FactorSourceKind.jsonCodec.encode id.kind),
    ("body", (JsonCodec.bytes 32).encode id.body)]
  decode j := do
    let fields ← j.asObject
    let kind ← FactorSourceKind.jsonCodec.decode (← Json.field fields "kind")
    let body ← (JsonCodec.bytes 32).decode (← Json.field fields "body")
    pure ⟨kind, body⟩
  decode_encode id := by
    simp [Json.asObject, (Json.field_pair (by decide : "kind" ≠ "body") _ _).1,
      (Json.field_pair (by decide : "kind" ≠ "body") _ _).2, JsonCodec.decode_encode]

/-- `FactorSourceCommon` as an object of its modelled field. -/
def FactorSourceCommon.jsonCodec : JsonCodec FactorSourceCommon where
  encode common := .object [("flags", (JsonCodec.list FactorSourceFlag.jsonCodec).encode common.flags)]
  decode j := do
    let fields ← j.asObject
    let flags ← (JsonCodec.list FactorSourceFlag.jsonCodec).decode (← Json.field fields "flags")
    pure ⟨flags⟩
  decode_encode common := by simp [Json.asObject, JsonCodec.decode_encode]

/-- A lawful codec for the modelled fields of a device factor source, standing in for its
serde derive. -/
def DeviceFactorSource.jsonCodec : JsonCodec DeviceFactorSource where
  encode d := .object [("id", FactorSourceIDFromHash.jsonCodec.encode d.id),
    ("common", FactorSourceCommon.jsonCodec.encode d.common)]
  decode j := do
    let fields ← j.asObject
    let id ← FactorSourceIDFromHash.jsonCodec.decode (← Json.field fields "id")
    let common ← FactorSourceCommon.jsonCodec.decode (← Json.field fields "common")
    pure ⟨id, common⟩
  decode_encode d := by
    simp [Json.asObject, (Json.field_pair (by decide : "id" ≠ "common") _ _).1,
      (Json.field_pair (by decide : "id" ≠ "common") _ _).2, JsonCodec.decode_encode]

/-- A lawful codec for the modelled fields of a ledger factor source, standing in for its
serde derive. -/
def LedgerHardwareWalletFactorSource.jsonCodec : JsonCodec LedgerHardwareWalletFactorSource where
  encode l := .object [("id", FactorSourceIDFromHash.jsonCodec.encode l.id),
    ("common", FactorSourceCommon.jsonCodec.encode l.common)]
  decode j := do
    let fields ← j.asObject
    let id ← FactorSourceIDFromHash.jsonCodec.decode (← Json.field fields "id")
    let common ← FactorSourceCommon.jsonCodec.decode (← Json.field fields "common")
    pure ⟨id, common⟩
  decode_encode l := by
    simp [Json.asObject, (Json.field_pair (by decide : "id" ≠ "common") _ _).1,
      (Json.field_pair (by decide : "id" ≠ "common") _ _).2, JsonCodec.decode_encode]

end Codecs

/-- A `device` payload under a ledger discriminator is read as a device factor source. -/
theorem FactorSource.deserialize_ignores_discriminator :
    FactorSource.deserialize DeviceFactorSource.jsonCodec LedgerHardwareWalletFactorSource.jsonCodec
      (.object [("discriminator", .string "ledgerHQHardwareWallet"),
        ("device", DeviceFactorSource.jsonCodec.encode .placeholder)]) =
      .ok (.device .placeholder) := by
  simp only [FactorSource.deserialize, FactorSource.deserializeUntagged,
    FactorSource.deserializeVariant, Json.asObject, Json.asString, Except.ok_bind, Json.field,
    List.filter, String.reduceEq, decide_False, decide_True, JsonCodec.decode_encode]

end RadixWalletKit
