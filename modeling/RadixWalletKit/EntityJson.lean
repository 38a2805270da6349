import RadixWalletKit.EntityLaws
import RadixWalletKit.FactorSourceJson

/-!
# The JSON form of display names, of unsecured entity control and of resource addresses

`DisplayName` is written as its string and read back through `DisplayName::new`, so a read
trims and checks again; every name `new` made reads back as itself.

`UnsecuredEntityControl` has serde's derive: an object with `transactionSigning` and, when
there is one, `authenticationSigning`.  The derive builds the struct from whatever instances
the two keys hold and never runs the checks of `new`, so every control reads back as itself,
those that break the key-kind invariant included.

`ResourceAddress` is written as its address string and read back through `try_from_bech32`,
so every address that `try_from_bech32` returns reads back as itself.

The codec of `HierarchicalDeterministicFactorInstance` is a serde derive of a type that is
not under src/: it is a parameter with its round trip law, and a lawful codec of the
modelled fields stands in for it where a value has to be computed.
-/

namespace RadixWalletKit

/-- A field that serde may find missing, as it does for an `Option` field: `none` when no
key matches, and an error on a repeated key. -/
def Json.optionalField (fields : List (String × Json)) (key : String) :
    Except DecodeError (Option Json) :=
  match fields.filter (fun f => f.1 = key) with
  | [] => .ok none
  | [f] => .ok (some f.2)
  | _ => .error (.duplicateField key)

/-- `Deserialize for Option<T>`: `null` is `None`, anything else is read as a `T`. -/
def JsonCodec.decodeOption {α : Type} (codec : JsonCodec α) : Json → Except DecodeError (Option α)
  | .null => .ok none
  | j => some <$> codec.decode j

/-- A value not written as `null` is read back as `Some`. -/
theorem JsonCodec.decodeOption_encode {α : Type} (codec : JsonCodec α) {a : α}
    (hnull : codec.encode a ≠ .null) : codec.decodeOption (codec.encode a) = .ok (some a) := by
  unfold decodeOption
  split
  · exact absurd ‹_› hnull
  · simp [codec.decode_encode]

namespace DisplayName

/-- `Default for DisplayName`: `"Unnamed"`, through `new`. -/
def default : Returns DisplayName :=
  match new "Unnamed" with
  | .ok d => .value d
  | .error _ => .panic "Default display name"

/-- The default name passes the check of `new`, so `default` never panics. -/
theorem default_eq : default = .value ⟨"Unnamed"⟩ := rfl

/-- `Serialize for DisplayName`: the value as a string. -/
def serialize (d : DisplayName) : Json := .string d.value

/-- `Deserialize for DisplayName`: a string, made a display name by `DisplayName::new`. -/
def deserialize (j : Json) : Except DecodeError DisplayName := do
  (new (← j.asString)).mapError .custom

/-- Every display name `new` accepts reads back as itself. -/
theorem deserialize_serialize {d : DisplayName} (h : new d.value = .ok d) :
    deserialize (serialize d) = .ok d := by
  simp [deserialize, serialize, Json.asString, h, Except.mapError]

/-- `DisplayName::new` accepts exactly the names whose trimmed form is non-empty and at most
`max_len` bytes long, and holds that trimmed form; `new` accepts that form again unchanged,
and the JSON form of each name it makes reads back as the name. -/
theorem new_json_roundtrip :
    (∀ (s : String) (d : DisplayName),
      new s = .ok d ↔ trim s ≠ "" ∧ utf8Len (trim s) ≤ maxLen ∧ d.value = trim s) ∧
    ∀ (s : String) (d : DisplayName),
      new s = .ok d → new d.value = .ok d ∧ deserialize (serialize d) = .ok d :=
  ⟨fun _ _ => new_eq_ok_iff, fun _ _ h => ⟨new_value h, deserialize_serialize (new_value h)⟩⟩

end DisplayName

namespace UnsecuredEntityControl

section Codec

variable (factorInstance : JsonCodec HierarchicalDeterministicFactorInstance)

/-- `Serialize for UnsecuredEntityControl`, derived with camel case keys:
`authenticationSigning` is left out when it is `None`. -/
def serialize (c : UnsecuredEntityControl) : Json :=
  .object (("transactionSigning", factorInstance.encode c.transactionSigning) ::
    match c.authenticationSigning with
    | none => []
    | some auth => [("authenticationSigning", factorInstance.encode auth)])

/-- `Deserialize for UnsecuredEntityControl`, derived: `transactionSigning` must be there,
a missing `authenticationSigning` is `None`, other keys are skipped, and nothing is checked. -/
def deserialize (j : Json) : Except DecodeError UnsecuredEntityControl := do
  let fields ← j.asObject
  let transactionSigning ← factorInstance.decode (← Json.field fields "transactionSigning")
  let authenticationSigning ← match ← Json.optionalField fields "authenticationSigning" with
    | none => pure none
    | some j => factorInstance.decodeOption j
  pure { transactionSigning, authenticationSigning }

/-- The derive reads back every control, whatever key kinds its instances have, as long as
no instance is written as `null`. -/
theorem deserialize_serialize (hnull : ∀ i, factorInstance.encode i ≠ .null)
    (c : UnsecuredEntityControl) :
    deserialize factorInstance (serialize factorInstance c) = .ok c := by
  obtain ⟨t, _ | auth⟩ := c <;>
    simp only [serialize, deserialize, Json.asObject, Except.ok_bind, Json.field, Json.optionalField,
      List.filter, String.reduceEq, decide_False, decide_True, JsonCodec.decode_encode,
      factorInstance.decodeOption_encode (hnull _)] <;> rfl

end Codec

/-- What the constructors of `UnsecuredEntityControl` guarantee.  `new` accepts exactly the
pairs whose key kinds fit their roles and builds the control of the pair, and the other two
constructors only build controls that keep the invariant; but the derived JSON read checks
nothing, and reads back every control it wrote, those that break the invariant included. -/
theorem keyKindsValid_of_constructors :
    (∀ (t : HierarchicalDeterministicFactorInstance)
      (a : Option HierarchicalDeterministicFactorInstance) (c : UnsecuredEntityControl),
      new t a = .ok c ↔ KeyKindsValid ⟨t, a⟩ ∧ c = ⟨t, a⟩) ∧
    (∀ (t : HierarchicalDeterministicFactorInstance) (c : UnsecuredEntityControl),
      withTransactionSigningOnly t = .ok c → c.KeyKindsValid) ∧
    (∀ i : HDFactorInstanceAccountCreation, (withAccountCreatingFactorInstance i).KeyKindsValid) ∧
    ∀ factorInstance : JsonCodec HierarchicalDeterministicFactorInstance,
      (∀ i, factorInstance.encode i ≠ .null) →
      ∀ c, deserialize factorInstance (serialize factorInstance c) = .ok c :=
  ⟨fun _ _ _ => new_eq_ok_iff, fun _ _ => withTransactionSigningOnly_keyKindsValid,
    withAccountCreatingFactorInstance_keyKindsValid, deserialize_serialize⟩

end UnsecuredEntityControl

section Codecs

/-- A `u32` as a JSON number. -/
def JsonCodec.u32 : JsonCodec UInt32 where
  encode x := .number x.toNat
  decode j := do
    let n ← j.asNumber
    if n < 4294967296 then pure n.toUInt32 else throw (.invalidType "u32")
  decode_encode x := by
    have hlt : x.toNat < 4294967296 := x.toNat_lt_size
    simp only [Json.asNumber, Except.ok_bind, hlt, if_true]
    exact congrArg Except.ok (UInt32.toNat.inj (UInt32.toNat_ofNat_of_lt x.toNat_lt_size))

/-- The index of a hardened component: a `u32` below `2^31`. -/
def JsonCodec.hardenedIndex : JsonCodec {index : HDPathValue // index.toNat < 2 ^ 31} where
  encode index := JsonCodec.u32.encode index.1
  decode j := do
    let index ← JsonCodec.u32.decode j
    if h : index.toNat < 2 ^ 31 then pure ⟨index, h⟩ else throw (.invalidType "hardened index")
  decode_encode index := by
    simp only [JsonCodec.decode_encode, Except.ok_bind, index.2, dite_true]
    rfl

/-- `NetworkID` by its discriminant. -/
def NetworkID.jsonCodec : JsonCodec NetworkID where
  encode n := JsonCodec.byte.encode n.discriminant
  decode j := do
    match NetworkID.fromRepr (← JsonCodec.byte.decode j) with
    | some n => pure n
    | none => throw (.unknownVariant "NetworkID")
  decode_encode n := by simp [JsonCodec.decode_encode]; rfl

/-- `CAP26EntityKind` by name. -/
def CAP26EntityKind.jsonCodec : JsonCodec CAP26EntityKind where
  encode
    | .account => .string "account"
    | .identity => .string "identity"
  decode j := do
    match ← j.asString with
    | "account" => pure .account
    | "identity" => pure .identity
    | s => throw (.unknownVariant s)
  decode_encode k := by cases k <;> rfl

/-- `CAP26KeyKind` by name. -/
def CAP26KeyKind.jsonCodec : JsonCodec CAP26KeyKind where
  encode
    | .transactionSigning => .string "transactionSigning"
    | .authenticationSigning => .string "authenticationSigning"
    | .messageEncryption => .string "messageEncryption"
  decode j := do
    match ← j.asString with
    | "transactionSigning" => pure .transactionSigning
    | "authenticationSigning" => pure .authenticationSigning
    | "messageEncryption" => pure .messageEncryption
    | s => throw (.unknownVariant s)
  decode_encode k := by cases k <;> rfl

/-- `PublicKey` as its curve and compressed bytes. -/
def PublicKey.jsonCodec : JsonCodec PublicKey where
  encode
    | .ed25519 bytes => .object [("curve", .string "curve25519"),
        ("compressedData", (JsonCodec.bytes 32).encode bytes)]
    | .secp256k1 bytes => .object [("curve", .string "secp256k1"),
        ("compressedData", (JsonCodec.bytes 33).encode bytes)]
  decode j := do
    let fields ← j.asObject
    let data ← Json.field fields "compressedData"
    match ← (← Json.field fields "curve").asString with
    | "curve25519" => PublicKey.ed25519 <$> (JsonCodec.bytes 32).decode data
    | "secp256k1" => PublicKey.secp256k1 <$> (JsonCodec.bytes 33).decode data
    | s => throw (.unknownVariant s)
  decode_encode k := by
    cases k <;> simp only [Json.asObject, Except.ok_bind, Json.field, List.filter, String.reduceEq,
      decide_False, decide_True, JsonCodec.decode_encode] <;> rfl

/-- A CAP26 path as an object of its four fields. -/
def CAP26Path.jsonCodec : JsonCodec CAP26Path where
  encode path := .object [("networkID", NetworkID.jsonCodec.encode path.networkId),
    ("entityKind", CAP26EntityKind.jsonCodec.encode path.entityKind),
    ("keyKind", CAP26KeyKind.jsonCodec.encode path.keyKind),
    ("index", JsonCodec.hardenedIndex.encode ⟨path.index, path.index_lt⟩)]
  decode j := do
    let fields ← j.asObject
    let networkId ← NetworkID.jsonCodec.decode (← Json.field fields "networkID")
    let entityKind ← CAP26EntityKind.jsonCodec.decode (← Json.field fields "entityKind")
    let keyKind ← CAP26KeyKind.jsonCodec.decode (← Json.field fields "keyKind")
    let index ← JsonCodec.hardenedIndex.decode (← Json.field fields "index")
    pure ⟨networkId, entityKind, keyKind, index.1, index.2⟩
  decode_encode path := by
    simp only [Json.asObject, Except.ok_bind, Json.field, List.filter, String.reduceEq,
      decide_False, decide_True, JsonCodec.decode_encode]
    rfl

/-- A derivation path as its scheme and path. -/
def DerivationPath.jsonCodec : JsonCodec DerivationPath where
  encode
    | .cap26 path => .object [("scheme", .string "cap26"), ("path", CAP26Path.jsonCodec.encode path)]
    | .bip44Like index h => .object [("scheme", .string "bip44Olympia"),
        ("path", JsonCodec.hardenedIndex.encode ⟨index, h⟩)]
  decode j := do
    let fields ← j.asObject
    let path ← Json.field fields "path"
    match ← (← Json.field fields "scheme").asString with
    | "cap26" => DerivationPath.cap26 <$> CAP26Path.jsonCodec.decode path
    | "bip44Olympia" => (fun index => .bip44Like index.1 index.2) <$>
        JsonCodec.hardenedIndex.decode path
    | s => throw (.unknownVariant s)
  decode_encode path := by
    cases path <;> simp only [Json.asObject, Except.ok_bind, Json.field, List.filter,
      String.reduceEq, decide_False, decide_True, JsonCodec.decode_encode] <;> rfl

/-- A public key and the path it was derived at. -/
def HierarchicalDeterministicPublicKey.jsonCodec : JsonCodec HierarchicalDeterministicPublicKey where
  encode k := .object [("publicKey", PublicKey.jsonCodec.encode k.publicKey),
    ("derivationPath", DerivationPath.jsonCodec.encode k.derivationPath)]
  decode j := do
    let fields ← j.asObject
    let publicKey ← PublicKey.jsonCodec.decode (← Json.field fields "publicKey")
    let derivationPath ← DerivationPath.jsonCodec.decode (← Json.field fields "derivationPath")
    pure { publicKey, derivationPath }
  decode_encode k := by
    simp only [Json.asObject, Except.ok_bind, Json.field, List.filter, String.reduceEq,
      decide_False, decide_True, JsonCodec.decode_encode]
    rfl

/-- A lawful codec for the modelled fields of a factor instance, standing in for its serde
derive: the keys are those of the source's JSON, without the enum wrappers of the badge. -/
def HierarchicalDeterministicFactorInstance.jsonCodec :
    JsonCodec HierarchicalDeterministicFactorInstance where
  encode i := .object [("badge", HierarchicalDeterministicPublicKey.jsonCodec.encode i.publicKey),
    ("factorSourceID", FactorSourceIDFromHash.jsonCodec.encode i.factorSourceId)]
  decode j := do
    let fields ← j.asObject
    let publicKey ← HierarchicalDeterministicPublicKey.jsonCodec.decode (← Json.field fields "badge")
    let factorSourceId ← FactorSourceIDFromHash.jsonCodec.decode (← Json.field fields "factorSourceID")
    pure { factorSourceId, publicKey }
  decode_encode i := by
    simp only [Json.asObject, Except.ok_bind, Json.field, List.filter, String.reduceEq,
      decide_False, decide_True, JsonCodec.decode_encode]
    rfl

theorem HierarchicalDeterministicFactorInstance.jsonCodec_encode_ne_null
    (i : HierarchicalDeterministicFactorInstance) : jsonCodec.encode i ≠ .null :=
  fun h => Json.noConfusion h

end Codecs

/-- An instance on an account path for authentication signing, from the placeholder device
factor source. -/
def HierarchicalDeterministicFactorInstance.placeholderAuthSigning :
    HierarchicalDeterministicFactorInstance :=
  ⟨DeviceFactorSource.placeholder.id,
    ⟨.ed25519 (Bytes.zero 32), .cap26 ⟨.mainnet, .account, .authenticationSigning, 0, by decide⟩⟩⟩

/-- A control whose transaction signing instance is for authentication signing is rejected by
`new`, yet its JSON form is read back as that control. -/
theorem UnsecuredEntityControl.deserialize_accepts_wrong_keyKind :
    UnsecuredEntityControl.new .placeholderAuthSigning none =
        .error .wrongKeyKindOfTransactionSigningFactorInstance ∧
      ¬ UnsecuredEntityControl.KeyKindsValid ⟨.placeholderAuthSigning, none⟩ ∧
      UnsecuredEntityControl.deserialize HierarchicalDeterministicFactorInstance.jsonCodec
        (UnsecuredEntityControl.serialize HierarchicalDeterministicFactorInstance.jsonCodec
          ⟨.placeholderAuthSigning, none⟩) = .ok ⟨.placeholderAuthSigning, none⟩ :=
  ⟨rfl, by decide, UnsecuredEntityControl.deserialize_serialize _
    HierarchicalDeterministicFactorInstance.jsonCodec_encode_ne_null _⟩


namespace ResourceAddress

/-- `Serialize for ResourceAddress`: the address string. -/
def serialize (a : ResourceAddress) : Json := .string a.address

/-- `Deserialize for ResourceAddress`: a string, made an address by `try_from_bech32`, whose
error becomes serde's custom error; a panic of `try_from_bech32` is a panic of the read. -/
def deserialize (j : Json) : Returns (Except DecodeError ResourceAddress) :=
  match j.asString with
  | .error e => .value (.error e)
  | .ok s => (fun r => r.mapError .custom) <$> tryFromBech32 s

/-- `new_resource_address`, exported to the bindings. -/
def newResourceAddress (bech32 : String) : Returns (Except CommonError ResourceAddress) :=
  tryFromBech32 bech32

/-- Every address that `try_from_bech32` returns reads back from its JSON form as itself. -/
theorem deserialize_serialize {s : String} {a : ResourceAddress}
    (h : tryFromBech32 s = .value (.ok a)) : deserialize (serialize a) = .value (.ok a) := by
  have ha := (Address.tryFromBech32_eq_ok h).1
  have hs : a.address = s := by rw [ha]
  rw [deserialize, serialize, Json.asString, hs]
  simp only [h, Returns.map_value, Except.mapError]

end ResourceAddress

end RadixWalletKit
