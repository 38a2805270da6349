import RadixWalletKit.Bech32
import RadixWalletKit.Keys

/-!
# Entity addresses

`EntityAddress` of `entity_address.rs`: deriving the address of a virtual account or
identity from a public key, and `try_from_bech32`, the validated way in from a string.
Both call into the Radix engine toolkit: node ids, the entity type byte each starts with,
the human readable part of each entity type and network, and `decode_address`, which
recovers the network, entity type and human readable part from a bech32 string.

`try_from_bech32` checks the human readable part it gets back, which `decode` has put in
lower case, and then hands the string it was given to `__with_address_and_network_id`,
which asserts that the string itself starts with the entity type's prefix.
-/

namespace RadixWalletKit

/-- `EntityType` of the engine: the first byte of every node id. -/
inductive EngineEntityType where
  | globalPackage
  | globalConsensusManager
  | globalValidator
  | globalTransactionTracker
  | globalGenericComponent
  | globalAccount
  | globalIdentity
  | globalAccessController
  | globalOneResourcePool
  | globalTwoResourcePool
  | globalMultiResourcePool
  | globalVirtualSecp256k1Account
  | globalVirtualSecp256k1Identity
  | globalVirtualEd25519Account
  | globalVirtualEd25519Identity
  | globalFungibleResourceManager
  | internalFungibleVault
  | globalNonFungibleResourceManager
  | internalNonFungibleVault
  | internalGenericComponent
  | internalKeyValueStore
  deriving DecidableEq, Repr

namespace EngineEntityType

/-- The `#[repr(u8)]` value of each entity type. -/
def toByte : EngineEntityType → UInt8
  | .globalPackage => 0x0d
  | .globalConsensusManager => 0x86
  | .globalValidator => 0x83
  | .globalTransactionTracker => 0x82
  | .globalGenericComponent => 0xc0
  | .globalAccount => 0xc1
  | .globalIdentity => 0xc2
  | .globalAccessController => 0xc3
  | .globalOneResourcePool => 0xc4
  | .globalTwoResourcePool => 0xc5
  | .globalMultiResourcePool => 0xc6
  | .globalVirtualSecp256k1Account => 0xd1
  | .globalVirtualSecp256k1Identity => 0xd2
  | .globalVirtualEd25519Account => 0x51
  | .globalVirtualEd25519Identity => 0x52
  | .globalFungibleResourceManager => 0x5d
  | .internalFungibleVault => 0x58
  | .globalNonFungibleResourceManager => 0x9a
  | .internalNonFungibleVault => 0x98
  | .internalGenericComponent => 0xf8
  | .internalKeyValueStore => 0xb0

/-- All entity types, in declaration order. -/
def all : List EngineEntityType :=
  [.globalPackage, .globalConsensusManager, .globalValidator, .globalTransactionTracker,
    .globalGenericComponent, .globalAccount, .globalIdentity, .globalAccessController,
    .globalOneResourcePool, .globalTwoResourcePool, .globalMultiResourcePool,
    .globalVirtualSecp256k1Account, .globalVirtualSecp256k1Identity,
    .globalVirtualEd25519Account, .globalVirtualEd25519Identity,
    .globalFungibleResourceManager, .internalFungibleVault,
    .globalNonFungibleResourceManager, .internalNonFungibleVault,
    .internalGenericComponent, .internalKeyValueStore]

/-- `EntityType::from_repr`. -/
def fromRepr (byte : UInt8) : Option EngineEntityType := all.find? (·.toByte = byte)

/-- The entity part of the human readable part, `HrpSet::get_entity_hrp` without the
network suffix. -/
def hrpPrefix : EngineEntityType → String
  | .globalPackage => "package"
  | .globalConsensusManager => "consensusmanager"
  | .globalValidator => "validator"
  | .globalTransactionTracker => "transactiontracker"
  | .globalGenericComponent => "component"
  | .globalAccount => "account"
  | .globalIdentity => "identity"
  | .globalAccessController => "accesscontroller"
  | .globalOneResourcePool => "pool"
  | .globalTwoResourcePool => "pool"
  | .globalMultiResourcePool => "pool"
  | .globalVirtualSecp256k1Account => "account"
  | .globalVirtualSecp256k1Identity => "identity"
  | .globalVirtualEd25519Account => "account"
  | .globalVirtualEd25519Identity => "identity"
  | .globalFungibleResourceManager => "resource"
  | .internalFungibleVault => "internal_vault"
  | .globalNonFungibleResourceManager => "resource"
  | .internalNonFungibleVault => "internal_vault"
  | .internalGenericComponent => "internal_component"
  | .internalKeyValueStore => "internal_keyvaluestore"

@[simp] theorem fromRepr_toByte (t : EngineEntityType) : fromRepr t.toByte = some t := by
  cases t <;> rfl

end EngineEntityType

/-- Modelled from the spec: `AbstractEntityType::try_from(EntityType)` is not under src/.
The spec names the three abstract types; virtual and securified accounts and identities
map to the first two, fungible and non-fungible resource managers to the third. -/
def AbstractEntityType.tryFrom : EngineEntityType → Except CommonError AbstractEntityType
  | .globalAccount | .globalVirtualSecp256k1Account | .globalVirtualEd25519Account => .ok .account
  | .globalIdentity | .globalVirtualSecp256k1Identity | .globalVirtualEd25519Identity =>
    .ok .identity
  | .globalFungibleResourceManager | .globalNonFungibleResourceManager => .ok .resource
  | _ => .error .unsupportedEntityType

/-- `NetworkDefinition::hrp_suffix` of the network `network_definition_from_network_id`
gives for a discriminant: the named networks, else `tdx_{id:x}_`. -/
def hrpSuffix (networkId : UInt8) : String :=
  match networkId.toNat with
  | 0x01 => "rdx"
  | 0x02 => "tdx_2_"
  | 0x0a => "tdx_a_"
  | 0x0b => "tdx_b_"
  | 0x0c => "tdx_c_"
  | 0x0d => "tdx_d_"
  | 0x0e => "tdx_e_"
  | 0xf0 => "loc"
  | 0xf2 => "sim"
  | n => "tdx_" ++ ⟨Nat.toDigits 16 n⟩ ++ "_"

/-- `HrpSet::get_entity_hrp`: the human readable part of an entity type on a network. -/
def entityHrp (entityType : EngineEntityType) (networkId : UInt8) : String :=
  entityType.hrpPrefix ++ "_" ++ hrpSuffix networkId

/-- The value of one hexadecimal digit of either case. -/
def hexDigit (c : Char) : Option Nat :=
  if '0' ≤ c ∧ c ≤ '9' then some (c.toNat - '0'.toNat)
  else if 'a' ≤ c ∧ c ≤ 'f' then some (c.toNat - 'a'.toNat + 10)
  else if 'A' ≤ c ∧ c ≤ 'F' then some (c.toNat - 'A'.toNat + 10)
  else none

/-- `u8::from_str_radix(s, 16)`: an optional `+`, then at least one hexadecimal digit, of a
value that fits in a byte. -/
def parseHexU8 (s : List Char) : Option UInt8 :=
  let digits := match s with
    | '+' :: rest => rest
    | _ => s
  if digits.isEmpty then none
  else
    (digits.foldlM (fun acc c => do
      let d ← hexDigit c
      if acc * 16 + d ≤ 255 then some (acc * 16 + d) else none) 0).map Nat.toUInt8

/-- The network part of a human readable part: its last `_`-separated part, or the one
before it when the last is empty. -/
def networkSpecifier (hrp : List Char) : Option (List Char) :=
  match (hrp.splitOn '_').reverse with
  | [] :: specifier :: _ => some specifier
  | [] :: [] => none
  | specifier :: _ => some specifier
  | [] => none

/-- `network_id_from_hrp`. -/
def networkIdFromHrp (hrp : String) : Option UInt8 := do
  let specifier ← networkSpecifier hrp.data
  if specifier = "rdx".data then some 0x01
  else if specifier = "sim".data then some 0xf2
  else if specifier = "loc".data then some 0xf0
  else parseHexU8 specifier

/-- `AddressBech32Decoder::validate_and_decode` for the network with discriminant
`networkId`: a bech32m string whose data are a node id, with the human readable part that
belongs to the entity type in its first byte. -/
def validateAndDecode (networkId : UInt8) (s : String) :
    Option (EngineEntityType × String × List UInt8) := do
  let (hrp, data, variant) ← (Bech32.decode s).toOption
  if variant ≠ .bech32m then none
  let bytes ← (Bech32.fromBase32 data).toOption
  let entityType ← EngineEntityType.fromRepr (← bytes.head?)
  if hrp ≠ entityHrp entityType networkId then none
  pure (entityType, hrp, bytes)

/-- The engine toolkit's `decode`: the network discriminant named by the human readable
part, the entity type, the human readable part, and the 30 byte node id. -/
def engineDecodeAddress (s : String) : Option (UInt8 × EngineEntityType × String × Bytes 30) := do
  let (hrp, _, _) ← (Bech32.decode s).toOption
  let networkId ← networkIdFromHrp hrp
  let (entityType, hrp, bytes) ← validateAndDecode networkId s
  if h : bytes.length = 30 then pure (networkId, entityType, hrp, ⟨bytes, h⟩) else none

/-- `NetworkID::try_from(u8)`. -/
def NetworkID.tryFrom (value : UInt8) : Except CommonError NetworkID :=
  match NetworkID.fromRepr value with
  | some n => .ok n
  | none => .error (.unknownNetworkID value)

/-- Modelled from the spec: `decode_address` of `decode_address_helper.rs` is not under
src/.  It decodes a string into its network, abstract entity type, human readable part and
node id, through the engine toolkit's decoder, and fails with
`FailedToDecodeAddressFromBech32` when the toolkit rejects the string. -/
def decodeAddress (s : String) :
    Except CommonError (NetworkID × AbstractEntityType × String × Bytes 30) := do
  let some (networkIdRaw, entityType, hrp, data) := engineDecodeAddress s
    | throw (.failedToDecodeAddressFromBech32 s)
  let networkId ← NetworkID.tryFrom networkIdRaw
  let entityType ← AbstractEntityType.tryFrom entityType
  pure (networkId, entityType, hrp, data)

/-- `NodeId::new(entity_byte, hash)`. -/
def NodeId.new (entityByte : UInt8) (hash : Bytes 29) : Bytes 30 :=
  ⟨entityByte :: hash.toList, by simp [hash.length_eq]⟩

/-- `virtual_account_address_from_public_key`: the account node id of a public key. -/
def virtualAccountAddressFromPublicKey (publicKeyHash : PublicKey → Bytes 29)
    (publicKey : PublicKey) : Bytes 30 :=
  match publicKey with
  | .secp256k1 _ =>
    NodeId.new EngineEntityType.globalVirtualSecp256k1Account.toByte (publicKeyHash publicKey)
  | .ed25519 _ =>
    NodeId.new EngineEntityType.globalVirtualEd25519Account.toByte (publicKeyHash publicKey)

/-- `virtual_identity_address_from_public_key`: the identity node id of a public key. -/
def virtualIdentityAddressFromPublicKey (publicKeyHash : PublicKey → Bytes 29)
    (publicKey : PublicKey) : Bytes 30 :=
  match publicKey with
  | .secp256k1 _ =>
    NodeId.new EngineEntityType.globalVirtualSecp256k1Identity.toByte (publicKeyHash publicKey)
  | .ed25519 _ =>
    NodeId.new EngineEntityType.globalVirtualEd25519Identity.toByte (publicKeyHash publicKey)

/-- `SerializableNodeIdInternal`: a node id and the discriminant of its network. -/
structure SerializableNodeIdInternal where
  networkId : UInt8
  nodeId : Bytes 30

/-- `format!("{node}")`: the bech32m encoding of the node id under the human readable part
of its entity type and network.  `format!` panics when `Display` fails. -/
def SerializableNodeIdInternal.display (node : SerializableNodeIdInternal) : Returns String :=
  match node.nodeId.toList.head? >>= EngineEntityType.fromRepr with
  | none => .panic "a Display implementation returned an error unexpectedly"
  | some entityType =>
    match Bech32.encode (entityHrp entityType node.networkId)
        (Bech32.toBase32 node.nodeId.toList) .bech32m with
    | .ok address => .value address
    | .error _ => .panic "a Display implementation returned an error unexpectedly"

namespace Address

/-- `EntityAddress::__with_address_and_network_id`, which the trait asks every address type
to write as an assertion that `address` starts with the prefix of its entity type.
`ResourceAddress`'s is under src/; the account and identity ones follow the same contract. -/
def withAddressAndNetworkId (t : AbstractEntityType) (address : String)
    (networkId : NetworkID) : Returns (Address t) :=
  if t.hrp.data.isPrefixOf address.data then .value ⟨address, networkId⟩
  else .panic ("Invalid address, you SHOULD NOT call this function directly, " ++
    "you should use `try_from_bech32` instead.")

/-- The `match Self::entity_type()` of `from_public_key`: the node id of the virtual entity
of a public key, and a panic for resources, which have none. -/
def virtualComponent (publicKeyHash : PublicKey → Bytes 29) (publicKey : PublicKey) :
    AbstractEntityType → Returns (Bytes 30)
  | .account => .value (virtualAccountAddressFromPublicKey publicKeyHash publicKey)
  | .identity => .value (virtualIdentityAddressFromPublicKey publicKeyHash publicKey)
  | .resource => .panic "resource"

/-- `EntityAddress::from_public_key`. -/
def fromPublicKey (publicKeyHash : PublicKey → Bytes 29) (t : AbstractEntityType)
    (publicKey : PublicKey) (networkId : NetworkID) : Returns (Address t) := do
  let component ← virtualComponent publicKeyHash publicKey t
  let node : SerializableNodeIdInternal := { networkId := networkId.discriminant, nodeId := component }
  let address ← node.display
  withAddressAndNetworkId t address networkId

/-- `EntityAddress::try_from_bech32`. -/
def tryFromBech32 (t : AbstractEntityType) (s : String) : Returns (Except CommonError (Address t)) :=
  match decodeAddress s with
  | .error e => .value (.error e)
  | .ok (networkId, entityType, hrp, _) =>
    if entityType ≠ t then .value (.error .mismatchingEntityTypeWhileDecodingAddress)
    else if !entityType.hrp.data.isPrefixOf hrp.data then
      .value (.error .mismatchingHRPWhileDecodingAddress)
    else Except.ok <$> withAddressAndNetworkId t s networkId

end Address

/-- `ResourceAddress::__with_address_and_network_id`. -/
def ResourceAddress.withAddressAndNetworkId (address : String) (networkId : NetworkID) :
    Returns ResourceAddress :=
  Address.withAddressAndNetworkId .resource address networkId

/-- `ResourceAddress::try_from_bech32`, the trait's default method at `ResourceAddress`. -/
def ResourceAddress.tryFromBech32 (s : String) : Returns (Except CommonError ResourceAddress) :=
  Address.tryFromBech32 .resource s

end RadixWalletKit
