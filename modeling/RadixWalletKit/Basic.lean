import Mathlib.Data.List.Basic

/-!
# Basic types of the wallet kit

The plain data that the address, factor and profile layers share: byte strings of a fixed
length, the `NetworkID` enum with its `u8` discriminants, the three address types, the
identifiers of factor sources, and `CommonError`, the one error enum every fallible
operation returns.  A Rust call that can `panic!` is modelled as returning a `Returns`.
-/

namespace RadixWalletKit

/-- What a Rust call that can `panic!` does: return a value, or unwind with the message of
the failed `assert!`, `expect` or `unwrap`. -/
inductive Returns (α : Type) where
  | value (a : α)
  | panic (message : String)
  deriving DecidableEq, Repr

instance : Monad Returns where
  pure := .value
  bind x f := match x with
    | .value a => f a
    | .panic message => .panic message

@[simp] theorem Returns.pure_eq {α : Type} (a : α) : (pure a : Returns α) = .value a := rfl

@[simp] theorem Returns.value_bind {α β : Type} (a : α) (f : α → Returns β) :
    (Returns.value a >>= f) = f a := rfl

@[simp] theorem Returns.panic_bind {α β : Type} (message : String) (f : α → Returns β) :
    (Returns.panic message >>= f) = .panic message := rfl

@[simp] theorem Returns.map_value {α β : Type} (f : α → β) (a : α) :
    (f <$> Returns.value a) = .value (f a) := rfl

@[simp] theorem Returns.map_panic {α β : Type} (f : α → β) (message : String) :
    (f <$> (Returns.panic message : Returns α)) = .panic message := rfl

@[simp] theorem Except.ok_bind {ε α β : Type} (a : α) (f : α → Except ε β) :
    (Except.ok a >>= f) = f a := rfl

@[simp] theorem Except.error_bind {ε α β : Type} (e : ε) (f : α → Except ε β) :
    (Except.error e >>= f) = .error e := rfl

theorem Except.bind_eq_ok {ε α β : Type} {x : Except ε α} {f : α → Except ε β} {b : β} :
    (x >>= f) = .ok b ↔ ∃ a, x = .ok a ∧ f a = .ok b := by
  cases x <;> simp

@[simp] theorem UInt8.toUInt8_toNat (x : UInt8) : x.toNat.toUInt8 = x :=
  UInt8.toNat.inj (UInt8.toNat_ofNat_of_lt x.toNat_lt_size)

/-- `n` bytes, such as the 32 of a `Hex32Bytes` or the 30 of a node id. -/
structure Bytes (n : Nat) where
  toList : List UInt8
  length_eq : toList.length = n
  deriving DecidableEq, Repr

/-- `Hex32Bytes`: 32 bytes, the body of a hash. -/
abbrev Hex32Bytes := Bytes 32

/-- `n` zero bytes. -/
def Bytes.zero (n : Nat) : Bytes n := ⟨List.replicate n 0, List.length_replicate n 0⟩

/-- `NetworkID` of `wallet_kit_common` (not under src/): the Radix networks. -/
inductive NetworkID where
  | mainnet
  | stokenet
  | adapanet
  | nebunet
  | kisharnet
  | ansharnet
  | zabanet
  | enkinet
  | hammunet
  | nergalnet
  | mardunet
  | simulator
  deriving DecidableEq, Repr

/-- `NetworkID::discriminant`, the `#[repr(u8)]` value of each network. -/
def NetworkID.discriminant : NetworkID → UInt8
  | .mainnet => 0x01
  | .stokenet => 0x02
  | .adapanet => 0x0a
  | .nebunet => 0x0b
  | .kisharnet => 0x0c
  | .ansharnet => 0x0d
  | .zabanet => 0x0e
  | .enkinet => 0x21
  | .hammunet => 0x22
  | .nergalnet => 0x23
  | .mardunet => 0x24
  | .simulator => 0xf2

/-- `NetworkID::from_repr`, the inverse of `discriminant`. -/
def NetworkID.fromRepr (value : UInt8) : Option NetworkID :=
  match value.toNat with
  | 0x01 => some .mainnet
  | 0x02 => some .stokenet
  | 0x0a => some .adapanet
  | 0x0b => some .nebunet
  | 0x0c => some .kisharnet
  | 0x0d => some .ansharnet
  | 0x0e => some .zabanet
  | 0x21 => some .enkinet
  | 0x22 => some .hammunet
  | 0x23 => some .nergalnet
  | 0x24 => some .mardunet
  | 0xf2 => some .simulator
  | _ => none

@[simp] theorem NetworkID.fromRepr_discriminant (n : NetworkID) :
    NetworkID.fromRepr n.discriminant = some n := by
  cases n <;> rfl

/-- `AbstractEntityType`: the kind of entity an address is for. -/
inductive AbstractEntityType where
  | account
  | identity
  | resource
  deriving DecidableEq, Repr

/-- `AbstractEntityType::hrp`, the prefix of the bech32 human readable part. -/
def AbstractEntityType.hrp : AbstractEntityType → String
  | .account => "account"
  | .identity => "identity"
  | .resource => "resource"

/-- An address whose entity type is fixed at the type level.  `AccountAddress`,
`IdentityAddress` and `ResourceAddress` are the same record of a bech32 string and the
network it is for; they differ only in the entity type they are checked against. -/
structure Address (entityType : AbstractEntityType) where
  address : String
  networkId : NetworkID
  deriving DecidableEq, Repr

abbrev AccountAddress := Address .account
abbrev IdentityAddress := Address .identity
abbrev ResourceAddress := Address .resource

/-- `FactorSourceKind`, of the two factor sources a `FactorSource` can hold. -/
inductive FactorSourceKind where
  | device
  | ledgerHQHardwareWallet
  deriving DecidableEq, Repr

/-- `FactorSourceIDFromHash`: the kind of a factor source and the hash of its key material. -/
structure FactorSourceIDFromHash where
  kind : FactorSourceKind
  body : Hex32Bytes
  deriving DecidableEq, Repr

/-- `FactorSourceID`, in its `Hash` variant, the one device and ledger sources use. -/
inductive FactorSourceID where
  | hash (value : FactorSourceIDFromHash)
  deriving DecidableEq, Repr

/-- `CommonError`, restricted to the variants the modelled code returns.  Storage
collaborators fail with an error of their own choosing, so any variant can come back
from them. -/
inductive CommonError where
  | unknown
  | unableToSaveFactorSourceToProfile (id : FactorSourceID)
  | accountAlreadyPresent (address : AccountAddress)
  | unknownAccount
  | factorSourcesMustNotBeEmpty
  | failedToDecodeAddressFromBech32 (address : String)
  | unknownNetworkID (discriminant : UInt8)
  | unsupportedEntityType
  | mismatchingEntityTypeWhileDecodingAddress
  | mismatchingHRPWhileDecodingAddress
  | wrongEntityKindOfInFactorInstancesPath
  | wrongKeyKindOfTransactionSigningFactorInstance
  | wrongKeyKindOfAuthenticationSigningFactorInstance
  | invalidDisplayNameEmpty
  | invalidDisplayNameTooLong
  | unableToLoadDeviceFactorSourceFromSecureStorage
  | secureStorageReadError
  | secureStorageWriteError
  deriving DecidableEq, Repr

end RadixWalletKit
