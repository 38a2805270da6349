import Mathlib
import RadixWalletKit.Basic

/-!
# Keys and derivation paths

Public keys, the mnemonic a device factor source holds, and the CAP26 derivation paths
that address one key in the tree of a mnemonic.  Deriving a key from a mnemonic and
hashing one are the curve collaborator's work; `Crypto` bundles what the wallet kit asks
of it, and every result that depends on it holds for any such collaborator.

The paths come from the `hd` crate, which is not under src/.  Every path the repository
writes hardens every component (`m/44H/1022H/1H/525H/1460H/0H`), and a hardened component
holds its index plus `2^31` in a `u32`, so only an index below `2^31` has one.  A path carries
that bound on its index, and `AccountPath::new` panics on a larger index.
-/

namespace RadixWalletKit

/-- `PublicKey`: a compressed key on one of the two curves. -/
inductive PublicKey where
  | ed25519 (bytes : Bytes 32)
  | secp256k1 (bytes : Bytes 33)
  deriving DecidableEq, Repr

/-- `MnemonicWithPassphrase`: the recovery phrase of a device and its BIP39 passphrase. -/
structure MnemonicWithPassphrase where
  mnemonic : String
  passphrase : String
  deriving DecidableEq, Repr

/-- `HDPathValue`, the `u32` index of one derivation path component. -/
abbrev HDPathValue := UInt32

/-- `BIP32_HARDENED`, the offset of a hardened component. -/
def bip32Hardened : HDPathValue := 0x80000000

/-- `HDPathComponent`: the `u32` value of one path component, the index plus `2^31` for a
hardened one.  Its derived `Ord` compares the values. -/
structure HDPathComponent where
  value : HDPathValue
  deriving DecidableEq, Repr

/-- Modelled from the spec and the repository's paths: `HDPathComponent::harden(index)`, the
component of the index plus `2^31`, for an index below `2^31`. -/
def HDPathComponent.harden (index : HDPathValue) : HDPathComponent :=
  ⟨index + bip32Hardened⟩

/-- Below `2^31` hardening adds `2^31` and never wraps. -/
theorem HDPathComponent.harden_value_toNat {index : HDPathValue} (h : index.toNat < 2 ^ 31) :
    (harden index).value.toNat = index.toNat + 2 ^ 31 := by
  have hb : bip32Hardened.toNat = 2 ^ 31 := rfl
  have hadd : (index + bip32Hardened).toNat = (index.toNat + bip32Hardened.toNat) % 2 ^ 32 :=
    BitVec.toNat_add _ _
  simp only [harden]
  omega

/-- `CAP26EntityKind`: the entity a CAP26 path derives keys for. -/
inductive CAP26EntityKind where
  | account
  | identity
  deriving DecidableEq, Repr

/-- `CAP26KeyKind`: what a key on a CAP26 path is used for. -/
inductive CAP26KeyKind where
  | transactionSigning
  | authenticationSigning
  | messageEncryption
  deriving DecidableEq, Repr

/-- A CAP26 entity path `m/44H/1022H/{network}H/{entity kind}H/{key kind}H/{index}H`, whose
last component is hardened, so its index is below `2^31`. -/
structure CAP26Path where
  networkId : NetworkID
  entityKind : CAP26EntityKind
  keyKind : CAP26KeyKind
  index : HDPathValue
  index_lt : index.toNat < 2 ^ 31
  deriving DecidableEq, Repr

/-- `DerivationPath`: a CAP26 path, or the BIP44-like path `m/44H/1022H/0H/0/{index}H` of keys
imported from Olympia, which has a hardened index and no key kind. -/
inductive DerivationPath where
  | cap26 (path : CAP26Path)
  | bip44Like (index : HDPathValue) (index_lt : index.toNat < 2 ^ 31)
  deriving DecidableEq, Repr

/-- Modelled from the spec and the repository's paths: `AccountPath::new(network_id, key_kind,
index)` of the `hd` crate.  It returns the account path, whose last component is the hardened
index; an index of `2^31` or more has no hardened component, and the constructor, which returns
no `Result`, panics on it. -/
def AccountPath.new (networkId : NetworkID) (keyKind : CAP26KeyKind) (index : HDPathValue) :
    Returns CAP26Path :=
  if h : index.toNat < 2 ^ 31 then .value ⟨networkId, .account, keyKind, index, h⟩
  else .panic "index must be below 2^31 to be hardened"

/-- Below `2^31` the account path is built, with the given network, key kind and index. -/
theorem AccountPath.new_of_lt {networkId : NetworkID} {keyKind : CAP26KeyKind}
    {index : HDPathValue} (h : index.toNat < 2 ^ 31) :
    AccountPath.new networkId keyKind index = .value ⟨networkId, .account, keyKind, index, h⟩ :=
  dif_pos h

/-- From `2^31` on `AccountPath::new` panics. -/
theorem AccountPath.new_of_le {networkId : NetworkID} {keyKind : CAP26KeyKind}
    {index : HDPathValue} (h : 2 ^ 31 ≤ index.toNat) :
    AccountPath.new networkId keyKind index = .panic "index must be below 2^31 to be hardened" :=
  dif_neg (by omega)

/-- The key kind of a path, which only CAP26 paths have. -/
def DerivationPath.keyKind : DerivationPath → Option CAP26KeyKind
  | .cap26 path => some path.keyKind
  | .bip44Like _ _ => none

/-- The index of the last path component. -/
def DerivationPath.index : DerivationPath → HDPathValue
  | .cap26 path => path.index
  | .bip44Like index _ => index

/-- Every path's index is below `2^31`. -/
theorem DerivationPath.index_lt : ∀ path : DerivationPath, path.index.toNat < 2 ^ 31
  | .cap26 path => path.index_lt
  | .bip44Like _ h => h

/-- `HierarchicalDeterministicPublicKey`: a public key and the path it was derived at. -/
structure HierarchicalDeterministicPublicKey where
  publicKey : PublicKey
  derivationPath : DerivationPath
  deriving DecidableEq, Repr

/-- The curve and hash collaborators.  Distinct paths are expected, not proven, to give
distinct keys, so nothing here assumes that they do. -/
structure Crypto where
  /-- The hash of the key material in `FactorSourceIDFromHash::from_mnemonic_with_passphrase`. -/
  factorSourceIdBody : MnemonicWithPassphrase → Hex32Bytes
  /-- `MnemonicWithPassphrase::derive_private_key(path).public_key()`. -/
  derivePublicKey : MnemonicWithPassphrase → DerivationPath → PublicKey
  /-- The 29 byte hash of a public key that a virtual account or identity address carries. -/
  publicKeyHash : PublicKey → Bytes 29

/-- `FactorSourceIDFromHash::from_mnemonic_with_passphrase(kind, mnemonic_with_passphrase)`. -/
def FactorSourceIDFromHash.fromMnemonicWithPassphrase (crypto : Crypto)
    (kind : FactorSourceKind) (mnemonicWithPassphrase : MnemonicWithPassphrase) :
    FactorSourceIDFromHash :=
  { kind, body := crypto.factorSourceIdBody mnemonicWithPassphrase }

/-- `MnemonicWithPassphrase::derive_private_key(path).public_key()`: the key derived at
`path`, tagged with the path. -/
def MnemonicWithPassphrase.derivePublicKey (crypto : Crypto)
    (mnemonicWithPassphrase : MnemonicWithPassphrase) (path : DerivationPath) :
    HierarchicalDeterministicPublicKey :=
  { publicKey := crypto.derivePublicKey mnemonicWithPassphrase path, derivationPath := path }

end RadixWalletKit
