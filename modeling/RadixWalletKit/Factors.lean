import RadixWalletKit.IdentifiedVec
import RadixWalletKit.Keys

/-!
# Factor sources and factor instances

Device and ledger factor sources, the `FactorSource` enum over them and the `FactorSources`
collection a profile keeps, which `try_from_iter` refuses to build empty.  A factor
instance is one key derived from a factor source; `PrivateHierarchicalDeterministicFactorSource`
pairs a device factor source with its mnemonic, and its constructor asserts that the two
belong together.
-/

namespace RadixWalletKit

/-- `FactorSourceFlag`. -/
inductive FactorSourceFlag where
  | main
  | deletedByUser
  deriving DecidableEq, Repr

/-- `FactorSourceCommon`, of which the modelled code reads only the flags. -/
structure FactorSourceCommon where
  flags : List FactorSourceFlag
  deriving DecidableEq, Repr

/-- `DeviceFactorSource`: a mnemonic kept on the device, named by the hash of it. -/
structure DeviceFactorSource where
  id : FactorSourceIDFromHash
  common : FactorSourceCommon
  deriving DecidableEq, Repr

/-- `LedgerHardwareWalletFactorSource`. -/
structure LedgerHardwareWalletFactorSource where
  id : FactorSourceIDFromHash
  common : FactorSourceCommon
  deriving DecidableEq, Repr

namespace DeviceFactorSource

/-- `IsFactorSource::factor_source_id`. -/
def factorSourceId (d : DeviceFactorSource) : FactorSourceID := .hash d.id

/-- `IsFactorSource::factor_source_kind`. -/
def factorSourceKind (d : DeviceFactorSource) : FactorSourceKind := d.id.kind

/-- `is_main_bdfs`: flagged as the main "Babylon" device factor source. -/
def isMainBdfs (d : DeviceFactorSource) : Bool := decide (FactorSourceFlag.main ∈ d.common.flags)

/-- A main device factor source with the zero id, the one the examples of this development
use. -/
def placeholder : DeviceFactorSource := ⟨⟨.device, Bytes.zero 32⟩, ⟨[.main]⟩⟩

end DeviceFactorSource

/-- `FactorSource`. -/
inductive FactorSource where
  | device (factor : DeviceFactorSource)
  | ledger (factor : LedgerHardwareWalletFactorSource)
  deriving DecidableEq, Repr

namespace FactorSource

/-- `IsFactorSource::factor_source_kind`. -/
def factorSourceKind : FactorSource → FactorSourceKind
  | .device factor => factor.id.kind
  | .ledger factor => factor.id.kind

/-- `IsFactorSource::factor_source_id`, also the `Identifiable` id of a factor source. -/
def factorSourceId : FactorSource → FactorSourceID
  | .device factor => .hash factor.id
  | .ledger factor => .hash factor.id

/-- `as_device` of `EnumAsInner`. -/
def asDevice : FactorSource → Option DeviceFactorSource
  | .device factor => some factor
  | .ledger _ => none

@[simp] theorem factorSourceId_device (d : DeviceFactorSource) :
    (FactorSource.device d).factorSourceId = d.factorSourceId := rfl

end FactorSource

/-- `FactorSources`: the factor sources of a profile, unique by id.  It must never be
empty, which `try_from_iter` checks and the wallet operations have to keep. -/
abbrev FactorSources := IdentifiedVec FactorSource.factorSourceId

/-- `FactorSources::try_from_iter`. -/
def FactorSources.tryFromIter (xs : List FactorSource) : Except CommonError FactorSources :=
  let vec : FactorSources := IdentifiedVec.fromIter xs
  if vec.len = 0 then .error .factorSourcesMustNotBeEmpty else .ok vec

/-- `try_from_iter` fails on the empty list, and otherwise builds a non-empty collection;
its ids are distinct by construction. -/
theorem FactorSources.tryFromIter_spec (xs : List FactorSource) :
    (xs = [] → FactorSources.tryFromIter xs = .error .factorSourcesMustNotBeEmpty) ∧
    (xs ≠ [] → ∃ v, FactorSources.tryFromIter xs = .ok v ∧ v.elements ≠ [] ∧ v.ids.Nodup) := by
  have hlen : (IdentifiedVec.fromIter xs : FactorSources).len = 0 ↔ xs = [] := by
    rw [IdentifiedVec.len, List.length_eq_zero, IdentifiedVec.fromIter_eq_nil_iff]
  refine ⟨fun h => by simp [FactorSources.tryFromIter, hlen.mpr h], fun h => ⟨_, ?_,
    fun hnil => h ((IdentifiedVec.fromIter_eq_nil_iff xs).mp hnil), IdentifiedVec.ids_nodup _⟩⟩
  simp [FactorSources.tryFromIter, mt hlen.mp h]

/-- `HierarchicalDeterministicFactorInstance`: a key, the path it was derived at, and the
factor source it was derived from. -/
structure HierarchicalDeterministicFactorInstance where
  factorSourceId : FactorSourceIDFromHash
  publicKey : HierarchicalDeterministicPublicKey
  deriving DecidableEq, Repr

namespace HierarchicalDeterministicFactorInstance

/-- `derivation_path`. -/
def derivationPath (i : HierarchicalDeterministicFactorInstance) : DerivationPath :=
  i.publicKey.derivationPath

/-- `key_kind`: the key kind of the path, when it is a CAP26 path. -/
def keyKind (i : HierarchicalDeterministicFactorInstance) : Option CAP26KeyKind :=
  i.derivationPath.keyKind

end HierarchicalDeterministicFactorInstance

/-- `HDFactorInstanceAccountCreation`: a factor instance on an account path for
transaction signing.  Its path is kept apart, so an instance for another entity or key
kind cannot be built. -/
structure HDFactorInstanceAccountCreation where
  factorSourceId : FactorSourceIDFromHash
  publicKey : PublicKey
  path : CAP26Path
  path_entityKind : path.entityKind = .account
  path_keyKind : path.keyKind = .transactionSigning
  deriving DecidableEq

namespace HDFactorInstanceAccountCreation

/-- Modelled from the spec: `HDFactorInstanceAccountCreation::new` is not under src/.  The
spec has the wrong key kind rejected when the instance is built; a path that is not a CAP26
account path is rejected too. -/
def new (i : HierarchicalDeterministicFactorInstance) :
    Except CommonError HDFactorInstanceAccountCreation :=
  match i.derivationPath with
  | .bip44Like _ _ => .error .wrongEntityKindOfInFactorInstancesPath
  | .cap26 path =>
    if hentity : path.entityKind = .account then
      if hkey : path.keyKind = .transactionSigning then
        .ok ⟨i.factorSourceId, i.publicKey.publicKey, path, hentity, hkey⟩
      else .error .wrongKeyKindOfTransactionSigningFactorInstance
    else .error .wrongEntityKindOfInFactorInstancesPath

/-- The plain factor instance, `.into()`. -/
def toFactorInstance (i : HDFactorInstanceAccountCreation) :
    HierarchicalDeterministicFactorInstance :=
  { factorSourceId := i.factorSourceId,
    publicKey := { publicKey := i.publicKey, derivationPath := .cap26 i.path } }

/-- `network_id`: the network of the path. -/
def networkId (i : HDFactorInstanceAccountCreation) : NetworkID := i.path.networkId

/-- An instance on an account path for transaction signing passes `new` unchanged. -/
theorem new_toFactorInstance (i : HDFactorInstanceAccountCreation) :
    new i.toFactorInstance = .ok i := by
  obtain ⟨id, key, path, hentity, hkey⟩ := i
  simp [new, toFactorInstance, HierarchicalDeterministicFactorInstance.derivationPath,
    hentity, hkey]

end HDFactorInstanceAccountCreation

/-- `PrivateHierarchicalDeterministicFactorSource`: a device factor source with the
mnemonic it was created from.  Its fields are private to the constructor, whose assertion
is kept here as a field: the id of the source is the hash of the mnemonic. -/
structure PrivateHierarchicalDeterministicFactorSource (crypto : Crypto) where
  mnemonicWithPassphrase : MnemonicWithPassphrase
  factorSource : DeviceFactorSource
  id_eq : factorSource.factorSourceId = .hash
    (FactorSourceIDFromHash.fromMnemonicWithPassphrase crypto factorSource.factorSourceKind
      mnemonicWithPassphrase)

namespace PrivateHierarchicalDeterministicFactorSource

variable {crypto : Crypto}

/-- `PrivateHierarchicalDeterministicFactorSource::new`, which panics through `assert_eq!`
when the mnemonic does not hash to the id of the factor source. -/
def new (crypto : Crypto) (mnemonicWithPassphrase : MnemonicWithPassphrase)
    (factorSource : DeviceFactorSource) :
    Returns (PrivateHierarchicalDeterministicFactorSource crypto) :=
  if h : factorSource.factorSourceId = .hash
      (FactorSourceIDFromHash.fromMnemonicWithPassphrase crypto factorSource.factorSourceKind
        mnemonicWithPassphrase) then
    .value ⟨mnemonicWithPassphrase, factorSource, h⟩
  else .panic "assertion `left == right` failed"

/-- `derive_account_creation_factor_instance`: the transaction signing key of the account
path for `networkId` and `index`, with the panic of `AccountPath::new` on an index it cannot
harden and the `unwrap` of the check of the instance as possible panics. -/
def deriveAccountCreationFactorInstance (p : PrivateHierarchicalDeterministicFactorSource crypto)
    (networkId : NetworkID) (index : HDPathValue) : Returns HDFactorInstanceAccountCreation := do
  let path ← AccountPath.new networkId .transactionSigning index
  let hdPublicKey := p.mnemonicWithPassphrase.derivePublicKey crypto (.cap26 path)
  let hdFactorInstance : HierarchicalDeterministicFactorInstance :=
    { factorSourceId := p.factorSource.id, publicKey := hdPublicKey }
  match HDFactorInstanceAccountCreation.new hdFactorInstance with
  | .ok i => .value i
  | .error _ => .panic "called `Result::unwrap()` on an `Err` value"

end PrivateHierarchicalDeterministicFactorSource

end RadixWalletKit
