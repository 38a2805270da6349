import RadixWalletKit.WalletRun
import RadixWalletKit.AddressLaws

/-!
# Creating accounts

`create_new_account` reads the profile's main device factor source, picks the next
derivation index for the network, loads the source's mnemonic and derives an account at that
index; it changes nothing.  The index is one past every index on the network, so it is new;
it has a hardened component as long as no index there is `2^31 - 1`, and otherwise
`AccountPath::new` panics.  The address is new only when the accounts already on the network
carry addresses the mnemonic does not derive at that index: the source's own accounts those
of their own indices, and the other accounts none of its addresses.  `add_account` takes any
account, and one that carries the address of the next index makes the new account collide
with it.

Loading the source's mnemonic asserts that it hashes to the source's id, so a stored mnemonic
of another source makes loading, and `create_new_account` with it, panic.
-/

namespace RadixWalletKit

section Placeholders

/-- Keys that spell the index of their path in their first four bytes, and key hashes that
keep those bytes, so that distinct indices give distinct addresses. -/
def Crypto.byIndex : Crypto where
  factorSourceIdBody _ := Bytes.zero 32
  derivePublicKey _ path := .ed25519
    ⟨(List.range 4).map (fun k => (path.index.toNat / 256 ^ k).toUInt8) ++ List.replicate 28 0,
      by simp⟩
  publicKeyHash
    | .ed25519 bytes => ⟨bytes.toList.take 29, by simp [bytes.length_eq]⟩
    | .secp256k1 bytes => ⟨bytes.toList.take 29, by simp [bytes.length_eq]⟩

theorem Crypto.byIndex_injective (m : MnemonicWithPassphrase) (networkId : NetworkID)
    (i j : HDPathValue) (hi : i.toNat < 2 ^ 31) (hj : j.toNat < 2 ^ 31)
    (h : Crypto.byIndex.publicKeyHash (Crypto.byIndex.derivePublicKey m
        (.cap26 ⟨networkId, .account, .transactionSigning, i, hi⟩)) =
      Crypto.byIndex.publicKeyHash (Crypto.byIndex.derivePublicKey m
        (.cap26 ⟨networkId, .account, .transactionSigning, j, hj⟩))) : i = j := by
  have hbyte : ∀ a b : Nat, a.toUInt8 = b.toUInt8 → a % 256 = b % 256 := fun a b hab =>
    (BitVec.toNat_ofNat a 8).symm.trans ((congrArg UInt8.toNat hab).trans (BitVec.toNat_ofNat b 8))
  simp [Crypto.byIndex, DerivationPath.index, List.range_succ] at h
  obtain ⟨h0, h1, h2, h3⟩ := h
  have := hbyte _ _ h0
  have := hbyte _ _ h1
  have := hbyte _ _ h2
  have := hbyte _ _ h3
  exact UInt32.toNat.inj (by omega)

/-- A wallet whose profile holds `placeholderOther` and no network, with a mnemonic stored
under the id of that source. -/
def Wallet.placeholderOther : Wallet :=
  ⟨⟨IdentifiedVec.fromIter [.device .placeholderOther], .empty⟩,
    ⟨Function.update (fun _ => none) DeviceFactorSource.placeholderOther.id
      (some ⟨"zoo", ""⟩), none⟩⟩

end Placeholders

/-- Below `2^31 - 1`, the next index of a network is below `2^31`, and past the index of every
account on it. -/
theorem Profile.nextDerivationIndexForEntity_spec {p : Profile} {networkId : NetworkID}
    (hbound : ∀ n ∈ p.networks.elements, n.id = networkId →
      ∀ a ∈ n.accounts.elements, a.derivationIndex.toNat + 1 < 2 ^ 31) :
    (p.nextDerivationIndexForEntity networkId).toNat < 2 ^ 31 ∧
      ∀ n ∈ p.networks.elements, n.id = networkId → ∀ a ∈ n.accounts.elements,
        a.derivationIndex.toNat < (p.nextDerivationIndexForEntity networkId).toNat := by
  unfold nextDerivationIndexForEntity
  cases hget : p.networks.get networkId with
  | none =>
    refine ⟨by decide, fun n hn hid => absurd (IdentifiedVec.get_eq_none_iff.mp hget) ?_⟩
    exact not_not.mpr (hid ▸ List.mem_map_of_mem Network.id hn)
  | some n =>
    obtain ⟨hn, hid⟩ := IdentifiedVec.get_eq_some_iff.mp hget
    have hmax : (n.accounts.elements.map fun b : Account => b.derivationIndex.toNat + 1).foldr max 0
        ≤ 2 ^ 31 - 1 := by
      refine List.max_le_of_forall_le _ _ fun x hx => ?_
      obtain ⟨b, hb, rfl⟩ := List.mem_map.mp hx
      have := hbound n hn hid b hb
      omega
    simp only [Nat.toUInt32]
    rw [UInt32.toNat_ofNat_of_lt (by simp only [UInt32.size]; omega)]
    refine ⟨by omega, fun n' hn' hid' a ha => ?_⟩
    obtain rfl := IdentifiedVec.eq_of_id_eq hn' hn (hid'.trans hid.symm)
    exact List.le_max_of_le (List.mem_map_of_mem (fun b : Account => b.derivationIndex.toNat + 1) ha)
      le_rfl

/-- The address of the account whose transaction signing key the mnemonic derives at
`path`. -/
def MnemonicWithPassphrase.accountAddress (m : MnemonicWithPassphrase) (crypto : Crypto)
    (path : CAP26Path) : Returns AccountAddress :=
  Address.fromPublicKey crypto.publicKeyHash .account (crypto.derivePublicKey m (.cap26 path))
    path.networkId

/-- The address of `a` is the one the mnemonic derives at the transaction signing path of
the account's own network and index, as for every account `create_new_account` makes. -/
def Account.DerivedBy (crypto : Crypto) (m : MnemonicWithPassphrase) (a : Account) : Prop :=
  m.accountAddress crypto ⟨a.networkId, .account, .transactionSigning, a.derivationIndex,
    a.derivationIndex_lt⟩ = .value a.address

/-- The factor source with id `id` signs the transactions of `a`. -/
def Account.ControlledBy (a : Account) (id : FactorSourceIDFromHash) : Prop :=
  a.securityState.transactionSigning.factorSourceId = id

namespace PrivateHierarchicalDeterministicFactorSource

variable {crypto : Crypto} (p : PrivateHierarchicalDeterministicFactorSource crypto)
  (networkId : NetworkID) {index : HDPathValue}

/-- Below `2^31`, deriving returns the instance of the account path for transaction signing
at `index`. -/
theorem deriveAccountCreationFactorInstance_eq (h : index.toNat < 2 ^ 31) :
    p.deriveAccountCreationFactorInstance networkId index =
      .value ⟨p.factorSource.id, crypto.derivePublicKey p.mnemonicWithPassphrase
        (.cap26 ⟨networkId, .account, .transactionSigning, index, h⟩),
        ⟨networkId, .account, .transactionSigning, index, h⟩, rfl, rfl⟩ := by
  simp only [deriveAccountCreationFactorInstance, AccountPath.new_of_lt h, Returns.value_bind]
  rfl

/-- From `2^31` on, deriving panics in `AccountPath::new`: the index has no hardened
component. -/
theorem deriveAccountCreationFactorInstance_of_le (h : 2 ^ 31 ≤ index.toNat) :
    p.deriveAccountCreationFactorInstance networkId index =
      .panic "index must be below 2^31 to be hardened" := by
  simp only [deriveAccountCreationFactorInstance, AccountPath.new_of_le h, Returns.panic_bind]

/-- Below `2^31`, the instance derived at `index` is on the account path that
`AccountPath::new` returns for the network and index, and comes from the id of the source. -/
theorem deriveAccountCreationFactorInstance_spec (h : index.toNat < 2 ^ 31) :
    ∃ factorInstance, p.deriveAccountCreationFactorInstance networkId index = .value factorInstance ∧
      AccountPath.new networkId .transactionSigning index = .value factorInstance.path ∧
      factorInstance.factorSourceId = p.factorSource.id :=
  ⟨_, p.deriveAccountCreationFactorInstance_eq networkId h, AccountPath.new_of_lt h, rfl⟩

end PrivateHierarchicalDeterministicFactorSource

/-- `Account::new` never panics: its address is the instance's key on the instance's
network, and the account holds the instance as its only signer. -/
theorem Account.new_spec (crypto : Crypto) (i : HDFactorInstanceAccountCreation)
    (name : DisplayName) (appearanceId : AppearanceID) :
    ∃ address, Account.new crypto i name appearanceId = .value
      { networkId := i.networkId, address, displayName := name,
        securityState := .unsecured (.withAccountCreatingFactorInstance i), appearanceId } := by
  obtain ⟨et, s, hs, -⟩ := Address.fromPublicKey_spec crypto.publicKeyHash
    (by decide : AbstractEntityType.account ≠ .resource) i.publicKey i.path.networkId
  exact ⟨⟨s, i.path.networkId⟩, by
    simp [Account.new, Address.fromHdFactorInstanceVirtualEntityCreation, hs]⟩

namespace Wallet

/-- `load_private_device_factor_source` returns a source only when nothing failed to read
and the stored mnemonic is the source's: the result holds that mnemonic and `d`. -/
theorem loadPrivateDeviceFactorSource_eq_ok {crypto : Crypto} {w : Wallet}
    {outcomes : StorageOutcomes} {d : DeviceFactorSource}
    {p : PrivateHierarchicalDeterministicFactorSource crypto} :
    w.loadPrivateDeviceFactorSource crypto outcomes d = .value (.ok p) ↔
      outcomes.loadMnemonic = none ∧ w.storage.mnemonics d.id = some p.mnemonicWithPassphrase ∧
        p.factorSource = d := by
  obtain ⟨m, d', hid⟩ := p
  unfold loadPrivateDeviceFactorSource PrivateHierarchicalDeterministicFactorSource.new
  rcases outcomes.loadMnemonic with _ | e <;> rcases w.storage.mnemonics d.id with _ | m' <;>
    simp only [reduceCtorEq, false_and, true_and, Option.some.injEq, Returns.value.injEq]
  split_ifs with h
  · simp only [Returns.map_value, Returns.value.injEq, Except.ok.injEq,
      PrivateHierarchicalDeterministicFactorSource.mk.injEq]
    exact ⟨fun ⟨hm, hd⟩ => ⟨hm, hd.symm⟩, fun ⟨hm, hd⟩ => ⟨hm, hd.symm⟩⟩
  · simp only [Returns.map_panic, reduceCtorEq, false_iff, not_and]
    rintro rfl rfl
    exact h hid

/-- `load_private_device_factor_source` panics exactly when it reads a mnemonic that does not
hash to the id of the source: the assertion of `PrivateHierarchicalDeterministicFactorSource::new`
fails. -/
theorem loadPrivateDeviceFactorSource_eq_panic {crypto : Crypto} {w : Wallet}
    {outcomes : StorageOutcomes} {d : DeviceFactorSource} {message : String} :
    w.loadPrivateDeviceFactorSource crypto outcomes d = .panic message ↔
      outcomes.loadMnemonic = none ∧ ∃ m, w.storage.mnemonics d.id = some m ∧
        d.factorSourceId ≠ .hash
          (FactorSourceIDFromHash.fromMnemonicWithPassphrase crypto d.factorSourceKind m) ∧
        message = "assertion `left == right` failed" := by
  unfold loadPrivateDeviceFactorSource PrivateHierarchicalDeterministicFactorSource.new
  rcases outcomes.loadMnemonic with _ | e <;> rcases w.storage.mnemonics d.id with _ | m' <;>
    simp only [reduceCtorEq, false_and, true_and, Option.some.injEq, exists_eq_left', and_false,
      exists_false, iff_false]
  split_ifs with h <;> simp [h, eq_comm]

/-- A panic of the load of the main device factor source is a panic of `create_new_account`. -/
theorem createNewAccount_of_load_panic {crypto : Crypto} {w : Wallet}
    {outcomes : StorageOutcomes} {d : DeviceFactorSource} {message : String}
    (networkId : NetworkID) (name : DisplayName) (hbdfs : w.profile.bdfs = .value d)
    (hload : w.loadPrivateDeviceFactorSource crypto outcomes d = .panic message) :
    w.createNewAccount crypto outcomes networkId name = .panic message := by
  simp [createNewAccount, hbdfs, hload]

/-- With a mnemonic stored under the id of the main device factor source that does not hash
to that id, loading the source panics instead of returning an error, and so does
`create_new_account`. -/
theorem loadPrivateDeviceFactorSource_panics_on_foreign_mnemonic :
    Wallet.placeholderOther.loadPrivateDeviceFactorSource Crypto.zero .succeeding
        .placeholderOther = .panic "assertion `left == right` failed" ∧
    Wallet.placeholderOther.createNewAccount Crypto.zero .succeeding .mainnet ⟨"Alice"⟩ =
      .panic "assertion `left == right` failed" := by
  have hload : Wallet.placeholderOther.loadPrivateDeviceFactorSource Crypto.zero .succeeding
      .placeholderOther = .panic "assertion `left == right` failed" := rfl
  exact ⟨hload, createNewAccount_of_load_panic .mainnet ⟨"Alice"⟩ rfl hload⟩

end Wallet

namespace Wallet

/-- With the main device factor source's mnemonic stored and hashing to its id, and the next
index of the network below `2^31`, `create_new_account` returns the account its mnemonic
derives at that index, controlled by the source. -/
theorem createNewAccount_eq {crypto : Crypto} {w : Wallet} {outcomes : StorageOutcomes}
    {d : DeviceFactorSource} {m : MnemonicWithPassphrase} (networkId : NetworkID)
    (name : DisplayName) (hbdfs : w.profile.bdfs = .value d) (hload : outcomes.loadMnemonic = none)
    (hstored : w.storage.mnemonics d.id = some m)
    (hid : d.factorSourceId = .hash
      (FactorSourceIDFromHash.fromMnemonicWithPassphrase crypto d.factorSourceKind m))
    (hnext : (w.profile.nextDerivationIndexForEntity networkId).toNat < 2 ^ 31) :
    ∃ account, w.createNewAccount crypto outcomes networkId name = .value (.ok account) ∧
      account.networkId = networkId ∧
      account.derivationIndex = w.profile.nextDerivationIndexForEntity networkId ∧
      account.DerivedBy crypto m ∧ account.ControlledBy d.id := by
  obtain ⟨et, s, hs, -⟩ := Address.fromPublicKey_spec crypto.publicKeyHash
    (by decide : AbstractEntityType.account ≠ .resource)
    (crypto.derivePublicKey m (.cap26 ⟨networkId, .account, .transactionSigning,
      w.profile.nextDerivationIndexForEntity networkId, hnext⟩)) networkId
  have hp : w.loadPrivateDeviceFactorSource crypto outcomes d = .value (.ok ⟨m, d, hid⟩) :=
    loadPrivateDeviceFactorSource_eq_ok.mpr ⟨hload, hstored, rfl⟩
  simp [createNewAccount, hbdfs, hp, hs,
    PrivateHierarchicalDeterministicFactorSource.deriveAccountCreationFactorInstance_eq _ _ hnext,
    Account.new, Address.fromHdFactorInstanceVirtualEntityCreation,
    HDFactorInstanceAccountCreation.networkId]
  exact ⟨rfl, hs, rfl⟩

/-- The first half of account creation: with the main device factor source's mnemonic stored
and hashing to its id, and no index of the network at `2^31 - 1`, `create_new_account`
changes nothing and returns an account of the network, derived and controlled by the source,
at an index that no account of the network has. -/
theorem createNewAccount_index_fresh {crypto : Crypto} {w : Wallet} {outcomes : StorageOutcomes}
    {d : DeviceFactorSource} {m : MnemonicWithPassphrase} (networkId : NetworkID)
    (name : DisplayName) (hbdfs : w.profile.bdfs = .value d) (hload : outcomes.loadMnemonic = none)
    (hstored : w.storage.mnemonics d.id = some m)
    (hid : d.factorSourceId = .hash
      (FactorSourceIDFromHash.fromMnemonicWithPassphrase crypto d.factorSourceKind m))
    (hbound : ∀ n ∈ w.profile.networks.elements, n.id = networkId →
      ∀ a ∈ n.accounts.elements, a.derivationIndex.toNat + 1 < 2 ^ 31) :
    ∃ account, w.createNewAccount crypto outcomes networkId name = .value (.ok account) ∧
      w.step crypto outcomes (.createNewAccount networkId name) = .value w ∧
      account.networkId = networkId ∧ account.DerivedBy crypto m ∧ account.ControlledBy d.id ∧
      ∀ n ∈ w.profile.networks.elements, n.id = networkId →
        ∀ a ∈ n.accounts.elements, a.derivationIndex ≠ account.derivationIndex := by
  obtain ⟨hnext, hpast⟩ := Profile.nextDerivationIndexForEntity_spec hbound
  obtain ⟨account, hcreate, hnet, hindex, hnew, hcontrol⟩ :=
    createNewAccount_eq networkId name hbdfs hload hstored hid hnext
  refine ⟨account, hcreate, by simp [step, hcreate], hnet, hnew, hcontrol,
    fun n hn hnid a ha heq => ?_⟩
  have hlt := hpast n hn hnid a ha
  rw [heq, hindex] at hlt
  exact Nat.lt_irrefl _ hlt

/-- The second half: when moreover distinct indices give distinct key hashes, every account
of the network that the source controls carries the address its own index derives, and no
other account of the network carries an address the mnemonic derives, the new address is not
on the network, and with a successful save `create_new_account_and_add_it_to_profile` adds
the account. -/
theorem createNewAccount_address_fresh {crypto : Crypto} {w : Wallet} {outcomes : StorageOutcomes}
    {d : DeviceFactorSource} {m : MnemonicWithPassphrase} {networkId : NetworkID}
    {name : DisplayName} {account : Account}
    (hcreate : w.createNewAccount crypto outcomes networkId name = .value (.ok account))
    (hnet : account.networkId = networkId) (hnew : account.DerivedBy crypto m)
    (hindexFresh : ∀ n ∈ w.profile.networks.elements, n.id = networkId →
      ∀ a ∈ n.accounts.elements, a.derivationIndex ≠ account.derivationIndex)
    (hinj : ∀ (i j : HDPathValue) (hi : i.toNat < 2 ^ 31) (hj : j.toNat < 2 ^ 31),
      crypto.publicKeyHash (crypto.derivePublicKey m
          (.cap26 ⟨networkId, .account, .transactionSigning, i, hi⟩)) =
        crypto.publicKeyHash (crypto.derivePublicKey m
          (.cap26 ⟨networkId, .account, .transactionSigning, j, hj⟩)) → i = j)
    (hderived : ∀ n ∈ w.profile.networks.elements, n.id = networkId →
      ∀ a ∈ n.accounts.elements, a.ControlledBy d.id → a.DerivedBy crypto m)
    (hforeign : ∀ n ∈ w.profile.networks.elements, n.id = networkId →
      ∀ a ∈ n.accounts.elements, ¬ a.ControlledBy d.id → ∀ (i : HDPathValue) (hi : i.toNat < 2 ^ 31),
        m.accountAddress crypto ⟨networkId, .account, .transactionSigning, i, hi⟩ ≠ .value a.address)
    (hsave : outcomes.saveProfile = none) :
    (∀ n ∈ w.profile.networks.elements, n.id = networkId → account.id ∉ n.accounts.ids) ∧
      w.createNewAccountAndAddItToProfile crypto outcomes networkId name =
        .value (.ok account, (w.addAccount outcomes account).2) := by
  have hfresh : ∀ n ∈ w.profile.networks.elements, n.id = networkId → account.id ∉ n.accounts.ids := by
    intro n hn hnid hmem
    obtain ⟨a, ha, haid⟩ := (IdentifiedVec.mem_ids_iff _ _).mp hmem
    by_cases hcontrol : a.ControlledBy d.id
    · obtain ⟨hnet', hhash⟩ := Address.fromPublicKey_address_eq crypto.publicKeyHash (by decide)
        (hderived n hn hnid a ha hcontrol) hnew (congrArg Address.address haid)
      have hnet'' : a.networkId = networkId := hnet'.trans hnet
      rw [hnet'', hnet] at hhash
      exact hindexFresh n hn hnid a ha (hinj _ _ _ _ hhash)
    · have hnew' := hnew
      unfold Account.DerivedBy at hnew'
      rw [hnet] at hnew'
      exact hforeign n hn hnid a ha hcontrol _ _ (hnew'.trans (congrArg Returns.value haid.symm))
  have hadd := (addAccount_of_accountAbsent w outcomes account
    fun n hn hnid => hfresh n hn (hnid.trans hnet)).1
  refine ⟨hfresh, ?_⟩
  simp [createNewAccountAndAddItToProfile, hcreate, hadd, hsave]
  rfl

end Wallet

end RadixWalletKit
