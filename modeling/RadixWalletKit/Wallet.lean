import RadixWalletKit.Profile

/-!
# The wallet

`Wallet` of `wallet_accounts.rs`: the in-memory profile and the secure storage it is
mirrored to.  Each operation takes the wallet state and returns its result together with
the new state.  What the storage collaborators answer during one operation is a
`StorageOutcomes`, so every result below holds whatever they answer.

`try_write` and `write` are not under src/.  `try_write` runs its closure on a copy of the
profile: when the closure fails the profile stays as it was before the call, as the spec asks
of a failed mutation; when it succeeds its edit is kept and saved, and a failed save is
returned while the profile stays edited, as the doc comment of `add_factor_source` records.
`write` returns its closure's value and has no error to return a failed save in; the spec has
storage failures surfaced, never swallowed, so there a failed save is a panic.
-/

namespace RadixWalletKit

/-- The secure storage, as far as the wallet uses it: the mnemonic saved under each device
factor source id, and the last profile snapshot saved. -/
structure SecureStorage where
  mnemonics : FactorSourceIDFromHash → Option MnemonicWithPassphrase
  profileSnapshot : Option Profile

namespace SecureStorage

/-- `save_mnemonic_with_passphrase`. -/
def saveMnemonic (s : SecureStorage) (id : FactorSourceIDFromHash)
    (mnemonicWithPassphrase : MnemonicWithPassphrase) : SecureStorage :=
  { s with mnemonics := Function.update s.mnemonics id (some mnemonicWithPassphrase) }

/-- `delete_mnemonic`. -/
def deleteMnemonic (s : SecureStorage) (id : FactorSourceIDFromHash) : SecureStorage :=
  { s with mnemonics := Function.update s.mnemonics id none }

/-- Saving a profile snapshot. -/
def saveProfile (s : SecureStorage) (profile : Profile) : SecureStorage :=
  { s with profileSnapshot := some profile }

@[simp] theorem saveProfile_mnemonics (s : SecureStorage) (profile : Profile) :
    (s.saveProfile profile).mnemonics = s.mnemonics := rfl

end SecureStorage

/-- What the storage collaborators answer during one wallet operation, which calls each of
them at most once: `none` when the call succeeds, or the error it fails with. -/
structure StorageOutcomes where
  saveMnemonic : Option CommonError
  loadMnemonic : Option CommonError
  deleteMnemonic : Option CommonError
  saveProfile : Option CommonError

/-- `Wallet`: the profile in memory and the secure storage. -/
structure Wallet where
  profile : Profile
  storage : SecureStorage

namespace Wallet

/-- Modelled from the spec: `Wallet::try_write` is not under src/.  It runs `mutate` on a copy
of the profile.  When `mutate` fails, the profile stays as it was before the call: the spec
has a mutation computed from the old profile and kept only on success.  When `mutate`
succeeds, its profile is kept and persisted; a failed persist is returned as the error, and
"the Profile still remains edited", as the doc comment of `add_factor_source` says
(wallet_accounts.rs, lines 51-52). -/
def tryWrite {R : Type} (w : Wallet) (outcomes : StorageOutcomes)
    (mutate : Profile → Except CommonError R × Profile) : Except CommonError R × Wallet :=
  let res := mutate w.profile
  match res.1 with
  | .error e => (.error e, w)
  | .ok v =>
    match outcomes.saveProfile with
    | some e => (.error e, { w with profile := res.2 })
    | none => (.ok v, { profile := res.2, storage := w.storage.saveProfile res.2 })

/-- Modelled from the spec: `Wallet::write` is not under src/.  It runs `mutate` on the
profile and persists the result, and returns the closure's value, which
`change_name_of_account` reads as the account it looked up.  A failed persist has no `Result`
to be returned in, and the spec has storage failures wrapped, never swallowed, so it panics. -/
def write {R : Type} (w : Wallet) (outcomes : StorageOutcomes) (mutate : Profile → R × Profile) :
    Returns (R × Wallet) :=
  let res := mutate w.profile
  match outcomes.saveProfile with
  | some _ => .panic "failed to save the profile to secure storage"
  | none => .value (res.1, { profile := res.2, storage := w.storage.saveProfile res.2 })

/-- `Wallet::add_factor_source`.  The closure appends `factorSource` and then returns `Err`
when `append` reports it as inserted. -/
def addFactorSource (w : Wallet) (outcomes : StorageOutcomes) (factorSource : FactorSource) :
    Except CommonError Unit × Wallet :=
  let res := w.tryWrite outcomes fun p =>
    let appended := p.factorSources.append factorSource
    (if appended.1.1 then .error .unknown else .ok (), { p with factorSources := appended.2 })
  (res.1.mapError fun _ => .unableToSaveFactorSourceToProfile factorSource.factorSourceId, res.2)

/-- `Wallet::add_private_device_factor_source`: save the mnemonic, then add the factor
source, and on failure of the latter try to delete the mnemonic again, ignoring the
outcome of the delete. -/
def addPrivateDeviceFactorSource {crypto : Crypto} (w : Wallet) (outcomes : StorageOutcomes)
    (privateDeviceFactorSource : PrivateHierarchicalDeterministicFactorSource crypto) :
    Except CommonError Unit × Wallet :=
  let id := privateDeviceFactorSource.factorSource.id
  match outcomes.saveMnemonic with
  | some e => (.error e, w)
  | none =>
    let w := { w with
      storage := w.storage.saveMnemonic id privateDeviceFactorSource.mnemonicWithPassphrase }
    let res := w.addFactorSource outcomes (.device privateDeviceFactorSource.factorSource)
    match res.1 with
    | .ok () => (.ok (), res.2)
    | .error e =>
      (.error e, if outcomes.deleteMnemonic.isNone then
          { res.2 with storage := res.2.storage.deleteMnemonic id }
        else res.2)

/-- `Wallet::load_private_device_factor_source`: the stored mnemonic of `deviceFactorSource`
paired with it, through the asserting constructor. -/
def loadPrivateDeviceFactorSource (crypto : Crypto) (w : Wallet) (outcomes : StorageOutcomes)
    (deviceFactorSource : DeviceFactorSource) :
    Returns (Except CommonError (PrivateHierarchicalDeterministicFactorSource crypto)) :=
  match outcomes.loadMnemonic with
  | some e => .value (.error e)
  | none =>
    match w.storage.mnemonics deviceFactorSource.id with
    | none => .value (.error .unableToLoadDeviceFactorSourceFromSecureStorage)
    | some mnemonicWithPassphrase =>
      Except.ok <$>
        PrivateHierarchicalDeterministicFactorSource.new crypto mnemonicWithPassphrase deviceFactorSource

/-- `Wallet::create_new_account`: derive an account of the main device factor source at the
next index for the network, without adding it to the profile. -/
def createNewAccount (crypto : Crypto) (w : Wallet) (outcomes : StorageOutcomes)
    (networkId : NetworkID) (name : DisplayName) : Returns (Except CommonError Account) := do
  let profile := w.profile
  let bdfs ← profile.bdfs
  let index := profile.nextDerivationIndexForEntity networkId
  let numberOfAccountsOnNetwork := ((profile.networks.get networkId).map (·.accounts.len)).getD 0
  let appearanceId := AppearanceID.fromNumberOfAccountsOnNetwork numberOfAccountsOnNetwork
  match ← w.loadPrivateDeviceFactorSource crypto outcomes bdfs with
  | .error e => pure (.error e)
  | .ok p =>
    let factorInstance ← p.deriveAccountCreationFactorInstance networkId index
    let account ← Account.new crypto factorInstance name appearanceId
    pure (.ok account)

/-- The closure `add_account` updates its network with: append the account, and fail
with `AccountAlreadyPresent` when `append` does not insert it. -/
def appendAccountToNetwork (account : Account) (network : Network) : Except CommonError Network :=
  let appended := network.accounts.append account
  if appended.1.1 then .ok { network with accounts := appended.2 }
  else .error (.accountAlreadyPresent account.id)

/-- `Wallet::add_account`: append the account to the network of its `network_id`, or add
that network with the account when the profile has none. -/
def addAccount (w : Wallet) (outcomes : StorageOutcomes) (account : Account) :
    Except CommonError Unit × Wallet :=
  let networkId := account.networkId
  let errExists := CommonError.accountAlreadyPresent account.id
  w.tryWrite outcomes fun p =>
    if p.networks.containsId networkId then
      let updated := p.networks.tryUpdateWith networkId (appendAccountToNetwork account)
      (updated.1.bind fun r => if r then .ok () else .error errExists,
        { p with networks := updated.2 })
    else
      let network := Network.new networkId (IdentifiedVec.fromIter [account])
      (.ok (), { p with networks := (p.networks.append network).2 })

/-- `Wallet::create_new_account_and_add_it_to_profile`. -/
def createNewAccountAndAddItToProfile (crypto : Crypto) (w : Wallet) (outcomes : StorageOutcomes)
    (networkId : NetworkID) (name : DisplayName) : Returns (Except CommonError Account × Wallet) :=
  match w.createNewAccount crypto outcomes networkId name with
  | .panic message => .panic message
  | .value (.error e) => .value (.error e, w)
  | .value (.ok account) =>
    let res := w.addAccount outcomes account
    .value (res.1.map fun _ => account, res.2)

/-- `Wallet::change_name_of_account`: the account renamed through `write`, and
`UnknownAccount` when `update_account` finds none. -/
def changeNameOfAccount (w : Wallet) (outcomes : StorageOutcomes) (address : AccountAddress)
    (newName : DisplayName) : Returns (Except CommonError Account × Wallet) := do
  let res ← w.write outcomes fun p =>
    p.updateAccount address fun a => { a with displayName := newName }
  pure (match res.1 with
    | some account => .ok account
    | none => .error .unknownAccount, res.2)

end Wallet

end RadixWalletKit
