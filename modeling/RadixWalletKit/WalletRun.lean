import RadixWalletKit.WalletLaws

/-!
# Runs of wallet operations

A run is a sequence of calls of the operations of `wallet_accounts.rs`, each with the
answers the storage gives during it; a panic ends the run.  The profile invariant is the
one `factor_sources.rs` asks for (never empty) together with the routing of accounts by
`add_account` (every account sits in the network of its `network_id`).  Distinct ids need
no proof here: `IdentifiedVec` carries them.  The invariant is shown to hold after each
kind of step, and so after every run.
-/

namespace RadixWalletKit

/-- One call of a wallet operation. -/
inductive WalletOp (crypto : Crypto) where
  | addFactorSource (factorSource : FactorSource)
  | addPrivateDeviceFactorSource
      (privateDeviceFactorSource : PrivateHierarchicalDeterministicFactorSource crypto)
  | addAccount (account : Account)
  | changeNameOfAccount (address : AccountAddress) (newName : DisplayName)
  | createNewAccount (networkId : NetworkID) (name : DisplayName)
  | createNewAccountAndAddItToProfile (networkId : NetworkID) (name : DisplayName)

namespace Wallet

/-- The wallet after one call.  `create_new_account` only reads the wallet. -/
def step (crypto : Crypto) (w : Wallet) (outcomes : StorageOutcomes) :
    WalletOp crypto → Returns Wallet
  | .addFactorSource factorSource => .value (w.addFactorSource outcomes factorSource).2
  | .addPrivateDeviceFactorSource p => .value (w.addPrivateDeviceFactorSource outcomes p).2
  | .addAccount account => .value (w.addAccount outcomes account).2
  | .changeNameOfAccount address newName =>
    match w.changeNameOfAccount outcomes address newName with
    | .panic message => .panic message
    | .value res => .value res.2
  | .createNewAccount networkId name =>
    match w.createNewAccount crypto outcomes networkId name with
    | .panic message => .panic message
    | .value _ => .value w
  | .createNewAccountAndAddItToProfile networkId name =>
    match w.createNewAccountAndAddItToProfile crypto outcomes networkId name with
    | .panic message => .panic message
    | .value res => .value res.2

/-- The wallet after a run of calls, each with the answers of the storage during it. -/
def run (crypto : Crypto) : Wallet → List (StorageOutcomes × WalletOp crypto) → Returns Wallet
  | w, [] => .value w
  | w, (outcomes, op) :: ops => w.step crypto outcomes op >>= fun w' => run crypto w' ops

@[simp] theorem run_nil (crypto : Crypto) (w : Wallet) : run crypto w [] = .value w := rfl

@[simp] theorem run_cons (crypto : Crypto) (w : Wallet) (outcomes : StorageOutcomes)
    (op : WalletOp crypto) (ops : List (StorageOutcomes × WalletOp crypto)) :
    run crypto w ((outcomes, op) :: ops) =
      (w.step crypto outcomes op >>= fun w' => run crypto w' ops) := rfl

/-- `create_new_account_and_add_it_to_profile` leaves the wallet as it was, or as
`add_account` of the account `create_new_account` returned leaves it. -/
theorem createNewAccountAndAddItToProfile_wallet {crypto : Crypto} {w : Wallet}
    {outcomes : StorageOutcomes} {networkId : NetworkID} {name : DisplayName}
    {res : Except CommonError Account × Wallet}
    (h : w.createNewAccountAndAddItToProfile crypto outcomes networkId name = .value res) :
    res.2 = w ∨ ∃ account, w.createNewAccount crypto outcomes networkId name = .value (.ok account) ∧
      res.2 = (w.addAccount outcomes account).2 := by
  simp only [createNewAccountAndAddItToProfile] at h
  split at h
  · cases h
  · cases h
    exact .inl rfl
  · cases h
    exact .inr ⟨_, ‹_›, rfl⟩

/-- A step of `change_name_of_account` leaves the wallet that the call returned with. -/
theorem step_changeNameOfAccount {crypto : Crypto} {w w' : Wallet} {outcomes : StorageOutcomes}
    {address : AccountAddress} {newName : DisplayName}
    (h : w.step crypto outcomes (.changeNameOfAccount address newName) = .value w') :
    ∃ res, w.changeNameOfAccount outcomes address newName = .value res ∧ w' = res.2 := by
  simp only [step] at h
  split at h <;> cases h
  exact ⟨_, ‹_›, rfl⟩

/-- A step of `create_new_account` leaves the wallet as it was. -/
theorem step_createNewAccount {crypto : Crypto} {w w' : Wallet} {outcomes : StorageOutcomes}
    {networkId : NetworkID} {name : DisplayName}
    (h : w.step crypto outcomes (.createNewAccount networkId name) = .value w') : w' = w := by
  simp only [step] at h
  split at h <;> cases h
  rfl

/-- A step of `create_new_account_and_add_it_to_profile` leaves the wallet as it was, or as
`add_account` of the account `create_new_account` returned leaves it. -/
theorem step_createNewAccountAndAddItToProfile {crypto : Crypto} {w w' : Wallet}
    {outcomes : StorageOutcomes} {networkId : NetworkID} {name : DisplayName}
    (h : w.step crypto outcomes (.createNewAccountAndAddItToProfile networkId name) = .value w') :
    w' = w ∨ ∃ account, w.createNewAccount crypto outcomes networkId name = .value (.ok account) ∧
      w' = (w.addAccount outcomes account).2 := by
  simp only [step] at h
  split at h
  · cases h
  · cases h
    exact createNewAccountAndAddItToProfile_wallet ‹_›

/-- A property of wallets that every step of an allowed kind keeps holds after every run of
such steps. -/
theorem run_preserves {crypto : Crypto} (allowed : WalletOp crypto → Prop) (P : Wallet → Prop)
    (hstep : ∀ {w w' : Wallet} (outcomes : StorageOutcomes) (op : WalletOp crypto), allowed op →
      P w → w.step crypto outcomes op = .value w' → P w') :
    ∀ (ops : List (StorageOutcomes × WalletOp crypto)) {w w' : Wallet},
      (∀ call ∈ ops, allowed call.2) → P w → run crypto w ops = .value w' → P w'
  | [], _, _, _, hw, hrun => by
    cases hrun
    exact hw
  | (outcomes, op) :: ops, w, w', hops, hw, hrun => by
    rw [run_cons] at hrun
    cases hstep' : w.step crypto outcomes op with
    | panic message => rw [hstep'] at hrun; cases hrun
    | value w₁ =>
      rw [hstep', Returns.value_bind] at hrun
      exact run_preserves allowed P hstep ops (fun call h => hops call (List.mem_cons_of_mem _ h))
        (hstep outcomes op (hops _ (List.mem_cons_self _ _)) hw hstep') hrun

end Wallet

/-- The profile invariant. -/
structure Profile.Invariant (p : Profile) : Prop where
  factorSources_ne_nil : p.factorSources.elements ≠ []
  accounts_on_network : ∀ l ∈ p.accountLists, ∀ a ∈ l.2, a.networkId = l.1

namespace Profile.Invariant

variable {p : Profile}

theorem afterAddingAccount {p' : Profile} (hinv : p.Invariant) (a : Account)
    (hfs : p'.factorSources = p.factorSources)
    (hlists : p'.accountLists = accountListsAfterAdding p.accountLists a) : p'.Invariant := by
  refine ⟨hfs ▸ hinv.factorSources_ne_nil, fun l hl b hb => ?_⟩
  rw [hlists] at hl
  rcases mem_accountListsAfterAdding hl hb with ⟨l', hl', hfst, hb'⟩ | ⟨rfl, hfst⟩
  · rw [← hfst]
    exact hinv.accounts_on_network l' hl' b hb'
  · exact hfst.symm

theorem afterRenaming {p' : Profile} (hinv : p.Invariant) (hfs : p'.factorSources = p.factorSources)
    {pre post : List (NetworkID × List Account)} {networkId : NetworkID}
    {accPre accPost : List Account} {acc : Account} (newName : DisplayName)
    (hlists : p.accountLists = pre ++ (networkId, accPre ++ acc :: accPost) :: post)
    (hlists' : p'.accountLists =
      pre ++ (networkId, accPre ++ { acc with displayName := newName } :: accPost) :: post) :
    p'.Invariant := by
  refine ⟨hfs ▸ hinv.factorSources_ne_nil, fun l hl b hb => ?_⟩
  rw [hlists'] at hl
  obtain ⟨l', hl', hfst, hb' | ⟨rfl, hacc⟩⟩ := mem_accountLists_renamed newName hl hb <;>
    rw [← hlists] at hl' <;> rw [← hfst]
  · exact hinv.accounts_on_network l' hl' b hb'
  · exact hinv.accounts_on_network l' hl' acc hacc

end Profile.Invariant

namespace Wallet

variable {w : Wallet} (outcomes : StorageOutcomes)

theorem addAccount_invariant (hinv : w.profile.Invariant) (a : Account) :
    (w.addAccount outcomes a).2.profile.Invariant := by
  rcases addAccount_profile_cases w outcomes a with h | ⟨hlists, hfs⟩
  · rwa [h]
  · exact hinv.afterAddingAccount a hfs hlists

theorem changeNameOfAccount_invariant (hinv : w.profile.Invariant) {address : AccountAddress}
    {newName : DisplayName} {res : Except CommonError Account × Wallet}
    (hres : w.changeNameOfAccount outcomes address newName = .value res) :
    res.2.profile.Invariant := by
  rcases changeNameOfAccount_profile_cases hres with h | ⟨_, _, _, _, _, _, hlists, hlists', hfs⟩
  · rwa [h]
  · exact hinv.afterRenaming hfs newName hlists hlists'

/-- Every kind of step keeps the profile invariant. -/
theorem step_invariant {crypto : Crypto} {w' : Wallet} (hinv : w.profile.Invariant)
    (op : WalletOp crypto) (hstep : w.step crypto outcomes op = .value w') :
    w'.profile.Invariant := by
  cases op with
  | addFactorSource factorSource =>
    cases hstep
    rwa [addFactorSource_profile]
  | addPrivateDeviceFactorSource p =>
    cases hstep
    rwa [addPrivateDeviceFactorSource_profile]
  | addAccount a =>
    cases hstep
    exact addAccount_invariant outcomes hinv a
  | changeNameOfAccount address newName =>
    obtain ⟨res, hres, rfl⟩ := step_changeNameOfAccount hstep
    exact changeNameOfAccount_invariant outcomes hinv hres
  | createNewAccount networkId name =>
    rwa [step_createNewAccount hstep]
  | createNewAccountAndAddItToProfile networkId name =>
    rcases step_createNewAccountAndAddItToProfile hstep with rfl | ⟨a, -, rfl⟩
    · exact hinv
    · exact addAccount_invariant outcomes hinv a

/-- Every run keeps the profile invariant. -/
theorem run_invariant {crypto : Crypto} (ops : List (StorageOutcomes × WalletOp crypto))
    {w w' : Wallet} (hinv : w.profile.Invariant) (hrun : run crypto w ops = .value w') :
    w'.profile.Invariant :=
  run_preserves (fun _ => True) (fun w => w.profile.Invariant)
    (fun outcomes op _ hinv hstep => step_invariant outcomes hinv op hstep) ops
    (fun _ _ => trivial) hinv hrun

/-- `try_from_iter` fails exactly on no factor sources and otherwise builds a non-empty
collection with distinct ids; and every run from a profile with a factor source and every
account in the network of its `network_id` ends in such a profile, with distinct ids of
factor sources, networks and accounts. -/
theorem profileStore_invariant (crypto : Crypto) (ops : List (StorageOutcomes × WalletOp crypto))
    (w w' : Wallet) (hfs : w.profile.factorSources.elements ≠ [])
    (hnet : ∀ n ∈ w.profile.networks.elements, ∀ a ∈ n.accounts.elements, a.networkId = n.id)
    (hrun : run crypto w ops = .value w') :
    (∀ xs, (xs = [] → FactorSources.tryFromIter xs = .error .factorSourcesMustNotBeEmpty) ∧
      (xs ≠ [] → ∃ v, FactorSources.tryFromIter xs = .ok v ∧ v.elements ≠ [] ∧ v.ids.Nodup)) ∧
    w'.profile.factorSources.elements ≠ [] ∧ w'.profile.factorSources.ids.Nodup ∧
    w'.profile.networks.ids.Nodup ∧
    ∀ n ∈ w'.profile.networks.elements,
      n.accounts.ids.Nodup ∧ ∀ a ∈ n.accounts.elements, a.networkId = n.id := by
  have hinv : w.profile.Invariant := ⟨hfs, by simpa [Profile.accountLists] using hnet⟩
  have hinv' := run_invariant ops hinv hrun
  refine ⟨FactorSources.tryFromIter_spec, hinv'.factorSources_ne_nil, IdentifiedVec.ids_nodup _,
    IdentifiedVec.ids_nodup _, fun n hn => ⟨IdentifiedVec.ids_nodup _, fun a ha => ?_⟩⟩
  exact hinv'.accounts_on_network (n.id, n.accounts.elements) (List.mem_map_of_mem _ hn) a ha

theorem profileStore_invariant_placeholder :
    run Crypto.zero Wallet.placeholder [(.succeeding, .addAccount (.placeholderWithAddress "a"))] =
      .value (Wallet.placeholder.addAccount .succeeding (.placeholderWithAddress "a")).2 ∧
    ∀ n ∈ (Wallet.placeholder.addAccount .succeeding (.placeholderWithAddress "a")).2.profile.networks.elements,
      ∀ a ∈ n.accounts.elements, a.networkId = n.id :=
  ⟨rfl, fun n hn => ((profileStore_invariant Crypto.zero
    [(.succeeding, .addAccount (.placeholderWithAddress "a"))] Wallet.placeholder
    (Wallet.placeholder.addAccount .succeeding (.placeholderWithAddress "a")).2
    (by simp [Wallet.placeholder]) (by simp [Wallet.placeholder]) rfl).2.2.2.2 n hn).2⟩

end Wallet

end RadixWalletKit
