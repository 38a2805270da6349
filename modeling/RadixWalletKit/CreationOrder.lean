import RadixWalletKit.EntityLaws
import RadixWalletKit.WalletHistory

/-!
# Accounts stay in creation order

`create_new_account` gives the account it makes the next derivation index of its network and
the appearance of the number of accounts already there.  When every account of a network was
made that way, one after the other, the `k`-th account has index `k` and the `k`-th
appearance; then the next index is the number of accounts, and the account that
`create_new_account_and_add_it_to_profile` adds continues the order.  `add_account` is the one
call that can break it, with an account made elsewhere.

So along every run without `add_account` each network stays in creation order, as long as
no network reaches `2 ^ 32` accounts, where the `u32` index wraps round.  A run never removes
an account (`WalletHistory`), so a bound on the networks at its end bounds them at every step.
In creation order the accounts of a network strictly increase under `Account::cmp`, and the
next account is derived at the index that is the number of accounts on the network.
-/

namespace RadixWalletKit

/-- The derivation index and appearance `create_new_account` gives the account it makes on
a network with `k` accounts. -/
def creationSlot (k : Nat) : Nat × AppearanceID :=
  (k, AppearanceID.fromNumberOfAccountsOnNetwork k)

/-- The derivation index and appearance of an account. -/
def Account.slot (a : Account) : Nat × AppearanceID := (a.derivationIndex.toNat, a.appearanceId)

/-- The accounts were made one after the other by `create_new_account`: the `k`-th has
derivation index `k` and the `k`-th appearance. -/
def InCreationOrder (accounts : List Account) : Prop :=
  accounts.map Account.slot = (List.range accounts.length).map creationSlot

instance : DecidablePred InCreationOrder := fun _ => inferInstanceAs (Decidable (_ = _))

theorem inCreationOrder_append_singleton {accounts : List Account} {a : Account} :
    InCreationOrder (accounts ++ [a]) ↔
      InCreationOrder accounts ∧ a.slot = creationSlot accounts.length := by
  simp only [InCreationOrder, List.length_append, List.length_singleton, List.range_succ,
    List.map_append, List.map_singleton]
  constructor
  · intro h
    obtain ⟨hfront, hlast⟩ := List.append_inj h (by simp)
    exact ⟨hfront, List.singleton_inj.mp hlast⟩
  · rintro ⟨hfront, hlast⟩
    rw [hfront, hlast]

/-- Creation order reads only the indices and appearances. -/
theorem InCreationOrder.of_map_slot {l l' : List Account} (h : InCreationOrder l)
    (hslot : l'.map Account.slot = l.map Account.slot) : InCreationOrder l' := by
  have hlen : l'.length = l.length := by simpa using congrArg List.length hslot
  rw [InCreationOrder, hslot, hlen]
  exact h

theorem InCreationOrder.indices {l : List Account} (h : InCreationOrder l) :
    l.map (fun a => a.derivationIndex.toNat) = List.range l.length := by
  simpa [List.map_map, Function.comp_def, Account.slot, creationSlot] using
    congrArg (List.map Prod.fst) h

/-- In creation order the accounts strictly increase under `Account::cmp`. -/
theorem InCreationOrder.pairwise_cmp {l : List Account} (h : InCreationOrder l) :
    l.Pairwise fun a b => a.cmp b = .lt := by
  have hsorted : (l.map fun a => a.derivationIndex.toNat).Pairwise (· < ·) :=
    h.indices ▸ List.pairwise_lt_range _
  exact (List.pairwise_map.mp hsorted).imp fun hab => by
    rw [Account.cmp_eq_compare, Nat.compare_eq_lt]
    exact hab

/-- One past the largest of `0, …, n - 1`, as `next_derivation_index_for_entity` folds it,
is `n`. -/
theorem foldr_max_range_succ (n : Nat) : ((List.range n).map (· + 1)).foldr max 0 = n := by
  apply le_antisymm
  · refine List.max_le_of_forall_le _ _ fun x hx => ?_
    obtain ⟨k, hk, rfl⟩ := List.mem_map.mp hx
    exact List.mem_range.mp hk
  · cases n with
    | zero => exact Nat.zero_le _
    | succ n =>
      exact List.le_max_of_le (List.mem_map_of_mem _ (List.mem_range.mpr (Nat.lt_succ_self n)))
        le_rfl

namespace Profile

/-- The accounts of the network `networkId`, none when the profile has no such network. -/
def accountsOn (p : Profile) (networkId : NetworkID) : List Account :=
  ((p.networks.get networkId).map (·.accounts.elements)).getD []

theorem accountsOn_of_mem {p : Profile} {l : NetworkID × List Account} (hl : l ∈ p.accountLists) :
    p.accountsOn l.1 = l.2 := by
  obtain ⟨n, hn, rfl⟩ := List.mem_map.mp hl
  simp [accountsOn, IdentifiedVec.get_eq_some_iff.mpr ⟨hn, rfl⟩]

theorem accountsOn_of_not_mem {p : Profile} {networkId : NetworkID}
    (h : networkId ∉ p.accountLists.map Prod.fst) : p.accountsOn networkId = [] := by
  rw [accountLists_map_fst] at h
  simp [accountsOn, IdentifiedVec.get_eq_none_iff.mpr h]

/-- The count `create_new_account` takes the appearance from. -/
theorem numberOfAccountsOnNetwork_eq (p : Profile) (networkId : NetworkID) :
    ((p.networks.get networkId).map (·.accounts.len)).getD 0 = (p.accountsOn networkId).length := by
  unfold accountsOn
  cases p.networks.get networkId <;> rfl

theorem nextDerivationIndexForEntity_eq (p : Profile) (networkId : NetworkID) :
    p.nextDerivationIndexForEntity networkId =
      (((p.accountsOn networkId).map fun (a : Account) => a.derivationIndex.toNat + 1).foldr max
        0).toUInt32 := by
  unfold nextDerivationIndexForEntity accountsOn
  cases p.networks.get networkId <;> rfl

/-- On a network in creation order with fewer than `2 ^ 32` accounts, the next index is the
number of accounts. -/
theorem nextDerivationIndexForEntity_toNat {p : Profile} {networkId : NetworkID}
    (h : InCreationOrder (p.accountsOn networkId)) (hlt : (p.accountsOn networkId).length < 2 ^ 32) :
    (p.nextDerivationIndexForEntity networkId).toNat = (p.accountsOn networkId).length := by
  have hmap : (p.accountsOn networkId).map (fun (a : Account) => a.derivationIndex.toNat + 1) =
      (List.range (p.accountsOn networkId).length).map (· + 1) := by
    rw [← h.indices, List.map_map]
    rfl
  rw [nextDerivationIndexForEntity_eq, hmap, foldr_max_range_succ]
  exact UInt32.toNat_ofNat_of_lt hlt

/-- Every network of the profile is in creation order. -/
def CreationOrdered (p : Profile) : Prop :=
  ∀ l ∈ p.accountLists, InCreationOrder l.2

theorem CreationOrdered.accountsOn {p : Profile} (hp : p.CreationOrdered) (networkId : NetworkID) :
    InCreationOrder (p.accountsOn networkId) := by
  by_cases hmem : networkId ∈ p.accountLists.map Prod.fst
  · obtain ⟨l, hl, rfl⟩ := List.mem_map.mp hmem
    rw [accountsOn_of_mem hl]
    exact hp l hl
  · rw [accountsOn_of_not_mem hmem]
    rfl

/-- Below the bound after adding `a`, the network of `a` had fewer than `2 ^ 32` accounts. -/
theorem accountsOn_length_lt {p : Profile} {a : Account}
    (hbound : ∀ l ∈ accountListsAfterAdding p.accountLists a, l.2.length ≤ 2 ^ 32) :
    (p.accountsOn a.networkId).length < 2 ^ 32 := by
  by_cases hmem : a.networkId ∈ p.accountLists.map Prod.fst
  · obtain ⟨l, hl, hid⟩ := List.mem_map.mp hmem
    have hgrown := hbound (l.1, l.2 ++ [a]) (by
      rw [accountListsAfterAdding, if_pos hmem]
      exact List.mem_map.mpr ⟨l, hl, by simp [hid]⟩)
    rw [← hid, accountsOn_of_mem hl]
    simp only [List.length_append, List.length_singleton] at hgrown
    omega
  · rw [accountsOn_of_not_mem hmem]
    exact Nat.two_pow_pos 32

theorem CreationOrdered.afterAdding {p p' : Profile} (hp : p.CreationOrdered) {a : Account}
    (hslot : a.slot = creationSlot (p.accountsOn a.networkId).length)
    (hlists : p'.accountLists = accountListsAfterAdding p.accountLists a) : p'.CreationOrdered := by
  intro l hl
  rw [hlists, accountListsAfterAdding] at hl
  split_ifs at hl with hmem
  · obtain ⟨l₀, hl₀, rfl⟩ := List.mem_map.mp hl
    dsimp only
    split_ifs with hid
    · rw [← hid, accountsOn_of_mem hl₀] at hslot
      exact inCreationOrder_append_singleton.mpr ⟨hp l₀ hl₀, hslot⟩
    · exact hp l₀ hl₀
  · rcases List.mem_append.mp hl with hl | hl
    · exact hp l hl
    · rw [List.mem_singleton.mp hl]
      rw [accountsOn_of_not_mem hmem] at hslot
      exact (@inCreationOrder_append_singleton [] a).mpr ⟨rfl, hslot⟩

theorem CreationOrdered.afterRenaming {p p' : Profile} (hp : p.CreationOrdered)
    {pre post : List (NetworkID × List Account)} {networkId : NetworkID}
    {accPre accPost : List Account} {acc : Account} (newName : DisplayName)
    (hlists : p.accountLists = pre ++ (networkId, accPre ++ acc :: accPost) :: post)
    (hlists' : p'.accountLists =
      pre ++ (networkId, accPre ++ { acc with displayName := newName } :: accPost) :: post) :
    p'.CreationOrdered := by
  intro l hl
  rw [hlists'] at hl
  rcases List.mem_append.mp hl with hl | hl
  · exact hp l (hlists ▸ List.mem_append_left _ hl)
  rcases List.mem_cons.mp hl with rfl | hl
  · have hmem : (networkId, accPre ++ acc :: accPost) ∈ p.accountLists := by
      rw [hlists]
      exact List.mem_append_right _ (List.mem_cons_self _ _)
    refine (hp _ hmem).of_map_slot ?_
    simp only [List.map_append, List.map_cons]
    rfl
  · exact hp l (hlists ▸ List.mem_append_right _ (List.mem_cons_of_mem _ hl))

end Profile

namespace Wallet

/-- What `create_new_account` gives the account it returns, whatever the crypto: the network
asked for, the next index of that network, and the appearance of its number of accounts. -/
theorem createNewAccount_eq_ok {crypto : Crypto} {w : Wallet} {outcomes : StorageOutcomes}
    {networkId : NetworkID} {name : DisplayName} {account : Account}
    (h : w.createNewAccount crypto outcomes networkId name = .value (.ok account)) :
    account.networkId = networkId ∧
      account.derivationIndex = w.profile.nextDerivationIndexForEntity networkId ∧
      account.appearanceId =
        .fromNumberOfAccountsOnNetwork (w.profile.accountsOn networkId).length := by
  rw [← Profile.numberOfAccountsOnNetwork_eq]
  unfold createNewAccount at h
  cases hbdfs : w.profile.bdfs with
  | panic message => simp [hbdfs] at h
  | value d =>
    cases hload : w.loadPrivateDeviceFactorSource crypto outcomes d with
    | panic message => simp [hbdfs, hload] at h
    | value r =>
      cases r with
      | error e => simp [hbdfs, hload] at h
      | ok p =>
        by_cases hnext : (w.profile.nextDerivationIndexForEntity networkId).toNat < 2 ^ 31
        · obtain ⟨fi, hfi, hpath, -⟩ := p.deriveAccountCreationFactorInstance_spec networkId hnext
          have hpath := Returns.value.inj ((AccountPath.new_of_lt hnext).symm.trans hpath)
          obtain ⟨address, hnew⟩ := Account.new_spec crypto fi name
            (.fromNumberOfAccountsOnNetwork
              (((w.profile.networks.get networkId).map (·.accounts.len)).getD 0))
          simp only [hbdfs, hload, Returns.value_bind, Returns.pure_eq, hfi, hnew,
            Returns.value.injEq, Except.ok.injEq] at h
          subst h
          refine ⟨?_, ?_, rfl⟩
          · show fi.path.networkId = networkId
            rw [← hpath]
          · show fi.path.index = _
            rw [← hpath]
        · simp [hbdfs, hload,
            p.deriveAccountCreationFactorInstance_of_le networkId (Nat.le_of_not_lt hnext)] at h

end Wallet

/-- The calls other than `add_account`: each adds an account, if at all, by creating it. -/
def WalletOp.AddsOnlyCreatedAccounts {crypto : Crypto} : WalletOp crypto → Prop
  | .addAccount _ => False
  | _ => True

namespace Wallet

variable {crypto : Crypto} {w w' : Wallet} (outcomes : StorageOutcomes)

/-- A call other than `add_account` keeps every network in creation order, when no network
it leaves has more than `2 ^ 32` accounts. -/
theorem step_creationOrdered (op : WalletOp crypto) (hop : op.AddsOnlyCreatedAccounts)
    (hw : w.profile.CreationOrdered) (hstep : w.step crypto outcomes op = .value w')
    (hbound : ∀ l ∈ w'.profile.accountLists, l.2.length ≤ 2 ^ 32) : w'.profile.CreationOrdered := by
  cases op with
  | addFactorSource factorSource =>
    cases hstep
    rwa [addFactorSource_profile]
  | addPrivateDeviceFactorSource p =>
    cases hstep
    rwa [addPrivateDeviceFactorSource_profile]
  | addAccount a => cases hop
  | changeNameOfAccount address newName =>
    obtain ⟨res, hres, rfl⟩ := step_changeNameOfAccount hstep
    rcases changeNameOfAccount_profile_cases hres with h | ⟨_, _, _, _, _, _, hlists, hlists', -⟩
    · rwa [h]
    · exact hw.afterRenaming newName hlists hlists'
  | createNewAccount networkId name => rwa [step_createNewAccount hstep]
  | createNewAccountAndAddItToProfile networkId name =>
    rcases step_createNewAccountAndAddItToProfile hstep with rfl | ⟨account, hcreate, rfl⟩
    · exact hw
    rcases addAccount_profile_cases w outcomes account with h | ⟨hlists, -⟩
    · rwa [h]
    obtain ⟨rfl, hindex, happearance⟩ := createNewAccount_eq_ok hcreate
    have hlt := Profile.accountsOn_length_lt (hlists ▸ hbound)
    refine hw.afterAdding ?_ hlists
    rw [Account.slot, hindex, happearance,
      Profile.nextDerivationIndexForEntity_toNat (hw.accountsOn _) hlt]
    rfl

/-- Along every run without `add_account`, from a profile whose networks are in creation
order and up to an end where no network has more than `2 ^ 32` accounts, every network stays
in creation order: the `k`-th account has derivation index `k` and the `k`-th appearance.  So
the accounts of each network strictly increase under `Account::cmp`, and below `2 ^ 32`
accounts the next index of a network is its number of accounts. -/
theorem run_creationOrdered (crypto : Crypto) (ops : List (StorageOutcomes × WalletOp crypto))
    {w w' : Wallet} (hops : ∀ call ∈ ops, call.2.AddsOnlyCreatedAccounts)
    (hw : w.profile.CreationOrdered) (hrun : run crypto w ops = .value w')
    (hbound : ∀ l ∈ w'.profile.accountLists, l.2.length ≤ 2 ^ 32) :
    w'.profile.CreationOrdered ∧
      (∀ l ∈ w'.profile.accountLists, l.2.Pairwise fun a b => a.cmp b = .lt) ∧
      ∀ networkId, (w'.profile.accountsOn networkId).length < 2 ^ 32 →
        (w'.profile.nextDerivationIndexForEntity networkId).toNat =
          (w'.profile.accountsOn networkId).length := by
  have hordered : w'.profile.CreationOrdered :=
    run_preserves WalletOp.AddsOnlyCreatedAccounts
      (fun v => v.profile.Keeps w'.profile → v.profile.CreationOrdered)
      (fun outcomes op hop hv hstep hkeeps =>
        step_creationOrdered outcomes op hop (hv ((step_keeps outcomes op hstep).trans hkeeps))
          hstep fun l hl =>
            let ⟨l', hl', hle⟩ := hkeeps.length_le hl
            hle.trans (hbound l' hl'))
      ops hops (fun _ => hw) hrun (.refl _)
  exact ⟨hordered, fun l hl => (hordered l hl).pairwise_cmp,
    fun networkId => Profile.nextDerivationIndexForEntity_toNat (hordered.accountsOn networkId)⟩

theorem run_creationOrdered_twice :
    ∃ w', run Crypto.byIndex Wallet.placeholder
        [(.succeeding, .createNewAccountAndAddItToProfile .mainnet ⟨"Alice"⟩),
          (.succeeding, .createNewAccountAndAddItToProfile .mainnet ⟨"Bob"⟩)] = .value w' ∧
      (w'.profile.accountsOn .mainnet).length = 2 ∧ w'.profile.CreationOrdered := by
  obtain ⟨w', hrun⟩ : ∃ w', run Crypto.byIndex Wallet.placeholder
      [(.succeeding, .createNewAccountAndAddItToProfile .mainnet ⟨"Alice"⟩),
        (.succeeding, .createNewAccountAndAddItToProfile .mainnet ⟨"Bob"⟩)] = .value w' := ⟨_, rfl⟩
  have hbound : ∀ l ∈ w'.profile.accountLists, l.2.length ≤ 2 ^ 32 := by
    cases hrun
    decide
  refine ⟨w', hrun, by cases hrun; decide, (run_creationOrdered Crypto.byIndex _
    (by simp [WalletOp.AddsOnlyCreatedAccounts])
    (fun l hl => by simp [Wallet.placeholder, Profile.accountLists] at hl) hrun hbound).1⟩

end Wallet

end RadixWalletKit
