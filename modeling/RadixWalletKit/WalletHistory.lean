import RadixWalletKit.WalletRun

/-!
# What a run of wallet operations keeps

No operation of `wallet_accounts.rs` removes or reorders anything in the profile.
`add_factor_source` and `add_private_device_factor_source` leave the profile as it was;
`add_account` appends an account to the end of its network, or a
network to the end of the networks; `change_name_of_account` changes the display name of one
account and no other field of it.  `Profile.Keeps` says this of two profiles, and it holds
between the profile before and after every step, whatever the storage answers and whichever
call fails, and so between the start and the end of every run.

Two consequences about the secure storage follow.  The mnemonic under an id changes only in
a call of `add_private_device_factor_source` for a source with that id.  And the profile
snapshot saved in the storage is always one that the profile in memory keeps: a failed save
leaves memory ahead of the snapshot, never behind it.
-/

namespace RadixWalletKit

section PrefixUpTo

variable {α : Type} {R : α → α → Prop}

/-- `old` is a prefix of `new` up to `R`: each element of `old` is related by `R` to the
element at its place in `new`, and `new` may go on past `old`. -/
def PrefixUpTo (R : α → α → Prop) : List α → List α → Prop
  | [], _ => True
  | _ :: _, [] => False
  | a :: as, b :: bs => R a b ∧ PrefixUpTo R as bs

@[simp] theorem prefixUpTo_nil_left (l : List α) : PrefixUpTo R [] l := trivial

@[simp] theorem prefixUpTo_cons_cons {a b : α} {as bs : List α} :
    PrefixUpTo R (a :: as) (b :: bs) ↔ R a b ∧ PrefixUpTo R as bs := Iff.rfl

theorem PrefixUpTo.refl (hR : ∀ a, R a a) : ∀ l : List α, PrefixUpTo R l l
  | [] => trivial
  | a :: l => ⟨hR a, PrefixUpTo.refl hR l⟩

theorem PrefixUpTo.trans (hR : ∀ a b c, R a b → R b c → R a c) :
    ∀ {l₁ l₂ l₃ : List α}, PrefixUpTo R l₁ l₂ → PrefixUpTo R l₂ l₃ → PrefixUpTo R l₁ l₃
  | [], _, _, _, _ => trivial
  | _ :: _, [], _, h, _ => h.elim
  | _ :: _, _ :: _, [], _, h => h.elim
  | _ :: _, _ :: _, _ :: _, ⟨hab, h₁⟩, ⟨hbc, h₂⟩ => ⟨hR _ _ _ hab hbc, PrefixUpTo.trans hR h₁ h₂⟩

/-- Appending at the end keeps what was there. -/
theorem PrefixUpTo.append_right (hR : ∀ a, R a a) : ∀ (l x : List α), PrefixUpTo R l (l ++ x)
  | [], _ => trivial
  | a :: l, x => ⟨hR a, PrefixUpTo.append_right hR l x⟩

/-- Changing every element to a related one keeps the list up to the relation. -/
theorem PrefixUpTo.map {f : α → α} : ∀ {l : List α}, (∀ a ∈ l, R a (f a)) → PrefixUpTo R l (l.map f)
  | [], _ => trivial
  | a :: l, h => ⟨h a (List.mem_cons_self a l),
      PrefixUpTo.map fun b hb => h b (List.mem_cons_of_mem a hb)⟩

/-- Changing one element to a related one keeps the list up to the relation. -/
theorem PrefixUpTo.middle (hR : ∀ a, R a a) {a b : α} (hab : R a b) (post : List α) :
    ∀ pre : List α, PrefixUpTo R (pre ++ a :: post) (pre ++ b :: post)
  | [] => ⟨hab, PrefixUpTo.refl hR post⟩
  | c :: pre => ⟨hR c, PrefixUpTo.middle hR hab post pre⟩

/-- Every element of `old` has a related element in `new`. -/
theorem PrefixUpTo.exists_of_mem : ∀ {old new : List α}, PrefixUpTo R old new →
    ∀ {a : α}, a ∈ old → ∃ b ∈ new, R a b
  | _ :: _, [], h, _, _ => h.elim
  | a :: _, b :: _, ⟨hab, h⟩, _, ha => by
    rcases List.mem_cons.mp ha with rfl | ha
    · exact ⟨b, List.mem_cons_self _ _, hab⟩
    · obtain ⟨c, hc, hac⟩ := h.exists_of_mem ha
      exact ⟨c, List.mem_cons_of_mem _ hc, hac⟩

theorem PrefixUpTo.length_le : ∀ {old new : List α}, PrefixUpTo R old new →
    old.length ≤ new.length
  | [], _, _ => Nat.zero_le _
  | _ :: _, [], h => h.elim
  | _ :: _, _ :: _, ⟨_, h⟩ => Nat.succ_le_succ h.length_le

end PrefixUpTo

/-- `b` is `a` with perhaps another display name: every other field is the same. -/
structure Account.Renamed (a b : Account) : Prop where
  networkId : a.networkId = b.networkId
  address : a.address = b.address
  securityState : a.securityState = b.securityState
  appearanceId : a.appearanceId = b.appearanceId

namespace Account.Renamed

theorem refl (a : Account) : a.Renamed a := ⟨rfl, rfl, rfl, rfl⟩

theorem trans {a b c : Account} (hab : a.Renamed b) (hbc : b.Renamed c) : a.Renamed c :=
  ⟨hab.1.trans hbc.1, hab.2.trans hbc.2, hab.3.trans hbc.3, hab.4.trans hbc.4⟩

theorem withDisplayName (a : Account) (name : DisplayName) :
    a.Renamed { a with displayName := name } := ⟨rfl, rfl, rfl, rfl⟩

end Account.Renamed

/-- A network's accounts later: the same network id, and the accounts of before, renamed at
most, at the front of its accounts. -/
def NetworkKept (l l' : NetworkID × List Account) : Prop :=
  l.1 = l'.1 ∧ PrefixUpTo Account.Renamed l.2 l'.2

theorem NetworkKept.refl (l : NetworkID × List Account) : NetworkKept l l :=
  ⟨rfl, PrefixUpTo.refl Account.Renamed.refl l.2⟩

theorem NetworkKept.trans {l₁ l₂ l₃ : NetworkID × List Account} (h₁ : NetworkKept l₁ l₂)
    (h₂ : NetworkKept l₂ l₃) : NetworkKept l₁ l₃ :=
  ⟨h₁.1.trans h₂.1, PrefixUpTo.trans (fun a b c => @Account.Renamed.trans a b c) h₁.2 h₂.2⟩

/-- What a later profile keeps of an earlier one: the factor sources of the earlier one at
the front of its own, in order; and each network of the earlier one at the same place, with
the same id and its accounts, renamed at most, at the front. -/
structure Profile.Keeps (p p' : Profile) : Prop where
  factorSources : p.factorSources.elements <+: p'.factorSources.elements
  accountLists : PrefixUpTo NetworkKept p.accountLists p'.accountLists

namespace Profile.Keeps

theorem refl (p : Profile) : p.Keeps p :=
  ⟨List.prefix_refl _, PrefixUpTo.refl NetworkKept.refl _⟩

theorem trans {p₁ p₂ p₃ : Profile} (h₁ : p₁.Keeps p₂) (h₂ : p₂.Keeps p₃) : p₁.Keeps p₃ :=
  ⟨h₁.1.trans h₂.1, PrefixUpTo.trans (fun a b c => @NetworkKept.trans a b c) h₁.2 h₂.2⟩

/-- Adding an account keeps every network and account. -/
theorem prefixUpTo_accountListsAfterAdding (lists : List (NetworkID × List Account))
    (a : Account) : PrefixUpTo NetworkKept lists (accountListsAfterAdding lists a) := by
  unfold accountListsAfterAdding
  split_ifs
  · refine PrefixUpTo.map fun l _ => ⟨rfl, ?_⟩
    split_ifs
    · exact PrefixUpTo.append_right Account.Renamed.refl l.2 [a]
    · exact PrefixUpTo.refl Account.Renamed.refl l.2
  · exact PrefixUpTo.append_right NetworkKept.refl lists _

theorem afterAddingAccount {p p' : Profile} (a : Account)
    (hfs : p'.factorSources = p.factorSources)
    (hlists : p'.accountLists = accountListsAfterAdding p.accountLists a) : p.Keeps p' :=
  ⟨hfs ▸ List.prefix_refl _, hlists ▸ prefixUpTo_accountListsAfterAdding _ a⟩

theorem afterRenaming {p p' : Profile} (hfs : p'.factorSources = p.factorSources)
    {pre post : List (NetworkID × List Account)} {networkId : NetworkID}
    {accPre accPost : List Account} {acc : Account} (newName : DisplayName)
    (hlists : p.accountLists = pre ++ (networkId, accPre ++ acc :: accPost) :: post)
    (hlists' : p'.accountLists =
      pre ++ (networkId, accPre ++ { acc with displayName := newName } :: accPost) :: post) :
    p.Keeps p' := by
  have hnetwork : NetworkKept (networkId, accPre ++ acc :: accPost)
      (networkId, accPre ++ { acc with displayName := newName } :: accPost) :=
    ⟨rfl, PrefixUpTo.middle Account.Renamed.refl (.withDisplayName acc newName) _ _⟩
  refine ⟨hfs ▸ List.prefix_refl _, ?_⟩
  rw [hlists, hlists']
  exact PrefixUpTo.middle NetworkKept.refl hnetwork _ _

/-- Every account of the earlier profile is in the later one, on a network of the same id,
with its address, network, security state and appearance. -/
theorem exists_renamed {p p' : Profile} (h : p.Keeps p') {l : NetworkID × List Account}
    (hl : l ∈ p.accountLists) {a : Account} (ha : a ∈ l.2) :
    ∃ l' ∈ p'.accountLists, l'.1 = l.1 ∧ ∃ a' ∈ l'.2, a.Renamed a' := by
  obtain ⟨l', hl', hid, hpre⟩ := h.accountLists.exists_of_mem hl
  obtain ⟨a', ha', hren⟩ := hpre.exists_of_mem ha
  exact ⟨l', hl', hid.symm, a', ha', hren⟩

/-- Every network of the earlier profile has at most as many accounts as the network at its
place in the later one. -/
theorem length_le {p p' : Profile} (h : p.Keeps p') {l : NetworkID × List Account}
    (hl : l ∈ p.accountLists) : ∃ l' ∈ p'.accountLists, l.2.length ≤ l'.2.length := by
  obtain ⟨l', hl', -, hpre⟩ := h.accountLists.exists_of_mem hl
  exact ⟨l', hl', hpre.length_le⟩

end Profile.Keeps

namespace Wallet

variable {w : Wallet} (outcomes : StorageOutcomes)

theorem addAccount_keeps (a : Account) : w.profile.Keeps (w.addAccount outcomes a).2.profile := by
  rcases addAccount_profile_cases w outcomes a with h | ⟨hlists, hfs⟩
  · exact h ▸ Profile.Keeps.refl _
  · exact .afterAddingAccount a hfs hlists

theorem changeNameOfAccount_keeps {address : AccountAddress} {newName : DisplayName}
    {res : Except CommonError Account × Wallet}
    (hres : w.changeNameOfAccount outcomes address newName = .value res) :
    w.profile.Keeps res.2.profile := by
  rcases changeNameOfAccount_profile_cases hres with h | ⟨_, _, _, _, _, _, hlists, hlists', hfs⟩
  · exact h ▸ Profile.Keeps.refl _
  · exact .afterRenaming hfs newName hlists hlists'

/-- Every step keeps the profile before it. -/
theorem step_keeps {crypto : Crypto} {w' : Wallet} (op : WalletOp crypto)
    (hstep : w.step crypto outcomes op = .value w') : w.profile.Keeps w'.profile := by
  cases op with
  | addFactorSource factorSource =>
    cases hstep
    rw [addFactorSource_profile]
    exact .refl _
  | addPrivateDeviceFactorSource p =>
    cases hstep
    rw [addPrivateDeviceFactorSource_profile]
    exact .refl _
  | addAccount a =>
    cases hstep
    exact addAccount_keeps outcomes a
  | changeNameOfAccount address newName =>
    obtain ⟨res, hres, rfl⟩ := step_changeNameOfAccount hstep
    exact changeNameOfAccount_keeps outcomes hres
  | createNewAccount networkId name =>
    rw [step_createNewAccount hstep]
    exact .refl _
  | createNewAccountAndAddItToProfile networkId name =>
    rcases step_createNewAccountAndAddItToProfile hstep with rfl | ⟨a, -, rfl⟩
    · exact .refl _
    · exact addAccount_keeps outcomes a

/-- Along every run, whatever the storage answers and whichever calls fail, nothing is
removed or reordered: the factor sources of the start are a prefix of those at the end, and
every network of the start keeps its place and id, with its accounts at the front of its
accounts, each with the same address, network, security state and appearance. -/
theorem run_keeps (crypto : Crypto) (ops : List (StorageOutcomes × WalletOp crypto))
    {w w' : Wallet} (hrun : run crypto w ops = .value w') : w.profile.Keeps w'.profile :=
  run_preserves (fun _ => True) (fun v => w.profile.Keeps v.profile)
    (fun outcomes op _ hkeeps hstep => hkeeps.trans (step_keeps outcomes op hstep)) ops
    (fun _ _ => trivial) (.refl _) hrun

theorem run_keeps_addAccount_rename :
    ∃ w', run Crypto.zero Wallet.placeholder
        [(.failingProfileSave, .addAccount (.placeholderWithAddress "a")),
          (.succeeding, .changeNameOfAccount ⟨"a", .mainnet⟩ ⟨"Bob"⟩)] = .value w' ∧
      Wallet.placeholder.profile.Keeps w'.profile :=
  ⟨_, rfl, run_keeps Crypto.zero [(.failingProfileSave, .addAccount (.placeholderWithAddress "a")),
    (.succeeding, .changeNameOfAccount ⟨"a", .mainnet⟩ ⟨"Bob"⟩)] rfl⟩

end Wallet

/-! ## The secure storage along a run -/

/-- The id a call saves a mnemonic under, when it saves one. -/
def WalletOp.mnemonicId {crypto : Crypto} : WalletOp crypto → Option FactorSourceIDFromHash
  | .addPrivateDeviceFactorSource p => some p.factorSource.id
  | _ => none

namespace Wallet

variable {w : Wallet} (outcomes : StorageOutcomes)

/-- `add_private_device_factor_source` touches only the mnemonic under its source's id. -/
theorem addPrivateDeviceFactorSource_mnemonics_of_ne {crypto : Crypto}
    (p : PrivateHierarchicalDeterministicFactorSource crypto) {id : FactorSourceIDFromHash}
    (hid : p.factorSource.id ≠ id) :
    (w.addPrivateDeviceFactorSource outcomes p).2.storage.mnemonics id = w.storage.mnemonics id := by
  cases hsaved : outcomes.saveMnemonic with
  | some e => rw [addPrivateDeviceFactorSource_of_saveMnemonic_failed w outcomes p hsaved]
  | none =>
    rw [(addPrivateDeviceFactorSource_of_mnemonicSaved w outcomes p hsaved).2,
      Function.update_noteq hid.symm]

/-- A step changes the mnemonic under an id only when it saves a mnemonic under that id. -/
theorem step_mnemonics {crypto : Crypto} {w' : Wallet} (op : WalletOp crypto)
    {id : FactorSourceIDFromHash} (hop : op.mnemonicId ≠ some id)
    (hstep : w.step crypto outcomes op = .value w') :
    w'.storage.mnemonics id = w.storage.mnemonics id := by
  cases op with
  | addFactorSource factorSource =>
    cases hstep
    rw [addFactorSource_mnemonics]
  | addPrivateDeviceFactorSource p =>
    cases hstep
    exact addPrivateDeviceFactorSource_mnemonics_of_ne outcomes p fun h => hop (congrArg some h)
  | addAccount a =>
    cases hstep
    rw [addAccount_mnemonics]
  | changeNameOfAccount address newName =>
    obtain ⟨res, hres, rfl⟩ := step_changeNameOfAccount hstep
    rw [changeNameOfAccount_mnemonics hres]
  | createNewAccount networkId name => rw [step_createNewAccount hstep]
  | createNewAccountAndAddItToProfile networkId name =>
    rcases step_createNewAccountAndAddItToProfile hstep with rfl | ⟨a, -, rfl⟩
    · rfl
    · rw [addAccount_mnemonics]

/-- Along every run, the mnemonic stored under an id stays as it was unless the run calls
`add_private_device_factor_source` for a source with that id: no other call, and no failure
or compensation of that one, saves or deletes a mnemonic under another id. -/
theorem run_mnemonics_frame (crypto : Crypto) (ops : List (StorageOutcomes × WalletOp crypto))
    (id : FactorSourceIDFromHash) (hops : ∀ call ∈ ops, call.2.mnemonicId ≠ some id)
    {w w' : Wallet} (hrun : run crypto w ops = .value w') :
    w'.storage.mnemonics id = w.storage.mnemonics id :=
  run_preserves (fun op => op.mnemonicId ≠ some id)
    (fun v => v.storage.mnemonics id = w.storage.mnemonics id)
    (fun outcomes op hop hv hstep => (step_mnemonics outcomes op hop hstep).trans hv) ops hops rfl
    hrun

theorem run_mnemonics_frame_placeholder :
    (Wallet.placeholder.addPrivateDeviceFactorSource .failingProfileSave
        PrivateHierarchicalDeterministicFactorSource.placeholder).2.storage.mnemonics
        ⟨.ledgerHQHardwareWallet, Bytes.zero 32⟩ =
      Wallet.placeholder.storage.mnemonics ⟨.ledgerHQHardwareWallet, Bytes.zero 32⟩ :=
  run_mnemonics_frame Crypto.zero
    [(.failingProfileSave, .addPrivateDeviceFactorSource .placeholder)]
    ⟨.ledgerHQHardwareWallet, Bytes.zero 32⟩ (by decide) rfl

section Snapshot

/-- The profile snapshot in the secure storage, when there is one, is kept by the profile in
memory. -/
def SnapshotKept (w : Wallet) : Prop :=
  ∀ s, w.storage.profileSnapshot = some s → s.Keeps w.profile

/-- After `try_write` the snapshot is the one before, or the profile it leaves. -/
theorem tryWrite_snapshot {R : Type} (mutate : Profile → Except CommonError R × Profile) :
    (w.tryWrite outcomes mutate).2.storage.profileSnapshot = w.storage.profileSnapshot ∨
      (w.tryWrite outcomes mutate).2.storage.profileSnapshot =
        some (w.tryWrite outcomes mutate).2.profile := by
  simp only [tryWrite]
  rcases mutate w.profile with ⟨_ | _, _⟩ <;> cases outcomes.saveProfile <;>
    simp [SecureStorage.saveProfile]

/-- A returning `change_name_of_account` has saved the profile it leaves. -/
theorem changeNameOfAccount_snapshot {address : AccountAddress} {newName : DisplayName}
    {res : Except CommonError Account × Wallet}
    (hres : w.changeNameOfAccount outcomes address newName = .value res) :
    res.2.storage.profileSnapshot = some res.2.profile := by
  rw [changeNameOfAccount_of_saved w outcomes address newName (changeNameOfAccount_saved hres)]
    at hres
  cases hres
  rfl

theorem addFactorSource_snapshot (factorSource : FactorSource) :
    (w.addFactorSource outcomes factorSource).2.storage.profileSnapshot =
        w.storage.profileSnapshot ∨
      (w.addFactorSource outcomes factorSource).2.storage.profileSnapshot =
        some (w.addFactorSource outcomes factorSource).2.profile :=
  tryWrite_snapshot outcomes _

theorem addPrivateDeviceFactorSource_snapshot {crypto : Crypto}
    (p : PrivateHierarchicalDeterministicFactorSource crypto) :
    (w.addPrivateDeviceFactorSource outcomes p).2.storage.profileSnapshot =
        w.storage.profileSnapshot ∨
      (w.addPrivateDeviceFactorSource outcomes p).2.storage.profileSnapshot =
        some (w.addPrivateDeviceFactorSource outcomes p).2.profile := by
  cases hsaved : outcomes.saveMnemonic with
  | some e =>
    rw [addPrivateDeviceFactorSource_of_saveMnemonic_failed w outcomes p hsaved]
    exact .inl rfl
  | none =>
    have h := addFactorSource_snapshot
      (w := { w with storage := (w.storage.saveMnemonic p.factorSource.id p.mnemonicWithPassphrase) })
      outcomes (.device p.factorSource)
    simp only [addPrivateDeviceFactorSource, hsaved]
    split
    · exact h
    · split_ifs <;> exact h

/-- After a step the snapshot is the one before, or the profile the step leaves. -/
theorem step_snapshot {crypto : Crypto} {w' : Wallet} (op : WalletOp crypto)
    (hstep : w.step crypto outcomes op = .value w') :
    w'.storage.profileSnapshot = w.storage.profileSnapshot ∨
      w'.storage.profileSnapshot = some w'.profile := by
  cases op with
  | addFactorSource factorSource =>
    cases hstep
    exact addFactorSource_snapshot outcomes factorSource
  | addPrivateDeviceFactorSource p =>
    cases hstep
    exact addPrivateDeviceFactorSource_snapshot outcomes p
  | addAccount a =>
    cases hstep
    exact tryWrite_snapshot outcomes _
  | changeNameOfAccount address newName =>
    obtain ⟨res, hres, rfl⟩ := step_changeNameOfAccount hstep
    exact .inr (changeNameOfAccount_snapshot outcomes hres)
  | createNewAccount networkId name =>
    rw [step_createNewAccount hstep]
    exact .inl rfl
  | createNewAccountAndAddItToProfile networkId name =>
    rcases step_createNewAccountAndAddItToProfile hstep with rfl | ⟨a, -, rfl⟩
    · exact .inl rfl
    · exact tryWrite_snapshot outcomes _

/-- Every step keeps the saved snapshot behind the profile in memory. -/
theorem step_snapshotKept {crypto : Crypto} {w' : Wallet} (op : WalletOp crypto)
    (hw : w.SnapshotKept) (hstep : w.step crypto outcomes op = .value w') : w'.SnapshotKept := by
  intro s hs
  rcases step_snapshot outcomes op hstep with h | h <;> rw [h] at hs
  · exact (hw s hs).trans (step_keeps outcomes op hstep)
  · cases hs
    exact .refl _

/-- Along every run from a wallet whose saved snapshot, if any, its profile keeps, the saved
snapshot stays one that the profile in memory keeps: whatever the storage answers, nothing
saved is missing from memory, and memory differs from it only by what was appended since
and by names. -/
theorem run_snapshotKept (crypto : Crypto) (ops : List (StorageOutcomes × WalletOp crypto))
    {w w' : Wallet} (hw : w.SnapshotKept) (hrun : run crypto w ops = .value w') :
    w'.SnapshotKept :=
  run_preserves (fun _ => True) SnapshotKept
    (fun outcomes op _ hv hstep => step_snapshotKept outcomes op hv hstep) ops
    (fun _ _ => trivial) hw hrun

theorem run_snapshotKept_failed_save :
    (Wallet.placeholder.addAccount .failingProfileSave (.placeholderWithAddress "a")).2.SnapshotKept :=
  run_snapshotKept Crypto.zero [(.failingProfileSave, .addAccount (.placeholderWithAddress "a"))]
    (fun s hs => by cases hs) rfl

end Snapshot

end Wallet

end RadixWalletKit
