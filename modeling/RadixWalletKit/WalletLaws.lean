import RadixWalletKit.Wallet

/-!
# What each wallet operation does to the profile

One characterisation per operation of `wallet_accounts.rs`: its result and the profile it
leaves, for every profile and every answer of the storage.  `try_write` drops the edit of a
closure that fails and keeps the edit of one that succeeds, saved or not, so only a failed
save leaves a failed operation's edit in place; `write` panics on a failed save.  The
theorems about single operations are assembled from these lemmas, and so is the invariant of
whole runs in `WalletRun`.
-/

namespace RadixWalletKit

section Placeholders

/-- Hashing and key derivation that answer zero bytes to everything. -/
def Crypto.zero : Crypto :=
  ⟨fun _ => Bytes.zero 32, fun _ _ => .ed25519 (Bytes.zero 32), fun _ => Bytes.zero 29⟩

/-- The main device factor source with the zero id and its mnemonic under `Crypto.zero`. -/
def PrivateHierarchicalDeterministicFactorSource.placeholder :
    PrivateHierarchicalDeterministicFactorSource Crypto.zero :=
  ⟨⟨"zoo", ""⟩, DeviceFactorSource.placeholder, rfl⟩

/-- A main device factor source whose id is not the hash any mnemonic has under
`Crypto.zero`. -/
def DeviceFactorSource.placeholderOther : DeviceFactorSource :=
  ⟨⟨.device, ⟨List.replicate 32 1, rfl⟩⟩, ⟨[.main]⟩⟩

/-- A mainnet account with the address `address`, signed for by the zero key at index 0. -/
def Account.placeholderWithAddress (address : String) : Account :=
  { networkId := .mainnet
    address := ⟨address, .mainnet⟩
    displayName := ⟨"Alice"⟩
    securityState := .unsecured
      ⟨⟨DeviceFactorSource.placeholder.id, ⟨.ed25519 (Bytes.zero 32),
        .cap26 ⟨.mainnet, .account, .transactionSigning, 0, by decide⟩⟩⟩, none⟩
    appearanceId := ⟨0⟩ }

/-- A wallet with no factor source, no network and nothing stored. -/
def Wallet.empty : Wallet := ⟨⟨.empty, .empty⟩, ⟨fun _ => none, none⟩⟩

/-- A wallet whose profile holds the placeholder device factor source and no network, with
the mnemonic of that source stored. -/
def Wallet.placeholder : Wallet :=
  ⟨⟨IdentifiedVec.fromIter [.device .placeholder], .empty⟩,
    ⟨Function.update (fun _ => none) DeviceFactorSource.placeholder.id
      (some PrivateHierarchicalDeterministicFactorSource.placeholder.mnemonicWithPassphrase), none⟩⟩

/-- Storage calls that all succeed. -/
def StorageOutcomes.succeeding : StorageOutcomes := ⟨none, none, none, none⟩

/-- Storage calls that all succeed but the save of the profile. -/
def StorageOutcomes.failingProfileSave : StorageOutcomes :=
  ⟨none, none, none, some .secureStorageWriteError⟩

end Placeholders

namespace Wallet

section TryWrite

variable {R : Type} (w : Wallet) (outcomes : StorageOutcomes)
  (mutate : Profile → Except CommonError R × Profile)

/-- A closure that fails leaves the wallet as it was. -/
theorem tryWrite_of_error {e : CommonError} (h : (mutate w.profile).1 = .error e) :
    w.tryWrite outcomes mutate = (.error e, w) := by
  simp only [tryWrite, h]

/-- The profile after `try_write`: the closure's when it succeeded, the one before otherwise. -/
@[simp] theorem tryWrite_profile :
    (w.tryWrite outcomes mutate).2.profile =
      match (mutate w.profile).1 with
      | .error _ => w.profile
      | .ok _ => (mutate w.profile).2 := by
  simp only [tryWrite]
  rcases mutate w.profile with ⟨_ | _, _⟩ <;> cases outcomes.saveProfile <;> rfl

theorem tryWrite_fst : (w.tryWrite outcomes mutate).1 = (mutate w.profile).1.bind fun v =>
    match outcomes.saveProfile with
    | some e => .error e
    | none => .ok v := by
  simp only [tryWrite]
  rcases mutate w.profile with ⟨_ | _, _⟩ <;> cases outcomes.saveProfile <;> rfl

@[simp] theorem tryWrite_mnemonics :
    (w.tryWrite outcomes mutate).2.storage.mnemonics = w.storage.mnemonics := by
  simp only [tryWrite]
  rcases mutate w.profile with ⟨_ | _, _⟩ <;> cases outcomes.saveProfile <;> rfl

end TryWrite

section Write

variable {R : Type} (w : Wallet) (outcomes : StorageOutcomes) (mutate : Profile → R × Profile)

theorem write_of_failed_save {e : CommonError} (h : outcomes.saveProfile = some e) :
    w.write outcomes mutate = .panic "failed to save the profile to secure storage" := by
  simp only [write, h]

/-- With the save succeeding, `write` returns the closure's value and keeps and saves its
profile. -/
theorem write_of_saved (h : outcomes.saveProfile = none) :
    w.write outcomes mutate =
      .value ((mutate w.profile).1, ⟨(mutate w.profile).2,
        w.storage.saveProfile (mutate w.profile).2⟩) := by
  simp only [write, h]

end Write

section AddFactorSource

variable (w : Wallet) (outcomes : StorageOutcomes) (factorSource : FactorSource)

/-- `add_factor_source` never changes the profile: a source already present is not appended
again, and the closure that appends a new one fails, so its edit is dropped. -/
@[simp] theorem addFactorSource_profile :
    (w.addFactorSource outcomes factorSource).2.profile = w.profile := by
  by_cases h : factorSource.factorSourceId ∈ w.profile.factorSources.ids
  · simp [addFactorSource, IdentifiedVec.append_of_mem h]
  · simp [addFactorSource, (IdentifiedVec.append_of_not_mem h).1]

/-- `add_factor_source` returns `Ok` only for a source that is already present, and then
only when the save succeeds. -/
theorem addFactorSource_fst :
    (w.addFactorSource outcomes factorSource).1 =
      if factorSource.factorSourceId ∈ w.profile.factorSources.ids then
        match outcomes.saveProfile with
        | some _ => .error (.unableToSaveFactorSourceToProfile factorSource.factorSourceId)
        | none => .ok ()
      else .error (.unableToSaveFactorSourceToProfile factorSource.factorSourceId) := by
  simp only [addFactorSource, tryWrite_fst, IdentifiedVec.append_inserted,
    IdentifiedVec.containsId_iff]
  by_cases h : factorSource.factorSourceId ∈ w.profile.factorSources.ids
  · cases outcomes.saveProfile <;> simp [h, IdentifiedVec.containsId, Except.bind, Except.mapError]
  · simp [h, IdentifiedVec.containsId, Except.bind, Except.mapError]

/-- The polarity slip of `add_factor_source`: a device source new to a profile is rejected
with `UnableToSaveFactorSourceToProfile` and not added, while the source the profile already
holds is accepted. -/
theorem addFactorSource_rejects_new_source :
    (Wallet.placeholder.addFactorSource .succeeding (.device .placeholderOther)).1 =
      .error (.unableToSaveFactorSourceToProfile
        (.device .placeholderOther : FactorSource).factorSourceId) ∧
    (Wallet.placeholder.addFactorSource .succeeding
        (.device .placeholderOther)).2.profile.factorSources.elements = [.device .placeholder] ∧
    (Wallet.placeholder.addFactorSource .succeeding (.device .placeholder)).1 = .ok () :=
  ⟨rfl, rfl, rfl⟩

@[simp] theorem addFactorSource_mnemonics :
    (w.addFactorSource outcomes factorSource).2.storage.mnemonics = w.storage.mnemonics := by
  simp [addFactorSource]

end AddFactorSource

section AddPrivateDeviceFactorSource

variable {crypto : Crypto} (w : Wallet) (outcomes : StorageOutcomes)
  (p : PrivateHierarchicalDeterministicFactorSource crypto)

theorem addPrivateDeviceFactorSource_of_saveMnemonic_failed {e : CommonError}
    (h : outcomes.saveMnemonic = some e) :
    w.addPrivateDeviceFactorSource outcomes p = (.error e, w) := by
  simp [addPrivateDeviceFactorSource, h]

/-- Once the mnemonic is saved, the result is that of `add_factor_source`, and the mnemonic
stays unless that failed and the compensating delete succeeded. -/
theorem addPrivateDeviceFactorSource_of_mnemonicSaved (h : outcomes.saveMnemonic = none) :
    (w.addPrivateDeviceFactorSource outcomes p).1 =
      (w.addFactorSource outcomes (.device p.factorSource)).1 ∧
    (w.addPrivateDeviceFactorSource outcomes p).2.storage.mnemonics =
      Function.update w.storage.mnemonics p.factorSource.id
        (match (w.addFactorSource outcomes (.device p.factorSource)).1, outcomes.deleteMnemonic with
          | .error _, none => none
          | _, _ => some p.mnemonicWithPassphrase) := by
  have hfst : ∀ s : SecureStorage,
      ({ w with storage := s }.addFactorSource outcomes (.device p.factorSource)).1 =
        (w.addFactorSource outcomes (.device p.factorSource)).1 := fun _ => by
    simp only [addFactorSource_fst]
  simp only [addPrivateDeviceFactorSource, h, hfst]
  cases (w.addFactorSource outcomes (.device p.factorSource)).1 <;>
    cases outcomes.deleteMnemonic <;> simp [SecureStorage.saveMnemonic, SecureStorage.deleteMnemonic]

/-- `add_private_device_factor_source` never changes the profile, as `add_factor_source`
does not. -/
@[simp] theorem addPrivateDeviceFactorSource_profile :
    (w.addPrivateDeviceFactorSource outcomes p).2.profile = w.profile := by
  simp only [addPrivateDeviceFactorSource]
  split
  · rfl
  · split <;> [skip; split] <;> simp

end AddPrivateDeviceFactorSource

end Wallet

/-- What adding `a` means for the account lists of a profile: `a` goes at the end of the
accounts of the network of its `network_id`, or at the end of the networks, alone in a new
network of that id, when the profile has none. -/
def accountListsAfterAdding (lists : List (NetworkID × List Account)) (a : Account) :
    List (NetworkID × List Account) :=
  if a.networkId ∈ lists.map Prod.fst then
    lists.map fun l => (l.1, if l.1 = a.networkId then l.2 ++ [a] else l.2)
  else lists ++ [(a.networkId, [a])]

theorem Profile.accountLists_appendToNetwork {p : Profile} {n : Network} {a : Account}
    (hn : n ∈ p.networks.elements) (hid : n.id = a.networkId) (ha : a.id ∉ n.accounts.ids) :
    Profile.accountLists
        { p with networks := p.networks.replace { n with accounts := (n.accounts.append a).2 } } =
      accountListsAfterAdding p.accountLists a := by
  have hmem : a.networkId ∈ p.accountLists.map Prod.fst := by
    rw [accountLists_map_fst, ← hid]
    exact List.mem_map_of_mem Network.id hn
  rw [accountListsAfterAdding, if_pos hmem]
  simp only [accountLists, IdentifiedVec.replace_elements, List.map_map]
  refine List.map_congr_left fun x hx => ?_
  by_cases hx' : x.id = a.networkId
  · obtain rfl := IdentifiedVec.eq_of_id_eq hx hn (hx'.trans hid.symm)
    simp [hid, IdentifiedVec.append_elements, ha]
  · simp [hx', hid]

theorem Profile.accountLists_appendNetwork {p : Profile} {a : Account}
    (hnet : a.networkId ∉ p.networks.ids) :
    { p with networks := (p.networks.append (Network.new a.networkId
        (IdentifiedVec.fromIter [a]))).2 }.accountLists = accountListsAfterAdding p.accountLists a := by
  have hnew : (p.networks.append (Network.new a.networkId (IdentifiedVec.fromIter [a]))).2.elements =
      p.networks.elements ++ [Network.new a.networkId (IdentifiedVec.fromIter [a])] :=
    (IdentifiedVec.append_of_not_mem hnet).2
  have hmem : a.networkId ∉ p.accountLists.map Prod.fst := by simpa using hnet
  rw [accountListsAfterAdding, if_neg hmem]
  simp only [accountLists, hnew, List.map_append]
  simp [Network.new]

/-- An account after adding `a` is an account before, in a list of the same network, or `a`
itself, in the list of its network. -/
theorem mem_accountListsAfterAdding {lists : List (NetworkID × List Account)} {a b : Account}
    {l : NetworkID × List Account} (hl : l ∈ accountListsAfterAdding lists a) (hb : b ∈ l.2) :
    (∃ l' ∈ lists, l'.1 = l.1 ∧ b ∈ l'.2) ∨ (b = a ∧ l.1 = a.networkId) := by
  unfold accountListsAfterAdding at hl
  split_ifs at hl
  · obtain ⟨l', hl', rfl⟩ := List.mem_map.mp hl
    dsimp only at hb ⊢
    split_ifs at hb with hid
    · rcases List.mem_append.mp hb with hb | hb
      · exact .inl ⟨l', hl', rfl, hb⟩
      · exact .inr ⟨List.mem_singleton.mp hb, hid⟩
    · exact .inl ⟨l', hl', rfl, hb⟩
  · rcases List.mem_append.mp hl with hl | hl
    · exact .inl ⟨l, hl, rfl, hb⟩
    · rw [List.mem_singleton.mp hl] at hb ⊢
      exact .inr ⟨List.mem_singleton.mp hb, rfl⟩

/-- An account after renaming `acc` is an account before, or `acc` renamed, in a list of the
same network. -/
theorem mem_accountLists_renamed {pre post : List (NetworkID × List Account)} {networkId : NetworkID}
    {accPre accPost : List Account} {acc b : Account} (newName : DisplayName)
    {l : NetworkID × List Account}
    (hl : l ∈ pre ++ (networkId, accPre ++ { acc with displayName := newName } :: accPost) :: post)
    (hb : b ∈ l.2) :
    ∃ l' ∈ pre ++ (networkId, accPre ++ acc :: accPost) :: post, l'.1 = l.1 ∧
      (b ∈ l'.2 ∨ (b = { acc with displayName := newName } ∧ acc ∈ l'.2)) := by
  simp only [List.mem_append, List.mem_cons] at hl
  rcases hl with hl | rfl | hl
  · exact ⟨l, by simp [hl], rfl, .inl hb⟩
  · refine ⟨(networkId, accPre ++ acc :: accPost), by simp, rfl, ?_⟩
    simp only [List.mem_append, List.mem_cons] at hb
    rcases hb with hb | rfl | hb
    · exact .inl (by simp [hb])
    · exact .inr ⟨rfl, by simp⟩
    · exact .inl (by simp [hb])
  · exact ⟨l, by simp [hl], rfl, .inl hb⟩

namespace Wallet

section AddAccount

variable (w : Wallet) (outcomes : StorageOutcomes) (a : Account)

/-- `add_account` of an account whose network already holds its address fails and leaves
the wallet as it was. -/
theorem addAccount_of_accountPresent {n : Network} (hn : n ∈ w.profile.networks.elements)
    (hid : n.id = a.networkId) (ha : a.id ∈ n.accounts.ids) :
    w.addAccount outcomes a = (.error (.accountAlreadyPresent a.id), w) := by
  have hget : w.profile.networks.get a.networkId = some n :=
    IdentifiedVec.get_eq_some_iff.mpr ⟨hn, hid⟩
  have hcontains : w.profile.networks.containsId a.networkId = true :=
    (IdentifiedVec.containsId_iff _ _).mpr (hid ▸ List.mem_map_of_mem _ hn)
  have happend : appendAccountToNetwork a n = .error (.accountAlreadyPresent a.id) := by
    simp [appendAccountToNetwork, IdentifiedVec.append_of_mem ha]
  rw [addAccount, tryWrite_of_error (e := .accountAlreadyPresent a.id) w outcomes _ (by
    simp [hcontains, IdentifiedVec.tryUpdateWith_of_get hget, happend, Except.bind])]

/-- `add_account` of an account new to its network adds it, whatever the save does, and
returns what the save returns. -/
theorem addAccount_of_accountAbsent
    (h : ∀ n ∈ w.profile.networks.elements, n.id = a.networkId → a.id ∉ n.accounts.ids) :
    (w.addAccount outcomes a).1 =
      (match outcomes.saveProfile with
        | some e => .error e
        | none => .ok ()) ∧
    (w.addAccount outcomes a).2.profile.accountLists =
      accountListsAfterAdding w.profile.accountLists a ∧
    (w.addAccount outcomes a).2.profile.factorSources = w.profile.factorSources := by
  by_cases hnet : a.networkId ∈ w.profile.networks.ids
  · obtain ⟨n, hget⟩ := IdentifiedVec.exists_get_of_mem hnet
    obtain ⟨hn, hid⟩ := IdentifiedVec.get_eq_some_iff.mp hget
    have hcontains : w.profile.networks.containsId a.networkId = true :=
      (IdentifiedVec.containsId_iff _ _).mpr hnet
    have happend : appendAccountToNetwork a n = .ok { n with accounts := (n.accounts.append a).2 } := by
      simp [appendAccountToNetwork, IdentifiedVec.append_inserted, IdentifiedVec.containsId_iff,
        h n hn hid]
    refine ⟨?_, ?_, ?_⟩
    · rw [addAccount, tryWrite_fst]
      simp only [hcontains, if_true, IdentifiedVec.tryUpdateWith_of_get hget, happend]
      cases outcomes.saveProfile <;> rfl
    · simpa [addAccount, hcontains, IdentifiedVec.tryUpdateWith_of_get hget, happend]
        using Profile.accountLists_appendToNetwork hn hid (h n hn hid)
    · simp [addAccount, hcontains, IdentifiedVec.tryUpdateWith_of_get hget, happend, Except.bind]
  · have hcontains : w.profile.networks.containsId a.networkId = false := by
      simpa [IdentifiedVec.containsId] using hnet
    refine ⟨?_, ?_, ?_⟩
    · rw [addAccount, tryWrite_fst]
      simp only [hcontains]
      cases outcomes.saveProfile <;> rfl
    · simpa [addAccount, hcontains] using Profile.accountLists_appendNetwork hnet
    · simp [addAccount, hcontains]

/-- What `add_account` does: an account present on its network leaves the wallet and fails;
a new one is added whatever the save does, and the save's answer is returned. -/
theorem addAccount_cases :
    (∃ n ∈ w.profile.networks.elements, n.id = a.networkId ∧ a.id ∈ n.accounts.ids ∧
      w.addAccount outcomes a = (.error (.accountAlreadyPresent a.id), w)) ∨
    ((∀ n ∈ w.profile.networks.elements, n.id = a.networkId → a.id ∉ n.accounts.ids) ∧
      (w.addAccount outcomes a).1 =
        (match outcomes.saveProfile with
          | some e => .error e
          | none => .ok ()) ∧
      (w.addAccount outcomes a).2.profile.accountLists =
        accountListsAfterAdding w.profile.accountLists a ∧
      (w.addAccount outcomes a).2.profile.factorSources = w.profile.factorSources) := by
  by_cases hpresent : ∃ n ∈ w.profile.networks.elements, n.id = a.networkId ∧ a.id ∈ n.accounts.ids
  · obtain ⟨n, hn, hid, ha⟩ := hpresent
    exact .inl ⟨n, hn, hid, ha, addAccount_of_accountPresent w outcomes a hn hid ha⟩
  · push_neg at hpresent
    exact .inr ⟨hpresent, addAccount_of_accountAbsent w outcomes a hpresent⟩

/-- `add_account` leaves the profile as it was, or adds the account and keeps the factor
sources. -/
theorem addAccount_profile_cases :
    (w.addAccount outcomes a).2.profile = w.profile ∨
    ((w.addAccount outcomes a).2.profile.accountLists =
        accountListsAfterAdding w.profile.accountLists a ∧
      (w.addAccount outcomes a).2.profile.factorSources = w.profile.factorSources) := by
  rcases addAccount_cases w outcomes a with ⟨-, -, -, -, h⟩ | ⟨-, -, hlists, hfs⟩
  · exact .inl (by rw [h])
  · exact .inr ⟨hlists, hfs⟩

@[simp] theorem addAccount_mnemonics :
    (w.addAccount outcomes a).2.storage.mnemonics = w.storage.mnemonics := by
  simp [addAccount]

/-- With a successful save, `add_account` adds exactly the accounts new to their network,
appending them, and otherwise fails with `AccountAlreadyPresent` and leaves the profile. -/
theorem addAccount_correct (hsave : outcomes.saveProfile = none) :
    ((w.addAccount outcomes a).1 = .ok () ↔
      ∀ n ∈ w.profile.networks.elements, n.id = a.networkId → a.id ∉ n.accounts.ids) ∧
    ((w.addAccount outcomes a).1 = .ok () →
      (w.addAccount outcomes a).2.profile.accountLists =
        accountListsAfterAdding w.profile.accountLists a ∧
      (w.addAccount outcomes a).2.profile.factorSources = w.profile.factorSources) ∧
    ((w.addAccount outcomes a).1 ≠ .ok () →
      (w.addAccount outcomes a).1 = .error (.accountAlreadyPresent a.id) ∧
      (w.addAccount outcomes a).2.profile = w.profile ∧
      ∃ n ∈ w.profile.networks.elements, n.id = a.networkId ∧ n.accounts.ids.count a.id = 1) := by
  rcases addAccount_cases w outcomes a with ⟨n, hn, hid, ha, h⟩ | ⟨habsent, hres, hlists, hfs⟩
  · rw [h]
    refine ⟨?_, by simp, fun _ => ⟨rfl, rfl, n, hn, hid, IdentifiedVec.count_ids_eq_one ha⟩⟩
    simpa using ⟨n, hn, hid, ha⟩
  · rw [hsave] at hres
    exact ⟨⟨fun _ => habsent, fun _ => hres⟩, fun _ => ⟨hlists, hfs⟩, fun hne => absurd hres hne⟩

theorem addAccount_correct_of_new_account :
    StorageOutcomes.succeeding.saveProfile = none ∧
    (Wallet.empty.addAccount .succeeding (.placeholderWithAddress "a")).1 = .ok () ∧
    (Wallet.empty.addAccount .succeeding (.placeholderWithAddress "a")).2.profile.accountLists =
      [(.mainnet, [.placeholderWithAddress "a"])] := by
  have hcorrect := addAccount_correct Wallet.empty .succeeding (.placeholderWithAddress "a") rfl
  have hok := hcorrect.1.mpr (by simp [Wallet.empty])
  exact ⟨rfl, hok, by simpa [Wallet.empty, accountListsAfterAdding, Profile.accountLists]
    using (hcorrect.2.1 hok).1⟩

end AddAccount

section ChangeNameOfAccount

variable (w : Wallet) (outcomes : StorageOutcomes) (address : AccountAddress)
  (newName : DisplayName)

/-- A failed save makes `change_name_of_account` panic. -/
theorem changeNameOfAccount_of_failed_save {e : CommonError} (hsave : outcomes.saveProfile = some e) :
    w.changeNameOfAccount outcomes address newName =
      .panic "failed to save the profile to secure storage" := by
  simp [changeNameOfAccount, write_of_failed_save w outcomes _ hsave]

/-- With the save succeeding, `change_name_of_account` returns the account `update_account`
renamed, or `UnknownAccount`, and keeps and saves the profile it left. -/
theorem changeNameOfAccount_of_saved (hsave : outcomes.saveProfile = none) :
    w.changeNameOfAccount outcomes address newName =
      let res := w.profile.updateAccount address fun a => { a with displayName := newName }
      .value (match res.1 with
          | some account => .ok account
          | none => .error .unknownAccount,
        ⟨res.2, w.storage.saveProfile res.2⟩) := by
  rw [changeNameOfAccount, write_of_saved w outcomes _ hsave]
  rfl

variable {w outcomes address newName} {res : Except CommonError Account × Wallet}

/-- `change_name_of_account` returns only after a successful save. -/
theorem changeNameOfAccount_saved
    (h : w.changeNameOfAccount outcomes address newName = .value res) :
    outcomes.saveProfile = none := by
  cases hsave : outcomes.saveProfile with
  | none => rfl
  | some e => rw [changeNameOfAccount_of_failed_save w outcomes address newName hsave] at h; cases h

/-- What a returning `change_name_of_account` does: an unknown address fails and leaves the
profile; a known one renames the first account with that address and nothing else. -/
theorem changeNameOfAccount_cases
    (h : w.changeNameOfAccount outcomes address newName = .value res) :
    ((∀ n ∈ w.profile.networks.elements, address ∉ n.accounts.ids) ∧
      res.1 = .error .unknownAccount ∧ res.2.profile = w.profile) ∨
    ((∃ n ∈ w.profile.networks.elements, address ∈ n.accounts.ids) ∧
      ∃ pre networkId post accPre acc accPost,
        w.profile.accountLists = pre ++ (networkId, accPre ++ acc :: accPost) :: post ∧
        acc.address = address ∧
        res.1 = .ok { acc with displayName := newName } ∧
        res.2.profile.accountLists =
          pre ++ (networkId, accPre ++ { acc with displayName := newName } :: accPost) :: post ∧
        res.2.profile.factorSources = w.profile.factorSources) := by
  rw [changeNameOfAccount_of_saved w outcomes address newName (changeNameOfAccount_saved h)] at h
  cases h
  by_cases hknown : ∃ n ∈ w.profile.networks.elements, address ∈ n.accounts.ids
  · obtain ⟨pre, networkId, post, accPre, acc, accPost, hlists, hacc, hacc', hlists', hfs⟩ :=
      w.profile.updateAccount_of_present address (fun a => { a with displayName := newName })
        (fun _ => rfl) hknown
    exact .inr ⟨hknown, pre, networkId, post, accPre, acc, accPost, hlists, hacc,
      by simp only [hacc'], hlists', hfs⟩
  · push_neg at hknown
    have habsent := w.profile.updateAccount_of_absent address
      (fun a => { a with displayName := newName }) hknown
    exact .inl ⟨hknown, by simp only [habsent], by simp only [habsent]⟩

/-- A returning `change_name_of_account` leaves the profile as it was, or renames one account
and keeps the factor sources. -/
theorem changeNameOfAccount_profile_cases
    (h : w.changeNameOfAccount outcomes address newName = .value res) :
    res.2.profile = w.profile ∨
    ∃ pre networkId post accPre acc accPost,
      w.profile.accountLists = pre ++ (networkId, accPre ++ acc :: accPost) :: post ∧
      res.2.profile.accountLists =
        pre ++ (networkId, accPre ++ { acc with displayName := newName } :: accPost) :: post ∧
      res.2.profile.factorSources = w.profile.factorSources := by
  rcases changeNameOfAccount_cases h with
    ⟨-, -, h⟩ | ⟨-, pre, networkId, post, accPre, acc, accPost, hlists, -, -, hlists', hfs⟩
  · exact .inl h
  · exact .inr ⟨pre, networkId, post, accPre, acc, accPost, hlists, hlists', hfs⟩

theorem changeNameOfAccount_mnemonics
    (h : w.changeNameOfAccount outcomes address newName = .value res) :
    res.2.storage.mnemonics = w.storage.mnemonics := by
  rw [changeNameOfAccount_of_saved w outcomes address newName (changeNameOfAccount_saved h)] at h
  cases h
  rfl

variable (w outcomes address newName)

/-- With a successful save, `change_name_of_account` returns, and fails exactly for an
unknown address; otherwise it renames that account, keeps its other fields, and leaves every
other account, network and factor source. -/
theorem changeNameOfAccount_correct (hsave : outcomes.saveProfile = none) :
    ∃ res, w.changeNameOfAccount outcomes address newName = .value res ∧
    (res.1 = .error .unknownAccount ↔ ∀ n ∈ w.profile.networks.elements, address ∉ n.accounts.ids) ∧
    (res.1 ≠ .error .unknownAccount →
      ∃ pre networkId post accPre acc accPost,
        w.profile.accountLists = pre ++ (networkId, accPre ++ acc :: accPost) :: post ∧
        acc.address = address ∧
        res.1 = .ok { acc with displayName := newName } ∧
        res.2.profile.accountLists =
          pre ++ (networkId, accPre ++ { acc with displayName := newName } :: accPost) :: post ∧
        res.2.profile.factorSources = w.profile.factorSources) := by
  have h := changeNameOfAccount_of_saved w outcomes address newName hsave
  refine ⟨_, h, ?_⟩
  rcases changeNameOfAccount_cases h with ⟨habsent, hres, -⟩ | ⟨⟨n, hn, ha⟩, hspec⟩
  · exact ⟨⟨fun _ => habsent, fun _ => hres⟩, fun hne => absurd hres hne⟩
  · have ⟨_, _, _, _, _, _, _, _, hres, _⟩ := hspec
    exact ⟨⟨fun herr => (by cases herr.symm.trans hres), fun habsent => absurd ha (habsent n hn)⟩,
      fun _ => hspec⟩

theorem changeNameOfAccount_correct_of_known :
    StorageOutcomes.succeeding.saveProfile = none ∧
    ∃ res, Wallet.changeNameOfAccount (Wallet.placeholder.addAccount .succeeding
        (.placeholderWithAddress "a")).2 .succeeding ⟨"a", .mainnet⟩ ⟨"Bob"⟩ = .value res ∧
      res.1 ≠ .error .unknownAccount :=
  let ⟨res, h, hiff, _⟩ := changeNameOfAccount_correct (Wallet.placeholder.addAccount
    .succeeding (.placeholderWithAddress "a")).2 .succeeding ⟨"a", .mainnet⟩ ⟨"Bob"⟩ rfl
  ⟨rfl, res, h, fun herr => absurd (hiff.mp herr) (by decide)⟩

end ChangeNameOfAccount

variable (w : Wallet) (outcomes : StorageOutcomes)

/-- Every device factor source of the profile has its mnemonic in the secure storage. -/
def MnemonicsStored (w : Wallet) : Prop :=
  ∀ d : DeviceFactorSource, .device d ∈ w.profile.factorSources.elements →
    (w.storage.mnemonics d.id).isSome

theorem placeholder_mnemonicsStored : Wallet.placeholder.MnemonicsStored := by
  intro d hd
  simp only [Wallet.placeholder, IdentifiedVec.fromIter_singleton, List.mem_singleton,
    FactorSource.device.injEq] at hd
  simp [hd, Wallet.placeholder]

/-- Adding again a source whose mnemonic is stored, when the save of the profile fails,
deletes the mnemonic of a source that the profile keeps. -/
theorem addPrivateDeviceFactorSource_orphans_present_source :
    Wallet.placeholder.MnemonicsStored ∧
    ¬ (Wallet.placeholder.addPrivateDeviceFactorSource .failingProfileSave
        PrivateHierarchicalDeterministicFactorSource.placeholder).2.MnemonicsStored := by
  refine ⟨placeholder_mnemonicsStored, fun h => ?_⟩
  have hnone : (Wallet.placeholder.addPrivateDeviceFactorSource .failingProfileSave
      PrivateHierarchicalDeterministicFactorSource.placeholder).2.storage.mnemonics
        DeviceFactorSource.placeholder.id = none := by decide
  have hkept := h DeviceFactorSource.placeholder (by decide)
  rw [hnone] at hkept
  cases hkept

/-- `add_private_device_factor_source` keeps the mnemonics of the other device sources; on
`Ok` the source and its mnemonic are both there; a failed save of the mnemonic changes
nothing; and a failure after it, with a successful delete, leaves no mnemonic under the id. -/
theorem addPrivateDeviceFactorSource_keeps_other_mnemonics {crypto : Crypto}
    (p : PrivateHierarchicalDeterministicFactorSource crypto) (hstored : w.MnemonicsStored) :
    (∀ d : DeviceFactorSource,
      .device d ∈ (w.addPrivateDeviceFactorSource outcomes p).2.profile.factorSources.elements →
      d.id ≠ p.factorSource.id →
      ((w.addPrivateDeviceFactorSource outcomes p).2.storage.mnemonics d.id).isSome) ∧
    ((w.addPrivateDeviceFactorSource outcomes p).1 = .ok () →
      p.factorSource.factorSourceId ∈
        (w.addPrivateDeviceFactorSource outcomes p).2.profile.factorSources.ids ∧
      (w.addPrivateDeviceFactorSource outcomes p).2.storage.mnemonics p.factorSource.id =
        some p.mnemonicWithPassphrase) ∧
    (∀ e, outcomes.saveMnemonic = some e → w.addPrivateDeviceFactorSource outcomes p = (.error e, w)) ∧
    (outcomes.saveMnemonic = none → outcomes.deleteMnemonic = none →
      (w.addPrivateDeviceFactorSource outcomes p).1 ≠ .ok () →
      (w.addPrivateDeviceFactorSource outcomes p).2.storage.mnemonics p.factorSource.id = none) := by
  cases hsaved : outcomes.saveMnemonic with
  | some e =>
    rw [addPrivateDeviceFactorSource_of_saveMnemonic_failed w outcomes p hsaved]
    exact ⟨fun d hd _ => hstored d hd, fun hok => (by cases hok),
      fun e' he' => (by cases he'; rfl), fun h => (by cases h)⟩
  | none =>
    obtain ⟨hres, hmnemonics⟩ := addPrivateDeviceFactorSource_of_mnemonicSaved w outcomes p hsaved
    rw [addPrivateDeviceFactorSource_profile, hmnemonics]
    refine ⟨fun d hd hne => ?_, fun hok => ⟨?_, ?_⟩, fun _ h => (by cases h), fun _ hdel hne => ?_⟩
    · rw [Function.update_noteq hne]
      exact hstored d hd
    · rw [hres, addFactorSource_fst] at hok
      split_ifs at hok with hmem
      exact hmem
    · rw [← hres, hok]
      cases outcomes.deleteMnemonic <;> simp
    · rw [hres] at hne
      cases hfst : (w.addFactorSource outcomes (.device p.factorSource)).1 with
      | error e => simp [hdel]
      | ok u => exact absurd hfst hne

theorem addPrivateDeviceFactorSource_keeps_other_mnemonics_placeholder :
    Wallet.placeholder.MnemonicsStored ∧
    ((Wallet.placeholder.addPrivateDeviceFactorSource .succeeding
        PrivateHierarchicalDeterministicFactorSource.placeholder).1 = .ok () →
      (Wallet.placeholder.addPrivateDeviceFactorSource .succeeding
        PrivateHierarchicalDeterministicFactorSource.placeholder).2.storage.mnemonics
          DeviceFactorSource.placeholder.id = some ⟨"zoo", ""⟩) :=
  ⟨placeholder_mnemonicsStored,
    fun hok => ((addPrivateDeviceFactorSource_keeps_other_mnemonics Wallet.placeholder .succeeding
      PrivateHierarchicalDeterministicFactorSource.placeholder placeholder_mnemonicsStored).2.1
        hok).2⟩

end Wallet

end RadixWalletKit
