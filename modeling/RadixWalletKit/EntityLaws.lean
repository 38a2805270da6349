import RadixWalletKit.AccountCreation

/-!
# What the constructors and the order of entities guarantee

`DisplayName::new` accepts exactly the names whose trimmed form is non-empty and at most
`max_len` bytes long, and keeps that trimmed form; trimming twice trims once, so `new`
accepts the kept value again unchanged.  `UnsecuredEntityControl::new` accepts exactly the
pairs whose key kinds fit their roles, and the other two constructors only build such pairs.

`Account::cmp` reads the last derivation path component of the transaction signing
instance and nothing else.  It is a total preorder, and it orders the accounts one factor
source derives by their indices; but two accounts compare equal whenever their indices are
equal, whatever their networks, addresses and names.
-/

namespace RadixWalletKit

section Trim

variable {p : Char → Bool}

/-- A prefix of a list that does not start with a dropped character does not start with one
either. -/
theorem List.dropWhile_eq_self_of_prefix {x y : List Char} (hyx : y <+: x)
    (hx : x.dropWhile p = x) : y.dropWhile p = y := by
  obtain ⟨z, rfl⟩ := hyx
  cases y with
  | nil => rfl
  | cons c y =>
    have hc : p c = false := by simpa using List.dropWhile_eq_self_iff.mp hx (by simp)
    simp [List.dropWhile_cons, hc]

/-- Dropping at the end keeps a list that does not start with a dropped character so. -/
theorem List.dropWhile_rdropWhile {x : List Char} (hx : x.dropWhile p = x) :
    (x.rdropWhile p).dropWhile p = x.rdropWhile p :=
  List.dropWhile_eq_self_of_prefix (List.rdropWhile_prefix p x) hx

theorem trim_data (s : String) :
    (trim s).data = (s.data.dropWhile isRustWhitespace).rdropWhile isRustWhitespace := rfl

/-- `str::trim` is idempotent. -/
theorem trim_trim (s : String) : trim (trim s) = trim s := by
  apply String.ext
  rw [trim_data, trim_data, List.dropWhile_rdropWhile (List.dropWhile_idempotent _ _),
    List.rdropWhile_idempotent]

end Trim

namespace DisplayName

/-- `DisplayName::new` accepts a name exactly when its trimmed form is non-empty and at most
`max_len` bytes long, and then holds that trimmed form. -/
theorem new_eq_ok_iff {s : String} {d : DisplayName} :
    new s = .ok d ↔ trim s ≠ "" ∧ utf8Len (trim s) ≤ maxLen ∧ d.value = trim s := by
  have hempty : (trim s).data.isEmpty = true ↔ trim s = "" := by
    simp [String.ext_iff]
  obtain ⟨v⟩ := d
  simp only [new]
  split_ifs with h h'
  · simp [hempty.mp h]
  · simp only [reduceCtorEq, false_iff, not_and]
    exact fun _ hle => absurd hle (Nat.not_le.mpr h')
  · simp only [Except.ok.injEq, DisplayName.mk.injEq, eq_comm (a := v)]
    exact ⟨fun hv => ⟨fun he => h (hempty.mpr he), Nat.not_lt.mp h', hv⟩, fun ⟨_, _, hv⟩ => hv⟩

/-- The value of a display name `new` made is accepted again unchanged. -/
theorem new_value {s : String} {d : DisplayName} (h : new s = .ok d) : new d.value = .ok d := by
  obtain ⟨hne, hlen, hd⟩ := new_eq_ok_iff.mp h
  exact new_eq_ok_iff.mpr (by rw [hd, trim_trim]; exact ⟨hne, hlen, rfl⟩)

end DisplayName

namespace UnsecuredEntityControl

/-- The key-kind invariant: each instance whose path has a key kind has the one of its role. -/
def KeyKindsValid (c : UnsecuredEntityControl) : Prop :=
  (c.transactionSigning.keyKind = none ∨ c.transactionSigning.keyKind = some .transactionSigning) ∧
  ∀ auth ∈ c.authenticationSigning,
    auth.keyKind = none ∨ auth.keyKind = some .authenticationSigning

instance : DecidablePred KeyKindsValid := fun _ => inferInstanceAs (Decidable (_ ∧ _))

/-- The check `new` makes of one key kind. -/
theorem keyKind_any_ne_eq_false {keyKind : Option CAP26KeyKind} {k : CAP26KeyKind} :
    (keyKind.any fun x => x ≠ k) = false ↔ keyKind = none ∨ keyKind = some k := by
  cases keyKind <;> simp

/-- `UnsecuredEntityControl::new` accepts exactly the pairs that keep the invariant, and
builds the control of the pair. -/
theorem new_eq_ok_iff {t : HierarchicalDeterministicFactorInstance}
    {a : Option HierarchicalDeterministicFactorInstance} {c : UnsecuredEntityControl} :
    new t a = .ok c ↔ KeyKindsValid ⟨t, a⟩ ∧ c = ⟨t, a⟩ := by
  have htx := @keyKind_any_ne_eq_false t.keyKind .transactionSigning
  unfold new KeyKindsValid
  cases a with
  | none => cases ht : t.keyKind.any (· ≠ .transactionSigning) <;> simp_all [eq_comm (a := c)]
  | some auth =>
    have hauth := @keyKind_any_ne_eq_false auth.keyKind .authenticationSigning
    cases ha : auth.keyKind.any (· ≠ .authenticationSigning) <;>
      cases ht : t.keyKind.any (· ≠ .transactionSigning) <;> simp_all [eq_comm (a := c)]

theorem withTransactionSigningOnly_keyKindsValid {t : HierarchicalDeterministicFactorInstance}
    {c : UnsecuredEntityControl} (h : withTransactionSigningOnly t = .ok c) : c.KeyKindsValid := by
  obtain ⟨hvalid, rfl⟩ := new_eq_ok_iff.mp h
  exact hvalid

theorem withAccountCreatingFactorInstance_keyKindsValid (i : HDFactorInstanceAccountCreation) :
    (withAccountCreatingFactorInstance i).KeyKindsValid :=
  ⟨.inr (congrArg some i.path_keyKind), by simp [withAccountCreatingFactorInstance]⟩

end UnsecuredEntityControl

section Order

/-- The order of `u32` is the order of the numbers. -/
theorem UInt32.compare_eq_compare_toNat (a b : UInt32) : compare a b = compare a.toNat b.toNat := by
  have hlt : a < b ↔ a.toNat < b.toNat := UInt32.lt_def.trans BitVec.lt_def
  simp only [compare, compareOfLessAndEq, hlt, UInt32.ext_iff]

namespace Account

/-- Accounts compare by their derivation indices: hardening adds `2^31` to both and wraps
neither. -/
theorem cmp_eq_compare (a b : Account) :
    a.cmp b = compare a.derivationIndex.toNat b.derivationIndex.toNat := by
  obtain ⟨_, _, _, ⟨⟨_, ⟨_, l⟩⟩, _⟩, _⟩ := a
  obtain ⟨_, _, _, ⟨⟨_, ⟨_, r⟩⟩, _⟩, _⟩ := b
  show compare l.lastComponent.value r.lastComponent.value = compare l.index.toNat r.index.toNat
  rw [UInt32.compare_eq_compare_toNat, l.lastComponent_value_toNat, r.lastComponent_value_toNat]
  cases h : compare l.index.toNat r.index.toNat <;>
    simp only [Nat.compare_eq_lt, Nat.compare_eq_eq, Nat.compare_eq_gt] at h ⊢ <;> omega

theorem cmp_swap (a b : Account) : (a.cmp b).swap = b.cmp a := by
  rw [cmp_eq_compare, cmp_eq_compare, Nat.compare_swap]

theorem cmp_trans {a b c : Account} {o : Ordering} (hab : a.cmp b = o) (hbc : b.cmp c = o) :
    a.cmp c = o := by
  rw [cmp_eq_compare] at *
  cases o <;> simp only [Nat.compare_eq_lt, Nat.compare_eq_eq, Nat.compare_eq_gt] at * <;> omega

theorem cmp_eq_eq_iff {a b : Account} : a.cmp b = .eq ↔ a.derivationIndex = b.derivationIndex := by
  rw [cmp_eq_compare, Nat.compare_eq_eq, UInt32.ext_iff]

/-- `Account::cmp` is a total preorder: reversing the operands reverses the result, each of
its three results is transitive, and two accounts compare equal exactly when their derivation
indices are equal. -/
theorem cmp_total_preorder :
    (∀ a b : Account, (a.cmp b).swap = b.cmp a) ∧
    (∀ (a b c : Account) (o : Ordering), a.cmp b = o → b.cmp c = o → a.cmp c = o) ∧
    (∀ a b : Account, a.cmp b = .eq ↔ a.derivationIndex = b.derivationIndex) :=
  ⟨cmp_swap, fun _ _ _ _ => cmp_trans, fun _ _ => cmp_eq_eq_iff⟩

/-- Two accounts at index 0 with different addresses compare equal. -/
theorem cmp_eq_of_distinct_addresses :
    (Account.placeholderWithAddress "a").cmp (.placeholderWithAddress "b") = .eq ∧
      Account.placeholderWithAddress "a" ≠ .placeholderWithAddress "b" :=
  ⟨rfl, by decide⟩

end Account

/-- Below `2^31` deriving an account creation instance never panics; the instance is on the
account path that `AccountPath::new` returns for the network, transaction signing and the
index, and comes from the source's id; and the accounts made from two such instances compare
as their indices.  From `2^31` on deriving panics, as the index has no hardened component. -/
theorem PrivateHierarchicalDeterministicFactorSource.deriveAccountCreationFactorInstance_orders_accounts
    {crypto : Crypto} (s : PrivateHierarchicalDeterministicFactorSource crypto)
    (networkId : NetworkID) (i j : HDPathValue) (hi : i.toNat < 2 ^ 31) (hj : j.toNat < 2 ^ 31)
    (name name' : DisplayName) (appearanceId appearanceId' : AppearanceID) :
    (∃ factorInstance, s.deriveAccountCreationFactorInstance networkId i = .value factorInstance ∧
      AccountPath.new networkId .transactionSigning i = .value factorInstance.path ∧
      factorInstance.factorSourceId = s.factorSource.id) ∧
    (∃ a b, (s.deriveAccountCreationFactorInstance networkId i >>= fun factorInstance =>
        Account.new crypto factorInstance name appearanceId) = .value a ∧
      (s.deriveAccountCreationFactorInstance networkId j >>= fun factorInstance =>
        Account.new crypto factorInstance name' appearanceId') = .value b ∧
      a.cmp b = compare i j) ∧
    ∀ k : HDPathValue, 2 ^ 31 ≤ k.toNat →
      ∃ message, s.deriveAccountCreationFactorInstance networkId k = .panic message := by
  obtain ⟨address, ha⟩ := Account.new_spec crypto _ name appearanceId
  obtain ⟨address', hb⟩ := Account.new_spec crypto _ name' appearanceId'
  refine ⟨s.deriveAccountCreationFactorInstance_spec networkId hi, ⟨_, _,
    by rw [s.deriveAccountCreationFactorInstance_eq networkId hi, Returns.value_bind, ha],
    by rw [s.deriveAccountCreationFactorInstance_eq networkId hj, Returns.value_bind, hb], ?_⟩,
    fun k hk => ⟨_, s.deriveAccountCreationFactorInstance_of_le networkId hk⟩⟩
  rw [Account.cmp_eq_compare, UInt32.compare_eq_compare_toNat]
  rfl

theorem PrivateHierarchicalDeterministicFactorSource.deriveAccountCreationFactorInstance_orders_accounts_zero_one :
    (0 : HDPathValue).toNat < 2 ^ 31 ∧ (1 : HDPathValue).toNat < 2 ^ 31 ∧
    ∃ a b, (PrivateHierarchicalDeterministicFactorSource.placeholder.deriveAccountCreationFactorInstance
        .mainnet 0 >>= fun factorInstance => Account.new Crypto.zero factorInstance ⟨"Alice"⟩ ⟨0⟩) =
          .value a ∧
      (PrivateHierarchicalDeterministicFactorSource.placeholder.deriveAccountCreationFactorInstance
        .mainnet 1 >>= fun factorInstance => Account.new Crypto.zero factorInstance ⟨"Bob"⟩ ⟨1⟩) =
          .value b ∧
      a.cmp b = .lt :=
  ⟨by decide, by decide,
    (PrivateHierarchicalDeterministicFactorSource.deriveAccountCreationFactorInstance_orders_accounts
      .placeholder .mainnet 0 1 (by decide) (by decide) ⟨"Alice"⟩ ⟨"Bob"⟩ ⟨0⟩ ⟨1⟩).2.1⟩

/-- At index `2^31` the account path has no hardened last component, and deriving panics. -/
theorem PrivateHierarchicalDeterministicFactorSource.deriveAccountCreationFactorInstance_panics_at_two_pow_31 :
    PrivateHierarchicalDeterministicFactorSource.placeholder.deriveAccountCreationFactorInstance
      .mainnet 0x80000000 = .panic "index must be below 2^31 to be hardened" :=
  rfl

end Order

end RadixWalletKit
