import Mathlib
import RadixWalletKit.Address
import RadixWalletKit.Factors

/-!
# Accounts

`Account` of `account.rs` and the values it holds: its display name, its appearance, and
its security state, which today is always `UnsecuredEntityControl`: the one factor
instance that signs its transactions, and optionally one for authentication.  The
interior-mutable fields of the source are plain fields here; a change of name is a new
account value put in place by the profile.
-/

namespace RadixWalletKit

/-- Rust's `char::is_whitespace`, the Unicode `White_Space` property. -/
def isRustWhitespace (c : Char) : Bool :=
  (0x09 ≤ c.toNat && c.toNat ≤ 0x0d) || c.toNat == 0x20 || c.toNat == 0x85 ||
    c.toNat == 0xa0 || c.toNat == 0x1680 || (0x2000 ≤ c.toNat && c.toNat ≤ 0x200a) ||
    c.toNat == 0x2028 || c.toNat == 0x2029 || c.toNat == 0x202f || c.toNat == 0x205f ||
    c.toNat == 0x3000

/-- `str::trim`: drop leading and trailing whitespace. -/
def trim (s : String) : String :=
  ⟨((s.data.dropWhile isRustWhitespace).reverse.dropWhile isRustWhitespace).reverse⟩

/-- `str::len`: the length in UTF-8 bytes. -/
def utf8Len (s : String) : Nat := (s.data.map Char.utf8Size).sum

/-- `DisplayName`. -/
structure DisplayName where
  value : String
  deriving DecidableEq, Repr

namespace DisplayName

/-- `DisplayName::max_len`. -/
def maxLen : Nat := 30

/-- `DisplayName::new`: the trimmed value, which must be non-empty and at most `max_len`
bytes long. -/
def new (value : String) : Except CommonError DisplayName :=
  let value := trim value
  if value.data.isEmpty then .error .invalidDisplayNameEmpty
  else if maxLen < utf8Len value then .error .invalidDisplayNameTooLong
  else .ok ⟨value⟩

end DisplayName

/-- `AppearanceID`: one of the twelve gradients an account is shown with. -/
structure AppearanceID where
  value : Fin 12
  deriving DecidableEq, Repr

/-- Modelled from the spec: `AppearanceID::from_number_of_accounts_on_network` is not under
src/.  The gradients are used in turn, so the count is taken modulo their number. -/
def AppearanceID.fromNumberOfAccountsOnNetwork (n : Nat) : AppearanceID :=
  ⟨⟨n % 12, Nat.mod_lt n (by decide)⟩⟩

/-- `UnsecuredEntityControl`. -/
structure UnsecuredEntityControl where
  transactionSigning : HierarchicalDeterministicFactorInstance
  authenticationSigning : Option HierarchicalDeterministicFactorInstance
  deriving DecidableEq, Repr

namespace UnsecuredEntityControl

/-- `with_account_creating_factor_instance`. -/
def withAccountCreatingFactorInstance
    (accountCreatingFactorInstance : HDFactorInstanceAccountCreation) : UnsecuredEntityControl :=
  { transactionSigning := accountCreatingFactorInstance.toFactorInstance,
    authenticationSigning := none }

/-- `UnsecuredEntityControl::new`: the key kind of each instance, when it has one, must be
the one of its role. -/
def new (transactionSigning : HierarchicalDeterministicFactorInstance)
    (authenticationSigning : Option HierarchicalDeterministicFactorInstance) :
    Except CommonError UnsecuredEntityControl :=
  if authenticationSigning.any (fun auth => auth.keyKind.any (· ≠ .authenticationSigning)) then
    .error .wrongKeyKindOfAuthenticationSigningFactorInstance
  else if transactionSigning.keyKind.any (· ≠ .transactionSigning) then
    .error .wrongKeyKindOfTransactionSigningFactorInstance
  else .ok { transactionSigning, authenticationSigning }

/-- `with_transaction_signing_only`. -/
def withTransactionSigningOnly (transactionSigning : HierarchicalDeterministicFactorInstance) :
    Except CommonError UnsecuredEntityControl :=
  new transactionSigning none

end UnsecuredEntityControl

/-- `EntitySecurityState`, of which `Unsecured` is the only variant so far. -/
inductive EntitySecurityState where
  | unsecured (value : UnsecuredEntityControl)
  deriving DecidableEq, Repr

/-- The instance that signs the transactions of an entity in this security state. -/
def EntitySecurityState.transactionSigning :
    EntitySecurityState → HierarchicalDeterministicFactorInstance
  | .unsecured control => control.transactionSigning

/-- `EntityAddress::from_hd_factor_instance_virtual_entity_creation`: the address of the
instance's public key on the network of its path. -/
def Address.fromHdFactorInstanceVirtualEntityCreation (crypto : Crypto) (t : AbstractEntityType)
    (hdFactorInstance : HDFactorInstanceAccountCreation) : Returns (Address t) :=
  Address.fromPublicKey crypto.publicKeyHash t hdFactorInstance.publicKey
    hdFactorInstance.path.networkId

/-- Modelled from the spec and the repository's paths: `DerivationPath::last_component` is not
under src/.  The spec orders entities by this component, "the index"; every path of the
repository writes it hardened (`.../1460H/0H`), so it is the hardened component of the index. -/
def DerivationPath.lastComponent (path : DerivationPath) : HDPathComponent :=
  HDPathComponent.harden path.index

/-- The last component's value is the index plus `2^31`, with no wrap. -/
theorem DerivationPath.lastComponent_value_toNat (path : DerivationPath) :
    path.lastComponent.value.toNat = path.index.toNat + 2 ^ 31 :=
  HDPathComponent.harden_value_toNat path.index_lt

/-- `Account`, without the flags and on-ledger settings, which no modelled code reads. -/
structure Account where
  networkId : NetworkID
  address : AccountAddress
  displayName : DisplayName
  securityState : EntitySecurityState
  appearanceId : AppearanceID
  deriving DecidableEq, Repr

namespace Account

/-- `Account::new`: the address and security state of a freshly derived account. -/
def new (crypto : Crypto) (accountCreatingFactorInstance : HDFactorInstanceAccountCreation)
    (displayName : DisplayName) (appearanceId : AppearanceID) : Returns Account := do
  let address ← Address.fromHdFactorInstanceVirtualEntityCreation crypto .account
    accountCreatingFactorInstance
  pure
    { networkId := accountCreatingFactorInstance.networkId
      address := address
      displayName := displayName
      securityState := .unsecured
        (UnsecuredEntityControl.withAccountCreatingFactorInstance accountCreatingFactorInstance)
      appearanceId := appearanceId }

/-- The `Identifiable` id of an account: its address. -/
def id (a : Account) : AccountAddress := a.address

/-- The derivation index of the instance that signs the account's transactions. -/
def derivationIndex (a : Account) : HDPathValue :=
  a.securityState.transactionSigning.derivationPath.index

/-- A derivation index is below `2^31`, as the index of every path is. -/
theorem derivationIndex_lt (a : Account) : a.derivationIndex.toNat < 2 ^ 31 :=
  DerivationPath.index_lt _

/-- `Ord for Account`: the order of the last path components of the two transaction signing
instances, by their `u32` values; nothing else of the accounts is read. -/
def cmp (a b : Account) : Ordering :=
  match a.securityState, b.securityState with
  | .unsecured l, .unsecured r =>
    compare l.transactionSigning.derivationPath.lastComponent.value
      r.transactionSigning.derivationPath.lastComponent.value

end Account

/-- `Accounts`: the accounts of one network, unique by address. -/
abbrev Accounts := IdentifiedVec Account.id

end RadixWalletKit
