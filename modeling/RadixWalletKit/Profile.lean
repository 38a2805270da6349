import RadixWalletKit.Account

/-!
# Profiles

The profile a wallet holds: its factor sources and, for each network, the accounts on it.
The wallet calls three methods of the profile that are not under src/, so they are
modelled from the spec: the main device factor source, the next derivation index for a
new account, and the update of one account in place.
-/

namespace RadixWalletKit

/-- `Network`: the accounts on one network. -/
structure Network where
  id : NetworkID
  accounts : Accounts
  deriving DecidableEq

/-- `Network::new`. -/
def Network.new (id : NetworkID) (accounts : Accounts) : Network :=
  { id := id, accounts := accounts }

/-- `Networks`: the networks of a profile, unique by id. -/
abbrev Networks := IdentifiedVec Network.id

/-- `Profile`, without its header and app preferences, which no modelled code reads. -/
structure Profile where
  factorSources : FactorSources
  networks : Networks
  deriving DecidableEq

namespace Profile

/-- Each network's id with the list of its accounts: all a profile says about accounts. -/
def accountLists (p : Profile) : List (NetworkID × List Account) :=
  p.networks.elements.map fun n => (n.id, n.accounts.elements)

/-- Modelled from the spec: `Profile::bdfs` is not under src/.  The spec has it read "the
profile's designated primary device factor source": the first device factor source
flagged as main.  A profile without one makes it panic. -/
def bdfs (p : Profile) : Returns DeviceFactorSource :=
  match (p.factorSources.elements.filterMap FactorSource.asDevice).find? (·.isMainBdfs) with
  | some d => .value d
  | none => .panic "A Profile should always contain Babylon DeviceFactorSource"

/-- Modelled from the spec: `Profile::next_derivation_index_for_entity` is not under src/.
The spec has it compute "the next unused derivation index for (Account, network) by
scanning existing accounts on that network": one more than the largest transaction
signing index of an account on the network, and zero on a network without accounts, as a
`u32`.  It is asked for accounts only, so the entity kind is left out. -/
def nextDerivationIndexForEntity (p : Profile) (networkId : NetworkID) : HDPathValue :=
  match p.networks.get networkId with
  | none => 0
  | some network =>
    ((network.accounts.elements.map fun (a : Account) => a.derivationIndex.toNat + 1).foldr max
      0).toUInt32

/-- Modelled from the spec: `Profile::update_account` is not under src/.  The spec has it
look the account up by address across all networks and mutate it in place: the first
network, in order, that holds the address is updated, and the account after the update is
returned. -/
def updateAccount (p : Profile) (address : AccountAddress) (mutate : Account → Account) :
    Option Account × Profile :=
  match p.networks.elements.find? (fun n => n.accounts.containsId address) with
  | none => (none, p)
  | some network =>
    let accounts := (network.accounts.updateWith address mutate).2
    (accounts.get address, { p with networks := p.networks.replace { network with accounts } })

@[simp] theorem accountLists_map_fst (p : Profile) :
    p.accountLists.map Prod.fst = p.networks.ids := by
  simp [accountLists, IdentifiedVec.ids]

theorem updateAccount_of_absent (p : Profile) (address : AccountAddress)
    (mutate : Account → Account) (h : ∀ n ∈ p.networks.elements, address ∉ n.accounts.ids) :
    p.updateAccount address mutate = (none, p) := by
  have hfind : p.networks.elements.find? (fun n => n.accounts.containsId address) = none :=
    List.find?_eq_none.mpr fun n hn => by simpa [IdentifiedVec.containsId_iff] using h n hn
  simp only [updateAccount, hfind]

/-- An update that keeps the address changes the first account with that address, in the
first network holding it, and nothing else. -/
theorem updateAccount_of_present (p : Profile) (address : AccountAddress)
    (mutate : Account → Account) (hmutate : ∀ a, (mutate a).id = a.id)
    (h : ∃ n ∈ p.networks.elements, address ∈ n.accounts.ids) :
    ∃ pre networkId post accPre acc accPost,
      p.accountLists = pre ++ (networkId, accPre ++ acc :: accPost) :: post ∧ acc.id = address ∧
      (p.updateAccount address mutate).1 = some (mutate acc) ∧
      (p.updateAccount address mutate).2.accountLists =
        pre ++ (networkId, accPre ++ mutate acc :: accPost) :: post ∧
      (p.updateAccount address mutate).2.factorSources = p.factorSources := by
  obtain ⟨network, hfind⟩ : ∃ network,
      p.networks.elements.find? (fun n => n.accounts.containsId address) = some network :=
    Option.isSome_iff_exists.mp
      (List.find?_isSome.mpr (by simpa [IdentifiedVec.containsId_iff] using h))
  have hnet := List.mem_of_find?_eq_some hfind
  have haddr : address ∈ network.accounts.ids := by
    simpa [IdentifiedVec.containsId_iff] using List.find?_some hfind
  obtain ⟨acc, hget⟩ := IdentifiedVec.exists_get_of_mem haddr
  obtain ⟨hacc, haccId⟩ := IdentifiedVec.get_eq_some_iff.mp hget
  obtain ⟨accPre, accPost, hsplitAcc, hreplAcc⟩ :=
    IdentifiedVec.replace_of_mem _ hacc (hmutate acc)
  obtain ⟨pre, post, hsplitNet, hreplNet⟩ := IdentifiedVec.replace_of_mem
    { network with accounts := network.accounts.replace (mutate acc) } hnet rfl
  have hgetNew : (network.accounts.replace (mutate acc)).get address = some (mutate acc) :=
    IdentifiedVec.get_eq_some_iff.mpr ⟨by simp [hreplAcc], (hmutate acc).trans haccId⟩
  have hupdate : p.updateAccount address mutate = (some (mutate acc),
      { p with networks :=
          p.networks.replace { network with accounts := network.accounts.replace (mutate acc) } }) := by
    simp only [updateAccount, hfind, IdentifiedVec.updateWith_of_get hget, hgetNew]
  let view := fun n : Network => (n.id, n.accounts.elements)
  rw [hupdate]
  refine ⟨pre.map view, network.id, post.map view, accPre, acc, accPost, ?_, haccId, rfl, ?_, rfl⟩ <;>
    simp [accountLists, hsplitNet, hsplitAcc, hreplNet, hreplAcc, view]

end Profile

end RadixWalletKit
