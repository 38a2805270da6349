import RadixWalletKit.Address
import RadixWalletKit.Bech32Laws

/-!
# Laws of entity addresses

`try_from_bech32` is a left inverse of `from_public_key`: the address of the virtual account
or identity of a key is a bech32m string under the human readable part of its entity type
and network, and decoding it gives back that network, that entity type and the node id.

The validated way in is not total, though.  `decode` accepts a string in upper case and
returns its human readable part in lower case, which is what `try_from_bech32` checks; the
string it hands to `__with_address_and_network_id` is the one it was given, and the
assertion there fails on an upper case address.
-/

namespace RadixWalletKit

/-- An engine entity type that maps to an abstract one carries that type's prefix. -/
theorem EngineEntityType.hrpPrefix_of_tryFrom {et : EngineEntityType} {t : AbstractEntityType}
    (h : AbstractEntityType.tryFrom et = .ok t) : et.hrpPrefix = t.hrp := by
  cases et <;> cases h <;> rfl

/-- The human readable part of every abstract entity type on every network is in lower case
and names that network. -/
theorem entityHrp_facts (t : AbstractEntityType) (n : NetworkID) :
    Bech32.checkHrp (t.hrp ++ "_" ++ hrpSuffix n.discriminant).data = .ok .lower ∧
      networkIdFromHrp (t.hrp ++ "_" ++ hrpSuffix n.discriminant) = some n.discriminant := by
  cases t <;> cases n <;> exact ⟨rfl, rfl⟩

theorem entityHrp_of_tryFrom {et : EngineEntityType} {t : AbstractEntityType}
    (het : AbstractEntityType.tryFrom et = .ok t) (d : UInt8) :
    entityHrp et d = t.hrp ++ "_" ++ hrpSuffix d := by
  rw [entityHrp, EngineEntityType.hrpPrefix_of_tryFrom het]

theorem prefix_entityHrp {et : EngineEntityType} {t : AbstractEntityType}
    (het : AbstractEntityType.tryFrom et = .ok t) (d : UInt8) :
    t.hrp.data <+: (entityHrp et d).data := by
  rw [entityHrp_of_tryFrom het]
  simp [List.prefix_append]

/-- The node id of an entity displays as a bech32m string that starts with the human
readable part of its entity type and network, and decodes back to them. -/
theorem display_nodeId {et : EngineEntityType} {t : AbstractEntityType}
    (het : AbstractEntityType.tryFrom et = .ok t) (hash : Bytes 29) (n : NetworkID) :
    ∃ s, SerializableNodeIdInternal.display ⟨n.discriminant, NodeId.new et.toByte hash⟩ =
        .value s ∧
      Bech32.decode s = .ok (entityHrp et n.discriminant,
        Bech32.toBase32 (NodeId.new et.toByte hash).toList, .bech32m) ∧
      (entityHrp et n.discriminant).data <+: s.data := by
  have hhrp : Bech32.checkHrp (entityHrp et n.discriminant).data = .ok .lower := by
    rw [entityHrp_of_tryFrom het]
    exact (entityHrp_facts t n).1
  obtain ⟨s, hencode, hdecode, hstart⟩ :=
    Bech32.decode_encode hhrp (Bech32.toBase32_spec _).1 .bech32m
  have hhead : (NodeId.new et.toByte hash).toList.head? = some et.toByte := rfl
  refine ⟨s, ?_, hdecode, hstart⟩
  simp [SerializableNodeIdInternal.display, hhead, hencode]

/-- The engine reads such a string as the network, the entity type, the human readable part
and the node id it was written from. -/
theorem engineDecodeAddress_of_decode {et : EngineEntityType} {t : AbstractEntityType}
    (het : AbstractEntityType.tryFrom et = .ok t) (hash : Bytes 29) (n : NetworkID) {s : String}
    (hdecode : Bech32.decode s = .ok (entityHrp et n.discriminant,
      Bech32.toBase32 (NodeId.new et.toByte hash).toList, .bech32m)) :
    engineDecodeAddress s =
      some (n.discriminant, et, entityHrp et n.discriminant, NodeId.new et.toByte hash) := by
  have hnet : networkIdFromHrp (entityHrp et n.discriminant) = some n.discriminant := by
    rw [entityHrp_of_tryFrom het]
    exact (entityHrp_facts t n).2
  simp [engineDecodeAddress, validateAndDecode, hdecode, hnet, Bech32.fromBase32_toBase32,
    NodeId.new, Except.toOption, hash.length_eq]

theorem decodeAddress_of_decode {et : EngineEntityType} {t : AbstractEntityType}
    (het : AbstractEntityType.tryFrom et = .ok t) (hash : Bytes 29) (n : NetworkID) {s : String}
    (hdecode : Bech32.decode s = .ok (entityHrp et n.discriminant,
      Bech32.toBase32 (NodeId.new et.toByte hash).toList, .bech32m)) :
    decodeAddress s = .ok (n, t, entityHrp et n.discriminant, NodeId.new et.toByte hash) := by
  simp [decodeAddress, engineDecodeAddress_of_decode het hash n hdecode, NetworkID.tryFrom, het]

namespace Address

theorem withAddressAndNetworkId_of_startsWith {t : AbstractEntityType} {address : String}
    (h : t.hrp.data <+: address.data) (networkId : NetworkID) :
    withAddressAndNetworkId t address networkId = .value ⟨address, networkId⟩ := by
  rw [withAddressAndNetworkId, if_pos (List.isPrefixOf_iff_prefix.mpr h)]

theorem withAddressAndNetworkId_of_not_startsWith {t : AbstractEntityType} {address : String}
    (h : ¬ t.hrp.data <+: address.data) (networkId : NetworkID) :
    ∃ msg, withAddressAndNetworkId t address networkId = .panic msg := by
  rw [withAddressAndNetworkId, if_neg (mt List.isPrefixOf_iff_prefix.mp h)]
  exact ⟨_, rfl⟩

/-- `try_from_bech32` returns only the string it was given, under the network it decodes
to, with the prefix of its type both on the decoded human readable part and on the string. -/
theorem tryFromBech32_eq_ok {t : AbstractEntityType} {s : String} {a : Address t}
    (h : tryFromBech32 t s = .value (.ok a)) :
    a = ⟨s, a.networkId⟩ ∧ t.hrp.data <+: s.data ∧ ∃ hrp nodeId,
      decodeAddress s = .ok (a.networkId, t, hrp, nodeId) ∧ t.hrp.data <+: hrp.data := by
  unfold tryFromBech32 at h
  split at h
  · cases h
  · rename_i n et hrp nodeId hd
    split_ifs at h with het hhrp
    · cases h
    · cases h
    · rw [not_not] at het
      subst het
      have hs : et.hrp.data <+: s.data := by
        by_contra hs
        obtain ⟨msg, hmsg⟩ := withAddressAndNetworkId_of_not_startsWith hs n
        rw [hmsg] at h
        cases h
      rw [withAddressAndNetworkId_of_startsWith hs] at h
      cases h
      exact ⟨rfl, hs, hrp, nodeId, hd, by simpa [List.isPrefixOf_iff_prefix] using hhrp⟩

/-- `try_from_bech32` panics exactly on the strings whose decoded human readable part has
the prefix of its type while the string itself does not. -/
theorem tryFromBech32_isPanic (t : AbstractEntityType) (s : String) :
    (∃ msg, tryFromBech32 t s = .panic msg) ↔ ∃ n hrp nodeId,
      decodeAddress s = .ok (n, t, hrp, nodeId) ∧ t.hrp.data <+: hrp.data ∧
        ¬ t.hrp.data <+: s.data := by
  constructor
  · rintro ⟨msg, h⟩
    unfold tryFromBech32 at h
    split at h
    · cases h
    · rename_i n et hrp nodeId hd
      split_ifs at h with het hhrp
      rw [not_not] at het
      subst het
      refine ⟨n, hrp, nodeId, hd, by simpa [List.isPrefixOf_iff_prefix] using hhrp, fun hs => ?_⟩
      rw [withAddressAndNetworkId_of_startsWith hs] at h
      cases h
  · rintro ⟨n, hrp, nodeId, hd, hhrp, hs⟩
    obtain ⟨msg, hmsg⟩ := withAddressAndNetworkId_of_not_startsWith hs n
    exact ⟨msg, by simp [tryFromBech32, hd, List.isPrefixOf_iff_prefix.mpr hhrp, hmsg]⟩

theorem tryFromBech32_of_decodeAddress {t : AbstractEntityType} {s hrp : String}
    {n : NetworkID} {nodeId : Bytes 30} (hdecode : decodeAddress s = .ok (n, t, hrp, nodeId))
    (hhrp : t.hrp.data <+: hrp.data) (hs : t.hrp.data <+: s.data) :
    tryFromBech32 t s = .value (.ok ⟨s, n⟩) := by
  simp [tryFromBech32, hdecode, List.isPrefixOf_iff_prefix.mpr hhrp,
    withAddressAndNetworkId_of_startsWith hs]

/-- An abstract type with virtual entities has, for each curve, an engine entity type whose
byte starts the node id of a key and which maps back to it. -/
theorem virtualComponent_spec (publicKeyHash : PublicKey → Bytes 29) (publicKey : PublicKey)
    {t : AbstractEntityType} (ht : t ≠ .resource) :
    ∃ et, virtualComponent publicKeyHash publicKey t =
        .value (NodeId.new et.toByte (publicKeyHash publicKey)) ∧
      AbstractEntityType.tryFrom et = .ok t := by
  cases t with
  | account => cases publicKey <;> exact ⟨_, rfl, rfl⟩
  | identity => cases publicKey <;> exact ⟨_, rfl, rfl⟩
  | resource => exact absurd rfl ht

/-- What `from_public_key` writes for an abstract type with virtual entities: an address on
the given network that starts with the type's prefix and decodes to the network, the type
and the node id of the key's hash. -/
theorem fromPublicKey_spec (publicKeyHash : PublicKey → Bytes 29) {t : AbstractEntityType}
    (ht : t ≠ .resource) (publicKey : PublicKey) (networkId : NetworkID) :
    ∃ et s, fromPublicKey publicKeyHash t publicKey networkId = .value ⟨s, networkId⟩ ∧
      decodeAddress s = .ok (networkId, t, entityHrp et networkId.discriminant,
        NodeId.new et.toByte (publicKeyHash publicKey)) ∧
      t.hrp.data <+: (entityHrp et networkId.discriminant).data ∧ t.hrp.data <+: s.data := by
  obtain ⟨et, hcomponent, het⟩ := virtualComponent_spec publicKeyHash publicKey ht
  obtain ⟨s, hdisplay, hdecode, hstart⟩ := display_nodeId het (publicKeyHash publicKey) networkId
  have hhrp := prefix_entityHrp het networkId.discriminant
  have hs := hhrp.trans hstart
  refine ⟨et, s, ?_, decodeAddress_of_decode het _ networkId hdecode, hhrp, hs⟩
  simp [fromPublicKey, hcomponent, hdisplay, withAddressAndNetworkId_of_startsWith hs]

/-- Two keys whose addresses of one virtual type are equal are on one network and have one
hash. -/
theorem fromPublicKey_address_eq (publicKeyHash : PublicKey → Bytes 29) {t : AbstractEntityType}
    (ht : t ≠ .resource) {publicKey publicKey' : PublicKey} {networkId networkId' : NetworkID}
    {a a' : Address t} (h : fromPublicKey publicKeyHash t publicKey networkId = .value a)
    (h' : fromPublicKey publicKeyHash t publicKey' networkId' = .value a')
    (haddress : a.address = a'.address) :
    networkId = networkId' ∧ publicKeyHash publicKey = publicKeyHash publicKey' := by
  obtain ⟨et, s, hs, hdecode, -⟩ := fromPublicKey_spec publicKeyHash ht publicKey networkId
  obtain ⟨et', s', hs', hdecode', -⟩ := fromPublicKey_spec publicKeyHash ht publicKey' networkId'
  rw [hs] at h
  rw [hs'] at h'
  cases h
  cases h'
  rw [show s = s' from haddress, hdecode'] at hdecode
  simp only [Except.ok.injEq, Prod.mk.injEq] at hdecode
  obtain ⟨hnet, -, -, hnode⟩ := hdecode
  have hhash := congrArg (List.tail ∘ Bytes.toList) hnode
  simp only [NodeId.new, Function.comp_apply, List.tail_cons] at hhash
  refine ⟨hnet.symm, ?_⟩
  cases hp : publicKeyHash publicKey
  cases hp' : publicKeyHash publicKey'
  simp only [hp, hp'] at hhash
  simp [hhash]

/-- `try_from_bech32` reads back what `from_public_key` writes: for every key, network and
abstract entity type with virtual entities, the address decodes to that network and type
under a human readable part with the type's prefix, and is returned unchanged. -/
theorem tryFromBech32_fromPublicKey (publicKeyHash : PublicKey → Bytes 29)
    {t : AbstractEntityType} (ht : t ≠ .resource) (publicKey : PublicKey) (networkId : NetworkID) :
    ∃ a, fromPublicKey publicKeyHash t publicKey networkId = .value a ∧ a.networkId = networkId ∧
      tryFromBech32 t a.address = .value (.ok a) ∧ ∃ hrp nodeId,
        decodeAddress a.address = .ok (networkId, t, hrp, nodeId) ∧ t.hrp.data <+: hrp.data := by
  obtain ⟨et, s, hs, hdecode, hhrp, hstart⟩ := fromPublicKey_spec publicKeyHash ht publicKey networkId
  exact ⟨⟨s, networkId⟩, hs, rfl, tryFromBech32_of_decodeAddress hdecode hhrp hstart, _, _,
    hdecode, hhrp⟩

theorem tryFromBech32_fromPublicKey_zeroHash :
    AbstractEntityType.account ≠ .resource ∧ ∃ a, fromPublicKey (fun _ => Bytes.zero 29)
        .account (.ed25519 (Bytes.zero 32)) .mainnet = .value a ∧ a.networkId = .mainnet ∧
      tryFromBech32 .account a.address = .value (.ok a) ∧ ∃ hrp nodeId,
        decodeAddress a.address = .ok (.mainnet, .account, hrp, nodeId) ∧
          AbstractEntityType.account.hrp.data <+: hrp.data :=
  ⟨by decide, tryFromBech32_fromPublicKey (fun _ => Bytes.zero 29) (by decide)
    (.ed25519 (Bytes.zero 32)) .mainnet⟩

end Address

set_option maxRecDepth 20000 in
/-- The mainnet XRD resource address in upper case is valid bech32 and decodes to a resource
under the lower case human readable part "resource_rdx", so it passes both checks of
`try_from_bech32`, whose assertion then panics on the string as given. -/
theorem ResourceAddress.tryFromBech32_upperCase_panics :
    ResourceAddress.tryFromBech32
        "RESOURCE_RDX1TKNXXXXXXXXXRADXRDXXXXXXXXX009923554798XXXXXXXXXRADXRD" =
      .panic ("Invalid address, you SHOULD NOT call this function directly, " ++
        "you should use `try_from_bech32` instead.") := by
  rfl

end RadixWalletKit
