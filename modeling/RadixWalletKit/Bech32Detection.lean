import RadixWalletKit.AddressLaws

/-!
# One changed or two swapped characters are always caught

The bech32 checksum is a linear code: `polymod` is linear over xor
(`foldl_polymodStep_xor`), so a change of its input moves the remainder by the remainder of an
error word that is zero outside the changed stretch (`polymod_ne_of_error`).  For one changed
value that stretch is the difference, a non-zero value of five bits; for two swapped adjacent
values it is that difference twice, which leaves the register at thirty-three times it.  Either
register is non-zero, and a step fed a zero keeps a non-zero register of thirty bits non-zero,
because the five generators are independent in their five low bits.

So `decode` cannot accept with the same variant a string that differs from an accepted one in
one character of its data part, when the new character is a letter of the alphabet of another
value, nor one in which two adjacent data characters of different values are swapped.
`try_from_bech32` asks for the bech32m variant, so it rejects every such string with
`FailedToDecodeAddressFromBech32`, and never panics on it.
-/

namespace RadixWalletKit
namespace Bech32

theorem foldl_polymodStep_replicate_zero (n : Nat) :
    (List.replicate n 0).foldl polymodStep 0 = 0 := by
  induction n with
  | zero => rfl
  | succ n ih => rw [List.replicate_succ, List.foldl_cons, show polymodStep 0 0 = 0 from rfl, ih]

/-- The generators are independent in their five low bits: no non-empty selection of them
xors to zero there. -/
theorem genXor_low_ne_zero : ∀ b < 32, b ≠ 0 → genXor b &&& 31 ≠ 0 := by decide

/-- A step fed a zero keeps a non-zero register of thirty bits non-zero. -/
theorem polymodStep_ne_zero {x : Nat} (hx : x ≠ 0) (hlt : x < 2 ^ 30) : polymodStep x 0 ≠ 0 := by
  by_cases hlow : x < 2 ^ 25
  · rw [polymodStep_of_lt hlow (by decide)]
    omega
  · have hhigh : x >>> 25 < 32 ∧ x >>> 25 ≠ 0 := by
      rw [Nat.shiftRight_eq_div_pow]
      norm_num at hlow hlt ⊢
      omega
    have hshift : ((x &&& 0x1ffffff) <<< 5) &&& 31 = 0 := by
      rw [show (31 : Nat) = 2 ^ 5 - 1 from rfl, Nat.and_pow_two_sub_one_eq_mod, Nat.shiftLeft_eq,
        Nat.mul_mod_left]
    intro h
    apply genXor_low_ne_zero _ hhigh.1 hhigh.2
    have hlow31 := congrArg (· &&& 31) h
    simpa only [polymodStep, Nat.xor_zero, Nat.and_xor_distrib_right, hshift, Nat.zero_xor,
      Nat.zero_and] using hlow31

theorem foldl_polymodStep_replicate_ne_zero :
    ∀ (m : Nat) {x : Nat}, x ≠ 0 → x < 2 ^ 30 → (List.replicate m 0).foldl polymodStep x ≠ 0
  | 0, _, hx, _ => hx
  | m + 1, x, hx, hlt => by
    rw [List.replicate_succ, List.foldl_cons]
    exact foldl_polymodStep_replicate_ne_zero m (polymodStep_ne_zero hx hlt)
      (polymodStep_lt x 0 (by decide))

/-- The remainder of an error word, zero but for a stretch whose own remainder is non-zero, is
not zero. -/
theorem foldl_polymodStep_error_ne_zero (k m : Nat) {ds : List Nat}
    (hds : ds.foldl polymodStep 0 ≠ 0) (hlt : ds.foldl polymodStep 0 < 2 ^ 30) :
    (List.replicate k 0 ++ ds ++ List.replicate m 0).foldl polymodStep 0 ≠ 0 := by
  rw [List.foldl_append, List.foldl_append, foldl_polymodStep_replicate_zero]
  exact foldl_polymodStep_replicate_ne_zero m hds hlt

/-- Two inputs that differ, in one stretch, by an error of non-zero remainder have different
remainders. -/
theorem polymod_ne_of_error (front back ds xs : List Nat) {ys : List Nat}
    (hlen : ds.length = xs.length) (hzip : List.zipWith (· ^^^ ·) ds xs = ys)
    (hds : ds.foldl polymodStep 0 ≠ 0) (hlt : ds.foldl polymodStep 0 < 2 ^ 30) :
    polymod (front ++ xs ++ back) ≠ polymod (front ++ ys ++ back) := by
  have hzipAll : List.zipWith (· ^^^ ·)
      (List.replicate front.length 0 ++ ds ++ List.replicate back.length 0)
      (front ++ xs ++ back) = front ++ ys ++ back := by
    rw [List.zipWith_append _ _ _ _ _ (by simp [hlen]),
      List.zipWith_append _ _ _ _ _ (List.length_replicate _ _), zipWith_xor_replicate_zero,
      zipWith_xor_replicate_zero, hzip]
  have hlin := foldl_polymodStep_xor
    (List.replicate front.length 0 ++ ds ++ List.replicate back.length 0)
    (front ++ xs ++ back) (by simp [hlen]) 0 1
  rw [hzipAll, Nat.zero_xor] at hlin
  intro heq
  apply foldl_polymodStep_error_ne_zero front.length back.length hds hlt
  unfold polymod at heq
  rw [← heq] at hlin
  have hcancel := congrArg (· ^^^ (front ++ xs ++ back).foldl polymodStep 1) hlin
  simp only [Nat.xor_self, Nat.xor_assoc, Nat.xor_zero] at hcancel
  exact hcancel.symm

theorem polymodStep_zero_of_lt {δ : Nat} (hδ : δ < 32) : polymodStep 0 δ = δ :=
  (polymodStep_of_lt (show (0 : Nat) < 2 ^ 25 by decide) hδ).trans (by omega)

/-- Changing one value below 32 to another changes the remainder of `polymod`. -/
theorem polymod_ne_of_substitution (front back : List Nat) {v v' : Nat} (hv : v < 32)
    (hv' : v' < 32) (hne : v ≠ v') : polymod (front ++ v :: back) ≠ polymod (front ++ v' :: back) := by
  have hδ : v ^^^ v' < 32 := Nat.xor_lt_two_pow (n := 5) hv hv'
  have hstep : [v ^^^ v'].foldl polymodStep 0 = v ^^^ v' := polymodStep_zero_of_lt hδ
  have hzip : List.zipWith (· ^^^ ·) [v ^^^ v'] [v] = [v'] := by
    rw [List.zipWith_cons_cons, List.zipWith_nil_left, Nat.xor_comm v v', Nat.xor_cancel_right]
  simpa only [List.append_assoc, List.singleton_append] using
    polymod_ne_of_error front back [v ^^^ v'] [v] rfl hzip
      (by rw [hstep]; exact fun h => hne (Nat.xor_eq_zero.mp h)) (by omega)

/-- Swapping two adjacent values below 32 that differ changes the remainder of `polymod`. -/
theorem polymod_ne_of_transposition (front back : List Nat) {v w : Nat} (hv : v < 32)
    (hw : w < 32) (hne : v ≠ w) :
    polymod (front ++ v :: w :: back) ≠ polymod (front ++ w :: v :: back) := by
  have hδ : v ^^^ w < 32 := Nat.xor_lt_two_pow (n := 5) hv hw
  have hδ0 : v ^^^ w ≠ 0 := fun h => hne (Nat.xor_eq_zero.mp h)
  have hstep : [v ^^^ w, v ^^^ w].foldl polymodStep 0 = (v ^^^ w) * 32 + (v ^^^ w) := by
    show polymodStep (polymodStep 0 (v ^^^ w)) (v ^^^ w) = _
    rw [polymodStep_zero_of_lt hδ, polymodStep_of_lt (by omega) hδ]
  have hzip : List.zipWith (· ^^^ ·) [v ^^^ w, v ^^^ w] [v, w] = [w, v] := by
    rw [List.zipWith_cons_cons, List.zipWith_cons_cons, List.zipWith_nil_left, Nat.xor_cancel_right,
      Nat.xor_comm v w, Nat.xor_cancel_right]
  simpa only [List.append_assoc, List.cons_append, List.nil_append] using
    polymod_ne_of_error front back [v ^^^ w, v ^^^ w] [v, w] rfl hzip (by omega) (by omega)

/-! ## Decoding a changed string -/

/-- The value of a data character, zero for a character outside the alphabet. -/
def charValue (c : Char) : Nat := (charsetRev c).getD 0

theorem charsetRev_lt {c : Char} {v : Nat} (h : charsetRev c = some v) : v < 32 :=
  (List.findIdx?_eq_some_iff_getElem.mp h).1

theorem charsetRev_eq_charValue {c : Char} (h : (charsetRev c).isSome) :
    charsetRev c = some (charValue c) := by
  obtain ⟨v, hv⟩ := Option.isSome_iff_exists.mp h
  rw [charValue, hv]
  rfl

/-- The values of the data part are the alphabet values of its characters. -/
theorem decodeData_eq_ok : ∀ {l : List Char} {case : Case} {vs : List Nat},
    decodeData l case = .ok vs → l.map charsetRev = vs.map some
  | [], _, _, h => by
    cases h
    rfl
  | c :: cs, case, vs, h => by
    simp only [decodeData] at h
    split_ifs at h
    split at h
    · cases h
    · split at h
      · cases h
      · rename_i case' _ _ v hv
        cases hrest : decodeData cs case' with
        | error e =>
          rw [hrest] at h
          cases h
        | ok ws =>
          simp only [hrest] at h
          cases h
          simp [hv, decodeData_eq_ok hrest]

theorem values_eq_of_map : ∀ {l : List Char} {vs : List Nat},
    l.map charsetRev = vs.map some → vs = l.map charValue
  | [], [], _ => rfl
  | [], _ :: _, h => by cases h
  | _ :: _, [], h => by cases h
  | c :: l, v :: vs, h => by
    simp only [List.map_cons, List.cons.injEq] at h
    rw [List.map_cons, charValue, h.1, values_eq_of_map h.2]
    rfl

/-- What `split_and_decode` reads from a string with the separator before a part without one:
the case of the human readable part, that part in lower case, and the data values. -/
theorem splitAndDecode_eq_ok {hrp raw : List Char} (hsep : '1' ∉ raw) {hrpLower : List Char}
    {data : List Nat} (h : splitAndDecode (hrp ++ '1' :: raw) = .ok (hrpLower, data)) :
    ∃ case, checkHrp hrp = .ok case ∧
      hrpLower = (if case = .upper then hrp.map Char.toLower else hrp) ∧
      decodeData raw case = .ok data := by
  rw [splitAndDecode, splitAtSeparator_append _ _ hsep] at h
  cases hcase : checkHrp hrp with
  | error e => simp only [hcase, Except.error_bind, reduceCtorEq] at h
  | ok case =>
    cases hdata : decodeData raw case with
    | error e => simp only [hcase, hdata, Except.ok_bind, Except.error_bind, reduceCtorEq] at h
    | ok vs =>
      simp only [hcase, hdata, Except.ok_bind] at h
      cases h
      exact ⟨case, rfl, rfl, hdata⟩

/-- `decode` accepts a string only when the checksum of its data verifies, with the variant it
returns. -/
theorem decode_eq_ok {s : String} {r : String × List Nat × Variant} (h : decode s = .ok r) :
    ∃ hrpLower data, splitAndDecode s.data = .ok (hrpLower, data) ∧
      verifyChecksum hrpLower data = some r.2.2 := by
  unfold decode at h
  cases hs : splitAndDecode s.data with
  | error e => simp only [hs, Except.error_bind, reduceCtorEq] at h
  | ok p =>
    obtain ⟨hrpLower, data⟩ := p
    simp only [hs, Except.ok_bind] at h
    split_ifs at h
    · cases h
    · cases hv : verifyChecksum hrpLower data with
      | none =>
        rw [hv] at h
        cases h
      | some variant =>
        simp only [hv] at h
        cases h
        exact ⟨hrpLower, data, rfl, hv⟩

theorem eq_constant_of_fromRemainder {c : Nat} {variant : Variant}
    (h : Variant.fromRemainder c = some variant) : c = variant.constant := by
  unfold Variant.fromRemainder at h
  split_ifs at h with h1 h2 <;> cases h
  · exact h1
  · exact h2

/-- Two strings of one human readable part that `decode` accepts with one variant: every data
character of the first is in the alphabet, and the remainders of their values are equal. -/
theorem polymod_eq_of_decode {hrp raw raw' : List Char} (hsep : '1' ∉ raw) (hsep' : '1' ∉ raw')
    {r r' : String × List Nat × Variant} (h : decode ⟨hrp ++ '1' :: raw⟩ = .ok r)
    (h' : decode ⟨hrp ++ '1' :: raw'⟩ = .ok r') (hvariant : r'.2.2 = r.2.2) :
    (∀ c ∈ raw, (charsetRev c).isSome) ∧ ∃ hrpLower,
      polymod (hrpExpand hrpLower ++ raw.map charValue) =
        polymod (hrpExpand hrpLower ++ raw'.map charValue) := by
  obtain ⟨hrpLower, data, hsplit, hverify⟩ := decode_eq_ok h
  obtain ⟨hrpLower', data', hsplit', hverify'⟩ := decode_eq_ok h'
  obtain ⟨case, hcase, rfl, hdata⟩ := splitAndDecode_eq_ok hsep hsplit
  obtain ⟨case', hcase', rfl, hdata'⟩ := splitAndDecode_eq_ok hsep' hsplit'
  obtain rfl : case = case' := Except.ok.inj (hcase.symm.trans hcase')
  have hmap := decodeData_eq_ok hdata
  refine ⟨fun c hc => ?_, if case = .upper then hrp.map Char.toLower else hrp, ?_⟩
  · obtain ⟨v, -, hv⟩ := List.mem_map.mp (hmap ▸ List.mem_map_of_mem charsetRev hc)
    rw [← hv]
    rfl
  · rw [← values_eq_of_map hmap, ← values_eq_of_map (decodeData_eq_ok hdata'),
      eq_constant_of_fromRemainder hverify, ← hvariant, ← eq_constant_of_fromRemainder hverify']

/-- A string that differs from one `decode` accepts in one data character, a letter of the
alphabet of another value, is not accepted with the same variant. -/
theorem decode_detects_substitution {hrp dpre dpost : List Char} {c c' : Char}
    (hsep : '1' ∉ dpre ++ c :: dpost) (hc' : (charsetRev c').isSome)
    (hne : charsetRev c' ≠ charsetRev c) {r : String × List Nat × Variant}
    (hdecode : decode ⟨hrp ++ '1' :: (dpre ++ c :: dpost)⟩ = .ok r) :
    ∀ r', decode ⟨hrp ++ '1' :: (dpre ++ c' :: dpost)⟩ = .ok r' → r'.2.2 ≠ r.2.2 := by
  intro r' hdecode' hvariant
  have hc'1 : c' ≠ '1' := by
    rintro rfl
    exact absurd hc' (by decide)
  have hsep' : '1' ∉ dpre ++ c' :: dpost := by
    simp only [List.mem_append, List.mem_cons, not_or] at hsep ⊢
    exact ⟨hsep.1, Ne.symm hc'1, hsep.2.2⟩
  obtain ⟨hsome, hrpLower, hpoly⟩ := polymod_eq_of_decode hsep hsep' hdecode hdecode' hvariant
  have hc := charsetRev_eq_charValue (hsome c (by simp))
  have hc'v := charsetRev_eq_charValue hc'
  apply polymod_ne_of_substitution (hrpExpand hrpLower ++ dpre.map charValue) (dpost.map charValue)
    (charsetRev_lt hc) (charsetRev_lt hc'v) fun h => hne (by rw [hc, hc'v, h])
  simpa only [List.map_append, List.map_cons, List.append_assoc] using hpoly

/-- A string that differs from one `decode` accepts by the swap of two adjacent data characters
of different values is not accepted with the same variant. -/
theorem decode_detects_transposition {hrp dpre dpost : List Char} {c d : Char}
    (hsep : '1' ∉ dpre ++ c :: d :: dpost) (hne : charsetRev c ≠ charsetRev d)
    {r : String × List Nat × Variant}
    (hdecode : decode ⟨hrp ++ '1' :: (dpre ++ c :: d :: dpost)⟩ = .ok r) :
    ∀ r', decode ⟨hrp ++ '1' :: (dpre ++ d :: c :: dpost)⟩ = .ok r' → r'.2.2 ≠ r.2.2 := by
  intro r' hdecode' hvariant
  have hsep' : '1' ∉ dpre ++ d :: c :: dpost := by
    simp only [List.mem_append, List.mem_cons, not_or] at hsep ⊢
    exact ⟨hsep.1, hsep.2.2.1, hsep.2.1, hsep.2.2.2⟩
  obtain ⟨hsome, hrpLower, hpoly⟩ := polymod_eq_of_decode hsep hsep' hdecode hdecode' hvariant
  have hc := charsetRev_eq_charValue (hsome c (by simp))
  have hd := charsetRev_eq_charValue (hsome d (by simp))
  apply polymod_ne_of_transposition (hrpExpand hrpLower ++ dpre.map charValue)
    (dpost.map charValue) (charsetRev_lt hc) (charsetRev_lt hd) fun h => hne (by rw [hc, hd, h])
  simpa only [List.map_append, List.map_cons, List.append_assoc] using hpoly

end Bech32

/-! ## Addresses -/

theorem validateAndDecode_eq_some {networkId : UInt8} {s : String}
    {r : EngineEntityType × String × List UInt8} (h : validateAndDecode networkId s = some r) :
    ∃ hrp data, Bech32.decode s = .ok (hrp, data, .bech32m) := by
  unfold validateAndDecode at h
  cases hdecode : Bech32.decode s with
  | error e => simp [hdecode, Except.toOption] at h
  | ok d =>
    obtain ⟨hrp, data, variant⟩ := d
    by_cases hvariant : variant = .bech32m
    · exact ⟨hrp, data, hvariant ▸ rfl⟩
    · simp [hdecode, hvariant, Except.toOption] at h

/-- The engine's decoder reads only strings that decode as bech32m. -/
theorem engineDecodeAddress_eq_some {s : String} {r : UInt8 × EngineEntityType × String × Bytes 30}
    (h : engineDecodeAddress s = some r) : ∃ hrp data, Bech32.decode s = .ok (hrp, data, .bech32m) := by
  unfold engineDecodeAddress at h
  cases hdecode : Bech32.decode s with
  | error e => simp [hdecode, Except.toOption] at h
  | ok d =>
    cases hnet : networkIdFromHrp d.1 with
    | none => simp [hdecode, hnet, Except.toOption] at h
    | some n =>
      cases hvalid : validateAndDecode n s with
      | none => simp [hdecode, hnet, hvalid, Except.toOption] at h
      | some v =>
        rw [← hdecode]
        exact validateAndDecode_eq_some hvalid

/-- `decode_address` accepts only strings that decode as bech32m. -/
theorem decodeAddress_eq_ok {s : String}
    {r : NetworkID × AbstractEntityType × String × Bytes 30} (h : decodeAddress s = .ok r) :
    ∃ hrp data, Bech32.decode s = .ok (hrp, data, .bech32m) := by
  unfold decodeAddress at h
  split at h
  · exact engineDecodeAddress_eq_some ‹_›
  · cases h

/-- `decode_address` fails with `FailedToDecodeAddressFromBech32` on every string that does not
decode as bech32m. -/
theorem decodeAddress_of_not_bech32m {s : String}
    (h : ∀ hrp data, Bech32.decode s ≠ .ok (hrp, data, .bech32m)) :
    decodeAddress s = .error (.failedToDecodeAddressFromBech32 s) := by
  have hnone : engineDecodeAddress s = none := by
    cases hengine : engineDecodeAddress s with
    | none => rfl
    | some r =>
      obtain ⟨hrp, data, hdecode⟩ := engineDecodeAddress_eq_some hengine
      exact absurd hdecode (h hrp data)
  simp only [decodeAddress, hnone]
  rfl

/-- `try_from_bech32` catches every change of one character of the data part of a string it
accepts to a letter of the alphabet of another value: the changed string is rejected with
`FailedToDecodeAddressFromBech32`, and no panic. -/
theorem Address.tryFromBech32_detects_substitution {t : AbstractEntityType}
    {hrp dpre dpost : List Char} {c c' : Char} (hsep : '1' ∉ dpre ++ c :: dpost)
    (hc' : (Bech32.charsetRev c').isSome) (hne : Bech32.charsetRev c' ≠ Bech32.charsetRev c)
    {a : Address t} (hok : Address.tryFromBech32 t ⟨hrp ++ '1' :: (dpre ++ c :: dpost)⟩ = .value (.ok a)) :
    Address.tryFromBech32 t ⟨hrp ++ '1' :: (dpre ++ c' :: dpost)⟩ =
      .value (.error (.failedToDecodeAddressFromBech32 ⟨hrp ++ '1' :: (dpre ++ c' :: dpost)⟩)) := by
  obtain ⟨-, -, hrpDecoded, nodeId, hdecodeAddress, -⟩ := Address.tryFromBech32_eq_ok hok
  obtain ⟨hrp₀, data₀, hdecode⟩ := decodeAddress_eq_ok hdecodeAddress
  have hreject : ∀ hrp' data', Bech32.decode ⟨hrp ++ '1' :: (dpre ++ c' :: dpost)⟩ ≠
      .ok (hrp', data', .bech32m) := fun hrp' data' h =>
    Bech32.decode_detects_substitution hsep hc' hne hdecode _ h rfl
  simp [Address.tryFromBech32, decodeAddress_of_not_bech32m hreject]

set_option maxRecDepth 20000 in
theorem Address.tryFromBech32_detects_substitution_xrd :
    '1' ∉ "tknx".data ++ 'x' :: "xxxxxxxradxrdxxxxxxxxx009923554798xxxxxxxxxradxrd".data ∧
    (Bech32.charsetRev 'q').isSome ∧ Bech32.charsetRev 'q' ≠ Bech32.charsetRev 'x' ∧
    Address.tryFromBech32 .resource ⟨"resource_rdx".data ++
        '1' :: ("tknx".data ++ 'x' :: "xxxxxxxradxrdxxxxxxxxx009923554798xxxxxxxxxradxrd".data)⟩ =
      .value (.ok ⟨"resource_rdx1tknxxxxxxxxxradxrdxxxxxxxxx009923554798xxxxxxxxxradxrd", .mainnet⟩) ∧
    Address.tryFromBech32 .resource ⟨"resource_rdx".data ++
        '1' :: ("tknx".data ++ 'q' :: "xxxxxxxradxrdxxxxxxxxx009923554798xxxxxxxxxradxrd".data)⟩ =
      .value (.error (.failedToDecodeAddressFromBech32 ⟨"resource_rdx".data ++
        '1' :: ("tknx".data ++ 'q' :: "xxxxxxxradxrdxxxxxxxxx009923554798xxxxxxxxxradxrd".data)⟩)) := by
  have hok : Address.tryFromBech32 .resource ⟨"resource_rdx".data ++
        '1' :: ("tknx".data ++ 'x' :: "xxxxxxxradxrdxxxxxxxxx009923554798xxxxxxxxxradxrd".data)⟩ =
      .value (.ok ⟨"resource_rdx1tknxxxxxxxxxradxrdxxxxxxxxx009923554798xxxxxxxxxradxrd", .mainnet⟩) :=
    rfl
  exact ⟨by decide, by decide, by decide, hok,
    Address.tryFromBech32_detects_substitution (by decide) (by decide) (by decide) hok⟩

/-- `try_from_bech32` catches every swap of two adjacent characters of different values in the
data part of a string it accepts: the swapped string is rejected with
`FailedToDecodeAddressFromBech32`, and no panic. -/
theorem Address.tryFromBech32_detects_transposition {t : AbstractEntityType}
    {hrp dpre dpost : List Char} {c d : Char} (hsep : '1' ∉ dpre ++ c :: d :: dpost)
    (hne : Bech32.charsetRev c ≠ Bech32.charsetRev d) {a : Address t}
    (hok : Address.tryFromBech32 t ⟨hrp ++ '1' :: (dpre ++ c :: d :: dpost)⟩ = .value (.ok a)) :
    Address.tryFromBech32 t ⟨hrp ++ '1' :: (dpre ++ d :: c :: dpost)⟩ =
      .value (.error (.failedToDecodeAddressFromBech32 ⟨hrp ++ '1' :: (dpre ++ d :: c :: dpost)⟩)) := by
  obtain ⟨-, -, hrpDecoded, nodeId, hdecodeAddress, -⟩ := Address.tryFromBech32_eq_ok hok
  obtain ⟨hrp₀, data₀, hdecode⟩ := decodeAddress_eq_ok hdecodeAddress
  have hreject : ∀ hrp' data', Bech32.decode ⟨hrp ++ '1' :: (dpre ++ d :: c :: dpost)⟩ ≠
      .ok (hrp', data', .bech32m) := fun hrp' data' h =>
    Bech32.decode_detects_transposition hsep hne hdecode _ h rfl
  simp [Address.tryFromBech32, decodeAddress_of_not_bech32m hreject]

set_option maxRecDepth 20000 in
theorem Address.tryFromBech32_detects_transposition_xrd :
    '1' ∉ "tk".data ++ 'n' :: 'x' :: "xxxxxxxxradxrdxxxxxxxxx009923554798xxxxxxxxxradxrd".data ∧
    Bech32.charsetRev 'n' ≠ Bech32.charsetRev 'x' ∧
    Address.tryFromBech32 .resource ⟨"resource_rdx".data ++
        '1' :: ("tk".data ++ 'n' :: 'x' :: "xxxxxxxxradxrdxxxxxxxxx009923554798xxxxxxxxxradxrd".data)⟩ =
      .value (.ok ⟨"resource_rdx1tknxxxxxxxxxradxrdxxxxxxxxx009923554798xxxxxxxxxradxrd", .mainnet⟩) ∧
    Address.tryFromBech32 .resource ⟨"resource_rdx".data ++
        '1' :: ("tk".data ++ 'x' :: 'n' :: "xxxxxxxxradxrdxxxxxxxxx009923554798xxxxxxxxxradxrd".data)⟩ =
      .value (.error (.failedToDecodeAddressFromBech32 ⟨"resource_rdx".data ++
        '1' :: ("tk".data ++ 'x' :: 'n' :: "xxxxxxxxradxrdxxxxxxxxx009923554798xxxxxxxxxradxrd".data)⟩)) := by
  have hok : Address.tryFromBech32 .resource ⟨"resource_rdx".data ++
        '1' :: ("tk".data ++ 'n' :: 'x' :: "xxxxxxxxradxrdxxxxxxxxx009923554798xxxxxxxxxradxrd".data)⟩ =
      .value (.ok ⟨"resource_rdx1tknxxxxxxxxxradxrdxxxxxxxxx009923554798xxxxxxxxxradxrd", .mainnet⟩) :=
    rfl
  exact ⟨by decide, by decide, hok,
    Address.tryFromBech32_detects_transposition (by decide) (by decide) hok⟩

end RadixWalletKit
