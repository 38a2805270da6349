import Mathlib
import RadixWalletKit.Bech32

/-!
# Laws of the bech32 codec

Two facts make an address read back as what was written.  Regrouping bytes into five bit
values and back gives the bytes again: `convert_bits` keeps, as an invariant of its loop,
that the groups it emitted followed by the bits still in its accumulator spell the input
bits.  And the checksum that `encode` appends is the one `decode` accepts: one step of
`polymod` is linear over bits, so six more values move the register by their own
concatenation.
-/

namespace RadixWalletKit
namespace Bech32

/-- The `w` low bits of `x`, highest first. -/
def bitsOf : Nat → Nat → List Bool
  | 0, _ => []
  | w + 1, x => x.testBit w :: bitsOf w x

@[simp] theorem bitsOf_width_zero (x : Nat) : bitsOf 0 x = [] := rfl

@[simp] theorem length_bitsOf (w x : Nat) : (bitsOf w x).length = w := by
  induction w with
  | zero => rfl
  | succ w ih => simp [bitsOf, ih]

theorem bitsOf_congr {w x y : Nat} (h : ∀ i < w, x.testBit i = y.testBit i) :
    bitsOf w x = bitsOf w y := by
  induction w with
  | zero => rfl
  | succ w ih =>
    simp only [bitsOf, h w (Nat.lt_succ_self w), ih fun i hi => h i (Nat.lt_succ_of_lt hi)]

theorem testBit_eq_of_bitsOf_eq {w x y : Nat} (h : bitsOf w x = bitsOf w y) :
    ∀ i < w, x.testBit i = y.testBit i := by
  induction w with
  | zero => intro i hi; omega
  | succ w ih =>
    simp only [bitsOf, List.cons.injEq] at h
    intro i hi
    rcases Nat.lt_succ_iff_lt_or_eq.mp hi with hi | rfl
    · exact ih h.2 i hi
    · exact h.1

/-- Below `2 ^ w`, a number is its `w` low bits. -/
theorem eq_of_bitsOf_eq {w x y : Nat} (hx : x < 2 ^ w) (hy : y < 2 ^ w)
    (h : bitsOf w x = bitsOf w y) : x = y := by
  apply Nat.eq_of_testBit_eq
  intro i
  by_cases hi : i < w
  · exact testBit_eq_of_bitsOf_eq h i hi
  · have hw : 2 ^ w ≤ 2 ^ i := Nat.pow_le_pow_right (by decide) (by omega)
    rw [Nat.testBit_lt_two_pow (by omega), Nat.testBit_lt_two_pow (by omega)]

theorem bitsOf_add (a b x : Nat) : bitsOf (a + b) x = bitsOf a (x >>> b) ++ bitsOf b x := by
  induction a with
  | zero => simp [bitsOf]
  | succ a ih =>
    rw [Nat.add_right_comm, bitsOf, ih, bitsOf, Nat.testBit_shiftRight, Nat.add_comm b a]
    rfl

theorem bitsOf_mod (w x : Nat) : bitsOf w (x % 2 ^ w) = bitsOf w x :=
  bitsOf_congr fun i hi => by simp [hi]

theorem bitsOf_mask (w x : Nat) : bitsOf w (x &&& ((1 <<< w) - 1)) = bitsOf w x := by
  rw [Nat.one_shiftLeft, Nat.and_pow_two_sub_one_eq_mod, bitsOf_mod]

theorem bitsOf_zero (w : Nat) : bitsOf w 0 = List.replicate w false := by
  induction w with
  | zero => rfl
  | succ w ih => simp [bitsOf, ih, List.replicate_succ]

/-- Shifting `acc` up by `f` bits and putting an `f` bit value below it appends the bits. -/
theorem bitsOf_shiftLeft_or {acc v : Nat} (b f : Nat) (hv : v >>> f = 0) :
    bitsOf (b + f) ((acc <<< f) ||| v) = bitsOf b acc ++ bitsOf f v := by
  have hhigh : ((acc <<< f) ||| v) >>> f = acc := by
    apply Nat.eq_of_testBit_eq
    intro i
    have hvi : v.testBit (f + i) = false := by simpa using congrArg (Nat.testBit · i) hv
    simp [hvi]
  rw [bitsOf_add, hhigh]
  congr 1
  exact bitsOf_congr fun i hi => by simp [Nat.not_le.mpr hi]

theorem mask_lt (x w : Nat) : x &&& ((1 <<< w) - 1) < 2 ^ w := by
  rw [Nat.one_shiftLeft, Nat.and_pow_two_sub_one_eq_mod]
  exact Nat.mod_lt _ (Nat.two_pow_pos w)

/-- The inner loop of `convert_bits` moves whole groups from the accumulator to the
output, and stops with fewer than `toBits` bits left. -/
theorem emitGroups_spec {toBits : Nat} (acc : Nat) (hto : 0 < toBits) :
    ∀ fuel bits ret, bits ≤ fuel → (∀ g ∈ ret, g < 2 ^ toBits) →
      (emitGroups toBits acc fuel bits ret).1.flatMap (bitsOf toBits) ++
          bitsOf (emitGroups toBits acc fuel bits ret).2 acc =
        ret.flatMap (bitsOf toBits) ++ bitsOf bits acc ∧
      (emitGroups toBits acc fuel bits ret).2 < toBits ∧
      ∀ g ∈ (emitGroups toBits acc fuel bits ret).1, g < 2 ^ toBits := by
  intro fuel
  induction fuel with
  | zero =>
    intro bits ret hbits hret
    obtain rfl : bits = 0 := by omega
    exact ⟨rfl, hto, hret⟩
  | succ fuel ih =>
    intro bits ret hbits hret
    simp only [emitGroups]
    split_ifs with h
    · have hgroup := mask_lt (acc >>> (bits - toBits)) toBits
      obtain ⟨hbits', hlt, hgroups⟩ := ih (bits - toBits)
        (ret ++ [(acc >>> (bits - toBits)) &&& ((1 <<< toBits) - 1)]) (by omega)
        (fun g hg => by
          rcases List.mem_append.mp hg with hg | hg
          · exact hret g hg
          · rw [List.mem_singleton.mp hg]; exact hgroup)
      refine ⟨hbits'.trans ?_, hlt, hgroups⟩
      have hsplit := bitsOf_add toBits (bits - toBits) acc
      rw [Nat.add_sub_cancel' h.2] at hsplit
      simp [hsplit, bitsOf_mask]
    · exact ⟨rfl, by omega, hret⟩

/-- The loop of `convert_bits` over values of `fromBits` bits succeeds, and afterwards the
groups emitted and the bits left spell the bits of everything read. -/
theorem convertBitsLoop_spec (fromBits toBits : Nat) (hto : 0 < toBits) :
    ∀ (data : List Nat) acc bits ret, bits < toBits → (∀ g ∈ ret, g < 2 ^ toBits) →
      (∀ v ∈ data, v >>> fromBits = 0) →
      ∃ acc' bits' ret', convertBitsLoop fromBits toBits data acc bits ret = .ok (acc', bits', ret') ∧
        ret'.flatMap (bitsOf toBits) ++ bitsOf bits' acc' =
          ret.flatMap (bitsOf toBits) ++ bitsOf bits acc ++ data.flatMap (bitsOf fromBits) ∧
        bits' < toBits ∧ ∀ g ∈ ret', g < 2 ^ toBits := by
  intro data
  induction data with
  | nil => intro acc bits ret hbits hret _; exact ⟨acc, bits, ret, rfl, by simp, hbits, hret⟩
  | cons v data ih =>
    intro acc bits ret hbits hret hdata
    have hv := hdata v (List.mem_cons_self v data)
    obtain ⟨hemit, hlt, hgroups⟩ := emitGroups_spec ((acc <<< fromBits) ||| v) hto
      (bits + fromBits) (bits + fromBits) ret le_rfl hret
    obtain ⟨acc', bits', ret', hloop, hspec, hlt', hgroups'⟩ := ih _ _ _ hlt hgroups
      fun w hw => hdata w (List.mem_cons_of_mem v hw)
    refine ⟨acc', bits', ret', ?_, ?_, hlt', hgroups'⟩
    · simpa [convertBitsLoop, hv] using hloop
    · rw [hspec, hemit, bitsOf_shiftLeft_or bits fromBits hv]
      simp

theorem length_flatMap_bitsOf (w : Nat) (xs : List Nat) :
    (xs.flatMap (bitsOf w)).length = xs.length * w := by
  induction xs with
  | nil => simp
  | cons x xs ih => simp [ih, Nat.succ_mul, Nat.add_comm]

/-- A list of values below `2 ^ w` is determined by its bits. -/
theorem eq_of_flatMap_bitsOf_eq {w : Nat} (hw : 0 < w) :
    ∀ {xs ys : List Nat}, (∀ x ∈ xs, x < 2 ^ w) → (∀ y ∈ ys, y < 2 ^ w) →
      xs.flatMap (bitsOf w) = ys.flatMap (bitsOf w) → xs = ys
  | [], [], _, _, _ => rfl
  | [], y :: ys, _, _, h => by have := congrArg List.length h; simp at this; omega
  | x :: xs, [], _, _, h => by have := congrArg List.length h; simp at this; omega
  | x :: xs, y :: ys, hx, hy, h => by
    simp only [List.flatMap_cons] at h
    obtain ⟨hhead, htail⟩ := List.append_inj h (by simp)
    rw [eq_of_bitsOf_eq (hx x (List.mem_cons_self x xs)) (hy y (List.mem_cons_self y ys)) hhead,
      eq_of_flatMap_bitsOf_eq hw (fun a ha => hx a (List.mem_cons_of_mem x ha))
        (fun a ha => hy a (List.mem_cons_of_mem y ha)) htail]

theorem shiftRight_eq_zero_of_lt {v w : Nat} (h : v < 2 ^ w) : v >>> w = 0 := by
  rw [Nat.shiftRight_eq_div_pow, Nat.div_eq_of_lt h]

/-- The last, padded group of `convert_bits`: the bits left, then zeros. -/
theorem bitsOf_padGroup (acc bits toBits : Nat) (h : bits ≤ toBits) :
    bitsOf toBits ((acc <<< (toBits - bits)) &&& ((1 <<< toBits) - 1)) =
      bitsOf bits acc ++ List.replicate (toBits - bits) false := by
  have hsplit := @bitsOf_shiftLeft_or acc 0 bits (toBits - bits) (Nat.zero_shiftRight _)
  rw [Nat.add_sub_cancel' h, Nat.or_zero] at hsplit
  rw [bitsOf_mask, hsplit, bitsOf_zero]

/-- `to_base32` of bytes: five bit groups that spell the bits of the bytes and fewer than
five padding zeros. -/
theorem toBase32_spec (bytes : List UInt8) :
    (∀ g ∈ toBase32 bytes, g < 2 ^ 5) ∧ ∃ k < 5, (toBase32 bytes).flatMap (bitsOf 5) =
      (bytes.map UInt8.toNat).flatMap (bitsOf 8) ++ List.replicate k false := by
  have hin : ∀ v ∈ bytes.map UInt8.toNat, v >>> 8 = 0 := by
    simp only [List.mem_map]
    rintro _ ⟨b, -, rfl⟩
    exact shiftRight_eq_zero_of_lt b.toNat_lt_size
  obtain ⟨acc, bits, ret, hloop, hspec, hbits, hret⟩ :=
    convertBitsLoop_spec 8 5 (by decide) (bytes.map UInt8.toNat) 0 0 [] (by decide) (by simp) hin
  simp only [List.flatMap_nil, bitsOf_width_zero, List.nil_append] at hspec
  have hconv : toBase32 bytes =
      if 0 < bits then ret ++ [(acc <<< (5 - bits)) &&& ((1 <<< 5) - 1)] else ret := by
    simp [toBase32, convertBits, hloop]
  rw [hconv]
  by_cases h0 : 0 < bits
  · rw [if_pos h0, List.flatMap_append, List.flatMap_singleton,
      bitsOf_padGroup acc bits 5 hbits.le, ← hspec]
    refine ⟨fun g hg => ?_, 5 - bits, by omega, by simp⟩
    rcases List.mem_append.mp hg with hg | hg
    · exact hret g hg
    · rw [List.mem_singleton.mp hg]; exact mask_lt _ 5
  · obtain rfl : bits = 0 := by omega
    exact ⟨hret, 0, by decide, by simp [← hspec]⟩

/-- Regrouping bytes into five bit values and back gives the bytes. -/
theorem fromBase32_toBase32 (bytes : List UInt8) : fromBase32 (toBase32 bytes) = .ok bytes := by
  obtain ⟨hgroupLt, k, hk, hgroupBits⟩ := toBase32_spec bytes
  -- regrouping the groups into bytes
  obtain ⟨acc', bits', ret', hloop', hspec', hbits', hret'⟩ :=
    convertBitsLoop_spec 5 8 (by decide) (toBase32 bytes) 0 0 [] (by decide) (by simp)
      fun v hv => shiftRight_eq_zero_of_lt (hgroupLt v hv)
  simp only [List.flatMap_nil, bitsOf_width_zero, List.nil_append, hgroupBits] at hspec'
  have hlen := congrArg List.length hspec'
  simp only [List.length_append, length_flatMap_bitsOf, length_bitsOf, List.length_replicate,
    List.length_map] at hlen
  have hlenRet : ret'.length = bytes.length := by omega
  obtain rfl : bits' = k := by omega
  obtain ⟨hbody, hpad⟩ := List.append_inj hspec'
    (by rw [length_flatMap_bitsOf, length_flatMap_bitsOf, List.length_map, hlenRet])
  have hbytes : ret' = bytes.map UInt8.toNat :=
    eq_of_flatMap_bitsOf_eq (by decide) hret' (by simp [UInt8.toNat_lt_size]) hbody
  have hzero : (acc' <<< (8 - bits')) &&& ((1 <<< 8) - 1) = 0 := by
    refine eq_of_bitsOf_eq (mask_lt _ 8) (by decide : 0 < 2 ^ 8) ?_
    rw [bitsOf_padGroup acc' bits' 8 (by omega), hpad, bitsOf_zero, List.append_replicate_replicate,
      Nat.add_sub_cancel' (by omega)]
  have hzero' : (acc' <<< (8 - bits')) &&& 255 = 0 := hzero
  simp [fromBase32, convertBits, hloop', hzero', hbytes, Nat.not_le.mpr hk, Function.comp_def]
  rfl

/-! ## The checksum -/

theorem shiftLeft_xor (a b n : Nat) : (a ^^^ b) <<< n = (a <<< n) ^^^ (b <<< n) :=
  Nat.eq_of_testBit_eq fun i => by simp [Bool.and_xor_distrib_left]

theorem shiftRight_xor (a b n : Nat) : (a ^^^ b) >>> n = (a >>> n) ^^^ (b >>> n) :=
  Nat.eq_of_testBit_eq fun i => by simp

/-- Shifting up by `n` and putting an `n` bit value below is adding. -/
theorem shiftLeft_xor_eq_add (x v n : Nat) (hv : v < 2 ^ n) : (x <<< n) ^^^ v = x * 2 ^ n + v := by
  apply Nat.eq_of_testBit_eq
  intro i
  rw [Nat.mul_comm, Nat.testBit_mul_pow_two_add x hv, Nat.testBit_xor, Nat.testBit_shiftLeft]
  by_cases hi : i < n
  · simp [hi, Nat.not_le.mpr hi]
  · have hvi : v.testBit i = false :=
      Nat.testBit_lt_two_pow (Nat.lt_of_lt_of_le hv (Nat.pow_le_pow_right (by decide) (by omega)))
    simp [hi, hvi, Nat.not_lt.mp hi]

/-- Whether bit `i` of `b` selects the generator `g`. -/
theorem select_xor (a b i g z : Nat) :
    (if ((a ^^^ b) >>> i) &&& 1 = 1 then z ^^^ g else z) =
      z ^^^ (if (a >>> i) &&& 1 = 1 then g else 0) ^^^ (if (b >>> i) &&& 1 = 1 then g else 0) := by
  have hbit : ∀ x, ((x >>> i) &&& 1 = 1) ↔ x.testBit i = true := fun x => by
    simp [Nat.testBit_to_div_mod, Nat.shiftRight_eq_div_pow]
  simp only [hbit, Nat.testBit_xor]
  cases a.testBit i <;> cases b.testBit i <;> simp [Nat.xor_assoc]

/-- The xor of the generators selected by a xor of two values is the xor of the two
selections. -/
theorem genXor_xor (a b : Nat) : genXor (a ^^^ b) = genXor a ^^^ genXor b := by
  suffices ∀ (items : List (Nat × Nat)) (x y : Nat),
      items.foldl (fun chk item => if ((a ^^^ b) >>> item.1) &&& 1 = 1 then chk ^^^ item.2 else chk)
          (x ^^^ y) =
        items.foldl (fun chk item => if (a >>> item.1) &&& 1 = 1 then chk ^^^ item.2 else chk) x ^^^
        items.foldl (fun chk item => if (b >>> item.1) &&& 1 = 1 then chk ^^^ item.2 else chk) y by
    have h := this ((List.range 5).zip gen) 0 0
    rw [Nat.xor_zero] at h
    exact h
  intro items
  induction items with
  | nil => intro x y; rfl
  | cons item items ih =>
    intro x y
    rw [List.foldl_cons, List.foldl_cons, List.foldl_cons, select_xor, ← ih]
    congr 1
    split_ifs <;> simp only [Nat.xor_zero, Nat.xor_assoc] <;> ac_rfl

/-- One step of `polymod` is linear in the register and the value fed. -/
theorem polymodStep_xor (a b v w : Nat) :
    polymodStep (a ^^^ b) (v ^^^ w) = polymodStep a v ^^^ polymodStep b w := by
  simp only [polymodStep, Nat.and_xor_distrib_right, shiftLeft_xor, shiftRight_xor, genXor_xor]
  ac_rfl

theorem foldl_polymodStep_xor : ∀ (vs ws : List Nat), vs.length = ws.length → ∀ a b,
    (List.zipWith (· ^^^ ·) vs ws).foldl polymodStep (a ^^^ b) =
      vs.foldl polymodStep a ^^^ ws.foldl polymodStep b
  | [], [], _, _, _ => rfl
  | v :: vs, w :: ws, h, a, b => by
    simp only [List.zipWith_cons_cons, List.foldl_cons]
    rw [polymodStep_xor]
    exact foldl_polymodStep_xor vs ws (by simpa using h) _ _

theorem genXor_lt (b : Nat) : genXor b < 2 ^ 30 := by
  suffices ∀ (items : List (Nat × Nat)) x, x < 2 ^ 30 → (∀ item ∈ items, item.2 < 2 ^ 30) →
      items.foldl (fun chk item => if (b >>> item.1) &&& 1 = 1 then chk ^^^ item.2 else chk) x <
        2 ^ 30 from this _ 0 (by decide) (by decide)
  intro items
  induction items with
  | nil => intro x hx _; exact hx
  | cons item items ih =>
    intro x hx hitems
    rw [List.foldl_cons]
    refine ih _ ?_ fun i hi => hitems i (List.mem_cons_of_mem _ hi)
    split_ifs
    · exact Nat.xor_lt_two_pow hx (hitems item (List.mem_cons_self _ _))
    · exact hx

/-- The register stays within thirty bits. -/
theorem polymodStep_lt (chk v : Nat) (hv : v < 2 ^ 30) : polymodStep chk v < 2 ^ 30 := by
  have hlow : (chk &&& 0x1ffffff) <<< 5 < 2 ^ 30 := by
    rw [Nat.shiftLeft_eq]
    have := Nat.and_le_right (n := chk) (m := 0x1ffffff)
    omega
  exact Nat.xor_lt_two_pow (Nat.xor_lt_two_pow hlow hv) (genXor_lt _)

/-- Below twenty five bits nothing is reduced: a step shifts the register and appends. -/
theorem polymodStep_of_lt {chk v : Nat} (hchk : chk < 2 ^ 25) (hv : v < 32) :
    polymodStep chk v = chk * 32 + v := by
  have hmask : chk &&& 0x1ffffff = chk :=
    (Nat.and_pow_two_sub_one_eq_mod chk 25).trans (Nat.mod_eq_of_lt hchk)
  have hhigh : chk >>> 25 = 0 := shiftRight_eq_zero_of_lt hchk
  rw [polymodStep, hmask, hhigh, shiftLeft_xor_eq_add chk v 5 hv,
    show genXor 0 = 0 from rfl, Nat.xor_zero, show (2 : Nat) ^ 5 = 32 by decide]

/-- The groups of five bits of `plm` from the top: after the first `n` of six the register
holds `plm` without its last `6 - n` groups. -/
theorem foldl_polymodStep_groups_take (plm : Nat) (h : plm < 2 ^ 30) :
    ∀ n ≤ 6, ((List.range n).map fun p => (plm >>> (5 * (5 - p))) &&& 0x1f).foldl polymodStep 0 =
      plm >>> (5 * (6 - n))
  | 0, _ => (shiftRight_eq_zero_of_lt h).symm
  | n + 1, hn => by
    rw [List.range_succ, List.map_append, List.foldl_append,
      foldl_polymodStep_groups_take plm h n (by omega), List.map_singleton, List.foldl_cons,
      List.foldl_nil, show 5 * (6 - n) = 5 * (5 - n) + 5 by omega,
      show 5 * (6 - (n + 1)) = 5 * (5 - n) by omega, Nat.shiftRight_add]
    have hlt : plm >>> (5 * (5 - n)) >>> 5 < 2 ^ 25 := by
      rw [← Nat.shiftRight_add, Nat.add_comm, Nat.shiftRight_add, Nat.shiftRight_eq_div_pow,
        Nat.shiftRight_eq_div_pow]
      exact Nat.lt_of_le_of_lt (Nat.div_le_self _ _)
        (Nat.div_lt_of_lt_mul (by simpa [← Nat.pow_add] using h))
    have hmod : plm >>> (5 * (5 - n)) &&& 31 = plm >>> (5 * (5 - n)) % 32 :=
      Nat.and_pow_two_sub_one_eq_mod _ 5
    have hdiv : plm >>> (5 * (5 - n)) >>> 5 = plm >>> (5 * (5 - n)) / 32 :=
      Nat.shiftRight_eq_div_pow _ 5
    rw [polymodStep_of_lt hlt (Nat.lt_of_le_of_lt Nat.and_le_right (by decide)), hmod, hdiv]
    exact Nat.div_add_mod' _ _

/-- Six groups of five bits fed to an empty register rebuild the number they were cut
from. -/
theorem foldl_polymodStep_groups (plm : Nat) (h : plm < 2 ^ 30) :
    ((List.range 6).map fun p => (plm >>> (5 * (5 - p))) &&& 0x1f).foldl polymodStep 0 = plm :=
  foldl_polymodStep_groups_take plm h 6 le_rfl

theorem zipWith_xor_replicate_zero : ∀ (c : List Nat),
    List.zipWith (· ^^^ ·) (List.replicate c.length 0) c = c
  | [] => rfl
  | x :: c => by
    simp only [List.length_cons, List.replicate_succ, List.zipWith_cons_cons, Nat.zero_xor]
    rw [zipWith_xor_replicate_zero c]

/-- The checksum `encode` appends is accepted by `decode`, with the variant it was made
for. -/
theorem verifyChecksum_createChecksum (hrp : List Char) (data : List Nat) (variant : Variant) :
    verifyChecksum hrp (data ++ createChecksum hrp data variant) = some variant := by
  let start := (hrpExpand hrp ++ data).foldl polymodStep 1
  let zeros := (List.replicate 6 0).foldl polymodStep start
  have hzeros : zeros < 2 ^ 30 := by
    simp only [zeros, List.replicate, List.foldl]
    exact polymodStep_lt _ _ (by decide)
  have hconst : variant.constant < 2 ^ 30 := by cases variant <;> decide
  have hlength : (createChecksum hrp data variant).length = 6 := by simp [createChecksum]
  have hlin := foldl_polymodStep_xor (List.replicate 6 0) (createChecksum hrp data variant)
    (by simp [hlength]) start 0
  rw [Nat.xor_zero, ← hlength, zipWith_xor_replicate_zero, hlength] at hlin
  have hchecksum : createChecksum hrp data variant =
      (List.range 6).map fun p => ((zeros ^^^ variant.constant) >>> (5 * (5 - p))) &&& 0x1f := by
    simp [createChecksum, polymod, List.foldl_append, zeros, start]
  have hfold : (createChecksum hrp data variant).foldl polymodStep 0 = zeros ^^^ variant.constant := by
    rw [hchecksum, foldl_polymodStep_groups _ (Nat.xor_lt_two_pow hzeros hconst)]
  have hall : (hrpExpand hrp ++ (data ++ createChecksum hrp data variant)).foldl polymodStep 1 =
      (createChecksum hrp data variant).foldl polymodStep start := by
    simp [start, List.foldl_append]
  rw [verifyChecksum, polymod, hall, hlin, hfold, ← Nat.xor_assoc, Nat.xor_self, Nat.zero_xor]
  cases variant <;> rfl

/-! ## Decoding what was encoded -/

/-- Every letter of the alphabet is a lower case letter or a digit other than the
separator, and reads back as its position. -/
theorem charset_getD (v : Nat) (hv : v < 32) :
    charset.getD v 'q' ≠ '1' ∧ (charset.getD v 'q').toNat < 128 ∧
      (charset.getD v 'q').isUpper = false ∧ charsetRev (charset.getD v 'q') = some v := by
  have hall : ∀ v : Fin 32, charset.getD v 'q' ≠ '1' ∧ (charset.getD v 'q').toNat < 128 ∧
      (charset.getD v 'q').isUpper = false ∧ charsetRev (charset.getD v 'q') = some v := by
    decide
  exact hall ⟨v, hv⟩

theorem Case.update_lower {c : Char} (h : c.isUpper = false) : Case.update .lower c = .ok .lower := by
  unfold Case.update
  split_ifs <;> simp_all

theorem decodeData_map : ∀ data : List Nat, (∀ v ∈ data, v < 32) →
    decodeData (data.map (charset.getD · 'q')) .lower = .ok data
  | [], _ => rfl
  | v :: data, h => by
    obtain ⟨-, hascii, hupper, hrev⟩ := charset_getD v (h v (List.mem_cons_self v data))
    rw [List.map_cons, decodeData, if_neg (Nat.not_le.mpr hascii)]
    simp only [Case.update_lower hupper, hrev,
      decodeData_map data fun w hw => h w (List.mem_cons_of_mem v hw)]
    rfl

/-- The last separator of a string is the one before a part without separators. -/
theorem splitAtSeparator_append (pre post : List Char) (h : '1' ∉ post) :
    splitAtSeparator (pre ++ '1' :: post) = some (pre, post) := by
  have hpost : ∀ c ∈ post.reverse, decide (c ≠ '1') = true := by
    intro c hc
    simpa using fun hc1 : c = '1' => h (hc1 ▸ List.mem_reverse.mp hc)
  have hspan : (pre ++ '1' :: post).reverse.span (· ≠ '1') = (post.reverse, '1' :: pre.reverse) := by
    rw [List.span_eq_take_drop, List.reverse_append, List.reverse_cons, List.append_assoc,
      List.singleton_append, List.takeWhile_append_of_pos hpost, List.dropWhile_append_of_pos hpost]
    simp
  simp only [splitAtSeparator, hspan, List.reverse_reverse]

theorem createChecksum_lt (hrp : List Char) (data : List Nat) (variant : Variant) :
    ∀ v ∈ createChecksum hrp data variant, v < 32 := by
  simp only [createChecksum, List.mem_map]
  rintro _ ⟨p, -, rfl⟩
  exact Nat.lt_of_le_of_lt Nat.and_le_right (by decide)

theorem encode_of_lower {hrp : String} (hhrp : checkHrp hrp.data = .ok .lower)
    (data : List Nat) (variant : Variant) :
    encode hrp data variant = .ok ⟨hrp.data ++ '1' ::
      (data ++ createChecksum hrp.data data variant).map (charset.getD · 'q')⟩ := by
  simp [encode, hhrp]

/-- A string that `encode` writes under a lower case human readable part decodes to that
part, the data and the variant. -/
theorem decode_of_encode {hrp : String} (hhrp : checkHrp hrp.data = .ok .lower)
    {data : List Nat} (hdata : ∀ v ∈ data, v < 32) (variant : Variant) :
    decode ⟨hrp.data ++ '1' ::
        (data ++ createChecksum hrp.data data variant).map (charset.getD · 'q')⟩ =
      .ok (hrp, data, variant) := by
  have hvalues : ∀ v ∈ data ++ createChecksum hrp.data data variant, v < 32 := by
    intro v hv
    rcases List.mem_append.mp hv with hv | hv
    · exact hdata v hv
    · exact createChecksum_lt _ _ _ v hv
  have hsep : '1' ∉ (data ++ createChecksum hrp.data data variant).map (charset.getD · 'q') := by
    simp only [List.mem_map, not_exists, not_and]
    exact fun v hv => (charset_getD v (hvalues v hv)).1
  have hsplit : splitAndDecode (hrp.data ++ '1' ::
      (data ++ createChecksum hrp.data data variant).map (charset.getD · 'q')) =
        .ok (hrp.data, data ++ createChecksum hrp.data data variant) := by
    rw [splitAndDecode, splitAtSeparator_append _ _ hsep]
    simp only [hhrp, Except.ok_bind, decodeData_map _ hvalues]
    rfl
  have hlength : (createChecksum hrp.data data variant).length = 6 := by simp [createChecksum]
  simp only [decode, hsplit, Except.ok_bind]
  simp [hlength, verifyChecksum_createChecksum]
  rfl

/-- The bech32 round trip: under a lower case human readable part, `encode` succeeds, its
string starts with that part, and `decode` gives back the part, the data and the variant. -/
theorem decode_encode {hrp : String} (hhrp : checkHrp hrp.data = .ok .lower)
    {data : List Nat} (hdata : ∀ v ∈ data, v < 32) (variant : Variant) :
    ∃ s, encode hrp data variant = .ok s ∧ decode s = .ok (hrp, data, variant) ∧
      hrp.data <+: s.data :=
  ⟨_, encode_of_lower hhrp data variant, decode_of_encode hhrp hdata variant,
    List.prefix_append _ _⟩

end Bech32
end RadixWalletKit
