import TickBound.Number.Real

/-!
# Order of floating-point values

Not-a-number compares with nothing, and any other value that is not zero or less is above zero. Which
operations lead to not-a-number is read off their definition on unpacked values; a magnitude with a sign
is never one.
-/

namespace TickBound

namespace Number

open Float.Model (UnpackedFloat Format)
open Float.Model.UnpackedFloat

/-! ## Unpacked values -/

theorem isNaN_iff_unpack {x : Float} : x.isNaN = true ↔ x.toModel.unpack = .notANumber := by
  change x.toModel.unpack.isNaN = true ↔ _
  cases x.toModel.unpack with
  | notANumber => exact iff_of_true rfl rfl
  | infinity s | zero s | finite s m e pos => exact iff_of_false Bool.false_ne_true nofun

theorem le_iff_unpack {x y : Float} : x ≤ y ↔ x.toModel.unpack.le y.toModel.unpack = true :=
  decide_eq_true_iff

theorem lt_iff_unpack {x y : Float} : x < y ↔ x.toModel.unpack.lt y.toModel.unpack = true :=
  decide_eq_true_iff

theorem unpack_zero : (0 : Float).toModel.unpack = .zero .positive := by
  rfl

/-- A choice between numbers is a number. -/
theorem dite_isNumber {p : Prop} [Decidable p] {u : p → UnpackedFloat} {v : ¬ p → UnpackedFloat}
    (left : ∀ h, ¬ (u h).isNaN) (right : ∀ h, ¬ (v h).isNaN) : ¬ (dite p u v).isNaN := by
  by_cases h : p
  · rw [dif_pos h]
    exact left h
  · rw [dif_neg h]
    exact right h

theorem ite_isNumber {p : Prop} [Decidable p] {u v : UnpackedFloat} (left : p → ¬ u.isNaN)
    (right : ¬ p → ¬ v.isNaN) : ¬ (ite p u v).isNaN :=
  dite_isNumber left right

/-- Only fields that are all ones and a rest unpack to not-a-number. -/
theorem unpack_isNumber {spec : Format} {b : BitVec spec.numBits}
    (fine : unpackExponent b = -1#_ → unpackMantissa b = 0#_) :
    ¬ (unpack spec b).isNaN := by
  unfold unpack
  apply ite_isNumber
  · intro ones
    rw [if_pos (fine ones)]
    exact Bool.false_ne_true
  · intro _
    apply ite_isNumber
    · exact fun _ => dite_isNumber (fun _ => Bool.false_ne_true) fun _ => Bool.false_ne_true
    · exact fun _ => Bool.false_ne_true

/-- Packing makes no value into not-a-number. -/
theorem pack_isNumber {u : UnpackedFloat} (number : ¬ u.isNaN) :
    ¬ (Float.ofModel (Float.Model.pack u)).isNaN := by
  have fields (sign : Sign) (exponent : BitVec 11) (mantissa : BitVec 52)
      (fine : exponent = -1#11 → mantissa = 0#52) :
      ¬ (unpack Format.binary64 (packComponents .binary64 sign exponent mantissa)).isNaN := by
    apply unpack_isNumber
    rw [unpackExponent_packComponents, unpackMantissa_packComponents]
    exact fine
  change ¬ (unpack Format.binary64 (UnpackedFloat.pack .binary64 u)).isNaN
  cases u with
  | notANumber => exact absurd rfl number
  | infinity s => exact fields s _ _ fun _ => rfl
  | zero s => exact fields s _ _ fun ones => absurd ones (by decide)
  | finite s m e pos =>
      unfold UnpackedFloat.pack
      extract_lets bits biased
      split
      · exact fields s _ _ fun _ => rfl
      · next small =>
          split
          · apply fields
            intro ones
            have same := congrArg BitVec.toNat ones
            simp only [BitVec.toNat_ofNat, Nat.reducePow, BitVec.reduceNeg, Nat.mod_succ] at same
            simp only [Nat.reducePow, Nat.not_le] at small
            omega
          · exact fields s _ _ fun ones => absurd ones (by decide)

/-! ## Order -/

theorem not_le_of_isNaN {x y : Float} (h : x.isNaN = true) : ¬ x ≤ y := by
  rw [isNaN_iff_unpack] at h
  rw [le_iff_unpack, h]
  cases y.toModel.unpack <;> exact Bool.false_ne_true

theorem not_lt_of_isNaN {x y : Float} (h : y.isNaN = true) : ¬ x < y := by
  rw [isNaN_iff_unpack] at h
  rw [lt_iff_unpack, h]
  cases x.toModel.unpack <;> exact Bool.false_ne_true

theorem le_self_of_isNumber {x : Float} (h : ¬ x.isNaN) : x ≤ x := by
  rw [isNaN_iff_unpack] at h
  rw [le_iff_unpack]
  generalize x.toModel.unpack = u at h
  cases u with
  | notANumber => exact absurd rfl h
  | infinity s => cases s <;> rfl
  | zero s => cases s <;> rfl
  | finite s m e pos =>
      have same : (compare e e).then (compare m m) = .eq := by simp
      cases s with
      | positive => exact congrArg Ordering.isLE same
      | negative => exact congrArg (fun found => found.swap.isLE) same

/-- A value that is not zero or less is above zero, unless it is no number. -/
theorem not_le_zero {x : Float} : ¬ x ≤ 0 ↔ x.isNaN = true ∨ 0 < x := by
  rw [isNaN_iff_unpack, le_iff_unpack, lt_iff_unpack, unpack_zero]
  cases x.toModel.unpack with
  | notANumber => exact iff_of_true Bool.false_ne_true (.inl rfl)
  | zero s => exact iff_of_false (not_not_intro rfl) (not_or.mpr ⟨nofun, Bool.false_ne_true⟩)
  | infinity s | finite s m e pos =>
      cases s with
      | positive => exact iff_of_true Bool.false_ne_true (.inr rfl)
      | negative => exact iff_of_false (not_not_intro rfl) (not_or.mpr ⟨nofun, Bool.false_ne_true⟩)

/-- A value above zero is infinite or finite, without a minus. -/
theorem unpack_of_pos {x : Float} (h : 0 < x) :
    x.toModel.unpack = .infinity .positive ∨
      ∃ m e pos, x.toModel.unpack = .finite .positive m e pos := by
  rw [lt_iff_unpack, unpack_zero] at h
  generalize x.toModel.unpack = u at h
  cases u with
  | notANumber | zero s => exact absurd h Bool.false_ne_true
  | infinity s =>
      cases s with
      | positive => exact .inl rfl
      | negative => exact absurd h Bool.false_ne_true
  | finite s m e pos =>
      cases s with
      | positive => exact .inr ⟨m, e, pos, rfl⟩
      | negative => exact absurd h Bool.false_ne_true

/-! ## Operations -/

theorem roundWithAccuracy_isNumber (spec : Format) (s : Sign) (m : Nat) (e : Int) (acc : Accuracy) :
    ¬ (roundWithAccuracy spec s m e acc).isNaN := by
  unfold roundWithAccuracy
  exact dite_isNumber (fun _ => Bool.false_ne_true) fun _ => Bool.false_ne_true

theorem normalize_isNumber (spec : Format) (m : Int) (e : Int) (s : Sign) :
    ¬ (UnpackedFloat.normalize spec m e s).isNaN := by
  unfold UnpackedFloat.normalize
  split
  · exact roundWithAccuracy_isNumber _ _ _ _ _
  · exact Bool.false_ne_true
  · exact roundWithAccuracy_isNumber _ _ _ _ _

/-- Nothing above zero makes a finite value into not-a-number. -/
theorem add_isNumber {x y : Float} (finite : x.isFinite = true) (pos : 0 < y) : ¬ (x + y).isNaN := by
  have finite' : x.toModel.unpack.isFinite = true := finite
  change ¬ (Float.ofModel (Float.Model.pack
    (UnpackedFloat.add .binary64 x.toModel.unpack y.toModel.unpack))).isNaN = true
  apply pack_isNumber
  cases unpacked : x.toModel.unpack with
  | notANumber | infinity s =>
      rw [unpacked] at finite'
      cases finite'
  | zero s =>
      rcases unpack_of_pos pos with infinite | ⟨n, f, pos', finite⟩
      · rw [infinite]
        exact Bool.false_ne_true
      · rw [finite]
        exact Bool.false_ne_true
  | finite s m e pos'' =>
      rcases unpack_of_pos pos with infinite | ⟨n, f, pos', finite⟩
      · rw [infinite]
        exact Bool.false_ne_true
      · rw [finite]
        exact normalize_isNumber _ _ _ _

theorem isNaN_add_of_isNaN {x y : Float} (h : y.isNaN = true) : (x + y).isNaN = true := by
  rw [isNaN_iff_unpack] at h
  have sum : UnpackedFloat.add .binary64 x.toModel.unpack y.toModel.unpack = .notANumber := by
    rw [h]
    cases x.toModel.unpack <;> rfl
  change (Float.Model.pack
    (UnpackedFloat.add .binary64 x.toModel.unpack y.toModel.unpack)).isNaN = true
  rw [sum]
  decide +kernel

/-! ## Magnitudes -/

theorem toNat_unpackExponent (b : BitVec 64) :
    (@unpackExponent .binary64 b).toNat = b.toNat / 0x10000000000000 % 0x800 := by
  simp [unpackExponent, Nat.shiftRight_eq_div_pow]

theorem toNat_unpackMantissa (b : BitVec 64) :
    (@unpackMantissa .binary64 b).toNat = b.toNat % 0x10000000000000 := by
  simp [unpackMantissa]

/-- Bits up to those of infinity are the bits of a number, with either sign. -/
theorem ofMagnitude_isNumber {negative : Bool} {bits : Nat} (within : bits ≤ infinityBits) :
    ¬ (ofMagnitude negative bits).isNaN := by
  refine pack_isNumber (unpack_isNumber fun ones => ?_)
  have field := congrArg BitVec.toNat ones
  change _ = 0x7FF at field
  apply BitVec.eq_of_toNat_eq
  change _ = 0
  rw [toNat_unpackExponent, UInt64.toNat_toBitVec, UInt64.toNat_ofNat'] at field
  rw [toNat_unpackMantissa, UInt64.toNat_toBitVec, UInt64.toNat_ofNat']
  unfold infinityBits at within
  cases negative with
  | false =>
      rw [if_neg Bool.false_ne_true] at field ⊢
      omega
  | true =>
      rw [if_pos rfl] at field ⊢
      omega

end Number

end TickBound
