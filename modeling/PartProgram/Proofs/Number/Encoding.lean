import PartProgram.Number.Power

namespace PartProgram.Number

open Float.Model UnpackedFloat

/-- What a sign, an exponent field and a fraction stand for. -/
inductive Decodes (sign : Sign) (field fraction : Nat) : UnpackedFloat → Prop
  | zero : field = 0 → fraction = 0 → Decodes sign field fraction (.zero sign)
  | subnormal (pos : 0 < fraction) : field = 0 →
    Decodes sign field fraction (.finite sign fraction (-1074) pos)
  | normal {mantissa : Nat} (pos : 0 < mantissa) : mantissa = 2 ^ (52 : Nat) + fraction →
    field ≠ 0 → field ≠ 2047 →
    Decodes sign field fraction (.finite sign mantissa (field - 1075) pos)
  | infinity : field = 2047 → fraction = 0 → Decodes sign field fraction (.infinity sign)
  | notANumber : field = 2047 → fraction ≠ 0 → Decodes sign field fraction .notANumber

theorem toNat_one_append (fraction : BitVec 52) :
    (1#1 ++ fraction).toNat = 2 ^ (52 : Nat) + fraction.toNat := by
  rw [BitVec.toNat_append, ← Nat.shiftLeft_add_eq_or_of_lt fraction.isLt]
  rfl

theorem decodes_unpack (b : BitVec Format.binary64.numBits) :
    Decodes (Sign.ofBitVec (unpackSign b)) (unpackExponent b).toNat (unpackMantissa b).toNat
      (UnpackedFloat.unpack .binary64 b) := by
  have ones : unpackExponent b = -1#_ ↔ (unpackExponent b).toNat = 2047 := by
    rw [← BitVec.toNat_inj]
    rfl
  have zeros : unpackExponent b = 0#_ ↔ (unpackExponent b).toNat = 0 := by
    rw [← BitVec.toNat_inj]
    rfl
  have blank : unpackMantissa b = 0#_ ↔ (unpackMantissa b).toNat = 0 := by
    rw [← BitVec.toNat_inj]
    rfl
  unfold UnpackedFloat.unpack
  dsimp only
  by_cases full : unpackExponent b = -1#_
  · rw [if_pos full]
    by_cases none : unpackMantissa b = 0#_
    · rw [if_pos none]
      exact .infinity (ones.mp full) (blank.mp none)
    · rw [if_neg none]
      exact .notANumber (ones.mp full) (mt blank.mpr none)
  · rw [if_neg full]
    by_cases low : unpackExponent b = 0#_
    · rw [if_pos low]
      by_cases none : unpackMantissa b = 0#_
      · rw [dif_pos none]
        exact .zero (zeros.mp low) (blank.mp none)
      · rw [dif_neg none]
        have field := zeros.mp low
        have exponent : ((unpackExponent b).toNat : Int) - ((Format.binary64.exponentBias : Nat) +
            (Format.binary64.mantissaBitsWithoutImplicit : Nat)) + 1 = -1074 := by
          rw [field]
          rfl
        rw [exponent]
        exact .subnormal _ field
    · rw [if_neg low]
      exact .normal _ (toNat_one_append _) (mt zeros.mpr low) (mt ones.mpr full)

theorem toBitVec_ofBitVec (v : BitVec 1) : (Sign.ofBitVec v).toBitVec = v := by
  revert v
  decide

/-- The fields of a word lie one behind the other in its bits. -/
theorem toNat_fields (b : BitVec Format.binary64.numBits) : b.toNat =
    (unpackSign b).toNat * 2 ^ (63 : Nat) + (unpackExponent b).toNat * 2 ^ (52 : Nat) +
      (unpackMantissa b).toNat := by
  have sign : (unpackSign b).toNat = (b.extractLsb 63 63).toNat := rfl
  have field : (unpackExponent b).toNat = (b.extractLsb 62 52).toNat := rfl
  have fraction : (unpackMantissa b).toNat = (b.extractLsb 51 0).toNat := rfl
  have width : b.toNat < 2 ^ (64 : Nat) := b.isLt
  rw [sign, field, fraction, BitVec.extractLsb_toNat, BitVec.extractLsb_toNat,
    BitVec.extractLsb_toNat, Nat.shiftRight_eq_div_pow, Nat.shiftRight_eq_div_pow,
    Nat.shiftRight_zero]
  omega

theorem toNat_packComponents (sign : Sign) (exponent : BitVec 11) (mantissa : BitVec 52) :
    (packComponents .binary64 sign exponent mantissa).toNat =
      sign.toBitVec.toNat * 2 ^ (63 : Nat) + exponent.toNat * 2 ^ (52 : Nat) + mantissa.toNat := by
  have joined : (packComponents .binary64 sign exponent mantissa).toNat =
      (sign.toBitVec ++ exponent ++ mantissa).toNat := rfl
  rw [joined, BitVec.toNat_append, BitVec.toNat_append,
    ← Nat.shiftLeft_add_eq_or_of_lt mantissa.isLt, ← Nat.shiftLeft_add_eq_or_of_lt exponent.isLt,
    Nat.shiftLeft_eq, Nat.shiftLeft_eq]
  omega

theorem exists_fields (x : Float) : ∃ (sign : Sign) (field fraction : Nat),
    field < 2 ^ (11 : Nat) ∧ fraction < 2 ^ (52 : Nat) ∧
    x.toBits.toNat = sign.toBitVec.toNat * 2 ^ (63 : Nat) + field * 2 ^ (52 : Nat) + fraction ∧
    Decodes sign field fraction x.toModel.unpack := by
  let b : BitVec Format.binary64.numBits := x.toBits.toBitVec
  have whole : x.toBits.toNat = b.toNat := rfl
  refine ⟨_, _, _, (unpackExponent b).isLt, (unpackMantissa b).isLt, ?_, decodes_unpack b⟩
  rw [whole, toBitVec_ofBitVec, toNat_fields b]

/-- The fields of a word make it up. -/
theorem packComponents_unpack {b : BitVec Format.binary64.numBits} {exponent : BitVec 11}
    {mantissa : BitVec 52} (field : (unpackExponent b).toNat = exponent.toNat)
    (fraction : (unpackMantissa b).toNat = mantissa.toNat) :
    packComponents .binary64 (Sign.ofBitVec (unpackSign b)) exponent mantissa = b := by
  apply BitVec.eq_of_toNat_eq
  rw [toNat_packComponents, toBitVec_ofBitVec, ← field, ← fraction, ← toNat_fields]

/-- A finite value is packed with its exponent field, or with none if its mantissa is short. -/
theorem pack_finite {sign : Sign} {mantissa : Nat} {exponent : Int} {pos : 0 < mantissa}
    (field : Nat) (biased : exponent = field - 1075) (fits : field < 2047) :
    UnpackedFloat.pack .binary64 (.finite sign mantissa exponent pos) =
      packComponents .binary64 sign (if mantissa.log2 = 52 then BitVec.ofNat 11 field else 0#11)
        (BitVec.ofNat 52 mantissa) := by
  have same : (exponent + (Format.binary64.exponentBias : Nat) +
      (Format.binary64.mantissaBitsWithoutImplicit : Nat)).toNat = field := by
    have bias : ((Format.binary64.exponentBias : Nat) : Int) = 1023 := rfl
    have bits : ((Format.binary64.mantissaBitsWithoutImplicit : Nat) : Int) = 52 := rfl
    omega
  have bound : ¬2 ^ Format.binary64.exponentBits ≤ field + 1 := by
    have size : 2 ^ Format.binary64.exponentBits = 2048 := rfl
    omega
  have long : mantissa.log2 + 1 = Format.binary64.mantissaBits ↔ mantissa.log2 = 52 := by
    have bits : Format.binary64.mantissaBits = 53 := rfl
    omega
  unfold UnpackedFloat.pack
  dsimp only
  rw [same, if_neg bound]
  by_cases normal : mantissa.log2 = 52
  · rw [if_pos (long.mpr normal), if_pos normal]
  · rw [if_neg (mt long.mp normal), if_neg normal]

/-- A word without a payload in NaN is what its value is packed to. -/
theorem pack_unpack {b : BitVec Format.binary64.numBits} (valid : Format.binary64.Valid b) :
    UnpackedFloat.pack .binary64 (UnpackedFloat.unpack .binary64 b) = b := by
  have below : (unpackMantissa b).toNat < 2 ^ (52 : Nat) := (unpackMantissa b).isLt
  have narrow : (unpackExponent b).toNat < 2 ^ (11 : Nat) := (unpackExponent b).isLt
  have decoded := decodes_unpack b
  generalize UnpackedFloat.unpack .binary64 b = u at decoded
  cases decoded with
  | zero field fraction => exact packComponents_unpack field fraction
  | subnormal pos field =>
    have short : (unpackMantissa b).toNat.log2 ≠ 52 := by
      have := (Nat.log2_lt (Nat.ne_of_gt pos)).mpr below
      omega
    have least : (-1074 : Int) = (1 : Nat) - 1075 := rfl
    rw [pack_finite 1 least (by decide), if_neg short]
    exact packComponents_unpack field (Nat.mod_eq_of_lt below).symm
  | @normal mantissa pos implicit low high =>
    have long : mantissa.log2 = 52 := by
      refine (Nat.log2_eq_iff (Nat.ne_of_gt pos)).mpr ⟨?_, ?_⟩ <;> omega
    rw [pack_finite (unpackExponent b).toNat rfl (by omega), if_pos long]
    refine packComponents_unpack (Nat.mod_eq_of_lt narrow).symm ?_
    rw [BitVec.toNat_ofNat]
    omega
  | infinity field fraction => exact packComponents_unpack field fraction
  | notANumber field fraction =>
    have ones : unpackExponent b = -1#_ := BitVec.toNat_inj.mp field
    exact (valid.eq_packedNaN ones fun zero => fraction (congrArg BitVec.toNat zero)).symm

theorem model_eq_of_toBits {m n : Float.Model} (same : m.toBits = n.toBits) : m = n := by
  cases m
  cases n
  obtain rfl := same
  rfl

theorem ofModel_pack_unpack (x : Float) : Float.ofModel (.pack x.toModel.unpack) = x := by
  have word : UnpackedFloat.pack .binary64 (UnpackedFloat.unpack .binary64
      x.toModel.toBits.toBitVec) = x.toModel.toBits.toBitVec := pack_unpack x.toModel.valid
  have same : (Float.Model.pack x.toModel.unpack).toBits = x.toModel.toBits :=
    congrArg UInt64.ofBitVec word
  exact congrArg Float.ofModel (model_eq_of_toBits same)

/-- Adding zero changes nothing but the sign of −0. -/
theorem add_zero (x : Float) : x + 0.0 = if x = -0.0 then 0.0 else x := by
  by_cases negative : x = -0.0
  · rw [if_pos negative, negative]
    decide
  · have sum : x + 0.0 = .ofModel (.pack (.add .binary64 x.toModel.unpack (.zero .positive))) := rfl
    have same : UnpackedFloat.add .binary64 x.toModel.unpack (.zero .positive) =
        x.toModel.unpack := by
      cases unpacked : x.toModel.unpack with
      | zero sign =>
        cases sign with
        | positive => rfl
        | negative =>
          have packed := ofModel_pack_unpack x
          rw [unpacked] at packed
          exact absurd packed.symm negative
      | _ => rfl
    rw [if_neg negative, sum, same, ofModel_pack_unpack]

end PartProgram.Number
