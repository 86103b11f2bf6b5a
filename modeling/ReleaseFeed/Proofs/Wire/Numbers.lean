import ReleaseFeed.Proofs.Wire.Words
import ReleaseFeed.Wire.Layout

/-! # Numbers read back

A number comes back from its image (`Scalar.ofImage_image`) and its image fits
the bytes that it takes (`Scalar.image_lt`), so it comes back from the bytes that
stand for it (`Scalar.ofImage_valueAt`).  For integers both are facts about
words.  For floats the image is the bit pattern, in which every NaN is the
canonical one, so that `Float.ofBits` undoes `Float.toBits`
(`ofBits_toBits`): the sign, exponent and mantissa that unpacking separates are
put together again, and nothing is rounded on the way.
-/
namespace ReleaseFeed.Wire

/-! ## Bit patterns of floats -/

section FloatBits
open Float.Model Float.Model.UnpackedFloat

private theorem toBitVec_ofBitVec (sign : BitVec 1) : (Sign.ofBitVec sign).toBitVec = sign := by
  rcases BitVec.eq_zero_or_eq_one sign with rfl | rfl <;> rfl

/-- The three parts of a bit pattern give it back. -/
private theorem packComponents_parts (b : BitVec Format.binary64.numBits) :
    packComponents Format.binary64 (Sign.ofBitVec (unpackSign b)) (unpackExponent b)
      (unpackMantissa b) = b := by
  have hjoin :
      (b.extractLsb' 63 1 ++ b.extractLsb' 52 11 ++ b.extractLsb' 0 52 : BitVec 64) = b := by
    rw [BitVec.extractLsb'_append_extractLsb'_eq_extractLsb' (by rfl),
      BitVec.extractLsb'_append_extractLsb'_eq_extractLsb' (by rfl)]
    exact BitVec.extractLsb'_eq_self
  rw [packComponents, toBitVec_ofBitVec]
  exact hjoin

private theorem exponentBias_eq : (Format.binary64.exponentBias : Int) = 1023 := by
  decide

/-- A subnormal number is packed with exponent 0 and its whole mantissa. -/
private theorem pack_subnormal (s : Sign) (m : BitVec 52) {e : Int} (he : e + 1023 + 52 = 1)
    (h : 0 < m.toNat) : UnpackedFloat.pack Format.binary64 (.finite s m.toNat e h) =
      packComponents Format.binary64 s 0 m := by
  have hlog : m.toNat.log2 < 52 := (Nat.log2_lt (by omega)).mpr m.isLt
  simp only [UnpackedFloat.pack, exponentBias_eq, Format.mantissaBits]
  rw [show e + 1023 + (52 : Nat) = 1 from he, if_neg (by decide), if_neg (by omega)]
  simp

/-- A normal number is packed with its exponent and its mantissa without the leading bit. -/
private theorem pack_normal (s : Sign) (biased : BitVec 11) (m : BitVec 52) {e : Int}
    (he : e + 1023 + 52 = biased.toNat) (hfinite : biased.toNat < 2047)
    (h : 0 < (1#1 ++ m).toNat) :
    UnpackedFloat.pack Format.binary64 (.finite s (1#1 ++ m).toNat e h) =
      packComponents Format.binary64 s biased m := by
  have hlt := m.isLt
  have hm : (1#1 ++ m).toNat = 2 ^ 52 + m.toNat := by
    rw [BitVec.toNat_append, ← Nat.shiftLeft_add_eq_or_of_lt hlt]
    rfl
  -- the leading bit is the one that a pattern leaves out, so nothing is shifted away
  have hlog : (1#1 ++ m).toNat.log2 = 52 := by
    rw [hm]
    exact (Nat.log2_eq_iff (by omega)).mpr ⟨by omega, by omega⟩
  have hlow : BitVec.ofNat 52 (1#1 ++ m).toNat = m := by
    apply BitVec.eq_of_toNat_eq
    rw [hm, BitVec.toNat_ofNat]
    omega
  simp only [UnpackedFloat.pack, exponentBias_eq, Format.mantissaBits]
  rw [show e + 1023 + (52 : Nat) = biased.toNat from he, Int.toNat_natCast, hlog, hlow,
    if_neg (by omega), if_pos rfl]
  simp

/-- Unpacking a bit pattern loses nothing, where every NaN is the canonical one. -/
private theorem pack_unpack {b : BitVec Format.binary64.numBits} (hb : Format.binary64.Valid b) :
    UnpackedFloat.pack Format.binary64 (UnpackedFloat.unpack Format.binary64 b) = b := by
  have hparts := packComponents_parts b
  have hbiased : (unpackExponent b).toNat < 2 ^ 11 := (unpackExponent b).isLt
  rw [UnpackedFloat.unpack]
  split
  -- all exponent bits are set: an infinity, or the only NaN
  case isTrue hexp =>
    split
    case isTrue hm => rw [hexp, hm] at hparts; exact hparts
    case isFalse hm => exact (hb.eq_packedNaN hexp hm).symm
  case isFalse hexp =>
    split
    -- no exponent bit is set: a zero, or a subnormal number
    case isTrue hzero =>
      rw [hzero] at hparts
      split
      case isTrue hm => rw [hm] at hparts; exact hparts
      case isFalse hm =>
        refine (pack_subnormal _ _ ?_ _).trans hparts
        rw [hzero, exponentBias_eq]
        rfl
    case isFalse hzero =>
      have hne : (unpackExponent b).toNat ≠ 2047 := fun h => hexp (BitVec.eq_of_toNat_eq h)
      refine (pack_normal _ _ _ ?_ (by omega) _).trans hparts
      rw [exponentBias_eq]
      show ((unpackExponent b).toNat : Int) - (1023 + 52) + 1023 + 52 = (unpackExponent b).toNat
      omega

/-- A float comes back from its bit pattern. -/
theorem ofBits_toBits (x : Float) : Float.ofBits x.toBits = x := by
  obtain ⟨bits, hvalid⟩ := x
  exact congrArg Float.ofModel
    (Float.Model.mk.injEq .. ▸ congrArg UInt64.ofBitVec (pack_unpack hvalid))

private theorem toNat_unpackExponent (bits : UInt64) :
    (@unpackExponent Format.binary64 bits.toBitVec).toNat = bits.toNat / 2 ^ 52 % 2 ^ 11 := by
  show (bits.toBitVec.extractLsb' 52 11).toNat = _
  rw [BitVec.extractLsb'_toNat, Nat.shiftRight_eq_div_pow]
  rfl

private theorem toNat_unpackMantissa (bits : UInt64) :
    (@unpackMantissa Format.binary64 bits.toBitVec).toNat = bits.toNat % 2 ^ 52 := by
  show (bits.toBitVec.extractLsb' 0 52).toNat = _
  rw [BitVec.extractLsb'_toNat, Nat.shiftRight_zero]
  rfl

/-- A bit pattern stands for a finite number or for an infinity, if it has no mantissa where all
bits of its exponent are set. -/
theorem isFinite_ofBits {bits : UInt64}
    (h : bits.toNat / 2 ^ 52 % 2 ^ 11 = 2047 → bits.toNat % 2 ^ 52 = 0) :
    (Float.ofBits bits).isFinite = !(Float.ofBits bits).isInf := by
  have hinfinite (hexp : @unpackExponent Format.binary64 bits.toBitVec = -1#11) :
      @unpackMantissa Format.binary64 bits.toBitVec = 0#52 := by
    apply BitVec.eq_of_toNat_eq
    rw [toNat_unpackMantissa]
    refine h ?_
    rw [← toNat_unpackExponent, hexp]
    rfl
  have hvalid : Format.binary64.Valid bits.toBitVec := ⟨fun hexp hm => absurd (hinfinite hexp) hm⟩
  show (UnpackedFloat.unpack Format.binary64 (UnpackedFloat.pack Format.binary64
      (UnpackedFloat.unpack Format.binary64 bits.toBitVec))).isFinite =
    !(UnpackedFloat.unpack Format.binary64 (UnpackedFloat.pack Format.binary64
      (UnpackedFloat.unpack Format.binary64 bits.toBitVec))).isInf
  rw [pack_unpack hvalid, UnpackedFloat.unpack]
  split
  case isTrue hexp =>
    rw [if_pos (hinfinite hexp)]
    rfl
  case isFalse =>
    split
    case isTrue => split <;> rfl
    case isFalse => rfl

end FloatBits

/-! ## Numbers and their images -/

namespace Scalar

/-- The image of a number fits the bytes that the number takes. -/
theorem image_lt (s : Scalar) : s.image < 256 ^ s.kind.size := by
  cases s with
  | u8 v => exact v.toNat_lt
  | i16 v => exact v.toUInt16.toNat_lt
  | u32 v => exact v.toNat_lt
  | u64 v => exact v.toNat_lt
  | f64 v => exact v.toBits.toNat_lt

/-- A number comes back from its image. -/
theorem ofImage_image (s : Scalar) : ofImage s.kind s.image = s := by
  cases s with
  | f64 v => simp only [ofImage, kind, image, UInt64.ofNat_toNat, ofBits_toBits]
  | _ => simp [ofImage, kind, image]

/-- A number comes back from the bytes that stand for it. -/
theorem ofImage_valueAt {s : Scalar} {b : ByteArray} {pos : Nat} (h : Bytes.At b pos s.bytes) :
    ofImage s.kind (Bytes.valueAt b s.kind.size pos) = s := by
  rw [h.valueAt_word s.image_lt, ofImage_image]

end Scalar

end ReleaseFeed.Wire
