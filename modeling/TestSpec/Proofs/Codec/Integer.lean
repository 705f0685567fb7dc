import Mathlib.Data.Nat.Digits.Lemmas
import TestSpec.Codec
import TestSpec.Word

/-!
# Integers in two's complement

The raw codec fills up the front of one to eight octets with octets of the sign and reads
the whole as a word of 64 bits.  Arithmetically, octets of which the first bit is not set
are a number to base 256, and where it is set that number less a power of 256, one for each
octet (`Codec.twosComplement`).

The first bit tells whether the number without a sign is in the upper half of its range
(`Codec.isNegative_iff`).  All else follows from this: the number with a sign fits the octets
it was written in, the octets of the sign that fill up the front add the same power for more
octets as is taken away, and every number that fits is written in some octets.

Main statement: `Codec.raw_integer`.
-/

namespace TestSpec

namespace Codec

variable {octets rest : List UInt8}

/-- The number without a sign whose digits to base 256 are the octets, the most significant one
first. -/
def unsigned (octets : List UInt8) : Nat := Nat.ofDigits 256 (octets.map UInt8.toNat).reverse

/-- The first bit is set. -/
def isNegative (octets : List UInt8) : Bool := octets.head?.any fun b => b.toNat.testBit 7

/-- The number that octets are in two's complement. -/
def twosComplement (octets : List UInt8) : Int :=
  unsigned octets - if isNegative octets then 2 ^ (8 * octets.length) else 0

/-- The octet of the sign: it may stand in front any number of times. -/
def signOctet (octets : List UInt8) : UInt8 := if isNegative octets then 0xFF else 0

/-! ### Numbers without a sign -/

theorem bigEndian_eq_unsigned (octets : List UInt8) : bigEndian octets = unsigned octets := by
  rw [unsigned, Nat.ofDigits_eq_foldr, List.foldr_reverse, List.foldl_map, bigEndian]
  simp only [Nat.cast_id, Nat.add_comm]

theorem unsigned_append (front octets : List UInt8) :
    unsigned (front ++ octets) = unsigned octets + 256 ^ octets.length * unsigned front := by
  rw [unsigned, List.map_append, List.reverse_append, Nat.ofDigits_append, List.length_reverse,
    List.length_map]
  rfl

theorem unsigned_cons (b : UInt8) (rest : List UInt8) :
    unsigned (b :: rest) = unsigned rest + 256 ^ rest.length * b.toNat := by
  have hsingle : unsigned [b] = b.toNat := by simp [unsigned]
  rw [← List.singleton_append, unsigned_append, hsingle]

theorem unsigned_lt (octets : List UInt8) : unsigned octets < 256 ^ octets.length := by
  have hdigits : ∀ d ∈ (octets.map UInt8.toNat).reverse, d < 256 := by
    intro d hd
    obtain ⟨b, -, rfl⟩ := List.mem_map.mp (List.mem_reverse.mp hd)
    exact b.toNat_lt
  have hlt := Nat.ofDigits_lt_base_pow_length (by omega) hdigits
  rwa [List.length_reverse, List.length_map] at hlt

/-- Octets of zeros are zero, and octets of ones are one less than the next power. -/
theorem unsigned_replicate (k : Nat) :
    unsigned (List.replicate k 0) = 0 ∧ unsigned (List.replicate k 0xFF) + 1 = 256 ^ k := by
  induction k with
  | zero => exact ⟨rfl, rfl⟩
  | succ k ih =>
    obtain ⟨hzeros, hones⟩ := ih
    have hbyte : (0xFF : UInt8).toNat = 255 := rfl
    simp only [List.replicate_succ, unsigned_cons, List.length_replicate, hbyte, pow_succ]
    constructor
    · rw [hzeros]
      rfl
    · omega

/-- Every number below a power of 256 is written in as many octets. -/
theorem exists_unsigned_eq {k n : Nat} (h : n < 256 ^ k) :
    ∃ octets, octets.length = k ∧ unsigned octets = n := by
  have hoctets : ((Nat.digitsAppend 256 k n).map UInt8.ofNat).map UInt8.toNat =
      Nat.digitsAppend 256 k n := by
    rw [List.map_map]
    refine (List.map_congr_left fun d hd => ?_).trans (List.map_id _)
    exact UInt8.toNat_ofNat_of_lt (Nat.lt_of_mem_digitsAppend (show 1 < 256 by omega) k d hd)
  refine ⟨((Nat.digitsAppend 256 k n).map UInt8.ofNat).reverse, ?_, ?_⟩
  · rw [List.length_reverse, List.length_map, Nat.length_digitsAppend (by omega) k h]
  · rw [unsigned, List.map_reverse, List.reverse_reverse, hoctets, Nat.digitsAppend,
      Nat.ofDigits_append_replicate_zero, Nat.ofDigits_digits]

/-! ### The sign -/

theorem testBit_seven_iff (b : UInt8) : b.toNat.testBit 7 = true ↔ 128 ≤ b.toNat := by
  have hlt := b.toNat_lt
  rw [Nat.testBit_eq_decide_div_mod_eq, decide_eq_true_eq]
  omega

/-- The first bit is set exactly if the number without a sign is in the upper half. -/
theorem isNegative_iff (octets : List UInt8) :
    isNegative octets = true ↔ 256 ^ octets.length ≤ 2 * unsigned octets := by
  cases octets with
  | nil => decide
  | cons b rest =>
    have hrest := unsigned_lt rest
    rw [isNegative, List.head?_cons, Option.any_some, testBit_seven_iff, unsigned_cons,
      List.length_cons, pow_succ]
    constructor
    · intro hsign
      have hproduct := Nat.mul_le_mul_left (256 ^ rest.length) hsign
      omega
    · intro hhalf
      by_contra hsign
      have hproduct := Nat.mul_le_mul_left (256 ^ rest.length)
        (show b.toNat ≤ 127 by omega)
      omega

/-- The number in two's complement, with the power of 256 that its sign takes away. -/
theorem twosComplement_eq (octets : List UInt8) : twosComplement octets =
    unsigned octets - if isNegative octets then ((256 ^ octets.length : Nat) : Int) else 0 := by
  rw [twosComplement, pow_mul]
  norm_num

/-- A number in two's complement lies in the range of its octets. -/
theorem twosComplement_bounds (octets : List UInt8) :
    -((256 ^ octets.length : Nat) : Int) ≤ 2 * twosComplement octets ∧
      2 * twosComplement octets < ((256 ^ octets.length : Nat) : Int) := by
  have hlt := unsigned_lt octets
  have hsign := isNegative_iff octets
  rw [twosComplement_eq]
  cases hnegative : isNegative octets with
  | true =>
    have hhalf := hsign.mp hnegative
    rw [if_pos rfl]
    omega
  | false =>
    have hhalf : ¬ 256 ^ octets.length ≤ 2 * unsigned octets := fun h => by
      simp [hsign.mpr h] at hnegative
    rw [if_neg Bool.false_ne_true]
    omega

/-- Octets of the sign in front do not change the number. -/
theorem twosComplement_cons_signOctet (octets : List UInt8) :
    twosComplement (signOctet octets :: octets) = twosComplement octets := by
  have hsign : isNegative (signOctet octets :: octets) = isNegative octets := by
    cases hnegative : isNegative octets <;> rw [signOctet, hnegative] <;> rfl
  rw [twosComplement_eq, twosComplement_eq, hsign, unsigned_cons, List.length_cons, pow_succ]
  cases hnegative : isNegative octets with
  | true =>
    have hoctet : (signOctet octets).toNat = 255 := by rw [signOctet, hnegative]; rfl
    rw [if_pos rfl, if_pos rfl, hoctet]
    omega
  | false =>
    have hoctet : (signOctet octets).toNat = 0 := by rw [signOctet, hnegative]; rfl
    rw [if_neg Bool.false_ne_true, if_neg Bool.false_ne_true, hoctet]
    omega

/-- Every number in the range of `k` octets is written in `k` octets. -/
theorem exists_twosComplement_eq {k : Nat} {n : Int} (hmin : -((256 ^ k : Nat) : Int) ≤ 2 * n)
    (hmax : 2 * n < ((256 ^ k : Nat) : Int)) :
    ∃ octets, octets.length = k ∧ twosComplement octets = n := by
  -- a negative number is written as the number without a sign that is a power of 256 above it
  have hword : ∃ u : Nat, u < 256 ^ k ∧
      (u : Int) = n + if n < 0 then ((256 ^ k : Nat) : Int) else 0 := by
    by_cases hn : n < 0
    · refine ⟨(n + ((256 ^ k : Nat) : Int)).toNat, ?_, ?_⟩
      · omega
      · rw [if_pos hn]
        omega
    · refine ⟨n.toNat, ?_, ?_⟩
      · omega
      · rw [if_neg hn]
        omega
  obtain ⟨u, hu, hun⟩ := hword
  obtain ⟨octets, rfl, rfl⟩ := exists_unsigned_eq hu
  refine ⟨octets, rfl, ?_⟩
  have hsign := isNegative_iff octets
  rw [twosComplement_eq, hun]
  by_cases hn : n < 0
  · rw [if_pos hn] at hun
    have hnegative : isNegative octets = true := hsign.mpr (by omega)
    rw [if_pos hn, if_pos hnegative]
    omega
  · rw [if_neg hn] at hun
    have hnegative : ¬ isNegative octets = true := fun h => by
      have hhalf := hsign.mp h
      omega
    rw [if_neg hn, if_neg hnegative]
    omega

/-! ### Words of 64 bits -/

theorem signedInteger_eq (b : UInt8) (rest : List UInt8) : signedInteger b (b :: rest) =
    .ofNat (unsigned (List.replicate (8 - (rest.length + 1)) (signOctet (b :: rest)) ++
      b :: rest)) := by
  rw [← bigEndian_eq_unsigned]
  rfl

/-- The word that the octets fill up to is the number that they are in two's complement. -/
theorem toInt_signedInteger {b : UInt8} (h : rest.length + 1 ≤ 8) :
    (signedInteger b (b :: rest)).toInt = twosComplement (b :: rest) := by
  have hpower : 256 ^ (rest.length + 1) * 256 ^ (8 - (rest.length + 1)) = 2 ^ 64 := by
    rw [← pow_add, Nat.add_sub_cancel' h]
    norm_num
  have hfits : 256 ^ (rest.length + 1) ≤ 2 ^ 64 := by
    rw [← hpower]
    exact Nat.le_mul_of_pos_right _ (by positivity)
  obtain ⟨hmin, hmax⟩ := twosComplement_bounds (b :: rest)
  rw [List.length_cons] at hmin hmax
  -- what stands in front adds a whole word to a negative number, and nothing to another
  have hword : ((unsigned (List.replicate (8 - (rest.length + 1)) (signOctet (b :: rest)) ++
      b :: rest) : Nat) : Int) = twosComplement (b :: rest) +
        Int64.size * if isNegative (b :: rest) then 1 else 0 := by
    obtain ⟨hzeros, hones⟩ := unsigned_replicate (8 - (rest.length + 1))
    rw [unsigned_append, twosComplement_eq, List.length_cons]
    cases hnegative : isNegative (b :: rest) with
    | true =>
      have hoctet : signOctet (b :: rest) = 0xFF := by rw [signOctet, hnegative]; rfl
      have hproduct : 256 ^ (rest.length + 1) *
          (unsigned (List.replicate (8 - (rest.length + 1)) 0xFF) + 1) = 2 ^ 64 := by
        rw [hones, hpower]
      rw [Nat.mul_add, Nat.mul_one] at hproduct
      rw [hoctet, if_pos rfl, if_pos rfl, Int64.size]
      omega
    | false =>
      have hoctet : signOctet (b :: rest) = 0 := by rw [signOctet, hnegative]; rfl
      rw [hoctet, hzeros, if_neg Bool.false_ne_true, if_neg Bool.false_ne_true]
      omega
  rw [signedInteger_eq, Int64.toInt_ofNat', hword, Int.add_mul_bmod_self_left, Int.bmod_eq_of_le]
  · rw [Int64.size]
    omega
  · rw [Int64.size]
    omega

/-! ### The codec -/

theorem raw_of_integer {target : DecodeTarget}
    (h : target.kind = .integer ∨ target.kind = .integerAsn) (octets : List UInt8) :
    raw octets target = decodeInteger octets := by
  have hview : target.kind.ttcn3View = .integer := by
    rcases h with h | h <;> rw [h] <;> rfl
  simp only [raw, hview]

/-- One to eight octets decode to the number that they are in two's complement. -/
theorem decodeInteger_ok (hne : octets ≠ []) (hlength : octets.length ≤ 8) :
    ∃ i : Int64, i.toInt = twosComplement octets ∧ decodeInteger octets = .ok (.integer i) := by
  obtain ⟨b, rest, rfl⟩ := List.exists_cons_of_ne_nil hne
  rw [List.length_cons] at hlength
  refine ⟨signedInteger b (b :: rest), toInt_signedInteger hlength, ?_⟩
  rw [decodeInteger, if_neg (by omega)]

theorem decodeInteger_of_lt (h : 8 < octets.length) :
    decodeInteger octets = .error (.malformed (.integerTooLong octets.length)) := by
  cases octets with
  | nil => cases h
  | cons b rest =>
    rw [List.length_cons] at h
    rw [decodeInteger, if_pos h]
    rfl

/-- What the decoding of octets comes to: no octets are truncated, one to eight decode to the number
that they are in two's complement, and more are malformed. -/
theorem decodeInteger_cases (octets : List UInt8) :
    (octets = [] ∧ decodeInteger octets = .error (.truncated 1 0)) ∨
      (octets ≠ [] ∧ octets.length ≤ 8 ∧
        ∃ i : Int64, i.toInt = twosComplement octets ∧ decodeInteger octets = .ok (.integer i)) ∨
      (8 < octets.length ∧
        decodeInteger octets = .error (.malformed (.integerTooLong octets.length))) := by
  by_cases hne : octets = []
  · exact .inl ⟨hne, by rw [hne]; rfl⟩
  by_cases hlength : octets.length ≤ 8
  · exact .inr (.inl ⟨hne, hlength, decodeInteger_ok hne hlength⟩)
  · have hlong : 8 < octets.length := Nat.lt_of_not_le hlength
    exact .inr (.inr ⟨hlong, decodeInteger_of_lt hlong⟩)

/-- **Integers decode from two's complement.**  For a target of integers, no octets are truncated,
more than eight are malformed, and one to eight decode to the number that they are in two's
complement, which has 64 bits.  So an octet of the sign may be put in front of up to seven, and
every number of 64 bits is decoded from some octets. -/
theorem raw_integer (target : DecodeTarget)
    (htarget : target.kind = .integer ∨ target.kind = .integerAsn) (octets : List UInt8) :
    ((∃ needed available, raw octets target = .error (.truncated needed available)) ↔
        octets = []) ∧
      ((∃ reason, raw octets target = .error (.malformed reason)) ↔ 8 < octets.length) ∧
      (octets ≠ [] → octets.length ≤ 8 → ∃ i : Int64, i.toInt = twosComplement octets ∧
        raw octets target = .ok (.integer i)) ∧
      (octets ≠ [] → octets.length ≤ 7 →
        raw (signOctet octets :: octets) target = raw octets target) ∧
      ∀ i : Int64, ∃ written, raw written target = .ok (.integer i) := by
  simp only [raw_of_integer htarget]
  refine ⟨?_, ?_, decodeInteger_ok, ?_, ?_⟩
  · rcases decodeInteger_cases octets with ⟨hnil, h⟩ | ⟨hne, -, i, -, h⟩ | ⟨hlong, h⟩
    · exact iff_of_true ⟨1, 0, h⟩ hnil
    · rw [h]
      exact iff_of_false nofun hne
    · rw [h]
      exact iff_of_false nofun (List.ne_nil_of_length_pos (by omega))
  · rcases decodeInteger_cases octets with ⟨rfl, h⟩ | ⟨-, hlength, i, -, h⟩ | ⟨hlong, h⟩
    · rw [h]
      exact iff_of_false nofun (by decide)
    · rw [h]
      exact iff_of_false nofun (Nat.not_lt.mpr hlength)
    · exact iff_of_true ⟨_, h⟩ hlong
  · intro hne hlength
    obtain ⟨i, hi, hdecode⟩ := decodeInteger_ok hne (Nat.le_succ_of_le hlength)
    have hone : signOctet octets :: octets ≠ [] := List.cons_ne_nil _ _
    obtain ⟨j, hj, hextended⟩ := decodeInteger_ok hone (Nat.succ_le_succ hlength)
    rw [twosComplement_cons_signOctet, ← hi, Int64.toInt_inj] at hj
    rw [hdecode, hextended, hj]
  · intro i
    have hmin := i.le_toInt
    have hmax := i.toInt_lt
    obtain ⟨written, hlength, hi⟩ := exists_twosComplement_eq (k := 8) (n := i.toInt)
      (by omega) (by omega)
    have hwritten : written ≠ [] := List.ne_nil_of_length_pos (by omega)
    obtain ⟨j, hj, hdecode⟩ := decodeInteger_ok hwritten (by omega)
    rw [hi, Int64.toInt_inj] at hj
    exact ⟨written, hj ▸ hdecode⟩

/-- The least number of 64 bits takes eight octets, minus two one; another octet of ones in front of
it changes nothing. -/
theorem raw_integer_negative :
    (∃ i : Int64, i.toInt = int64Min ∧
        raw [0x80, 0, 0, 0, 0, 0, 0, 0] ⟨"integer", .integer⟩ = .ok (.integer i)) ∧
      raw [0xFE] ⟨"INTEGER", .integerAsn⟩ = .ok (.integer (-2)) ∧
      raw [0xFF, 0xFE] ⟨"INTEGER", .integerAsn⟩ = raw [0xFE] ⟨"INTEGER", .integerAsn⟩ ∧
      ∃ written, raw written ⟨"INTEGER", .integerAsn⟩ = .ok (.integer 256) := by
  have hleast := (raw_integer ⟨"integer", .integer⟩ (.inl rfl)
    [0x80, 0, 0, 0, 0, 0, 0, 0]).2.2.1 (by decide) (by decide)
  have htwo := raw_integer ⟨"INTEGER", .integerAsn⟩ (.inr rfl) [0xFE]
  have hvalue : twosComplement [0x80, 0, 0, 0, 0, 0, 0, 0] = int64Min := by decide
  rw [hvalue] at hleast
  exact ⟨hleast, rfl, htwo.2.2.2.1 (by decide) (by decide), htwo.2.2.2.2 256⟩

end Codec

end TestSpec
