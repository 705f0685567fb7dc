import TestSpec.Codec
import TestSpec.Proofs.Kind.Table

/-!
# The raw codec, and the encoded form of strings

A string has an encoded form (`Value.octets`), and the raw codec decodes octets to strings.
The two are inverse to each other where the type that is decoded to is one of strings.

* What octets decode to has these octets for its encoded form.
* A string decodes from its encoded form to itself: an octetstring as it is, a character
  string in UTF-8, which a kind that is seen as a charstring refuses unless all characters
  are ASCII, and a bitstring with the zeros at its end that complete the last octet.

Each direction comes down to one fact: text and its UTF-8 octets correspond
(`Text.Utf8.decode?_eq_some_iff`), and octets and their bits do
(`packBits_flatMap_octetBits`, `flatMap_octetBits_packBits`).

Main statement: `Codec.raw_inverse_octets`.
-/

namespace TestSpec

/-! ### Text -/

namespace Text

/-- All characters of a text are ASCII. -/
def IsAscii (s : String) : Prop := ∀ c ∈ s.toList, c.toNat < 0x80

namespace Utf8

/-- Octets are text exactly if they are the octets of that text. -/
theorem decode?_eq_some_iff {octets : List UInt8} {s : String} :
    decode? octets = some s ↔ octets = encode s := by
  unfold decode? encode String.fromUTF8?
  constructor
  · intro h
    split at h
    · cases h
      rfl
    · cases h
  · rintro rfl
    have hback : ByteArray.mk s.toUTF8.data.toList.toArray = s.toByteArray := by simp
    rw [hback, dif_pos s.isValidUTF8]
    rfl

/-- The octets of a text are those of its characters. -/
theorem encode_eq_flatMap (s : String) : encode s = s.toList.flatMap String.utf8EncodeChar := by
  have hoctets : s.toUTF8 = (s.toList.flatMap String.utf8EncodeChar).toByteArray :=
    String.utf8Encode_toList.symm
  rw [encode, hoctets, List.data_toByteArray]

/-- An octet above the ASCII range stands in a character exactly if the character is none of
ASCII. -/
theorem any_utf8EncodeChar (c : Char) :
    (String.utf8EncodeChar c).any (fun b => 0x80 ≤ b) = true ↔ 0x80 ≤ c.toNat := by
  have hvalue : c.val.toNat = c.toNat := rfl
  simp only [String.utf8EncodeChar, hvalue]
  split
  · simp only [List.any_cons, List.any_nil, Bool.or_false, decide_eq_true_eq,
      UInt8.le_iff_toNat_le, UInt8.toNat_ofNat', UInt8.reduceToNat]
    omega
  -- beyond ASCII the first octet of a character is one of those that start longer ones
  repeat' split
  all_goals
    simp only [List.any_cons, Bool.or_eq_true, decide_eq_true_eq, UInt8.le_iff_toNat_le,
      UInt8.toNat_ofNat', UInt8.reduceToNat]
    omega

/-- The octets of a text are below 128 exactly if the text is ASCII. -/
theorem any_encode_iff {s : String} :
    (encode s).any (fun b => 0x80 ≤ b) = false ↔ IsAscii s := by
  rw [encode_eq_flatMap, List.any_flatMap, List.any_eq_false]
  simp only [any_utf8EncodeChar, Nat.not_le, IsAscii]

end Utf8

end Text

/-! ### Bits -/

/-- Bits, with zeros at the end up to a whole number of octets. -/
def completeOctets (bits : List Bool) : List Bool :=
  bits ++ List.replicate ((8 - bits.length % 8) % 8) false

/-- The bits of the octet with given binary digits are these digits. -/
theorem octetBits_binaryNumber {bits : List Bool} (h : bits.length = 8) :
    Codec.octetBits (UInt8.ofNat (binaryNumber bits)) = bits := by
  match bits, h with
  | [a, b, c, d, e, f, g, i], _ =>
    revert a b c d e f g i
    decide

/-- The number with the bits of an octet for its digits is that octet. -/
theorem binaryNumber_octetBits (b : UInt8) : UInt8.ofNat (binaryNumber (Codec.octetBits b)) = b := by
  have hnumber : ∀ n < 256, binaryNumber ([7, 6, 5, 4, 3, 2, 1, 0].map n.testBit) = n := by
    decide +kernel
  have hb := hnumber b.toNat b.toNat_lt
  unfold Codec.octetBits
  rw [hb]
  simp

theorem packBits_flatMap_octetBits (octets : List UInt8) :
    packBits (octets.flatMap Codec.octetBits) = octets := by
  induction octets with
  | nil => rfl
  | cons b octets ih =>
    have hpack : packBits (Codec.octetBits b ++ octets.flatMap Codec.octetBits) =
        UInt8.ofNat (binaryNumber (Codec.octetBits b)) ::
          packBits (octets.flatMap Codec.octetBits) := rfl
    rw [List.flatMap_cons, hpack, ih, binaryNumber_octetBits]

theorem flatMap_octetBits_packBits (bits : List Bool) :
    (packBits bits).flatMap Codec.octetBits = completeOctets bits := by
  induction bits using packBits.induct with
  | case1 a b c d e f g h rest ih =>
    rw [packBits, List.flatMap_cons, ih, octetBits_binaryNumber rfl, completeOctets]
    simp only [completeOctets, List.length_cons, List.cons_append, List.nil_append]
    rw [show (rest.length + 1 + 1 + 1 + 1 + 1 + 1 + 1 + 1) % 8 = rest.length % 8 by omega]
  | case2 => rfl
  | case3 rest hshort hne =>
    have hpositive : rest.length ≠ 0 := fun h => hne (List.eq_nil_of_length_eq_zero h)
    have hlt : rest.length < 8 := by
      refine Nat.lt_of_not_le fun hge => ?_
      obtain ⟨front, hfront⟩ : ∃ front, rest.take 8 = front := ⟨_, rfl⟩
      have hlength : front.length = 8 := by rw [← hfront, List.length_take]; omega
      match front, hlength with
      | [a, b, c, d, e, f, g, h], _ =>
        refine hshort a b c d e f g h (rest.drop 8) ?_
        rw [← List.take_append_drop 8 rest, hfront]
        simp
    rw [packBits.eq_3 rest hshort hne, List.flatMap_cons, List.flatMap_nil, List.append_nil,
      octetBits_binaryNumber (by rw [List.length_append, List.length_replicate]; omega),
      completeOctets]
    congr 2
    omega

/-! ### The codec -/

namespace Codec

variable {octets : List UInt8} {target : DecodeTarget} {v : Value}

/-- A string decodes to a value: its encoded form does. -/
def Recodes (decode : Codec) (v : Value) (target : DecodeTarget) (w : Value) : Prop :=
  ∃ octets, v.octets = .ok octets ∧ decode octets target = .ok w

theorem recodes_iff {decode : Codec} {w : Value} (h : v.octets = .ok octets) :
    decode.Recodes v target w ↔ decode octets target = .ok w := by
  constructor
  · rintro ⟨octets', hoctets, hdecode⟩
    obtain rfl := Except.ok.inj (h.symm.trans hoctets)
    exact hdecode
  · exact fun hdecode => ⟨octets, h, hdecode⟩

/-- Octets decode to a character string if they are the octets of a text; a kind that is seen as a
charstring asks that the text be ASCII. -/
theorem decodeText_eq_ok_iff {kind : Kind} : decodeText kind octets = .ok v ↔
    ∃ s, octets = Text.Utf8.encode s ∧ v = .text kind s ∧
      (kind.ttcn3View = .charstring → Text.IsAscii s) := by
  unfold decodeText
  constructor
  · intro h
    split at h
    · rename_i s hs
      obtain rfl := Text.Utf8.decode?_eq_some_iff.mp hs
      split at h
      · cases h
      rename_i hascii
      cases h
      refine ⟨s, rfl, rfl, fun hview => ?_⟩
      rw [← Text.Utf8.any_encode_iff, ← Bool.not_eq_true]
      exact fun hany => hascii ⟨hview, hany⟩
    · cases h
  · rintro ⟨s, rfl, rfl, hascii⟩
    rw [Text.Utf8.decode?_eq_some_iff.mpr rfl]
    refine if_neg ?_
    rintro ⟨hview, hany⟩
    rw [Text.Utf8.any_encode_iff.mpr (hascii hview)] at hany
    cases hany

/-- A type of character strings is decoded as text. -/
theorem raw_of_isCharacterString (h : target.kind.ttcn3View.isCharacterString = true) :
    raw octets target = decodeText target.kind octets := by
  obtain ⟨-, -, -, -, htext, -⟩ := target.kind.classes_ttcn3View
  rw [htext] at h
  rcases Kind.ttcn3View_of_isCharacterString h with hview | hview <;>
  · simp only [raw, hview]
    rfl

/-- What octets decode to, for a type of strings, has these octets for its encoded form. -/
theorem octets_of_raw (hstring : target.kind.ttcn3View.isString = true)
    (h : raw octets target = .ok v) : v.octets = .ok octets := by
  cases htext : target.kind.ttcn3View.isCharacterString with
  | true =>
    rw [raw_of_isCharacterString htext, decodeText_eq_ok_iff] at h
    obtain ⟨s, rfl, rfl, -⟩ := h
    rfl
  | false =>
    unfold raw at h
    split at h
    · cases h
      rfl
    · rename_i hview
      rw [hview] at hstring
      cases hstring
    · rename_i hview
      rw [hview] at hstring
      cases hstring
    · cases h
      exact congrArg Except.ok (packBits_flatMap_octetBits octets)
    · rw [htext] at h
      cases h

/-- **The raw codec is the inverse of the encoded form of strings.**  For every type of strings,
what octets decode to has these octets for its encoded form.  In turn an octetstring decodes to
itself; a character string decodes to itself, for a kind that is seen as a charstring exactly if it
is ASCII; and a bitstring decodes to itself and the zeros that complete its last octet. -/
theorem raw_inverse_octets (target : DecodeTarget) :
    (target.kind.ttcn3View.isString = true →
      ∀ octets v, raw octets target = .ok v → v.octets = .ok octets) ∧
    (target.kind.ttcn3View = .octetstring → ∀ kind octets w,
      raw.Recodes (.scalar kind (.octets octets)) target w ↔ w = .octetstring octets) ∧
    (target.kind.ttcn3View.isCharacterString = true → ∀ kind s w,
      raw.Recodes (.text kind s) target w ↔
        w = .text target.kind s ∧ (target.kind.ttcn3View = .charstring → Text.IsAscii s)) ∧
    (target.kind.ttcn3View = .bitstring → ∀ kind bits w,
      raw.Recodes (.scalar kind (.bits bits)) target w ↔ w = .bitstring (completeOctets bits)) := by
  refine ⟨fun hstring octets v => octets_of_raw hstring, fun hview kind octets w => ?_,
    fun htext kind s w => ?_, fun hview kind bits w => ?_⟩
  · rw [recodes_iff rfl]
    simp only [raw, hview]
    exact ⟨fun h => (Except.ok.inj h).symm, fun h => congrArg _ h.symm⟩
  · rw [recodes_iff rfl, raw_of_isCharacterString htext, decodeText_eq_ok_iff]
    constructor
    · rintro ⟨s', hs, rfl, hascii⟩
      obtain rfl : s' = s := by
        have hsome := Text.Utf8.decode?_eq_some_iff.mpr hs
        rw [Text.Utf8.decode?_eq_some_iff.mpr rfl] at hsome
        exact (Option.some.inj hsome).symm
      exact ⟨rfl, hascii⟩
    · rintro ⟨rfl, hascii⟩
      exact ⟨s, rfl, rfl, hascii⟩
  · rw [recodes_iff rfl]
    simp only [raw, hview]
    rw [flatMap_octetBits_packBits]
    exact ⟨fun h => (Except.ok.inj h).symm, fun h => congrArg _ h.symm⟩

/-- A letter outside ASCII decodes to itself in the universal character set, and as no charstring;
nine bits are completed by seven zeros, and an octet decodes to its eight bits. -/
theorem raw_inverse_octets_samples :
    raw.Recodes (.text .utf8String "é") ⟨"universal charstring", .universalCharstring⟩
        (.text .universalCharstring "é") ∧
      (∀ w, ¬ raw.Recodes (.text .charstring "é") ⟨"IA5String", .ia5String⟩ w) ∧
      raw.Recodes (.octetstring [0xC3]) ⟨"ANY", .any⟩ (.octetstring [0xC3]) ∧
      raw.Recodes (.bitstring (List.replicate 9 true)) ⟨"bitstring", .bitstring⟩
        (.bitstring (List.replicate 9 true ++ List.replicate 7 false)) ∧
      raw [0xA5] ⟨"bitstring", .bitstring⟩ =
        .ok (.bitstring [true, false, true, false, false, true, false, true]) ∧
      (Value.bitstring [true, false, true, false, false, true, false, true]).octets =
        .ok [0xA5] := by
  have hnarrow : ¬ Text.IsAscii "é" := fun h =>
    absurd (h 'é' (by decide)) (by decide)
  have hbits : raw [0xA5] ⟨"bitstring", .bitstring⟩ =
      .ok (.bitstring [true, false, true, false, false, true, false, true]) := rfl
  refine ⟨?_, fun w h => ?_, ?_, ?_, hbits, ?_⟩
  · exact ((raw_inverse_octets _).2.2.1 rfl _ _ _).mpr ⟨rfl, fun h => by cases h⟩
  · exact hnarrow ((((raw_inverse_octets _).2.2.1 rfl _ _ _).mp h).2 rfl)
  · exact ((raw_inverse_octets _).2.1 rfl .octetstring [0xC3] _).mpr rfl
  · exact ((raw_inverse_octets _).2.2.2 rfl .bitstring (List.replicate 9 true) _).mpr rfl
  · exact (raw_inverse_octets _).1 rfl _ _ hbits

end Codec

end TestSpec
