import TestSpec.Proofs.Json.Numeric
import TestSpec.Value.Digits
import TestSpec.Value.Print

/-!
# Binary strings are read as they are printed

A binary string is printed with one digit for each bit or nibble and two for each octet, between
single quotes.  What stands between the quotes is read as the string it was printed for; and a text
that is read at all is printed again, in upper case (`Value.digits_inverse_render`).

A reader of digits is known by what it accepts: it reads a text as some digits exactly if it reads
each character as the digit at its place (`readDigits_eq_ok_iff`), and octets are read from a text
exactly if their halves are (`readOctets_eq_ok_iff`).  So reading and printing meet digit by digit,
and there they are finite tables.
-/

namespace TestSpec

/-! ### One digit -/

namespace Text

variable {c : Char} {n high low : Fin 16}

/-- The hexadecimal digits, of either case. -/
def hexDigits : List Char := "0123456789abcdefABCDEF".toList

theorem mem_range'_of_between {first last : Char} (h : first ≤ c ∧ c ≤ last) :
    c ∈ (List.range' first.toNat (last.toNat + 1 - first.toNat)).map Char.ofNat := by
  have hfirst : first.toNat ≤ c.toNat := h.1
  have hlast : c.toNat ≤ last.toNat := h.2
  refine List.mem_map.mpr ⟨c.toNat, ?_, Char.ofNat_toNat c⟩
  rw [List.mem_range'_1]
  omega

theorem hexDigit?_eq_none_iff : hexDigit? c = none ↔ c ∉ hexDigits := by
  constructor
  · intro hnone hmem
    have hall : hexDigits.all (fun c => (hexDigit? c).isSome) = true := by decide
    have hsome := List.all_eq_true.mp hall c hmem
    rw [hnone] at hsome
    cases hsome
  · intro hmem
    have hlisted {first last : Char} (h : first ≤ c ∧ c ≤ last)
        (hall : ((List.range' first.toNat (last.toNat + 1 - first.toNat)).map Char.ofNat).all
          hexDigits.contains = true) : False := by
      have hc := List.all_eq_true.mp hall c (mem_range'_of_between h)
      exact hmem (List.contains_iff_mem.mp hc)
    have hdecimal : ¬ ('0' ≤ c ∧ c ≤ '9') := fun h => hlisted h (by decide)
    have hlower : ¬ ('a' ≤ c ∧ c ≤ 'f') := fun h => hlisted h (by decide)
    have hupper : ¬ ('A' ≤ c ∧ c ≤ 'F') := fun h => hlisted h (by decide)
    rw [hexDigit?, if_neg hdecimal, if_neg hlower, if_neg hupper]

theorem hexDigit?_upperHexDigit (n : Fin 16) : hexDigit? (upperHexDigit n) = some n := by
  revert n
  decide

/-- A digit is printed again in upper case. -/
theorem upperHexDigit_of_hexDigit? (h : hexDigit? c = some n) : upperHexDigit n = c.toUpper := by
  have hmem : c ∈ hexDigits := by
    apply Decidable.byContradiction
    intro hmem
    rw [hexDigit?_eq_none_iff.mpr hmem] at h
    cases h
  have hall :
      hexDigits.all (fun c => (hexDigit? c).map upperHexDigit == some c.toUpper) = true := by
    decide
  have hc := List.all_eq_true.mp hall c hmem
  rw [h, beq_iff_eq] at hc
  exact Option.some.inj hc

theorem octetOfNibbles_nibbles (b : UInt8) : octetOfNibbles (highNibble b) (lowNibble b) = b := by
  have hb := b.toNat_lt
  apply UInt8.toNat.inj
  simp only [octetOfNibbles, highNibble, lowNibble, Fin.val_ofNat, UInt8.toNat_ofNat']
  omega

theorem highNibble_octetOfNibbles : highNibble (octetOfNibbles high low) = high := by
  apply Fin.ext
  simp only [octetOfNibbles, highNibble, Fin.val_ofNat, UInt8.toNat_ofNat']
  omega

theorem lowNibble_octetOfNibbles : lowNibble (octetOfNibbles high low) = low := by
  apply Fin.ext
  simp only [octetOfNibbles, lowNibble, Fin.val_ofNat, UInt8.toNat_ofNat']
  omega

/-- Digits are printed again in upper case. -/
theorem map_upperHexDigit_of_map {text : List Char} {digits : List (Fin 16)}
    (h : text.map hexDigit? = digits.map some) :
    digits.map upperHexDigit = text.map Char.toUpper := by
  induction text generalizing digits with
  | nil =>
    obtain rfl := List.map_eq_nil_iff.mp h.symm
    rfl
  | cons c rest ih =>
    cases digits with
    | nil => cases h
    | cons d digits =>
      obtain ⟨hc, hrest⟩ := List.cons.inj h
      rw [List.map_cons, List.map_cons, upperHexDigit_of_hexDigit? hc, ih hrest]

/-- The halves of octets, in the order in which they are written. -/
def nibbles (octets : List UInt8) : List (Fin 16) :=
  octets.flatMap fun b => [highNibble b, lowNibble b]

theorem map_upperHexDigit_nibbles (octets : List UInt8) :
    (nibbles octets).map upperHexDigit = octets.flatMap upperHexOctet := by
  rw [nibbles, List.map_flatMap]
  rfl

end Text

open Text

/-! ### Readers of digits -/

/-- A step whose result is changed fails if the step does. -/
theorem map_fails_iff {ε α β : Type} {x : Except ε α} {f : α → β} :
    (∃ e, f <$> x = .error e) ↔ ∃ e, x = .error e := by
  cases x <;> simp [Functor.map, Except.map]

section

variable {α : Type} {digit? : Char → Option α} {text : List Char} {digits : List α}

/-- A text is read as some digits exactly if each character is read as the digit at its place. -/
theorem readDigits_eq_ok_iff :
    readDigits digit? text = .ok digits ↔ text.map digit? = digits.map some := by
  induction text generalizing digits with
  | nil =>
    rw [readDigits, List.map_nil, Except.ok.injEq, eq_comm, eq_comm (a := []), List.map_eq_nil_iff]
  | cons c rest ih =>
    rw [readDigits]
    cases hc : digit? c with
    | none => cases digits <;> simp [hc]
    | some d =>
      cases digits with
      | nil => simp [map_eq_ok]
      | cons d' digits =>
        rw [map_eq_ok, List.map_cons, List.map_cons, hc]
        simp only [ih, List.cons.injEq, Option.some.injEq]
        constructor
        · rintro ⟨others, hothers, hd, rfl⟩
          exact ⟨hd, hothers⟩
        · rintro ⟨hd, hothers⟩
          exact ⟨digits, hothers, hd, rfl⟩

/-- A text is refused exactly for a character that is no digit. -/
theorem readDigits_eq_error_iff :
    (∃ fault, readDigits digit? text = .error fault) ↔ ∃ c ∈ text, digit? c = none := by
  induction text with
  | nil => simp [readDigits]
  | cons c rest ih =>
    rw [readDigits]
    cases hc : digit? c with
    | none => simp [hc]
    | some d =>
      rw [map_fails_iff, ih]
      simp [hc]

/-- What is written digit by digit is read again, if each digit is. -/
theorem readDigits_map {write : α → Char} (h : ∀ d, digit? (write d) = some d)
    (digits : List α) : readDigits digit? (digits.map write) = .ok digits := by
  rw [readDigits_eq_ok_iff, List.map_map]
  exact List.map_congr_left fun d _ => h d

end

/-- Nibbles are joined to octets exactly if they are their halves. -/
theorem joinNibbles_eq_ok_iff {digits : List (Fin 16)} {octets : List UInt8} :
    joinNibbles digits = .ok octets ↔ digits = nibbles octets := by
  induction digits using joinNibbles.induct generalizing octets with
  | case1 => cases octets <;> simp [joinNibbles, nibbles]
  | case2 n => cases octets <;> simp [joinNibbles, nibbles]
  | case3 high low rest ih =>
    rw [joinNibbles, map_eq_ok]
    cases octets with
    | nil => simp [nibbles]
    | cons b octets =>
      have hnibbles : nibbles (b :: octets) = highNibble b :: lowNibble b :: nibbles octets := rfl
      rw [hnibbles]
      simp only [ih, List.cons.injEq]
      constructor
      · rintro ⟨others, hothers, rfl, rfl⟩
        exact ⟨highNibble_octetOfNibbles.symm, lowNibble_octetOfNibbles.symm, hothers⟩
      · rintro ⟨rfl, rfl, hothers⟩
        exact ⟨octets, hothers, octetOfNibbles_nibbles b, rfl⟩

theorem joinNibbles_eq_error_iff {digits : List (Fin 16)} :
    (∃ fault, joinNibbles digits = .error fault) ↔ digits.length % 2 = 1 := by
  induction digits using joinNibbles.induct with
  | case1 => simp [joinNibbles]
  | case2 n => simp [joinNibbles]
  | case3 high low rest ih =>
    rw [joinNibbles, map_fails_iff, ih, List.length_cons, List.length_cons]
    omega

/-- Octets are read from a text exactly if their halves are. -/
theorem readOctets_eq_ok_iff {text : String} {octets : List UInt8} :
    readOctets text = .ok octets ↔ readNibbles text = .ok (nibbles octets) := by
  rw [readOctets, bind_eq_ok]
  constructor
  · rintro ⟨digits, hdigits, hjoin⟩
    rw [← joinNibbles_eq_ok_iff.mp hjoin]
    exact hdigits
  · intro hdigits
    exact ⟨nibbles octets, hdigits, joinNibbles_eq_ok_iff.mpr rfl⟩

/-- Octets are refused for a character that is no hexadecimal digit, and else for an odd number of
digits. -/
theorem readOctets_eq_error_iff {text : String} :
    (∃ fault, readOctets text = .error fault) ↔
      (∃ c ∈ text.toList, c ∉ hexDigits) ∨ text.length % 2 = 1 := by
  have hrefused : (∃ fault, readNibbles text = .error fault) ↔
      ∃ c ∈ text.toList, c ∉ hexDigits := by
    rw [readNibbles, readDigits_eq_error_iff]
    simp only [hexDigit?_eq_none_iff]
  rw [readOctets, ← hrefused]
  cases hdigits : readNibbles text with
  | error fault => simp [bind, Except.bind]
  | ok digits =>
    have hlength : digits.length = text.length := by
      rw [readNibbles, readDigits_eq_ok_iff] at hdigits
      have hsame := congrArg List.length hdigits
      rw [List.length_map, List.length_map, String.length_toList] at hsame
      exact hsame.symm
    rw [← hlength, ← joinNibbles_eq_error_iff]
    simp [bind, Except.bind]

/-! ### Texts of values -/

/-- Nibbles are printed as the text that they were read from, in upper case. -/
theorem map_upperHexDigit_of_readNibbles {text : String} {digits : List (Fin 16)}
    (h : readNibbles text = .ok digits) :
    String.ofList (digits.map upperHexDigit) = text.toUpper := by
  have hupper : text.toUpper = String.ofList (text.toList.map Char.toUpper) := by
    rw [← String.toList_inj, String.toUpper, String.toList_map, String.toList_ofList]
  rw [readNibbles, readDigits_eq_ok_iff] at h
  rw [hupper, map_upperHexDigit_of_map h]

namespace Value

/-- **Binary strings are read as they are printed.**  The digits between the quotes of a bitstring,
an octetstring and a hexstring are read as the bits, octets and nibbles that the value was made of.
A text that is read as octets or as nibbles is printed in upper case between the quotes; and no
octets are read from a text exactly if a character of it is no hexadecimal digit or the number of
characters is odd. -/
theorem digits_inverse_render :
    (∀ bits : List Bool, ∃ digits,
      (bitstring bits).render = "'" ++ digits ++ "'" ++ "B" ∧ readBits digits = .ok bits) ∧
    (∀ octets : List UInt8, ∃ digits,
      (octetstring octets).render = "'" ++ digits ++ "'" ++ "O" ∧ readOctets digits = .ok octets) ∧
    (∀ nibbles : List (Fin 16), ∃ digits,
      (hexstring nibbles).render = "'" ++ digits ++ "'" ++ "H" ∧ readNibbles digits = .ok nibbles) ∧
    (∀ text octets, readOctets text = .ok octets →
      (octetstring octets).render = "'" ++ text.toUpper ++ "'" ++ "O") ∧
    (∀ text nibbles, readNibbles text = .ok nibbles →
      (hexstring nibbles).render = "'" ++ text.toUpper ++ "'" ++ "H") ∧
    ∀ text, (∃ fault, readOctets text = .error fault) ↔
      (∃ c ∈ text.toList, c ∉ "0123456789abcdefABCDEF".toList) ∨ text.length % 2 = 1 := by
  have hnibbles (digits : List (Fin 16)) :
      readNibbles (String.ofList (digits.map upperHexDigit)) = .ok digits := by
    rw [readNibbles, String.toList_ofList]
    exact readDigits_map hexDigit?_upperHexDigit digits
  refine ⟨?_, ?_, ?_, ?_, ?_, ?_⟩
  · intro bits
    refine ⟨String.ofList (bits.map bitDigit), rfl, ?_⟩
    rw [readBits, String.toList_ofList]
    apply readDigits_map
    intro bit
    cases bit <;> rfl
  · intro octets
    refine ⟨String.ofList (octets.flatMap upperHexOctet), rfl, ?_⟩
    rw [readOctets_eq_ok_iff, ← map_upperHexDigit_nibbles]
    exact hnibbles (nibbles octets)
  · intro digits
    exact ⟨String.ofList (digits.map upperHexDigit), rfl, hnibbles digits⟩
  · intro text octets h
    rw [readOctets_eq_ok_iff] at h
    have hdigits := map_upperHexDigit_of_readNibbles h
    rw [map_upperHexDigit_nibbles] at hdigits
    rw [← hdigits]
    rfl
  · intro text digits h
    rw [← map_upperHexDigit_of_readNibbles h]
    rfl
  · intro text
    exact readOctets_eq_error_iff

/-- Digits of either case are read as two octets, which are printed in upper case; three digits make
no octets. -/
theorem digits_inverse_render_mixedCase :
    readOctets "0aFF" = .ok [0x0A, 0xFF] ∧
      (octetstring [0x0A, 0xFF]).render = "'" ++ "0aFF".toUpper ++ "'" ++ "O" ∧
      (octetstring [0x0A, 0xFF]).render = "'0AFF'O" ∧
      ∃ fault, readOctets "ABC" = .error fault := by
  obtain ⟨-, -, -, hoctets, -, hrefused⟩ := digits_inverse_render
  have hread : readOctets "0aFF" = .ok [0x0A, 0xFF] := rfl
  exact ⟨hread, hoctets "0aFF" _ hread, rfl, (hrefused "ABC").mpr (.inr rfl)⟩

end Value

end TestSpec
