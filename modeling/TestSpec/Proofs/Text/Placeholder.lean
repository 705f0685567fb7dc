import TestSpec.Diagnostic.Message

/-!
# Filling in argument by argument fills in all at once

The placeholders of a message are filled in one after another, each in the text that the ones
before it have left.  As long as no argument has an opening brace, this is the same as to fill in
all of them at once: each placeholder for which there is an argument becomes that argument,
unchanged, and everything else stays (`Text.fill_eq_fillAtOnce`).

This is so for every template, a text whose opening braces all begin a placeholder.  The texts of
the messages are templates, and a template is read in one way only (`pieces_written`), so that it
is settled what its placeholders are.

The invariant is that, after some arguments, the text is the template with exactly these filled in
at once.  What has been filled in has no opening brace, so that the next placeholder is found at its
own places only (`replaceAll_filled`), whatever digits and closing braces the arguments bring.
-/

namespace TestSpec.Text

/-! ### Templates and their pieces -/

/-- A piece of a text with placeholders. -/
inductive Piece where
  /-- A character that stands for itself. -/
  | char (c : Char)
  /-- The placeholder of an argument. -/
  | slot (k : Nat)
  deriving DecidableEq, Repr

namespace Piece

/-- A piece as it stands in the text. -/
def written : Piece → List Char
  | char c => [c]
  | slot k => placeholder k

/-- A piece with the arguments filled in: a placeholder becomes its argument, and stays if there is
none. -/
def filled (args : List String) : Piece → List Char
  | char c => [c]
  | slot k =>
    match args[k]? with
    | some arg => arg.toList
    | none => placeholder k

variable {args : List String} {k : Nat}

theorem filled_slot_of_lt (h : k < args.length) : (slot k).filled args = args[k].toList := by
  rw [filled, List.getElem?_eq_getElem h]

theorem filled_slot_of_le (h : args.length ≤ k) : (slot k).filled args = placeholder k := by
  rw [filled, List.getElem?_eq_none h]

/-- Without arguments all placeholders stay. -/
theorem filled_nil : filled [] = written := by
  funext p
  cases p <;> rfl

end Piece

/-- A text whose opening braces all begin a placeholder: it is written with placeholders and other
characters. -/
def IsTemplate (text : String) : Prop :=
  ∃ ps : List Piece, .char '{' ∉ ps ∧ ps.flatMap Piece.written = text.toList

/-- The number of the placeholder that a text begins with, if it begins with one. -/
def slotAt? : List Char → Option Nat
  | '{' :: rest =>
    let k := Nat.ofDigitChars 10 (rest.takeWhile Char.isDigit) 0
    -- compared as a whole, as there may be no closing brace, or zeros before the number
    if (placeholder k).isPrefixOf ('{' :: rest) then some k else none
  | _ => none

/-- The pieces of a text behind the pending characters, which belong to a placeholder that began
before. -/
def pieces : Nat → List Char → List Piece
  | _, [] => []
  | pending + 1, _ :: rest => pieces pending rest
  | 0, c :: rest =>
    match slotAt? (c :: rest) with
    | some k => .slot k :: pieces (placeholder k).tail.length rest
    | none => .char c :: pieces 0 rest

/-- The text with all its placeholders filled in at once. -/
def fillAtOnce (text : String) (args : List String) : String :=
  String.ofList ((pieces 0 text.toList).flatMap (Piece.filled args))

/-! ### Reading a text into pieces -/

section

variable {j k : Nat} {text rest : List Char} {ps : List Piece}

theorem takeWhile_isDigit_toString (k : Nat) (rest : List Char) :
    ((toString k).toList ++ '}' :: rest).takeWhile Char.isDigit = (toString k).toList := by
  have hdigits : ∀ c ∈ (toString k).toList, c.isDigit = true := by
    intro c hc
    exact isDigit_of_mem_toString hc
  have hbrace : ¬ Char.isDigit '}' = true := by decide
  rw [List.takeWhile_append_of_pos hdigits, List.takeWhile_cons_of_neg hbrace, List.append_nil]

theorem ofDigitChars_toString (k : Nat) : Nat.ofDigitChars 10 (toString k).toList 0 = k := by
  have hdigits : (toString k).toList = Nat.toDigits 10 k := Nat.toList_repr
  rw [hdigits]
  exact Nat.ofDigitChars_toDigits (by decide) (by decide)

/-- The placeholder that a text begins with is recognised, whatever stands behind it. -/
theorem slotAt?_eq_some_iff : slotAt? text = some k ↔ placeholder k <+: text := by
  constructor
  · intro h
    unfold slotAt? at h
    split at h
    · obtain ⟨hbegin, hk⟩ := Option.ite_none_right_eq_some.mp h
      obtain rfl := Option.some.inj hk
      exact List.isPrefixOf_iff_prefix.mp hbegin
    · cases h
  · rintro ⟨rest, rfl⟩
    have htext : placeholder k ++ rest = '{' :: ((toString k).toList ++ '}' :: rest) := by
      simp [placeholder]
    have hbegin : (placeholder k).isPrefixOf ('{' :: ((toString k).toList ++ '}' :: rest)) =
        true := by
      rw [← htext, List.isPrefixOf_iff_prefix]
      exact List.prefix_append _ _
    rw [htext, slotAt?, takeWhile_isDigit_toString, ofDigitChars_toString]
    exact if_pos hbegin

/-- A text begins with one placeholder only. -/
theorem eq_of_placeholder_isPrefix (h : placeholder j <+: placeholder k ++ rest) : j = k := by
  have hj : slotAt? (placeholder k ++ rest) = some j := slotAt?_eq_some_iff.mpr h
  have hk : slotAt? (placeholder k ++ rest) = some k :=
    slotAt?_eq_some_iff.mpr (List.prefix_append _ _)
  rw [hj] at hk
  exact Option.some.inj hk

/-- Nothing of a text is lost in reading. -/
theorem written_pieces (pending : Nat) (text : List Char) :
    (pieces pending text).flatMap Piece.written = text.drop pending := by
  induction text generalizing pending with
  | nil => simp [pieces]
  | cons c rest ih =>
    cases pending with
    | succ pending => exact ih pending
    | zero =>
      rw [pieces]
      cases hslot : slotAt? (c :: rest) with
      | none =>
        have hrest := ih 0
        rw [List.drop_zero] at hrest
        simp only [List.flatMap_cons, hrest]
        rfl
      | some k =>
        have hbegin : '{' :: (placeholder k).tail <+: c :: rest := slotAt?_eq_some_iff.mp hslot
        obtain ⟨rfl, htail⟩ := List.cons_prefix_cons.mp hbegin
        have hrest : (placeholder k).tail ++ rest.drop (placeholder k).tail.length = rest :=
          List.prefix_iff_eq_append.mp htail
        simp only [List.flatMap_cons, ih]
        exact congrArg ('{' :: ·) hrest

/-- What is pending is passed over. -/
theorem pieces_length_append (front rest : List Char) :
    pieces front.length (front ++ rest) = pieces 0 rest := by
  induction front with
  | nil => rfl
  | cons c front ih => exact ih

/-- A template is read as the pieces that it is written with, and as no others. -/
theorem pieces_written (h : .char '{' ∉ ps) : pieces 0 (ps.flatMap Piece.written) = ps := by
  induction ps with
  | nil => rfl
  | cons p ps ih =>
    rw [List.mem_cons, not_or] at h
    obtain ⟨hp, hps⟩ := h
    rw [List.flatMap_cons]
    cases p with
    | char c =>
      have hslot : slotAt? (c :: ps.flatMap Piece.written) = none := by
        unfold slotAt?
        split
        · rename_i heq
          exact absurd (congrArg Piece.char (List.cons.inj heq).1.symm) hp
        · rfl
      show pieces 0 (c :: ps.flatMap Piece.written) = _
      rw [pieces, hslot]
      exact congrArg (Piece.char c :: ·) (ih hps)
    | slot k =>
      have hslot : slotAt? ('{' :: ((placeholder k).tail ++ ps.flatMap Piece.written)) = some k :=
        slotAt?_eq_some_iff.mpr (List.prefix_append (placeholder k) _)
      show pieces 0 ('{' :: ((placeholder k).tail ++ ps.flatMap Piece.written)) = _
      rw [pieces, hslot]
      simp only [pieces_length_append, ih hps]

/-- A text is a template if no opening brace in it is read as a character. -/
theorem isTemplate_ofList (h : .char '{' ∉ pieces 0 text) : IsTemplate (String.ofList text) := by
  refine ⟨pieces 0 text, h, ?_⟩
  rw [written_pieces, List.drop_zero, String.toList_ofList]

end

/-- The texts of the messages are templates. -/
theorem isTemplate_message (m : Message) : IsTemplate m.template := by
  cases m <;> exact isTemplate_ofList (by decide)

/-! ### Filling in the next argument -/

section

variable {j k : Nat} {replacement rest : List Char} {args done : List String} {arg : String}
  {p : Piece} {ps : List Piece}

/-- A placeholder is passed over when another one is replaced. -/
theorem replaceAll_placeholder_of_ne (h : j ≠ k) :
    replaceAll (placeholder j) replacement (placeholder k ++ rest) =
      placeholder k ++ replaceAll (placeholder j) replacement rest := by
  have hbegin : ¬ placeholder j <+: '{' :: ((placeholder k).tail ++ rest) := by
    intro hbegin
    exact h (eq_of_placeholder_isPrefix hbegin)
  calc replaceAll (placeholder j) replacement ('{' :: ((placeholder k).tail ++ rest))
      = '{' :: replaceAll (placeholder j) replacement ((placeholder k).tail ++ rest) :=
        replaceAll_cons_of_not_isPrefix hbegin
    _ = '{' :: ((placeholder k).tail ++ replaceAll (placeholder j) replacement rest) :=
        congrArg ('{' :: ·) (replaceAll_append_of_notMem (notMem_tail_placeholder k))

/-- The next argument is filled in at a piece, whatever stands behind it. -/
theorem replaceAll_filled_append (hdone : ∀ a ∈ done, '{' ∉ a.toList) (hp : p ≠ .char '{') :
    replaceAll (placeholder done.length) arg.toList (p.filled done ++ rest) =
      p.filled (done ++ [arg]) ++ replaceAll (placeholder done.length) arg.toList rest := by
  have hlength : (done ++ [arg]).length = done.length + 1 := by
    rw [List.length_append, List.length_singleton]
  cases p with
  | char c =>
    apply replaceAll_append_of_notMem
    intro hmem
    exact hp (congrArg Piece.char (List.mem_singleton.mp hmem).symm)
  | slot k =>
    rcases Nat.lt_trichotomy k done.length with hlt | rfl | hgt
    · -- already filled in, and without an opening brace
      have hlt' : k < (done ++ [arg]).length := by omega
      rw [Piece.filled_slot_of_lt hlt, Piece.filled_slot_of_lt hlt', List.getElem_append_left hlt]
      exact replaceAll_append_of_notMem (hdone _ (List.getElem_mem hlt))
    · -- the one that is due
      have hlt : done.length < (done ++ [arg]).length := by omega
      rw [Piece.filled_slot_of_le (Nat.le_refl _), Piece.filled_slot_of_lt hlt,
        List.getElem_concat_length rfl]
      exact replaceAll_pattern_append
    · -- left for a later argument, or for none
      have hle : (done ++ [arg]).length ≤ k := by omega
      rw [Piece.filled_slot_of_le (Nat.le_of_lt hgt), Piece.filled_slot_of_le hle]
      exact replaceAll_placeholder_of_ne (Nat.ne_of_lt hgt)

/-- **One step.**  If some arguments are filled in at once, replacing the next placeholder fills in
one more. -/
theorem replaceAll_filled (hdone : ∀ a ∈ done, '{' ∉ a.toList) (hps : .char '{' ∉ ps) :
    replaceAll (placeholder done.length) arg.toList (ps.flatMap (Piece.filled done)) =
      ps.flatMap (Piece.filled (done ++ [arg])) := by
  induction ps with
  | nil => rw [List.flatMap_nil, List.flatMap_nil, replaceAll]
  | cons p ps ih =>
    rw [List.mem_cons, not_or] at hps
    obtain ⟨hp, hps⟩ := hps
    rw [List.flatMap_cons, List.flatMap_cons, replaceAll_filled_append hdone (Ne.symm hp), ih hps]

/-- **All steps.**  From a text with some arguments filled in at once, the others are filled in as
well. -/
theorem fillFrom_filled (hargs : ∀ a ∈ done ++ args, '{' ∉ a.toList) (hps : .char '{' ∉ ps) :
    fillFrom done.length (ps.flatMap (Piece.filled done)) args =
      ps.flatMap (Piece.filled (done ++ args)) := by
  induction args generalizing done with
  | nil => rw [fillFrom, List.append_nil]
  | cons arg args ih =>
    have hdone : ∀ a ∈ done, '{' ∉ a.toList := by
      intro a ha
      exact hargs a (List.mem_append_left _ ha)
    have hlength : done.length + 1 = (done ++ [arg]).length := by
      rw [List.length_append, List.length_singleton]
    have hsplit : done ++ arg :: args = done ++ [arg] ++ args := by
      rw [List.append_assoc, List.singleton_append]
    rw [hsplit] at hargs
    rw [fillFrom, replaceAll_filled hdone hps, hlength, ih hargs, hsplit]

end

/-- **Filling in one argument after another is filling in all at once**, if no argument has an
opening brace: so for the text of each message, and for every text whose opening braces all begin a
placeholder.  Each placeholder for which there is an argument becomes that argument, and everything
else stays. -/
theorem fill_eq_fillAtOnce (args : List String) (h : ∀ arg ∈ args, '{' ∉ arg.toList) :
    (∀ m : Message, IsTemplate m.template ∧ m.text args = fillAtOnce m.template args) ∧
    ∀ text, IsTemplate text → fill text args = fillAtOnce text args := by
  have htemplates : ∀ text, IsTemplate text → fill text args = fillAtOnce text args := by
    rintro text ⟨ps, hps, htext⟩
    have hfilled : fillFrom [].length (ps.flatMap (Piece.filled [])) args =
        ps.flatMap (Piece.filled ([] ++ args)) :=
      fillFrom_filled h hps
    rw [Piece.filled_nil, List.nil_append, List.length_nil] at hfilled
    rw [fill, fillAtOnce, ← htext, hfilled, pieces_written hps]
  refine ⟨?_, htemplates⟩
  intro m
  have hm := isTemplate_message m
  exact ⟨hm, htemplates m.template hm⟩

/-- Two arguments are filled in, one of them with a digit and a closing brace, and the placeholder
of an eleventh stays. -/
theorem fill_eq_fillAtOnce_swapped :
    (∀ arg ∈ ["1\x7d", "a"], '{' ∉ arg.toList) ∧
      IsTemplate "\x7b1\x7d, \x7b0\x7d, \x7b10\x7d" ∧
      fill "\x7b1\x7d, \x7b0\x7d, \x7b10\x7d" ["1\x7d", "a"] = "a, 1\x7d, \x7b10\x7d" ∧
      Message.noSuchParameter.text ["1\x7d", "a"] =
        "Signature `1\x7d' does not have parameter named `a'" := by
  have hargs : ∀ arg ∈ ["1\x7d", "a"], '{' ∉ arg.toList := by decide
  obtain ⟨hmessages, htemplates⟩ := fill_eq_fillAtOnce ["1\x7d", "a"] hargs
  have htemplate : IsTemplate "\x7b1\x7d, \x7b0\x7d, \x7b10\x7d" :=
    isTemplate_ofList (by decide)
  refine ⟨hargs, htemplate, ?_, ?_⟩
  · rw [htemplates _ htemplate]
    rfl
  · rw [(hmessages .noSuchParameter).2]
    rfl

/-- An opening brace matters, in an argument as well as in a text. -/
example :
    fill "\x7b0\x7d" ["\x7b1\x7d", "a"] = "a" ∧
      fillAtOnce "\x7b0\x7d" ["\x7b1\x7d", "a"] = "\x7b1\x7d" ∧
      fill "\x7b\x7b0\x7d" ["1\x7d", "a"] = "a" ∧
      fillAtOnce "\x7b\x7b0\x7d" ["1\x7d", "a"] = "\x7b1\x7d" := by
  cbv

end TestSpec.Text
