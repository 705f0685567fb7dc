/-!
# Texts with numbered placeholders

A message is a text in which a number between braces stands for the argument of
that position, counted from zero.  Arguments are filled in one after another, each
at all places of its placeholder, so an argument that itself contains the
placeholder of a later one has that filled in as well.  Placeholders beyond the
last argument stay as they are.
-/

namespace TestSpec.Text

/-- The characters of the placeholder for argument `k`. -/
def placeholder (k : Nat) : List Char := '{' :: (toString k).toList ++ ['}']

/-- Replace every occurrence of `pattern`, read from the left, by `replacement`. -/
def replaceAll (pattern replacement : List Char) : List Char → List Char
  | [] => []
  | c :: rest =>
    if pattern.isPrefixOf (c :: rest) then
      replacement ++ replaceAll pattern replacement (rest.drop (pattern.length - 1))
    else c :: replaceAll pattern replacement rest
termination_by text => text.length

/-- Fill in the arguments from position `k` on. -/
def fillFrom (k : Nat) (text : List Char) : List String → List Char
  | [] => text
  | arg :: args => fillFrom (k + 1) (replaceAll (placeholder k) arg.toList text) args

/-- The text with its placeholders filled in, argument by argument. -/
def fill (text : String) (args : List String) : String :=
  String.ofList (fillFrom 0 text.toList args)

/-- A number is written with digits alone. -/
theorem isDigit_of_mem_toString {c : Char} {n : Nat} (h : c ∈ (toString n).toList) :
    c.isDigit = true := by
  have hdigits : (toString n).toList = Nat.toDigits 10 n := Nat.toList_repr
  rw [hdigits] at h
  exact Nat.isDigit_of_mem_toDigits (by decide) (by decide) h

theorem notMem_toString {c : Char} (h : c.isDigit = false) (n : Nat) :
    c ∉ (toString n).toList := by
  intro hc
  have hdigit := isDigit_of_mem_toString hc
  rw [h] at hdigit
  cases hdigit

/-- Behind its opening brace, a placeholder has no other. -/
theorem notMem_tail_placeholder (k : Nat) : '{' ∉ (placeholder k).tail := by
  intro h
  have hmem : '{' ∈ (toString k).toList ++ ['}'] := h
  rcases List.mem_append.mp hmem with hdigit | hclose
  · exact notMem_toString (by decide) k hdigit
  · exact absurd hclose (by decide)

section

variable {c : Char} {pattern replacement rest : List Char}

/-- What a text begins with is replaced if it is the pattern. -/
theorem replaceAll_pattern_append :
    replaceAll (c :: pattern) replacement (c :: pattern ++ rest) =
      replacement ++ replaceAll (c :: pattern) replacement rest := by
  have hbegin : (c :: pattern).isPrefixOf (c :: (pattern ++ rest)) = true := by
    rw [List.isPrefixOf_iff_prefix]
    exact List.prefix_append (c :: pattern) rest
  have hrest : (pattern ++ rest).drop ((c :: pattern).length - 1) = rest :=
    List.drop_left
  rw [List.cons_append, replaceAll, if_pos hbegin, hrest]

/-- The first character of a text stays if the text does not begin with the pattern. -/
theorem replaceAll_cons_of_not_isPrefix (h : ¬ pattern <+: c :: rest) :
    replaceAll pattern replacement (c :: rest) = c :: replaceAll pattern replacement rest := by
  have hbegin : ¬ pattern.isPrefixOf (c :: rest) = true := by
    rw [List.isPrefixOf_iff_prefix]
    exact h
  rw [replaceAll, if_neg hbegin]

/-- A part in which the first character of the pattern does not occur stays, whatever stands
behind it. -/
theorem replaceAll_append_of_notMem {part : List Char} (h : c ∉ part) :
    replaceAll (c :: pattern) replacement (part ++ rest) =
      part ++ replaceAll (c :: pattern) replacement rest := by
  induction part with
  | nil => rfl
  | cons d part ih =>
    rw [List.mem_cons, not_or] at h
    obtain ⟨hfirst, hpart⟩ := h
    have hbegin : ¬ c :: pattern <+: d :: (part ++ rest) := by
      intro hbegin
      exact hfirst (List.cons_prefix_cons.mp hbegin).1
    rw [List.cons_append, replaceAll_cons_of_not_isPrefix hbegin, ih hpart, List.cons_append]

/-- A text is replaced at no place where the first character of what is replaced does not occur. -/
theorem replaceAll_of_notMem {text : List Char} (h : c ∉ text) :
    replaceAll (c :: pattern) replacement text = text := by
  calc replaceAll (c :: pattern) replacement text
      = replaceAll (c :: pattern) replacement (text ++ []) := by rw [List.append_nil]
    _ = text ++ replaceAll (c :: pattern) replacement [] := replaceAll_append_of_notMem h
    _ = text := by rw [replaceAll, List.append_nil]

end

end TestSpec.Text
