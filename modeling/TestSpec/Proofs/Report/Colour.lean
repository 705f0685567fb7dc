import Mathlib.Data.List.Forall2
import TestSpec.Report.Text

/-!
# Colour adds nothing to a report

A report is written in two ways, with colours and without.  The coloured one is the other one with
control sequences in it: deleting them gives the plain report, character by character, provided
that no text of the report has an escape character of its own (`Report.strip_render`).  Of the way
in which a text is written in a style, only that it encloses such a text in control sequences is
used (`Wrapper.Encloses`).

Such a text holds no sequence, nor a piece of one, so that a sequence in the report begins where a
style was opened or closed, and ends there.  Hence what is left of a text does not depend on what
stands behind it, and lines are put together from pieces that show the same
(`Style.Shows`, with a lemma for each way in which a report is put together).
-/

namespace TestSpec

/-! ### Texts without an escape character -/

/-- A text has no escape character. -/
def IsPlain (text : String) : Prop := '\x1b' ∉ text.toList

instance (text : String) : Decidable (IsPlain text) :=
  inferInstanceAs (Decidable (¬ '\x1b' ∈ text.toList))

theorem isPlain_append {s t : String} : IsPlain (s ++ t) ↔ IsPlain s ∧ IsPlain t := by
  simp [IsPlain]

theorem isPlain_toString (n : Nat) : IsPlain (toString n) :=
  Text.notMem_toString (by decide) n

theorem isPlain_plural {ending : String} (h : IsPlain ending) (count : Nat) :
    IsPlain (plural count ending) := by
  rw [plural]
  split
  · decide
  · exact h

namespace Style

/-! ### Deleting control sequences -/

/-- A character that the parameters of a control sequence are written with. -/
def isParameter (c : Char) : Bool := c.isDigit || c == ';'

/-- How long the control sequence is that a text begins with: an escape character, a bracket, digits
and semicolons, and an `m`.  Zero if the text does not begin with one. -/
def sequenceLength : List Char → Nat
  | '\x1b' :: '[' :: rest =>
    if (rest.dropWhile isParameter).head? = some 'm' then
      (rest.takeWhile isParameter).length + 3
    else 0
  | _ => 0

/-- The characters of a text without those of its control sequences, where as many as are pending
belong to a sequence that began before. -/
def dropSequences : Nat → List Char → List Char
  | _, [] => []
  | pending + 1, _ :: rest => dropSequences pending rest
  | 0, c :: rest =>
    match sequenceLength (c :: rest) with
    | 0 => c :: dropSequences 0 rest
    | pending + 1 => dropSequences pending rest

/-- The text without its control sequences. -/
def strip (text : String) : String := String.ofList (dropSequences 0 text.toList)

/-- Nothing is deleted where no escape character stands. -/
theorem dropSequences_append {text : List Char} (h : '\x1b' ∉ text) (rest : List Char) :
    dropSequences 0 (text ++ rest) = text ++ dropSequences 0 rest := by
  induction text with
  | nil => rfl
  | cons c text ih =>
    rw [List.mem_cons, not_or] at h
    obtain ⟨hfirst, htext⟩ := h
    have hlength : sequenceLength (c :: (text ++ rest)) = 0 := by
      unfold sequenceLength
      split
      · rename_i heq
        exact absurd (List.cons.inj heq).1.symm hfirst
      · rfl
    rw [List.cons_append, dropSequences, hlength, List.cons_append]
    exact congrArg (c :: ·) (ih htext)

/-- What is pending is deleted. -/
theorem dropSequences_length_append (front rest : List Char) :
    dropSequences front.length (front ++ rest) = dropSequences 0 rest := by
  induction front with
  | nil => rfl
  | cons c front ih => exact ih

/-- A control sequence is deleted, whatever stands behind it. -/
theorem dropSequences_sequence {parameters : String}
    (h : parameters.toList.all isParameter = true) (rest : List Char) :
    dropSequences 0 ((sequence parameters).toList ++ rest) = dropSequences 0 rest := by
  have hparameters : ∀ c ∈ parameters.toList, isParameter c = true := List.all_eq_true.mp h
  have hchars : (sequence parameters).toList ++ rest =
      '\x1b' :: '[' :: (parameters.toList ++ 'm' :: rest) := by
    simp [sequence]
  have hlength : sequenceLength ('\x1b' :: '[' :: (parameters.toList ++ 'm' :: rest)) =
      parameters.toList.length + 3 := by
    have hend : isParameter 'm' = false := by decide
    simp [sequenceLength, List.dropWhile_append_of_pos hparameters,
      List.takeWhile_append_of_pos hparameters, hend]
  have hpending := dropSequences_length_append ('[' :: (parameters.toList ++ ['m'])) rest
  have hsplit : '[' :: (parameters.toList ++ ['m']) ++ rest =
      '[' :: (parameters.toList ++ 'm' :: rest) := by
    simp
  rw [hsplit] at hpending
  rw [hchars, dropSequences, hlength, ← hpending]
  simp

/-- Whole sequences are deleted, and what only begins like one stays. -/
example : strip "\x1b[36mmessage\x1b[0m: \x1b[31" = "message: \x1b[31" := by decide

/-- A style stands around a plain text: nothing in it ends the style, so that nothing has to be
opened again. -/
theorem apply_of_isPlain (style : Style) {text : String} (h : IsPlain text) :
    style.apply text = style.opening ++ text ++ reset := by
  have hsame : Text.replaceAll reset.toList (reset ++ style.opening).toList text.toList =
      text.toList :=
    Text.replaceAll_of_notMem h
  rw [apply, hsame, String.ofList_toList]

end Style

/-- A wrapper encloses every plain text in a control sequence that opens the style and the sequence
that ends all styles.  What it makes of other texts is left open. -/
def Wrapper.Encloses (wrap : Wrapper) : Prop :=
  ∀ style, ∃ parameters : String, parameters.toList.all Style.isParameter = true ∧
    ∀ text, IsPlain text → wrap style text = Style.sequence parameters ++ text ++ Style.reset

theorem Style.encloses_apply : Wrapper.Encloses Style.apply := fun style =>
  ⟨style.parameters, by cases style <;> decide, fun _ => apply_of_isPlain style⟩

namespace Style

/-! ### Texts that show the same -/

/-- A coloured text shows a plain one: wherever it stands, deleting the control sequences leaves the
plain text of it, and of what stands behind it what is left of that alone. -/
def Shows (coloured plain : String) : Prop :=
  ∀ rest, dropSequences 0 (coloured.toList ++ rest) = plain.toList ++ dropSequences 0 rest

namespace Shows

variable {s t s' t' : String}

theorem strip_eq (h : Shows s t) : strip s = t := by
  have hend := h []
  rw [List.append_nil] at hend
  rw [strip, hend]
  simp [dropSequences]

theorem self (h : IsPlain t) : Shows t t := dropSequences_append h

theorem append (h : Shows s t) (h' : Shows s' t') : Shows (s ++ s') (t ++ t') := by
  intro rest
  rw [String.toList_append, String.toList_append, List.append_assoc, h, h', List.append_assoc]

theorem sequence {parameters : String} (h : parameters.toList.all isParameter = true) :
    Shows (Style.sequence parameters) "" := by
  intro rest
  rw [dropSequences_sequence h]
  rfl

/-- What is written in a style shows the text that is enclosed. -/
theorem wrapped {wrap : Wrapper} (hwrap : wrap.Encloses) (style : Style) (h : IsPlain t) :
    Shows (wrap style t) t := by
  obtain ⟨parameters, hparameters, hencloses⟩ := hwrap style
  have hopening : Shows (Style.sequence parameters) "" := sequence hparameters
  have hreset : Shows reset "" := sequence (by decide)
  rw [hencloses t h]
  have hwhole := (hopening.append (self h)).append hreset
  rwa [String.empty_append, String.append_empty] at hwhole

theorem applyIf {wrap : Wrapper} (hwrap : wrap.Encloses) (style : Style) (colour : Bool)
    (h : IsPlain t) : Shows (wrap.applyIf style colour t) t := by
  rw [Wrapper.applyIf]
  split
  · exact wrapped hwrap style h
  · exact self h

/-- Lines that show the same do so when they are joined. -/
theorem intercalate {separator : String} (hseparator : IsPlain separator)
    {lines lines' : List String} (h : List.Forall₂ Shows lines lines') :
    Shows (separator.intercalate lines) (separator.intercalate lines') := by
  induction h with
  | nil => exact self (by rw [String.intercalate_nil]; decide)
  | @cons line line' rest rest' hline hrest ih =>
    cases hrest with
    | nil => rwa [String.intercalate_singleton, String.intercalate_singleton]
    | cons hnext hothers =>
      rw [String.intercalate_cons_cons, String.intercalate_cons_cons]
      exact (hline.append (self hseparator)).append ih

/-- Lines that are listed part by part show the same if those of each part do. -/
theorem forall₂_flatMap {α : Type} {f g : α → List String} {parts : List α}
    (h : ∀ part ∈ parts, List.Forall₂ Shows (f part) (g part)) :
    List.Forall₂ Shows (parts.flatMap f) (parts.flatMap g) := by
  induction parts with
  | nil => exact .nil
  | cons part rest ih =>
    rw [List.forall_mem_cons] at h
    rw [List.flatMap_cons, List.flatMap_cons]
    exact List.rel_append h.1 (ih h.2)

end Shows

end Style

/-! ### The parts of a report -/

open Style

variable {wrap : Wrapper}

/-- The texts of a diagnostic that it was given: those of its places, its own and its remarks'. -/
def Diagnostic.texts (d : Diagnostic) : List String :=
  d.location.file :: d.text :: d.related.flatMap fun r => [r.location.file, r.text]

/-- The texts of an outcome that it was given: its name, and why there is none. -/
def MatchOutcome.texts (m : MatchOutcome) : List String := m.name :: m.error.toList

/-- The texts that a report was given, of all locations, messages, names and errors. -/
def Report.texts (r : Report) : List String :=
  r.diagnostics.flatMap Diagnostic.texts ++ r.outcomes.flatMap MatchOutcome.texts

theorem Location.isPlain_render {l : Location} (h : IsPlain l.file) : IsPlain l.render := by
  rw [render]
  split
  · exact h
  · have hcolon : IsPlain ":" := by decide
    exact isPlain_append.mpr ⟨isPlain_append.mpr ⟨h, hcolon⟩, isPlain_toString l.start⟩

theorem Location.isPlain_heading {l : Location} (h : IsPlain l.file) : IsPlain l.heading := by
  rw [heading]
  split
  · decide
  · exact isPlain_render h

theorem Remark.shows_line (hwrap : wrap.Encloses) {r : Remark} (hfile : IsPlain r.location.file)
    (htext : IsPlain r.text) : Shows (r.line wrap true) (r.line wrap false) := by
  have hword : Shows (wrap.applyIf dimmed true "  Related") "  Related" :=
    .applyIf hwrap _ _ (by decide)
  have hplace : Shows r.location.render r.location.render := .self (Location.isPlain_render hfile)
  have hcolon : Shows ": " ": " := .self (by decide)
  have hdash : Shows " - " " - " := .self (by decide)
  exact (((hword.append hcolon).append hplace).append hdash).append (.self htext)

theorem Diagnostic.shows_lines (hwrap : wrap.Encloses) {d : Diagnostic}
    (h : ∀ text ∈ d.texts, IsPlain text) :
    List.Forall₂ Shows (d.lines wrap true) (d.lines wrap false) := by
  have hfile : IsPlain d.location.file := by
    apply h
    simp [texts]
  have htext : IsPlain d.text := by
    apply h
    simp [texts]
  have hcategory : IsPlain d.category.word := by
    cases d.category <;> decide
  have hcode : IsPlain ("TT" ++ toString d.code) :=
    isPlain_append.mpr ⟨by decide, isPlain_toString d.code⟩
  have hheading : Shows d.location.heading d.location.heading :=
    .self (Location.isPlain_heading hfile)
  have hword : Shows (wrap.applyIf d.category.style true d.category.word) d.category.word :=
    .applyIf hwrap _ _ hcategory
  have hnumber : Shows (wrap.applyIf dimmed true ("TT" ++ toString d.code))
      ("TT" ++ toString d.code) := .applyIf hwrap _ _ hcode
  have hdash : Shows " - " " - " := .self (by decide)
  have hblank : Shows " " " " := .self (by decide)
  have hcolon : Shows ": " ": " := .self (by decide)
  have hfirst := (((((hheading.append hdash).append hword).append hblank).append hnumber).append
    hcolon).append (.self htext)
  refine .cons hfirst ?_
  rw [List.forall₂_map_left_iff, List.forall₂_map_right_iff, List.forall₂_same]
  intro r hr
  have hremark (text : String) (hmem : text ∈ [r.location.file, r.text]) : IsPlain text := by
    apply h
    have hrelated : text ∈ d.related.flatMap fun r => [r.location.file, r.text] :=
      List.mem_flatMap.mpr ⟨r, hr, hmem⟩
    exact List.mem_cons_of_mem _ (List.mem_cons_of_mem _ hrelated)
  exact Remark.shows_line hwrap (hremark _ (by simp)) (hremark _ (by simp))

theorem MatchOutcome.shows_line (hwrap : wrap.Encloses) {m : MatchOutcome}
    (h : ∀ text ∈ m.texts, IsPlain text) : Shows (m.line wrap true) (m.line wrap false) := by
  have hname : IsPlain m.name := by
    apply h
    simp [texts]
  have hverdict : IsPlain m.verdict := by
    rw [verdict]
    split
    · rename_i error herror
      have herror : IsPlain error := by
        apply h
        simp [texts, herror]
      exact isPlain_append.mpr ⟨by decide, herror⟩
    all_goals decide
  have hregret : IsPlain m.regret := by
    rw [regret]
    split
    · split <;> decide
    · decide
  have hdash : IsPlain " - " := by decide
  have hline : IsPlain (m.name ++ " - " ++ m.verdict ++ m.regret) := by
    simp only [isPlain_append, hname, hdash, hverdict, hregret, and_self]
  exact .applyIf hwrap _ _ hline

theorem Report.isPlain_summary (r : Report) : IsPlain r.summary := by
  have hs (count : Nat) : IsPlain (plural count "s") := isPlain_plural (by decide) count
  have hes (count : Nat) : IsPlain (plural count "es") := isPlain_plural (by decide) count
  have hliterals : IsPlain "Found " ∧ IsPlain " error" ∧ IsPlain ", " ∧
      IsPlain " other diagnostic" ∧ IsPlain " and " ∧ IsPlain " failed match" ∧ IsPlain "." := by
    decide
  unfold summary
  simp only [isPlain_append, isPlain_toString, hs, hes, hliterals, and_self]

/-- **Colour never changes the text of a report.**  Let a wrapper enclose texts without an escape
character in a control sequence that opens a style and the one that ends it.  If none of the
locations, messages, names and errors that a report was given contains an escape character, then
deleting the control sequences from the coloured report gives the plain one. -/
theorem Report.strip_render (hwrap : wrap.Encloses) {r : Report}
    (h : ∀ text ∈ r.texts, IsPlain text) :
    strip (r.render wrap true) = r.render wrap false := by
  have hdiagnostics : List.Forall₂ Shows (r.diagnostics.flatMap (Diagnostic.lines wrap true))
      (r.diagnostics.flatMap (Diagnostic.lines wrap false)) := by
    apply Shows.forall₂_flatMap
    intro d hd
    apply Diagnostic.shows_lines hwrap
    intro text htext
    apply h
    exact List.mem_append_left _ (List.mem_flatMap.mpr ⟨d, hd, htext⟩)
  have houtcomes : List.Forall₂ Shows (r.outcomes.map (MatchOutcome.line wrap true))
      (r.outcomes.map (MatchOutcome.line wrap false)) := by
    rw [List.forall₂_map_left_iff, List.forall₂_map_right_iff, List.forall₂_same]
    intro m hm
    apply MatchOutcome.shows_line hwrap
    intro text htext
    apply h
    exact List.mem_append_right _ (List.mem_flatMap.mpr ⟨m, hm, htext⟩)
  have hsummary : Shows (wrap.applyIf boldRed (true && !r.isSuccess) r.summary) r.summary :=
    .applyIf hwrap _ _ r.isPlain_summary
  have hlines : List.Forall₂ Shows (r.lines wrap true) (r.lines wrap false) :=
    List.rel_append (List.rel_append hdiagnostics houtcomes) (.cons hsummary .nil)
  exact (Shows.intercalate (by decide) hlines).strip_eq

/-- A warning with a remark, and a match that came out other than expected. -/
def Report.surprise : Report where
  diagnostics := [{
    location := { file := "Point", start := 4, length := 2 }
    text := "Something odd"
    category := .warning
    code := 9
    related := [{ location := .ofFile "Other", text := "declared here" }] }]
  outcomes := [{ name := "surprise", matched := some true, expected := some false }]

/-- The report is written with colours as the program applies them, and without them it is the plain
one. -/
theorem Report.strip_render_surprise :
    surprise.diagnostics.flatMap (Diagnostic.lines Style.apply true) =
        ["Point:4 - \x1b[1;33mwarning\x1b[0m \x1b[2mTT9\x1b[0m: Something odd",
          "\x1b[2m  Related\x1b[0m: Other - declared here"] ∧
      Wrapper.Encloses Style.apply ∧ (∀ text ∈ surprise.texts, IsPlain text) ∧
      strip (surprise.render Style.apply true) = surprise.render Style.apply false := by
  have hplain : ∀ text ∈ surprise.texts, IsPlain text := by decide
  have hcoloured : surprise.diagnostics.flatMap (Diagnostic.lines Style.apply true) =
      ["Point:4 - \x1b[1;33mwarning\x1b[0m \x1b[2mTT9\x1b[0m: Something odd",
        "\x1b[2m  Related\x1b[0m: Other - declared here"] := by
    have hword : boldYellow.apply "warning" = boldYellow.opening ++ "warning" ++ reset :=
      apply_of_isPlain _ (by decide)
    have hcode : dimmed.apply "TT9" = dimmed.opening ++ "TT9" ++ reset :=
      apply_of_isPlain _ (by decide)
    have hrelated : dimmed.apply "  Related" = dimmed.opening ++ "  Related" ++ reset :=
      apply_of_isPlain _ (by decide)
    show ["Point" ++ ":" ++ toString 4 ++ " - " ++ boldYellow.apply "warning" ++ " " ++
      dimmed.apply "TT9" ++ ": " ++ "Something odd",
      dimmed.apply "  Related" ++ ": " ++ "Other" ++ " - " ++ "declared here"] = _
    rw [hword, hcode, hrelated]
    rfl
  exact ⟨hcoloured, encloses_apply, hplain, strip_render encloses_apply hplain⟩

end TestSpec
