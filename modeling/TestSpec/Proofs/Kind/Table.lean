import Mathlib.Tactic.Tauto
import TestSpec.Kind.Acceptance

/-!
# What the tables of kinds have in common

Kinds are classified by their traits, by classes that name a few kinds each, by the
TTCN-3 view and by the table of what is accepted where.  All of these are finite, so
that what one says about another is settled by looking at every kind; `Kind.mem_all`
and `Dialect.mem_all` make that a matter of computation.
-/

namespace TestSpec

theorem Dialect.mem_all (d : Dialect) : d ∈ Dialect.all := by
  cases d <;> decide

namespace Kind

theorem mem_all (k : Kind) : k ∈ Kind.all := by
  cases k <;> decide

/-- A kind belongs to at most one of the classes that are compared in different ways. -/
theorem class_cases (k : Kind) :
    (k.isRecordLike, k.isSetLike, k.isUnionLike, k.isEnumerated, k.isList) ∈
      [(true, false, false, false, false), (false, true, false, false, false),
        (false, false, true, false, false), (false, false, false, true, false),
        (false, false, false, false, true), (false, false, false, false, false)] := by
  cases k <;> decide

/-- Two kinds are seen as the same TTCN-3 kind. -/
def SameView (k k' : Kind) : Prop := k.ttcn3View = k'.ttcn3View

/-- Classes of kinds, and the traits that tell ranges of values, are read off the TTCN-3 view. -/
theorem classes_ttcn3View (k : Kind) :
    k.ttcn3View.isRecordLike = k.isRecordLike ∧ k.ttcn3View.isSetLike = k.isSetLike ∧
      k.ttcn3View.isUnionLike = k.isUnionLike ∧ k.ttcn3View.isList = k.isList ∧
      k.ttcn3View.isCharacterString = k.isCharacterString ∧
      k.ttcn3View.isOrdered = k.isOrdered := by
  cases k <;> decide

theorem SameView.classes {k k' : Kind} (h : k.SameView k') :
    k.isRecordLike = k'.isRecordLike ∧ k.isSetLike = k'.isSetLike ∧
      k.isUnionLike = k'.isUnionLike ∧ k.isList = k'.isList ∧
      k.isCharacterString = k'.isCharacterString ∧ k.isOrdered = k'.isOrdered := by
  obtain ⟨h₁, h₂, h₃, h₄, h₅, h₆⟩ := k.classes_ttcn3View
  rw [show k.ttcn3View = k'.ttcn3View from h] at h₁ h₂ h₃ h₄ h₅ h₆
  obtain ⟨h₁', h₂', h₃', h₄', h₅', h₆'⟩ := k'.classes_ttcn3View
  exact ⟨h₁.symm.trans h₁', h₂.symm.trans h₂', h₃.symm.trans h₃', h₄.symm.trans h₄',
    h₅.symm.trans h₅', h₆.symm.trans h₆'⟩

/-- What has a length, or is a string, is so in the TTCN-3 view too. -/
theorem traits_ttcn3View (k : Kind) :
    (k.hasLength = true → k.ttcn3View.hasLength = true) ∧
      (k.isString = true → k.ttcn3View.isString = true) := by
  cases k <;> decide

/-- Values of a kind of strings, or of an ordered one, have no parts that are values of types. -/
theorem simple_of_isString_or_isOrdered {k : Kind} (h : (k.isString || k.isOrdered) = true) :
    k.isRecordLike = false ∧ k.isSetLike = false ∧ k.isUnionLike = false ∧ k.isList = false := by
  revert h
  cases k <;> decide

/-- Values that have a length have no named parts. -/
theorem unnamed_of_hasLength {k : Kind} (h : k.hasLength = true) :
    k.isRecordLike = false ∧ k.isSetLike = false ∧ k.isUnionLike = false := by
  revert h
  cases k <;> decide

/-- A character string is seen as one of the two TTCN-3 kinds of them. -/
theorem ttcn3View_of_isCharacterString {k : Kind} (h : k.isCharacterString = true) :
    k.ttcn3View = .charstring ∨ k.ttcn3View = .universalCharstring := by
  revert h
  cases k <;> decide

/-- What is accepted of one dialect is accepted of the TTCN-3 dialect. -/
theorem accepts_ttcn3 {e a : Kind} {de da : Dialect} (h : e.accepts a de da = true) :
    e.accepts a de .ttcn3 = true := by
  cases e with
  | relativeOid =>
    -- the one kind that looks at the dialect of what is offered
    simp only [accepts, acceptsDefined, Bool.or_eq_true, Bool.and_eq_true, beq_iff_eq] at h ⊢
    tauto
  | _ => exact h

/-- Defined kinds of which one accepts the other belong to the same classes. -/
theorem classes_of_accepts {e a : Kind} {de da : Dialect} (he : e ≠ .undefined)
    (ha : a ≠ .undefined) (h : e.accepts a de da = true) :
    e.isRecordLike = a.isRecordLike ∧ e.isSetLike = a.isSetLike ∧
      e.isUnionLike = a.isUnionLike ∧ e.isEnumerated = a.isEnumerated ∧ e.isList = a.isList := by
  have hdefined : e.acceptsDefined a de .ttcn3 = true := by
    simpa [accepts, he, ha] using accepts_ttcn3 h
  have hall : (Kind.all.all fun e => Kind.all.all fun a => Dialect.all.all fun de =>
      !e.acceptsDefined a de .ttcn3 || (e.isRecordLike == a.isRecordLike &&
        e.isSetLike == a.isSetLike && e.isUnionLike == a.isUnionLike &&
        e.isEnumerated == a.isEnumerated && e.isList == a.isList)) = true := by
    decide +kernel
  simp only [List.all_eq_true] at hall
  have hea := hall e e.mem_all a a.mem_all de de.mem_all
  simpa [hdefined, and_assoc] using hea

end Kind

end TestSpec
