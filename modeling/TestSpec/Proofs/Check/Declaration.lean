import TestSpec.Check.Declaration
import TestSpec.Proofs.Store.Stamp

/-!
# Declarations in order

A declaration is **in order** if a check finds no error in it; a warning does not
count.  Then its alias chain has an end, and its constraint narrows the one that the
chain hands down to it.  Whether it is in order depends on neither stamps nor marks
(`Store.complaints_congr`).

In a store without errors every declaration is in order and none is marked erroneous,
so that no type is silenced.
-/

namespace TestSpec

namespace Store

variable {s s' : Store}

/-- A check of the declaration finds no error. -/
def InOrder (s : Store) (id : TypeId) : Prop := ∀ c ∈ s.complaints id, c.isError = false

theorem inOrder_iff {id : TypeId} :
    s.InOrder id ↔ (s.complaints id).any Complaint.isError = false := by
  rw [List.any_eq_false]
  simp [InOrder]

/-! ### What order is good for -/

theorem aliasComplaint?_isError {id : TypeId} {c : Complaint}
    (h : s.aliasComplaint? id = some c) : c.isError = true := by
  simp only [aliasComplaint?] at h
  split at h
  · split at h
    · cases h
    · obtain rfl := Option.some.inj h
      rfl
    · obtain rfl := Option.some.inj h
      rfl
  · cases h

namespace InOrder

variable {id : TypeId}

theorem aliasComplaint?_eq_none (h : s.InOrder id) : s.aliasComplaint? id = none := by
  cases hc : s.aliasComplaint? id with
  | none => rfl
  | some c =>
    have hmem : c ∈ s.complaints id := by simp [complaints, hc]
    have herror := aliasComplaint?_isError hc
    rw [h c hmem] at herror
    cases herror

/-- The alias chain of a declaration in order has an end. -/
theorem exists_last (h : s.InOrder id) : ∃ last, s.resolveAlias? id = some last := by
  cases hid : (s.get id).isAlias with
  | false => exact ⟨id, resolveAlias?_of_isAlias hid⟩
  | true =>
    have hnone := h.aliasComplaint?_eq_none
    simp only [aliasComplaint?, hid, if_true] at hnone
    split at hnone
    · rename_i last hlast
      exact ⟨last, by simp [resolveAlias?, hlast]⟩
    · cases hnone
    · cases hnone

/-- The constraint of an alias in order narrows the constraint in force for its target, where the
kind at the end of the chain is known. -/
theorem isSubsetOf (h : s.InOrder id) {parent : TypeId} {c inherited : Constraint}
    (hc : (s.get id).constraint = some c) (hparent : s.nextAlias? id = some parent)
    (hinherited : s.effectiveConstraint parent = some inherited)
    (hkind : (s.resolvedKind id).1 ≠ .undefined) : c.isSubsetOf inherited = true := by
  have hmem {x : Complaint} (hx : x ∈ s.constraintComplaints id c) : x.isError = false :=
    h x (by simp [complaints, hc, hx])
  have hnext : s.parentConstraint? (s.get id) = some (parent, inherited) := by
    simp only [nextAlias?] at hparent
    split at hparent
    · rename_i hid
      obtain ⟨target, htarget, hresolved⟩ := Option.bind_eq_some_iff.mp hparent
      simp [parentConstraint?, hid, htarget, hresolved, hinherited]
    · cases hparent
  simp only [constraintComplaints, if_neg hkind] at hmem
  split at hmem
  · exact absurd (hmem List.mem_cons_self) (by simp [Complaint.isError, Message.category])
  split at hmem
  · exact absurd (hmem List.mem_cons_self) (by simp [Complaint.isError, Message.category])
  cases hsub : c.isSubsetOf inherited with
  | true => rfl
  | false =>
    -- the complaint that the constraint does not narrow would be an error
    have hcomplaint := @hmem ⟨.subtypeNotASubset, [c.render, (s.get id).name, inherited.render,
      s.name parent]⟩ (by simp [narrowingComplaint?, hnext, hsub])
    simp [Complaint.isError, Message.category] at hcomplaint

end InOrder

/-! ### Stamps play no part -/

theorem complaints_unstamped (id : TypeId) : s.unstamped.complaints id = s.complaints id := by
  have hreference : s.unstamped.referenceComplaint? = s.referenceComplaint? := by
    funext r
    simp only [referenceComplaint?, resolveRef_unstamped]
  have halias : s.unstamped.aliasComplaint? id = s.aliasComplaint? id := by
    simp only [aliasComplaint?, get_unstamped, Declaration.isAlias_unstamped, resolveAlias,
      followAlias_unstamped]
  have hparent : s.unstamped.parentConstraint? (s.get id).unstamped =
      s.parentConstraint? (s.get id) := by
    simp only [parentConstraint?, Declaration.isAlias_unstamped, Declaration.target_unstamped,
      resolveRef?_unstamped, effectiveConstraint_unstamped]
  have hkind : s.unstamped.resolvedKind id = s.resolvedKind id := by
    simp only [resolvedKind, resolveAlias?_unstamped, get_unstamped]
    rfl
  have hconstraint (c : Constraint) :
      s.unstamped.constraintComplaints id c = s.constraintComplaints id c := by
    simp only [constraintComplaints, narrowingComplaint?, get_unstamped, hkind, hparent,
      Declaration.name_unstamped, name_unstamped]
  simp only [complaints, get_unstamped, halias, hreference, funext hconstraint,
    Declaration.constraint_unstamped]
  rfl

/-- Stores that are the same but for stamps have the same complaints. -/
theorem complaints_congr (h : s.unstamped = s'.unstamped) (id : TypeId) :
    s.complaints id = s'.complaints id := by
  rw [← complaints_unstamped, h, complaints_unstamped]

theorem inOrder_congr (h : s.unstamped = s'.unstamped) (id : TypeId) :
    s.InOrder id ↔ s'.InOrder id := by
  rw [InOrder, InOrder, complaints_congr h]

/-! ### Stores without errors -/

/-- No declaration is erroneous: each is in order, and none is marked erroneous. -/
structure HasNoErrors (s : Store) : Prop where
  inOrder : ∀ id, s.InOrder id
  unmarked : ∀ id, (s.get id).isErroneous = false

theorem get_of_size_le {id : TypeId} (h : s.size ≤ id) : s.get id = {} := by
  rw [get, Array.getD_eq_getD_getElem?, Array.getElem?_eq_none h]
  rfl

theorem complaints_of_size_le {id : TypeId} (h : s.size ≤ id) : s.complaints id = [] := by
  simp [complaints, aliasComplaint?, get_of_size_le h, Declaration.isAlias, partReferences,
    nameComplaints, repeatedNames]

/-- It is enough to look at the declarations that were made. -/
theorem HasNoErrors.of_size (h : ∀ id < s.size, (s.complaints id).any Complaint.isError = false ∧
    (s.get id).isErroneous = false) : s.HasNoErrors := by
  refine ⟨fun id => ?_, fun id => ?_⟩
  · by_cases hid : id < s.size
    · exact inOrder_iff.mpr (h id hid).1
    · rw [InOrder, complaints_of_size_le (Nat.not_lt.mp hid)]
      exact fun _ hc => absurd hc List.not_mem_nil
  · by_cases hid : id < s.size
    · exact (h id hid).2
    · rw [get_of_size_le (Nat.not_lt.mp hid)]
      rfl

/-- In a store without errors no type is silenced. -/
theorem HasNoErrors.isSilenced (h : s.HasNoErrors) (type : TypeId) :
    s.isSilenced type = false := by
  have hmark : s.isErroneous type = false := isErroneous_eq_false fun u _ => h.unmarked u
  exact isSilenced_eq_false_iff.mpr ⟨hmark, (h.inOrder type).exists_last⟩

end Store

end TestSpec
