import TestSpec.Proofs.Check.Declaration
import TestSpec.Proofs.Check.Session

/-!
# Checking declarations, step by step

A declaration is **settled** in a session if it is builtin or the pass has checked it.
Checking a settled declaration changes nothing; checking another one reports its
complaints and settles it (`Session.declaration_of_settled`,
`Session.declaration_of_due`).  So a run over declarations settles them all, and what is
settled stays so.

A session is **faithful** if every declaration that its pass has checked is marked
erroneous exactly if it has an error.  Checks keep a session faithful, and in a faithful
session declarations that are checked without an error are in order and unmarked.
-/

namespace TestSpec

namespace Store

variable {s : Store}

theorem get_setStamp (id u : TypeId) (stamp : CheckStamp) :
    (s.setStamp id stamp).get u =
      if id = u ∧ u < s.size then { s.get u with stamp } else s.get u := by
  simp only [setStamp, get, Array.getD_eq_getD_getElem?, Array.getElem?_modify, size]
  by_cases hu : u < s.declarations.size
  · by_cases hid : id = u <;> simp [hu, hid]
  · simp [hu]

/-- A declaration that a name means carries the name. -/
theorem name_of_lookup {name : String} {id : TypeId} (h : s.lookup name = some id) :
    s.name id = name := by
  have hbelow (count : Nat) (h : s.lookupBelow name count = some id) : s.name id = name := by
    induction count with
    | zero => cases h
    | succ count ih =>
      rw [lookupBelow] at h
      split at h
      · rename_i hname
        obtain rfl := Option.some.inj h
        exact hname
      · exact ih h
  exact hbelow _ h

/-- What a name means is builtin or among the declarations that are checked. -/
theorem mem_userTypes_of_lookup {name : String} {id : TypeId} (h : s.lookup name = some id)
    (hbuiltin : (s.get id).isBuiltin = false) : id ∈ s.userTypes := by
  have hid : id < s.declarations.size := lt_of_lookupBelow h
  have hname : name ∈ s.names := by
    rw [names, List.mem_eraseDups]
    refine List.mem_map.mpr ⟨s.get id, ?_, name_of_lookup h⟩
    simp [get, Array.getD_eq_getD_getElem?, hid]
  exact List.mem_filter.mpr ⟨List.mem_filterMap.mpr ⟨name, hname, h⟩, by simp [hbuiltin]⟩

theorem userTypes_unstamped (s : Store) : s.unstamped.userTypes = s.userTypes := by
  have hnames : s.unstamped.names = s.names := by
    have hname : Declaration.name ∘ Declaration.unstamped = Declaration.name := rfl
    simp [names, unstamped, hname]
  have hbuiltin (id : TypeId) : (s.unstamped.get id).isBuiltin = (s.get id).isBuiltin := by
    rw [get_unstamped]
    rfl
  simp only [userTypes, hnames, funext s.lookup_unstamped, hbuiltin]

/-- Stores that are the same but for stamps have the same declarations checked. -/
theorem userTypes_congr {s' : Store} (h : s.unstamped = s'.unstamped) :
    s.userTypes = s'.userTypes := by
  rw [← userTypes_unstamped, h, userTypes_unstamped]

end Store

namespace Session

variable {s : Session} {id u : TypeId}

/-- The declaration is builtin, or the pass has checked it. -/
def IsSettled (s : Session) (id : TypeId) : Prop :=
  (s.store.get id).isBuiltin = true ∨ (s.store.get id).stamp.claim? s.pass = none

/-- The session after the check of a declaration that is not settled. -/
def checked (s : Session) (id : TypeId) : Session :=
  { s.emitAll (s.store.get id).location (s.store.complaints id) with
    store := s.store.setStamp id ⟨some s.pass, (s.store.complaints id).any Complaint.isError⟩ }

/-! ### One declaration -/

/-- Checking a settled declaration changes nothing. -/
theorem declaration_of_settled (h : s.IsSettled id) : (Check.declaration id).run s =
    ((s.store.get id).isBuiltin || !(s.store.get id).isErroneous, s) := by
  simp only [Check.declaration, StateT.run_bind, StateT.run_get, pure_bind]
  cases hbuiltin : (s.store.get id).isBuiltin with
  | true => rfl
  | false =>
    have hnone : (s.store.get id).stamp.claim? s.pass = none := by
      simpa [IsSettled, hbuiltin] using h
    simp only [hnone]
    rfl

/-- Checking another one reports its complaints, and marks it by them. -/
theorem declaration_of_due (h : ¬ s.IsSettled id) : (Check.declaration id).run s =
    (!(s.store.complaints id).any Complaint.isError, s.checked id) := by
  rw [IsSettled, not_or, Bool.not_eq_true] at h
  obtain ⟨hbuiltin, hdue⟩ := h
  rw [CheckStamp.claim?_eq_none_iff, Bool.not_eq_false] at hdue
  have hclaimed := CheckStamp.claim?_of_needsCheck hdue
  have hstore : (s.emitAll (s.store.get id).location (s.store.complaints id)).store = s.store := by
    obtain ⟨collector, errorCount, hreported, -⟩ :=
      s.emitAll_eq (s.store.get id).location (s.store.complaints id)
    rw [hreported]
  simp only [Check.declaration, Check.stamp, StateT.run_bind, StateT.run_get, pure_bind, hbuiltin,
    Bool.false_eq_true, if_false, hclaimed, StateT.run_modify, checked]
  rw [hstore]
  rfl

theorem checked_pass (s : Session) (id : TypeId) : (s.checked id).pass = s.pass := by
  obtain ⟨collector, errorCount, hreported, -⟩ :=
    s.emitAll_eq (s.store.get id).location (s.store.complaints id)
  rw [checked, hreported]

theorem checked_unstamped (s : Session) (id : TypeId) :
    (s.checked id).store.unstamped = s.store.unstamped := s.store.unstamped_setStamp id _

/-- The check of a declaration settles it, and nothing that is settled comes undone. -/
theorem isSettled_checked (h : s.IsSettled u ∨ (u = id ∧ id < s.store.size)) :
    (s.checked id).IsSettled u := by
  rw [IsSettled, checked_pass, show (s.checked id).store = s.store.setStamp id _ from rfl,
    Store.get_setStamp]
  split
  · exact .inr (CheckStamp.claim?_same_pass _ _)
  · rename_i hother
    refine h.resolve_right ?_
    rintro ⟨rfl, hu⟩
    exact hother ⟨rfl, hu⟩

/-! ### Faithful sessions -/

/-- What the pass has checked is marked erroneous exactly if it has an error. -/
def Faithful (s : Session) : Prop :=
  ∀ id, (s.store.get id).isBuiltin = false → (s.store.get id).stamp.claim? s.pass = none →
    (s.store.get id).isErroneous = (s.store.complaints id).any Complaint.isError

/-- A session that has checked nothing is faithful. -/
theorem faithful_of_unchecked (h : ∀ id, (s.store.get id).stamp.lastChecked = none) :
    s.Faithful := by
  intro id _ hclaim
  rw [CheckStamp.claim?_eq_none_iff, CheckStamp.needsCheck, h id] at hclaim
  cases hclaim

theorem Faithful.checked (h : s.Faithful) (id : TypeId) : (s.checked id).Faithful := by
  intro u hbuiltin hclaim
  rw [Store.complaints_congr (s.checked_unstamped id)]
  rw [checked_pass] at hclaim
  rw [show (s.checked id).store = s.store.setStamp id _ from rfl, Store.get_setStamp] at *
  split
  · rename_i hid
    rw [← hid.1]
    rfl
  · rename_i hid
    rw [if_neg hid] at hbuiltin hclaim
    exact h u hbuiltin hclaim

/-- A declaration that is checked without an error, where the session is faithful, is in order. -/
theorem Faithful.inOrder_of_declaration (h : s.Faithful)
    (hbuiltin : (s.store.get id).isBuiltin = false)
    (hok : ((Check.declaration id).run s).1 = true) : s.store.InOrder id := by
  rw [Store.inOrder_iff]
  by_cases hsettled : s.IsSettled id
  · rw [declaration_of_settled hsettled] at hok
    rw [← h id hbuiltin (hsettled.resolve_left (by simp [hbuiltin]))]
    simpa [hbuiltin] using hok
  · rw [declaration_of_due hsettled] at hok
    simpa using hok

/-! ### A step, and a run -/

/-- The check of a declaration settles it, and nothing that is settled comes undone. -/
theorem isSettled_declaration (h : s.IsSettled u ∨ (u = id ∧ id < s.store.size)) :
    ((Check.declaration id).run s).2.IsSettled u := by
  by_cases hsettled : s.IsSettled id
  · rw [declaration_of_settled hsettled]
    rcases h with hu | ⟨rfl, -⟩
    · exact hu
    · exact hsettled
  · rw [declaration_of_due hsettled]
    exact isSettled_checked h

theorem Faithful.declaration (h : s.Faithful) (id : TypeId) :
    ((Check.declaration id).run s).2.Faithful := by
  by_cases hsettled : s.IsSettled id
  · rwa [declaration_of_settled hsettled]
  · rw [declaration_of_due hsettled]
    exact h.checked id

theorem declaration_unstamped (s : Session) (id : TypeId) :
    ((Check.declaration id).run s).2.store.unstamped = s.store.unstamped := by
  obtain ⟨store, collector, errorCount, hsame, h⟩ := s.declaration_eq id
  rw [h]
  exact hsame

theorem declarations_cons (s : Session) (id : TypeId) (rest : List TypeId) :
    (Check.declarations (id :: rest)).run s =
      let first := (Check.declaration id).run s
      let others := (Check.declarations rest).run first.2
      (if first.1 then others.1 else others.1 + 1, others.2) := rfl

/-- A run over declarations settles them, and nothing that is settled comes undone. -/
theorem isSettled_declarations {ids : List TypeId}
    (h : s.IsSettled u ∨ (u ∈ ids ∧ u < s.store.size)) :
    ((Check.declarations ids).run s).2.IsSettled u := by
  induction ids generalizing s with
  | nil => exact h.resolve_right fun hu => List.not_mem_nil hu.1
  | cons id rest ih =>
    rw [declarations_cons]
    apply ih
    have hsize : ((Check.declaration id).run s).2.store.size = s.store.size := by
      rw [← Store.size_unstamped, declaration_unstamped, Store.size_unstamped]
    rcases h with hu | ⟨hu, hlt⟩
    · exact .inl (isSettled_declaration (.inl hu))
    · rcases List.mem_cons.mp hu with rfl | hu
      · exact .inl (isSettled_declaration (.inr ⟨rfl, hlt⟩))
      · exact .inr ⟨hu, hsize.symm ▸ hlt⟩

theorem Faithful.declarations (h : s.Faithful) (ids : List TypeId) :
    ((Check.declarations ids).run s).2.Faithful := by
  induction ids generalizing s with
  | nil => exact h
  | cons id rest ih =>
    rw [declarations_cons]
    exact ih (h.declaration id)

/-- Where a run finds no erroneous declaration, all that it checked are in order. -/
theorem Faithful.inOrder_of_declarations (h : s.Faithful) {ids : List TypeId}
    (hcount : ((Check.declarations ids).run s).1 = 0) {id : TypeId} (hid : id ∈ ids)
    (hbuiltin : (s.store.get id).isBuiltin = false) : s.store.InOrder id := by
  induction ids generalizing s with
  | nil => exact absurd hid List.not_mem_nil
  | cons first rest ih =>
    rw [declarations_cons] at hcount
    have hsame := s.declaration_unstamped first
    cases hok : ((Check.declaration first).run s).1 with
    | false => simp [hok] at hcount
    | true =>
      simp only [hok, if_true] at hcount
      rcases List.mem_cons.mp hid with rfl | hid
      · exact h.inOrder_of_declaration hbuiltin hok
      · rw [← Store.inOrder_congr hsame]
        refine ih (h.declaration first) hcount hid ?_
        have hget := congrArg Declaration.isBuiltin (Store.get_congr hsame id)
        exact hget.trans hbuiltin

/-- After all declarations were checked, whatever a name means is settled. -/
theorem isSettled_allDeclarations {name : String} {id : TypeId}
    (h : s.store.lookup name = some id) : (Check.allDeclarations.run s).2.IsSettled id := by
  have hrun : Check.allDeclarations.run s = (Check.declarations s.store.userTypes).run s := rfl
  rw [hrun]
  apply isSettled_declarations
  cases hbuiltin : (s.store.get id).isBuiltin with
  | true => exact .inl (.inl hbuiltin)
  | false =>
    exact .inr ⟨Store.mem_userTypes_of_lookup h hbuiltin, Store.lt_of_lookupBelow h⟩

theorem allDeclarations_unstamped (s : Session) :
    (Check.allDeclarations.run s).2.store.unstamped = s.store.unstamped := by
  obtain ⟨store, collector, errorCount, hsame, h⟩ := s.allDeclarations_eq
  rw [h]
  exact hsame

/-- Where no declaration is found erroneous, each that was checked is in order and carries no
mark. -/
theorem Faithful.inOrder_of_allDeclarations (h : s.Faithful)
    (hcount : (Check.allDeclarations.run s).1 = 0) {id : TypeId} (hid : id ∈ s.store.userTypes) :
    (Check.allDeclarations.run s).2.store.InOrder id ∧
      ((Check.allDeclarations.run s).2.store.get id).isErroneous = false := by
  have hrun : Check.allDeclarations.run s = (Check.declarations s.store.userTypes).run s := rfl
  rw [hrun] at hcount ⊢
  obtain ⟨hlookup, hbuiltin⟩ := List.mem_filter.mp hid
  obtain ⟨name, -, hname⟩ := List.mem_filterMap.mp hlookup
  have hbuiltin : (s.store.get id).isBuiltin = false := by simpa using hbuiltin
  obtain ⟨store, collector, errorCount, hsame, hafter⟩ := s.declarations_eq s.store.userTypes
  have horder : store.InOrder id :=
    (Store.inOrder_congr hsame id).mpr (h.inOrder_of_declarations hcount hid hbuiltin)
  have hfaithful := h.declarations s.store.userTypes
  have hsettled : ((Check.declarations s.store.userTypes).run s).2.IsSettled id :=
    isSettled_declarations (.inr ⟨hid, Store.lt_of_lookupBelow hname⟩)
  rw [hafter] at hfaithful hsettled ⊢
  have hget : (store.get id).isBuiltin = false :=
    (congrArg Declaration.isBuiltin (Store.get_congr hsame id)).trans hbuiltin
  refine ⟨horder, ?_⟩
  rw [hfaithful id hget (hsettled.resolve_left (by simp [hget])), ← Store.inOrder_iff]
  exact horder

end Session

end TestSpec
