import TestSpec.Proofs.Check.Session
import TestSpec.Proofs.Relation.Marks

/-!
# What the memo of a session answers

A session answers queries between which it may change its mode, move to a newer pass,
and check declarations, which sets their erroneous marks.  The key of a remembered
answer holds the marks of the two types that were asked about, and not those of the
declarations behind their members.  So the memo does not always answer as a resolver
without one would on the store as it stands; `outerMarked` is a run on which it does
not.

What it does answer is said with a **ledger**, which notes for each key the store as
it stood when the key was first asked since answers were last forgotten.  Main
statement: `Check.relation_eq_of_run`, by which every answer of every run is that of a
resolver without memory on the store that the ledger names.  Hence the memo cannot be
told from none outside strict mode, and in strict mode as long as no mark of a
declaration that the two types reach has changed since.
-/

namespace TestSpec

namespace PathGuard

theorem SamePlace.reset_eq {κ : Type} [Ord κ] {g h : PathGuard κ} (hsame : g.SamePlace h) :
    g.reset = h.reset := by
  simp only [reset, hsame.maxDepth, hsame.maxSteps]

end PathGuard

namespace PassCache

variable {κ α : Type} {c : PassCache κ α} {pass : Pass}

/-- The memo belongs to a pass, or to a later one, and forgets nothing in it. -/
def IsCurrent (c : PassCache κ α) (pass : Pass) : Prop := c.pass.any (fun p => pass ≤ p) = true

theorem sync_of_isCurrent (h : c.IsCurrent pass) : c.sync pass = c := by
  unfold IsCurrent at h
  rw [sync, if_pos h]

theorem isCurrent_sync (c : PassCache κ α) (pass : Pass) : (c.sync pass).IsCurrent pass := by
  unfold sync IsCurrent
  split
  · assumption
  · simp

/-- Every result is forgotten when a pass begins that is newer than that of the memo. -/
theorem entries_sync_of_older (h : ∀ p ∈ c.pass, p < pass) : (c.sync pass).entries = [] := by
  unfold sync
  split
  · rename_i hany
    cases hp : c.pass with
    | none => simp [hp] at hany
    | some p =>
      have hlt := h p hp
      simp only [hp, Option.any_some, decide_eq_true_eq] at hany
      exact absurd hlt (Nat.not_lt.mpr hany)
  · rfl

theorem entries_sync_clear (c : PassCache κ α) (pass : Pass) :
    (c.clear.sync pass).entries = [] := by
  unfold sync
  split <;> rfl

theorem pass_sync_le {bound : Pass} (hpass : pass ≤ bound) (h : ∀ p ∈ c.pass, p ≤ bound) :
    ∀ p ∈ (c.sync pass).pass, p ≤ bound := by
  unfold sync
  split
  · exact h
  · simpa using hpass

variable [BEq κ]

/-- A lookup finds what is remembered in the pass. -/
theorem lookup_fst (c : PassCache κ α) (pass : Pass) (key : κ) :
    (c.lookup pass key).1 = (c.sync pass).entries.lookup key := by
  cases h : (c.sync pass).entries.lookup key <;> simp [lookup, h]

/-- A lookup changes the counts alone, once results of an older pass are forgotten. -/
theorem lookup_snd (c : PassCache κ α) (pass : Pass) (key : κ) :
    (c.lookup pass key).2.entries = (c.sync pass).entries ∧
      (c.lookup pass key).2.pass = (c.sync pass).pass := by
  cases h : (c.sync pass).entries.lookup key <;> simp [lookup, h]

/-- Where nothing is remembered under a key, a result is put before the others. -/
theorem entries_insert [LawfulBEq κ] {key : κ} (value : α) (hcurrent : c.IsCurrent pass)
    (hnone : c.entries.lookup key = none) :
    (c.insert pass key value).entries = (key, value) :: c.entries := by
  have hother : ∀ e ∈ c.entries, (!(e.1 == key)) = true := by
    intro e he
    have hne := List.lookup_eq_none_iff.mp hnone e he
    rw [bne_iff_ne] at hne
    simpa using hne.symm
  simp only [insert, sync_of_isCurrent hcurrent, List.filter_eq_self.mpr hother]

end PassCache

/-- What may happen in a session between two answers about types. -/
inductive Request where
  | relation (expected actual : TypeId) (expectedIsElement actualIsElement : Bool)
  | strict (isStrict : Bool)
  | pass (pass : Pass)
  | check (id : TypeId)

/-- The answer of a resolver without memory. -/
def Store.answer (store : Store) (q : Query) : Relation := (({} : Resolver).compute store q).1

/-- Keys, and the store as it stood when each was first asked since answers were last forgotten. -/
abbrev Ledger := List (Query × Store)

namespace Session

/-- The key of a query in a session as it stands. -/
def keyOf (s : Session) (expected actual : TypeId) (expectedIsElement actualIsElement : Bool) :
    Query :=
  Resolver.keyOf s.store s.options.strictStructural expected actual expectedIsElement
    actualIsElement

/-- The session after a request. -/
def after (s : Session) : Request → Session
  | .relation expected actual x y => ((Check.relation expected actual x y).run s).2
  | .strict isStrict => s.setStrict isStrict
  | .pass pass => s.setPass pass
  | .check id => ((Check.declaration id).run s).2

/-- A request that does not go back to an older pass. -/
def GoesForward (s : Session) : Request → Prop
  | .pass pass => s.pass ≤ pass
  | _ => True

end Session

namespace Ledger

/-- The ledger after a request in a session.  A query is noted the first time; all is forgotten when
the mode changes or a newer pass begins. -/
def after (l : Ledger) (s : Session) : Request → Ledger
  | .relation expected actual x y =>
    let q := s.keyOf expected actual x y
    match l.lookup q with
    | some _ => l
    | none => (q, s.store) :: l
  | .strict isStrict => if s.options.strictStructural = isStrict then l else []
  | .pass pass => if s.pass < pass then [] else l
  | .check _ => l

/-- The store as it stood when a query was first asked; the present one if it was not yet. -/
def storeOf (l : Ledger) (s : Session) (q : Query) : Store := (l.lookup q).getD s.store

end Ledger

/-- The runs of a session, with their ledgers: any requests in any order that do not go back to an
older pass. -/
inductive Session.Runs (start : Session) : Session → Ledger → Prop
  | start : Runs start start []
  | step {s : Session} {l : Ledger} (h : Runs start s l) (r : Request) (hr : s.GoesForward r) :
      Runs start (s.after r) (l.after s r)

namespace Resolver

variable {r : Resolver} {store : Store} {pass : Pass} {isStrict : Bool}
  {expected actual : TypeId} {x y : Bool}

/-- Without the memo, a resolver under the bounds of the structural stage answers as one without
memory. -/
theorem compute_fst (hguard : r.guard.reset = .structural) (q : Query) :
    (r.compute store q).1 = store.answer q := by
  have hempty : ({} : Resolver).guard.reset = .structural := rfl
  simp only [Store.answer, compute, hguard, hempty]

/-- A query is answered from the memo where it can be, and computed otherwise. -/
theorem query_fst : (r.query store pass isStrict expected actual x y).1 =
    ((r.cache.sync pass).entries.lookup (keyOf store isStrict expected actual x y)).getD
      (r.compute store (keyOf store isStrict expected actual x y)).1 := by
  rw [← PassCache.lookup_fst, query_eq]
  split <;> simp_all

/-- A query keeps the bounds of the guard. -/
theorem query_guard (r : Resolver) (store : Store) (pass : Pass) (isStrict : Bool)
    (expected actual : TypeId) (x y : Bool) :
    (r.query store pass isStrict expected actual x y).2.guard.reset = r.guard.reset := by
  rw [query_eq]
  split
  · rfl
  · exact (compute_keepsPlace r store _).reset_eq

/-- A query leaves the memo at its pass, and notes an answer that it has computed. -/
theorem query_cache (r : Resolver) (store : Store) (pass : Pass) (isStrict : Bool)
    (expected actual : TypeId) (x y : Bool) :
    (r.query store pass isStrict expected actual x y).2.cache.pass = (r.cache.sync pass).pass ∧
      (r.query store pass isStrict expected actual x y).2.cache.entries =
        match (r.cache.sync pass).entries.lookup (keyOf store isStrict expected actual x y) with
        | some _ => (r.cache.sync pass).entries
        | none => (keyOf store isStrict expected actual x y,
            (r.compute store (keyOf store isStrict expected actual x y)).1) ::
              (r.cache.sync pass).entries := by
  generalize hq : keyOf store isStrict expected actual x y = q
  have hfound := r.cache.lookup_fst pass q
  obtain ⟨hentries, hpass⟩ := r.cache.lookup_snd pass q
  have hcurrent : (r.cache.lookup pass q).2.IsCurrent pass := by
    have hsync := PassCache.isCurrent_sync r.cache pass
    unfold PassCache.IsCurrent at hsync ⊢
    rwa [hpass]
  rw [query_eq, hq]
  split
  · rename_i answer cache hlookup
    rw [hlookup] at hfound hentries hpass
    rw [← hfound]
    exact ⟨hpass, hentries⟩
  · rename_i cache hlookup
    rw [hlookup] at hfound hentries hpass hcurrent
    rw [← hfound, ← hentries]
    rw [← hentries] at hfound
    refine ⟨?_, PassCache.entries_insert _ hcurrent hfound.symm⟩
    simp only [PassCache.insert, PassCache.sync_of_isCurrent hcurrent]
    exact hpass

/-- After a query the memo belongs to its pass. -/
theorem isCurrent_query (r : Resolver) (store : Store) (pass : Pass) (isStrict : Bool)
    (expected actual : TypeId) (x y : Bool) :
    (r.query store pass isStrict expected actual x y).2.cache.IsCurrent pass := by
  have hsync := PassCache.isCurrent_sync r.cache pass
  unfold PassCache.IsCurrent at hsync ⊢
  rwa [(r.query_cache store pass isStrict expected actual x y).1]

end Resolver

/-! ### What the memo remembers is what the ledger says -/

/-- The memo of a session remembers, under the keys of a ledger, what a resolver without memory
answers on the stores of the ledger; those are the present store but for stamps, and the keys hold
the marks of the two types in them. -/
structure Recorded (s : Session) (l : Ledger) : Prop where
  guard : s.resolver.guard.reset = .structural
  pass_le : ∀ p ∈ s.resolver.cache.pass, p ≤ s.pass
  entries : (s.resolver.cache.sync s.pass).entries = l.map fun e => (e.1, e.2.answer e.1)
  stores : ∀ e ∈ l, e.2.unstamped = s.store.unstamped
  marks : ∀ e ∈ l, e.1.expectedErroneous = e.2.isErroneous e.1.expected ∧
    e.1.actualErroneous = e.2.isErroneous e.1.actual

namespace Recorded

variable {s : Session} {l : Ledger}

/-- A resolver that remembers nothing records an empty ledger. -/
theorem of_fresh (h : s.resolver = {}) : Recorded s [] where
  guard := by rw [h]; rfl
  pass_le := by simp [h]
  entries := by rw [h]; rfl
  stores := by simp
  marks := by simp

theorem lookup_map (l : Ledger) (q : Query) :
    (l.map fun e => (e.1, e.2.answer e.1)).lookup q = (l.lookup q).map fun st => st.answer q := by
  induction l with
  | nil => rfl
  | cons e rest ih =>
    obtain ⟨key, store⟩ := e
    simp only [List.map_cons, List.lookup_cons, ih]
    cases hq : q == key with
    | false => rfl
    | true =>
      rw [beq_iff_eq] at hq
      simp [hq]

/-- A query is answered as on the store that the ledger names. -/
theorem relation_fst (h : Recorded s l) (expected actual : TypeId) (x y : Bool) :
    ((Check.relation expected actual x y).run s).1 =
      (l.storeOf s (s.keyOf expected actual x y)).answer (s.keyOf expected actual x y) := by
  have hrun : ((Check.relation expected actual x y).run s).1 =
      (s.resolver.query s.store s.pass s.options.strictStructural expected actual x y).1 := rfl
  rw [hrun, Resolver.query_fst, h.entries, lookup_map, Resolver.compute_fst h.guard,
    Ledger.storeOf, Session.keyOf]
  cases l.lookup (Resolver.keyOf s.store s.options.strictStructural expected actual x y) <;> rfl

/-! Each request keeps the record. -/

theorem after_relation (h : Recorded s l) (expected actual : TypeId) (x y : Bool) :
    Recorded (s.after (.relation expected actual x y))
      (l.after s (.relation expected actual x y)) := by
  have hafter : s.after (.relation expected actual x y) = { s with
      resolver := (s.resolver.query s.store s.pass s.options.strictStructural expected actual
        x y).2 } := rfl
  rw [hafter]
  obtain ⟨hpass, hentries⟩ := s.resolver.query_cache s.store s.pass s.options.strictStructural
    expected actual x y
  have hcurrent : (s.resolver.query s.store s.pass s.options.strictStructural expected actual
      x y).2.cache.IsCurrent s.pass := Resolver.isCurrent_query ..
  have hguard := (s.resolver.query_guard s.store s.pass s.options.strictStructural expected actual
    x y).trans h.guard
  have hle : ∀ p ∈ (s.resolver.query s.store s.pass s.options.strictStructural expected actual
      x y).2.cache.pass, p ≤ s.pass := by
    rw [hpass]
    exact PassCache.pass_sync_le (Nat.le_refl _) h.pass_le
  rw [h.entries, lookup_map, Resolver.compute_fst h.guard] at hentries
  have hkey : Resolver.keyOf s.store s.options.strictStructural expected actual x y =
      s.keyOf expected actual x y := rfl
  rw [hkey] at hentries
  cases hfound : l.lookup (s.keyOf expected actual x y) with
  | some st =>
    rw [hfound] at hentries
    rw [Ledger.after]
    simp only [hfound]
    exact ⟨hguard, hle, by rw [PassCache.sync_of_isCurrent hcurrent, hentries]; rfl,
      h.stores, h.marks⟩
  | none =>
    rw [hfound] at hentries
    rw [Ledger.after]
    simp only [hfound]
    refine ⟨hguard, hle, by rw [PassCache.sync_of_isCurrent hcurrent, hentries]; rfl, ?_, ?_⟩
    · rw [List.forall_mem_cons]
      exact ⟨rfl, h.stores⟩
    · rw [List.forall_mem_cons]
      exact ⟨⟨rfl, rfl⟩, h.marks⟩

theorem after_strict (h : Recorded s l) (isStrict : Bool) :
    Recorded (s.after (.strict isStrict)) (l.after s (.strict isStrict)) := by
  simp only [Session.after, Session.setStrict, Ledger.after]
  split
  · exact ⟨h.guard, h.pass_le, h.entries, h.stores, h.marks⟩
  · exact ⟨h.guard, h.pass_le, PassCache.entries_sync_clear _ _, by simp, by simp⟩

theorem after_pass (h : Recorded s l) {pass : Pass} (hpass : s.pass ≤ pass) :
    Recorded (s.after (.pass pass)) (l.after s (.pass pass)) := by
  simp only [Session.after, Session.setPass, Ledger.after]
  have hle : ∀ p ∈ s.resolver.cache.pass, p ≤ pass := fun p hp =>
    Nat.le_trans (h.pass_le p hp) hpass
  split
  · rename_i hlt
    refine ⟨h.guard, hle, ?_, by simp, by simp⟩
    exact PassCache.entries_sync_of_older fun p hp => Nat.lt_of_le_of_lt (h.pass_le p hp) hlt
  · rename_i hlt
    obtain rfl : s.pass = pass := Nat.le_antisymm hpass (Nat.not_lt.mp hlt)
    exact ⟨h.guard, hle, h.entries, h.stores, h.marks⟩

theorem after_check (h : Recorded s l) (id : TypeId) :
    Recorded (s.after (.check id)) (l.after s (.check id)) := by
  obtain ⟨store, collector, errorCount, hsame, hafter⟩ := s.declaration_eq id
  rw [Session.after, hafter, Ledger.after]
  exact ⟨h.guard, h.pass_le, h.entries, fun e he => (h.stores e he).trans hsame.symm, h.marks⟩

theorem after (h : Recorded s l) {r : Request} (hr : s.GoesForward r) :
    Recorded (s.after r) (l.after s r) := by
  cases r with
  | relation expected actual x y => exact h.after_relation expected actual x y
  | strict isStrict => exact h.after_strict isStrict
  | pass pass => exact h.after_pass hr
  | check id => exact h.after_check id

/-- Every run of a session whose resolver remembers nothing keeps the record. -/
theorem of_runs {start : Session} (hstart : start.resolver = {}) (hrun : start.Runs s l) :
    Recorded s l := by
  induction hrun with
  | start => exact of_fresh hstart
  | step _ r hr ih => exact ih.after hr

end Recorded

/-! ### What a session answers -/

namespace Session

/-- The answer of a session to a query. -/
def answer (s : Session) (expected actual : TypeId)
    (expectedIsElement actualIsElement : Bool) : Relation :=
  ((Check.relation expected actual expectedIsElement actualIsElement).run s).1

/-- The answer of a resolver without memory on a store, in the mode of a session. -/
def freshAnswer (s : Session) (store : Store) (expected actual : TypeId)
    (expectedIsElement actualIsElement : Bool) : Relation :=
  (({} : Resolver).query store s.pass s.options.strictStructural expected actual
    expectedIsElement actualIsElement).1

theorem freshAnswer_eq (s : Session) (store : Store) (expected actual : TypeId)
    (x y : Bool) :
    s.freshAnswer store expected actual x y = store.answer (s.keyOf expected actual x y) := rfl

end Session

/-- The store as it stood when two types were first asked about, since answers were last
forgotten. -/
def Ledger.firstAsked (l : Ledger) (s : Session) (expected actual : TypeId)
    (expectedIsElement actualIsElement : Bool) : Store :=
  l.storeOf s (s.keyOf expected actual expectedIsElement actualIsElement)

namespace Recorded

variable {s : Session} {l : Ledger}

/-- The store that the ledger names is the present one but for stamps, and has the marks of the
present one on the two types. -/
theorem firstAsked_marks (h : Recorded s l) (expected actual : TypeId) (x y : Bool) :
    (l.firstAsked s expected actual x y).unstamped = s.store.unstamped ∧
      (l.firstAsked s expected actual x y).isErroneous expected = s.store.isErroneous expected ∧
      (l.firstAsked s expected actual x y).isErroneous actual = s.store.isErroneous actual := by
  unfold Ledger.firstAsked Ledger.storeOf
  cases hfound : l.lookup (s.keyOf expected actual x y) with
  | none => exact ⟨rfl, rfl, rfl⟩
  | some st =>
    obtain ⟨l₁, l₂, hl, -⟩ := List.lookup_eq_some_iff.mp hfound
    have hmem : (s.keyOf expected actual x y, st) ∈ l := by simp [hl]
    obtain ⟨hexpected, hactual⟩ := h.marks _ hmem
    exact ⟨h.stores _ hmem, hexpected.symm, hactual.symm⟩

end Recorded

namespace Check

/-- **What the memo answers.**  In every run of a session whose resolver remembers nothing at
first, a query is answered as by a resolver without memory on the store as it stood when the query
was first asked since answers were last forgotten.  So the answer is that of a resolver without
memory on the present store exactly if these two stores give the same answer, which they do
outside strict mode, and wherever the two types reach declarations with the same marks in both. -/
theorem relation_eq_of_run {start s : Session} {l : Ledger} (hstart : start.resolver = {})
    (hrun : start.Runs s l) (expected actual : TypeId) (x y : Bool) :
    s.answer expected actual x y =
        s.freshAnswer (l.firstAsked s expected actual x y) expected actual x y ∧
      (s.answer expected actual x y = s.freshAnswer s.store expected actual x y ↔
        s.freshAnswer (l.firstAsked s expected actual x y) expected actual x y =
          s.freshAnswer s.store expected actual x y) ∧
      (s.options.strictStructural = false →
        s.answer expected actual x y = s.freshAnswer s.store expected actual x y) ∧
      ((l.firstAsked s expected actual x y).MarksAgree s.store expected →
        (l.firstAsked s expected actual x y).MarksAgree s.store actual →
          s.answer expected actual x y = s.freshAnswer s.store expected actual x y) := by
  have hrecord := Recorded.of_runs hstart hrun
  obtain ⟨hsame, hexpected, hactual⟩ := hrecord.firstAsked_marks expected actual x y
  have hmemo : s.answer expected actual x y =
      s.freshAnswer (l.firstAsked s expected actual x y) expected actual x y :=
    hrecord.relation_fst expected actual x y
  refine ⟨hmemo, by rw [hmemo], ?_, ?_⟩
  · intro hnominal
    rw [hmemo, Session.freshAnswer_eq, Session.freshAnswer_eq]
    exact congrArg Prod.fst (Resolver.compute_congr_of_nominal {}
      (q := s.keyOf expected actual x y) hsame hnominal hexpected hactual)
  · intro hmarks hmarks'
    rw [hmemo, Session.freshAnswer_eq, Session.freshAnswer_eq]
    exact congrArg Prod.fst (Resolver.compute_congr {}
      (q := s.keyOf expected actual x y) hsame hmarks hmarks')

end Check

/-- A session in strict mode over two records, one with a part of a third type that has two fields
of one name, the other with a truth value in its place. -/
def Session.duplicateInPart : Session where
  store := ⟨#[
    { name := "Broken", kind := .record,
      fields := [⟨"x", .name "integer", false⟩, ⟨"x", .name "integer", false⟩] },
    { name := "Outer", kind := .record, fields := [⟨"part", .name "Broken", false⟩] },
    { name := "Other", kind := .record, fields := [⟨"part", .name "boolean", false⟩] },
    { name := "boolean", kind := .boolean },
    { name := "integer", kind := .integer }]⟩
  options := { strictStructural := true }
  pass := 1

/-- The session after the two records were compared, and the type of the part was checked. -/
def Session.outerMarked : Session :=
  (Session.duplicateInPart.after (.relation 1 2 false false)).after (.check 0)

/-- The run that leads there, with its ledger. -/
theorem Session.outerMarked_runs : Session.duplicateInPart.Runs .outerMarked
    ((Ledger.after [] .duplicateInPart (.relation 1 2 false false)).after
      (Session.duplicateInPart.after (.relation 1 2 false false)) (.check 0)) :=
  .step (.step .start (.relation 1 2 false false) trivial) (.check 0) trivial

/-- The duplicate is found after the answer was remembered, which is that on the store without
marks. -/
theorem Check.relation_eq_of_run_outerMarked :
    Session.outerMarked.store.isErroneous 0 = true ∧
      Session.outerMarked.answer 1 2 false false =
        Session.outerMarked.freshAnswer Session.duplicateInPart.store 1 2 false false :=
  ⟨by decide, (Check.relation_eq_of_run rfl Session.outerMarked_runs 1 2 false false).1⟩

/-- The memo answers that the records are not compatible; a resolver without memory answers that
they are, for the part with the duplicate is now erroneous. -/
theorem Session.answer_ne_freshAnswer_outerMarked :
    (Session.outerMarked.answer 1 2 false false).level = .incompatibleType ∧
      (Session.outerMarked.freshAnswer Session.outerMarked.store 1 2 false false).level =
        .compatible := by
  decide

end TestSpec
