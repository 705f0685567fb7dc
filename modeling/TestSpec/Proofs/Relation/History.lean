import Mathlib.Data.List.Induction
import TestSpec.Proofs.Relation.Memo

/-!
# The memo as a map of the pass

What a memo holds is read off its **history**, the lookups, inserts and clears that it has
seen: a value is remembered under a key exactly if it is what was last inserted there in the
pass of the moment, and nothing was cleared since (`PassCache.LastInserted`).  The memo itself
keeps no passes with its entries.  It forgets all of them at the first access in a newer pass,
and the two are the same because passes never go back (`PassCache.GoesForward`): whatever was
inserted in the pass of an access was inserted after the last time a pass began.

The counts are read off the history too, access by access (`PassCache.countAccesses`).  Main
statement: `PassCache.ofHistory_refines`.
-/

namespace TestSpec

namespace PassCache

variable {κ α : Type}

/-- What may be asked of a memo. -/
inductive Access (κ α : Type) where
  | lookup (pass : Pass) (key : κ)
  | insert (pass : Pass) (key : κ) (value : α)
  | clear

namespace Access

/-- The pass of an access; clearing needs none. -/
def pass? : Access κ α → Option Pass
  | .lookup pass _ => some pass
  | .insert pass _ _ => some pass
  | .clear => none

/-- The access asks for a value. -/
def isLookup : Access κ α → Bool
  | .lookup _ _ => true
  | _ => false

end Access

/-- The passes of a history, in order. -/
def passes (history : List (Access κ α)) : List Pass := history.filterMap Access.pass?

/-- No access is in an older pass than one before it. -/
def GoesForward (history : List (Access κ α)) : Prop := (passes history).Pairwise (· ≤ ·)

instance (history : List (Access κ α)) : Decidable (GoesForward history) :=
  inferInstanceAs (Decidable (List.Pairwise _ _))

/-- The value is what was last inserted under a key in a pass, and nothing was cleared since. -/
def LastInserted (history : List (Access κ α)) (pass : Pass) (key : κ) (value : α) : Prop :=
  ∃ earlier later, history = earlier ++ .insert pass key value :: later ∧ .clear ∉ later ∧
    ∀ other, .insert pass key other ∉ later

/-- How many accesses of a history have a property, which may depend on the accesses before. -/
def countAccesses (p : List (Access κ α) → Access κ α → Bool) (history : List (Access κ α)) : Nat :=
  (List.range history.length).countP fun i => history[i]?.any (p (history.take i))

section Cache

variable [BEq κ]

/-- The memo after an access. -/
def after (c : PassCache κ α) : Access κ α → PassCache κ α
  | .lookup pass key => (c.lookup pass key).2
  | .insert pass key value => c.insert pass key value
  | .clear => c.clear

/-- A memo, new at first, after a history. -/
def ofHistory (history : List (Access κ α)) : PassCache κ α := history.foldl after {}

/-- The access is a lookup that finds a value. -/
def isHit (history : List (Access κ α)) : Access κ α → Bool
  | .lookup pass key => ((ofHistory history).lookup pass key).1.isSome
  | _ => false

/-- The access is in a newer pass than all before it, and finds something remembered. -/
def invalidates (history : List (Access κ α)) (a : Access κ α) : Bool :=
  match a.pass? with
  | none => false
  | some pass => (passes history).all (· < pass) && (ofHistory history).size != 0

@[simp] theorem ofHistory_concat (history : List (Access κ α)) (a : Access κ α) :
    ofHistory (history ++ [a]) = (ofHistory history).after a := by
  simp [ofHistory]

end Cache

variable {history : List (Access κ α)} {a : Access κ α} {pass : Pass} {key : κ} {value : α}

/-! ### Histories that grow by one access -/

theorem countAccesses_concat (p : List (Access κ α) → Access κ α → Bool) :
    countAccesses p (history ++ [a]) = countAccesses p history + if p history a then 1 else 0 := by
  have hbefore : ∀ i ∈ List.range history.length,
      ((history ++ [a])[i]?.any (p ((history ++ [a]).take i)) = true ↔
        history[i]?.any (p (history.take i)) = true) := by
    intro i hi
    have hlt := List.mem_range.mp hi
    rw [List.getElem?_append_left hlt, List.take_append_of_le_length (Nat.le_of_lt hlt)]
  rw [countAccesses, List.length_append, List.length_singleton, List.range_succ,
    List.countP_append, List.countP_congr hbefore, countAccesses]
  simp [List.countP_cons]

theorem passes_concat : passes (history ++ [a]) = passes history ++ a.pass?.toList := by
  cases h : a.pass? <;> simp [passes, h]

theorem GoesForward.of_concat (h : GoesForward (history ++ [a])) :
    GoesForward history ∧ ∀ pass, a.pass? = some pass → ∀ p ∈ passes history, p ≤ pass := by
  rw [GoesForward, passes_concat, List.pairwise_append] at h
  exact ⟨h.1, fun pass hpass p hp => h.2.2 p hp pass (by simp [hpass])⟩

/-- Passes never go back, so the last one is the newest. -/
theorem GoesForward.le_last (h : GoesForward history) {last : Pass}
    (hlast : (passes history).getLast? = some last) : ∀ p ∈ passes history, p ≤ last := by
  obtain ⟨before, hpasses⟩ := List.getLast?_eq_some_iff.mp hlast
  rw [GoesForward, hpasses, List.pairwise_append] at h
  intro p hp
  rw [hpasses, List.mem_append, List.mem_singleton] at hp
  rcases hp with hp | rfl
  · exact h.2.2 p hp last (by simp)
  · exact Nat.le_refl p

theorem LastInserted.mem_passes (h : LastInserted history pass key value) :
    pass ∈ passes history := by
  obtain ⟨earlier, later, rfl, -, -⟩ := h
  simp [passes, Access.pass?]

/-- A value stays the last one inserted until another is inserted in its place, or all is
cleared. -/
theorem lastInserted_concat :
    LastInserted (history ++ [a]) pass key value ↔ a = .insert pass key value ∨
      LastInserted history pass key value ∧ a ≠ .clear ∧ ∀ other, a ≠ .insert pass key other := by
  constructor
  · rintro ⟨earlier, later, heq, hclear, hother⟩
    rcases List.eq_nil_or_concat later with rfl | ⟨later, b, rfl⟩
    · exact .inl (List.append_inj_right' heq rfl |> List.singleton_inj.mp)
    · rw [List.concat_eq_append, ← List.cons_append, ← List.append_assoc] at heq
      obtain ⟨rfl, hlast⟩ := List.append_inj' heq rfl
      obtain rfl := List.singleton_inj.mp hlast
      simp only [List.concat_eq_append, List.mem_append, List.mem_singleton, not_or]
        at hclear hother
      exact .inr ⟨⟨earlier, later, rfl, hclear.1, fun other => (hother other).1⟩,
        Ne.symm hclear.2, fun other => Ne.symm (hother other).2⟩
  · rintro (rfl | ⟨⟨earlier, later, rfl, hclear, hother⟩, hnotClear, hnotOther⟩)
    · exact ⟨history, [], rfl, List.not_mem_nil, fun _ => List.not_mem_nil⟩
    · refine ⟨earlier, later ++ [a], by simp, ?_, fun other => ?_⟩
      · simp [hclear, Ne.symm hnotClear]
      · simp [hother, Ne.symm (hnotOther other)]

/-! ### One access -/

/-- In a newer pass everything is forgotten, and that is counted if there was anything. -/
theorem sync_of_older {c : PassCache κ α} (h : ∀ p ∈ c.pass, p < pass) :
    c.sync pass =
      { c with
        pass := some pass
        entries := []
        invalidations := c.invalidations + if c.size != 0 then 1 else 0 } := by
  have hold : ¬ (c.pass.any fun p => decide (pass ≤ p)) = true := by
    cases hp : c.pass with
    | none => simp
    | some p => simpa using h p hp
  rw [sync, if_neg hold]
  cases hentries : c.entries <;> simp [size, hentries]

section Cache

variable [DecidableEq κ]

/-- A lookup answers with what is remembered in the pass, and counts whether that was anything. -/
theorem lookup_eq (c : PassCache κ α) (pass : Pass) (key : κ) :
    c.lookup pass key = ((c.sync pass).entries.lookup key,
      { c.sync pass with
        hits := (c.sync pass).hits + if ((c.sync pass).entries.lookup key).isSome then 1 else 0
        misses :=
          (c.sync pass).misses + if ((c.sync pass).entries.lookup key).isSome then 0 else 1 }) := by
  cases h : (c.sync pass).entries.lookup key <;> simp [lookup, h]

/-- An inserted value is found under its key, and nothing changes under other keys. -/
theorem lookup_entries_insert (c : PassCache κ α) (pass : Pass) (key other : κ) (value : α) :
    (c.insert pass key value).entries.lookup other =
      if other = key then some value else (c.sync pass).entries.lookup other := by
  have hrest (hne : (other == key) = false) (entries : List (κ × α)) :
      (entries.filter fun e => !(e.1 == key)).lookup other = entries.lookup other := by
    induction entries with
    | nil => rfl
    | cons e rest ih =>
      obtain ⟨k, v⟩ := e
      by_cases hk : k = key
      · simp [hk, List.lookup_cons, hne, ih]
      · simp [hk, List.lookup_cons, ih]
  rw [insert, List.lookup_cons]
  by_cases heq : other = key
  · simp [heq]
  · have hne : (other == key) = false := by simpa using heq
    simp [hne, heq, hrest hne]

/-- What a memo remembers and has counted is what its history says. -/
structure Refines (history : List (Access κ α)) : Prop where
  pass_eq : (ofHistory history).pass = (passes history).getLast?
  lookup_iff : ∀ pass, (passes history).getLast? = some pass → ∀ key value,
    (ofHistory history).entries.lookup key = some value ↔ LastInserted history pass key value
  hits_eq : (ofHistory history).hits = countAccesses isHit history
  lookups_eq : (ofHistory history).hits + (ofHistory history).misses =
    history.countP Access.isLookup
  invalidations_eq : (ofHistory history).invalidations = countAccesses invalidates history

namespace Refines

/-- Before an access in a pass that is not older, the memo holds what was last inserted in that
pass, and an invalidation is counted if there was one. -/
theorem sync (h : Refines history) (hforward : GoesForward history)
    (hle : ∀ p ∈ passes history, p ≤ pass) :
    ((ofHistory history).sync pass).pass = some pass ∧
      (∀ key value, ((ofHistory history).sync pass).entries.lookup key = some value ↔
        LastInserted history pass key value) ∧
      ((ofHistory history).sync pass).hits = (ofHistory history).hits ∧
      ((ofHistory history).sync pass).misses = (ofHistory history).misses ∧
      ((ofHistory history).sync pass).invalidations = (ofHistory history).invalidations +
        if (passes history).all (· < pass) && (ofHistory history).size != 0 then 1 else 0 := by
  by_cases hcurrent : (passes history).getLast? = some pass
  · have hpass : (ofHistory history).pass = some pass := h.pass_eq.trans hcurrent
    have hmem : pass ∈ passes history := List.mem_of_getLast? hcurrent
    have hnotNewer : (passes history).all (· < pass) = false := by
      rw [List.all_eq_false]
      exact ⟨pass, hmem, by simp⟩
    have hkept : (ofHistory history).IsCurrent pass := by simp [IsCurrent, hpass]
    rw [sync_of_isCurrent hkept, hnotNewer]
    exact ⟨hpass, h.lookup_iff pass hcurrent, rfl, rfl, rfl⟩
  · -- the pass is not that of the last access, so it is newer than all of them
    have hnewer : ∀ p ∈ passes history, p < pass := by
      intro p hp
      obtain ⟨last, hlast⟩ := Option.ne_none_iff_exists'.mp
        (fun hnone => List.ne_nil_of_mem hp (List.getLast?_eq_none_iff.mp hnone))
      have hlt : last < pass := Nat.lt_of_le_of_ne (hle last (List.mem_of_getLast? hlast))
        (fun heq => hcurrent (heq ▸ hlast))
      exact Nat.lt_of_le_of_lt (hforward.le_last hlast p hp) hlt
    have holder : ∀ p ∈ (ofHistory history).pass, p < pass := by
      rw [h.pass_eq]
      exact fun p hp => hnewer p (List.mem_of_getLast? hp)
    have hall : (passes history).all (· < pass) = true := by simpa using hnewer
    rw [sync_of_older holder, hall]
    refine ⟨rfl, fun key value => ?_, rfl, rfl, rfl⟩
    constructor
    · exact fun hnone => absurd hnone nofun
    · exact fun hinserted => absurd (hnewer pass hinserted.mem_passes) (Nat.lt_irrefl pass)

theorem empty : Refines ([] : List (Access κ α)) where
  pass_eq := rfl
  lookup_iff := nofun
  hits_eq := rfl
  lookups_eq := rfl
  invalidations_eq := rfl

/-- One access more.  Clearing forgets what was inserted; any other access begins with what was last
inserted in its pass. -/
theorem concat (h : Refines history) (hforward : GoesForward (history ++ [a])) :
    Refines (history ++ [a]) := by
  obtain ⟨hbefore, hle⟩ := hforward.of_concat
  cases a with
  | clear =>
    have hpasses : passes (history ++ [Access.clear (κ := κ) (α := α)]) = passes history := by
      simp [passes_concat, Access.pass?]
    refine ⟨?_, fun pass _ key value => ?_, ?_, ?_, ?_⟩
    · rw [ofHistory_concat, hpasses]
      exact h.pass_eq
    · simp [lastInserted_concat, after, clear]
    · simpa [countAccesses_concat, isHit, after, clear] using h.hits_eq
    · simpa [Access.isLookup, after, clear] using h.lookups_eq
    · simpa [countAccesses_concat, invalidates, Access.pass?, after, clear]
        using h.invalidations_eq
  | lookup pass key =>
    obtain ⟨hpass, hlookup, hhits, hmisses, hinvalidations⟩ := h.sync hbefore (hle pass rfl)
    have hlast : (passes (history ++ [Access.lookup (α := α) pass key])).getLast? = some pass := by
      simp [passes_concat, Access.pass?]
    refine ⟨?_, fun p hp k value => ?_, ?_, ?_, ?_⟩
    · rw [ofHistory_concat, after, lookup_eq, hlast]
      exact hpass
    · obtain rfl := Option.some.inj (hlast.symm.trans hp)
      rw [ofHistory_concat, after, lookup_eq, lastInserted_concat]
      simpa using hlookup k value
    · rw [ofHistory_concat, after, countAccesses_concat, isHit, ← h.hits_eq, ← hhits, lookup_eq]
    · rw [ofHistory_concat, after, List.countP_append, ← h.lookups_eq, ← hhits, ← hmisses,
        lookup_eq]
      simp only [Access.isLookup, List.countP_singleton, if_true]
      split <;> omega
    · rw [ofHistory_concat, after, countAccesses_concat, ← h.invalidations_eq, lookup_eq]
      exact hinvalidations
  | insert pass key value =>
    obtain ⟨hpass, hlookup, hhits, hmisses, hinvalidations⟩ := h.sync hbefore (hle pass rfl)
    have hlast : (passes (history ++ [Access.insert pass key value])).getLast? = some pass := by
      simp [passes_concat, Access.pass?]
    refine ⟨?_, fun p hp k other => ?_, ?_, ?_, ?_⟩
    · rw [ofHistory_concat, hlast]
      exact hpass
    · obtain rfl := Option.some.inj (hlast.symm.trans hp)
      rw [ofHistory_concat, after, lookup_entries_insert, lastInserted_concat]
      by_cases hk : k = key
      · subst hk
        simp
      · rw [if_neg hk, hlookup]
        simp [Ne.symm hk]
    · rw [ofHistory_concat, countAccesses_concat, ← h.hits_eq]
      exact hhits
    · rw [ofHistory_concat, List.countP_append, ← h.lookups_eq, ← hhits, ← hmisses]
      rfl
    · rw [ofHistory_concat, countAccesses_concat, ← h.invalidations_eq]
      exact hinvalidations

/-- Every history that goes forward tells what the memo holds. -/
theorem of_goesForward (hforward : GoesForward history) : Refines history := by
  induction history using List.reverseRecOn with
  | nil => exact empty
  | append_singleton history a ih => exact (ih hforward.of_concat.1).concat hforward

end Refines

/-- **The memo is a map of the pass.**  Let no access of a history go back to an older pass.  Each
of its lookups answers with a value exactly if that is what was last inserted under the key in the
pass of the lookup, nothing being cleared since.  Each lookup is counted as a hit if it found a
value, and as a miss otherwise; and each access in a newer pass that found something remembered is
counted as an invalidation. -/
theorem ofHistory_refines {history : List (Access κ α)} (hforward : GoesForward history) :
    (∀ (i : Nat) (pass : Pass) (key : κ), history[i]? = some (.lookup pass key) →
        ∀ value, ((ofHistory (history.take i)).lookup pass key).1 = some value ↔
          LastInserted (history.take i) pass key value) ∧
      (ofHistory history).hits = countAccesses isHit history ∧
      (ofHistory history).hits + (ofHistory history).misses =
        history.countP Access.isLookup ∧
      (ofHistory history).invalidations = countAccesses invalidates history := by
  have hrefines := Refines.of_goesForward hforward
  refine ⟨fun i pass key hi value => ?_, hrefines.hits_eq, hrefines.lookups_eq,
    hrefines.invalidations_eq⟩
  obtain ⟨hlt, hget⟩ := List.getElem?_eq_some_iff.mp hi
  have hprefix : GoesForward (history.take i ++ [.lookup pass key]) := by
    rw [← hget, List.take_append_getElem]
    exact hforward.sublist ((List.take_sublist _ _).filterMap _)
  obtain ⟨hbefore, hle⟩ := hprefix.of_concat
  rw [lookup_fst]
  exact ((Refines.of_goesForward hbefore).sync hbefore (hle pass rfl)).2.1 key value

end Cache

/-- A query outside strict mode. -/
def asked : Query := { expected := 0, actual := 1, isStrict := false }

/-- A history in which an answer is cleared, given anew, and forgotten when the second pass
begins. -/
def twoPasses : List (Access Query Relation) :=
  [.insert 1 asked {}, .lookup 1 asked, .clear, .lookup 1 asked,
    .insert 1 asked { level := .incompatibleType }, .insert 2 asked {}, .lookup 2 asked]

/-- The last lookup finds the answer of the second pass; of the three lookups two find something,
and one pass is invalidated. -/
theorem ofHistory_refines_twoPasses :
    GoesForward twoPasses ∧
      ((ofHistory (twoPasses.take 6)).lookup 2 asked).1 = some {} ∧
      (ofHistory twoPasses).hits = 2 ∧
      (ofHistory twoPasses).hits + (ofHistory twoPasses).misses = 3 ∧
      (ofHistory twoPasses).invalidations = 1 := by
  have hforward : GoesForward twoPasses := by decide
  obtain ⟨hlookup, hhits, hlookups, hinvalidations⟩ := ofHistory_refines hforward
  have hinserted : LastInserted (twoPasses.take 6) 2 asked {} :=
    ⟨twoPasses.take 5, [], rfl, List.not_mem_nil, fun _ => List.not_mem_nil⟩
  exact ⟨hforward, (hlookup 6 2 asked rfl {}).mpr hinserted, hhits.trans (by decide),
    hlookups.trans (by decide), hinvalidations.trans (by decide)⟩

end PassCache

end TestSpec
