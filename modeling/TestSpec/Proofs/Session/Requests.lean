import Mathlib.Data.List.Induction
import Mathlib.Data.List.Nodup
import TestSpec.Proofs.Session.Declarations

/-!
# The order in which declarations are checked

Declarations may be asked for in any order and any number of times, one at a time or all
that names mean.  A pass whose stamps are all older is **untouched**; what a run of requests
does to it is told by the list of declarations that the requests reach, and by the store
without its stamps:

* each declaration reached reports its **block** of diagnostics once, at the first place
  where it is reached, and is marked by whether the block has an error in it;
* each request is answered by the store alone, on every occasion;
* runs that reach the same declarations leave the same store, and report the same blocks in
  some order;
* a later pass is untouched again, so that it reports the blocks once more.

What carries the induction is `Session.HasReached`, which spells the session out after any
list of declarations was reached; `HasReached.declaration` is its step.
Main statement: `Check.requests_of_untouched`.
-/

namespace TestSpec

/-! ### Blocks without repetition -/

/-- A list whose repetitions are dropped has none. -/
theorem nodup_eraseDups {α : Type} [BEq α] [LawfulBEq α] (l : List α) : l.eraseDups.Nodup := by
  induction l using List.reverseRecOn with
  | nil => simp
  | append_singleton l a ih =>
    rw [List.eraseDups_append]
    by_cases ha : a ∈ l
    · simpa [List.removeAll, ha] using ih
    · have hlast : ([a].removeAll l).eraseDups = [a] := by
        simp [List.removeAll, ha, List.eraseDups_cons]
      rw [hlast, List.nodup_append]
      refine ⟨ih, List.nodup_singleton a, fun x hx y hy => ?_⟩
      obtain rfl := List.mem_singleton.mp hy
      rintro rfl
      exact ha (List.mem_eraseDups.mp hx)

/-- What each member of a list contributes once is the same, but for the order, for lists with the
same members among those that contribute anything. -/
theorem perm_flatMap_eraseDups {α β : Type} [BEq α] [LawfulBEq α] {f : α → List β} {l l' : List α}
    (h : ∀ a, f a ≠ [] → (a ∈ l ↔ a ∈ l')) :
    (l.eraseDups.flatMap f).Perm (l'.eraseDups.flatMap f) := by
  have hfilter (l : List α) : (l.filter fun a => !(f a).isEmpty).flatMap f = l.flatMap f := by
    induction l with
    | nil => rfl
    | cons a rest ih =>
      cases hfa : f a with
      | nil => simp [hfa, ih]
      | cons b bs => simp [hfa, ih]
  rw [← hfilter l.eraseDups, ← hfilter l'.eraseDups]
  refine List.Perm.flatMap_right f ?_
  refine (List.perm_ext_iff_of_nodup ((nodup_eraseDups l).filter _)
    ((nodup_eraseDups l').filter _)).mpr fun a => ?_
  simp only [List.mem_filter, List.mem_eraseDups]
  refine and_congr_left fun ha => h a ?_
  simpa using ha

/-! ### What a check of a declaration says -/

namespace Store

variable {s s' : Store} {id : TypeId}

/-- The diagnostics that the check of a declaration reports.  Builtin types are never checked. -/
def block (s : Store) (id : TypeId) : List Diagnostic :=
  if (s.get id).isBuiltin then []
  else (s.complaints id).map (Complaint.diagnostic (s.get id).location)

/-- The answer of the check of a declaration: it is builtin, or no error is found in it. -/
def verdict (s : Store) (id : TypeId) : Bool :=
  (s.get id).isBuiltin || !(s.complaints id).any Complaint.isError

theorem isBuiltin_congr (h : s.unstamped = s'.unstamped) (id : TypeId) :
    (s.get id).isBuiltin = (s'.get id).isBuiltin := by
  have hget := congrArg Declaration.isBuiltin (get_congr h id)
  exact hget

theorem location_congr (h : s.unstamped = s'.unstamped) (id : TypeId) :
    (s.get id).location = (s'.get id).location := by
  have hget := congrArg Declaration.location (get_congr h id)
  exact hget

theorem size_congr (h : s.unstamped = s'.unstamped) : s.size = s'.size := by
  rw [← size_unstamped, h, size_unstamped]

theorem unstamped_unstamped (s : Store) : s.unstamped.unstamped = s.unstamped := by
  have hdeclaration : Declaration.unstamped ∘ Declaration.unstamped = Declaration.unstamped := rfl
  simp [unstamped, hdeclaration]

theorem block_congr (h : s.unstamped = s'.unstamped) (id : TypeId) : s.block id = s'.block id := by
  rw [block, block, isBuiltin_congr h, complaints_congr h, location_congr h]

theorem verdict_congr (h : s.unstamped = s'.unstamped) (id : TypeId) :
    s.verdict id = s'.verdict id := by
  rw [verdict, verdict, isBuiltin_congr h, complaints_congr h]

theorem block_of_isBuiltin (h : (s.get id).isBuiltin = true) : s.block id = [] := by
  rw [block, if_pos h]

theorem block_of_size_le (h : s.size ≤ id) : s.block id = [] := by
  rw [block, complaints_of_size_le h]
  simp

/-- Stores of one size with the same declarations are the same. -/
theorem eq_of_get (hsize : s.size = s'.size) (hget : ∀ id, s.get id = s'.get id) : s = s' := by
  obtain ⟨as⟩ := s
  obtain ⟨bs⟩ := s'
  congr 1
  refine Array.ext hsize fun i hi hi' => ?_
  simpa [get, Array.getD_eq_getD_getElem?, hi, hi'] using hget i

end Store

/-! ### Requests -/

/-- A request to check one declaration, or all that names mean. -/
inductive CheckRequest where
  | declaration (id : TypeId)
  | allDeclarations
  deriving DecidableEq, Repr

/-- The answer to a request: whether the declaration is in order, or how many are erroneous. -/
inductive CheckReply where
  | inOrder (ok : Bool)
  | erroneous (count : Nat)
  deriving DecidableEq, Repr

namespace CheckRequest

/-- The declarations that a request reaches, in the order in which it does. -/
def targets (store : Store) : CheckRequest → List TypeId
  | .declaration id => [id]
  | .allDeclarations => store.userTypes

/-- The reply that a store calls for. -/
def reply (store : Store) : CheckRequest → CheckReply
  | .declaration id => .inOrder (store.verdict id)
  | .allDeclarations => .erroneous (store.userTypes.countP fun id => !store.verdict id)

/-- All that a list of requests reaches, in the order in which it does. -/
def reached (store : Store) (requests : List CheckRequest) : List TypeId :=
  requests.flatMap (targets store)

theorem targets_congr {s s' : Store} (h : s.unstamped = s'.unstamped) (r : CheckRequest) :
    r.targets s = r.targets s' := by
  cases r with
  | declaration id => rfl
  | allDeclarations => exact Store.userTypes_congr h

theorem reply_congr {s s' : Store} (h : s.unstamped = s'.unstamped) (r : CheckRequest) :
    r.reply s = r.reply s' := by
  have hverdict : s.verdict = s'.verdict := funext (Store.verdict_congr h)
  cases r with
  | declaration id => rw [reply, reply, hverdict]
  | allDeclarations => rw [reply, reply, hverdict, Store.userTypes_congr h]

theorem reached_congr {s s' : Store} (h : s.unstamped = s'.unstamped)
    (requests : List CheckRequest) : reached s requests = reached s' requests := by
  rw [reached, reached, funext (targets_congr h)]

/-- Two lists of requests reach the same declarations, the builtin ones aside. -/
def ReachSame (store : Store) (requests others : List CheckRequest) : Prop :=
  ∀ id, (store.get id).isBuiltin = false →
    (id ∈ reached store requests ↔ id ∈ reached store others)

end CheckRequest

namespace Check

/-- Carry out a request. -/
def request : CheckRequest → Check CheckReply
  | .declaration id => return .inOrder (← declaration id)
  | .allDeclarations => return .erroneous (← allDeclarations)

/-- Carry out requests one after another. -/
def requests : List CheckRequest → Check (List CheckReply)
  | [] => return []
  | r :: rest => do
    let first ← request r
    let others ← requests rest
    return first :: others

theorem requests_cons (s : Session) (r : CheckRequest) (rest : List CheckRequest) :
    (requests (r :: rest)).run s =
      let first := (request r).run s
      let others := (requests rest).run first.2
      (first.1 :: others.1, others.2) := rfl

/-- A request does to a session what checking its targets does. -/
theorem request_snd (s : Session) (r : CheckRequest) :
    ((request r).run s).2 = ((declarations (r.targets s.store)).run s).2 := by
  cases r <;> rfl

end Check

namespace Session

variable {s base : Session} {ids : List TypeId}

/-! ### Answers -/

/-- In a faithful session the check of a declaration is answered by the store alone. -/
theorem Faithful.declaration_fst (h : s.Faithful) (id : TypeId) :
    ((Check.declaration id).run s).1 = s.store.verdict id := by
  by_cases hsettled : s.IsSettled id
  · rw [declaration_of_settled hsettled, Store.verdict]
    cases hbuiltin : (s.store.get id).isBuiltin with
    | true => rfl
    | false => rw [h id hbuiltin (hsettled.resolve_left (by simp [hbuiltin]))]
  · have hbuiltin : (s.store.get id).isBuiltin = false := by
      simpa using fun h => hsettled (.inl h)
    rw [declaration_of_due hsettled, Store.verdict, hbuiltin, Bool.false_or]

theorem Faithful.declarations_fst (h : s.Faithful) (ids : List TypeId) :
    ((Check.declarations ids).run s).1 = ids.countP fun id => !s.store.verdict id := by
  induction ids generalizing s with
  | nil => rfl
  | cons id rest ih =>
    have hverdict : ((Check.declaration id).run s).2.store.verdict = s.store.verdict :=
      funext (Store.verdict_congr (s.declaration_unstamped id))
    rw [declarations_cons]
    simp only [h.declaration_fst, ih (h.declaration id), hverdict, List.countP_cons]
    cases s.store.verdict id <;> simp

theorem declarations_unstamped (s : Session) (ids : List TypeId) :
    ((Check.declarations ids).run s).2.store.unstamped = s.store.unstamped := by
  obtain ⟨store, collector, errorCount, hsame, h⟩ := s.declarations_eq ids
  rw [h]
  exact hsame

/-- In a faithful session requests are answered by the store alone. -/
theorem Faithful.requests_fst (h : s.Faithful) (requests : List CheckRequest) :
    ((Check.requests requests).run s).1 = requests.map (·.reply s.store) := by
  induction requests generalizing s with
  | nil => rfl
  | cons r rest ih =>
    have hfirst : ((Check.request r).run s).1 = r.reply s.store := by
      cases r with
      | declaration id => exact congrArg CheckReply.inOrder (h.declaration_fst id)
      | allDeclarations =>
        exact congrArg CheckReply.erroneous (h.declarations_fst s.store.userTypes)
    have hsame : ((Check.request r).run s).2.store.unstamped = s.store.unstamped := by
      rw [Check.request_snd, declarations_unstamped]
    have hfaithful : ((Check.request r).run s).2.Faithful := by
      rw [Check.request_snd]
      exact h.declarations _
    rw [Check.requests_cons]
    simp only [hfirst, ih hfaithful, List.map_cons, CheckRequest.reply_congr hsame]

/-! ### What a run of requests reached -/

/-- No check of the pass, or of a later one, has stamped a declaration. -/
def Untouched (s : Session) : Prop :=
  ∀ id, (s.store.get id).isBuiltin = false → ∀ p ∈ (s.store.get id).stamp.lastChecked, p < s.pass

theorem untouched_of_size (h : ∀ id < s.store.size, (s.store.get id).stamp.lastChecked = none) :
    s.Untouched := by
  intro id _ p hp
  have hnone : (s.store.get id).stamp.lastChecked = none := by
    by_cases hid : id < s.store.size
    · exact h id hid
    · rw [Store.get_of_size_le (Nat.le_of_not_lt hid)]
  rw [hnone] at hp
  cases hp

theorem Untouched.not_isSettled (h : s.Untouched) {id : TypeId}
    (hbuiltin : (s.store.get id).isBuiltin = false) : ¬ s.IsSettled id := by
  rw [IsSettled, hbuiltin, CheckStamp.claim?_eq_none_iff, CheckStamp.needsCheck]
  cases hlast : (s.store.get id).stamp.lastChecked with
  | none => simp
  | some p => simp [h id hbuiltin p hlast]

theorem Untouched.faithful (h : s.Untouched) : s.Faithful :=
  fun _ hbuiltin hclaim => absurd (.inr hclaim) (h.not_isSettled hbuiltin)

/-- A run over a list of declarations stamps this one.  Builtin types are passed over, and so are
numbers that no declaration has. -/
def Marks (base : Session) (ids : List TypeId) (u : TypeId) : Prop :=
  u ∈ ids ∧ u < base.store.size ∧ (base.store.get u).isBuiltin = false

instance (base : Session) (ids : List TypeId) (u : TypeId) : Decidable (base.Marks ids u) :=
  inferInstanceAs (Decidable (_ ∧ _ ∧ _))

theorem marks_snoc {id u : TypeId} : base.Marks (ids ++ [id]) u ↔
    base.Marks ids u ∨ id = u ∧ u < base.store.size ∧ (base.store.get u).isBuiltin = false := by
  rw [Marks, Marks, List.mem_append, List.mem_singleton, or_and_right, eq_comm (a := u)]

/-- The session is what the base becomes where the declarations of a list are checked one after
another: each that is reached carries its mark, and has reported its block once. -/
structure HasReached (base : Session) (ids : List TypeId) (s : Session) : Prop where
  pass : s.pass = base.pass
  unstamped : s.store.unstamped = base.store.unstamped
  get : ∀ u, s.store.get u =
    if base.Marks ids u then
      { base.store.get u with stamp := ⟨some base.pass, !base.store.verdict u⟩ }
    else base.store.get u
  reported : s.collector.toList =
    base.collector.toList ++ ids.eraseDups.flatMap base.store.block

namespace HasReached

theorem start : base.HasReached [] base :=
  ⟨rfl, rfl, fun u => (if_neg fun h => List.not_mem_nil h.1).symm, by simp⟩

/-- In a base that is untouched, what is settled is builtin or was reached. -/
theorem isSettled_iff (h : base.HasReached ids s) (hbase : base.Untouched) (id : TypeId) :
    s.IsSettled id ↔ (base.store.get id).isBuiltin = true ∨ base.Marks ids id := by
  rw [IsSettled, h.pass, h.get id]
  by_cases hmarks : base.Marks ids id
  · simp [hmarks]
  · simp only [hmarks, if_false, or_false]
    refine ⟨fun hsettled => ?_, .inl⟩
    by_contra hbuiltin
    exact hbase.not_isSettled (by simpa using hbuiltin) hsettled

/-- Reaching what is builtin, or was reached before, adds nothing. -/
theorem snoc_of_isSettled (h : base.HasReached ids s) {id : TypeId}
    (hid : (base.store.get id).isBuiltin = true ∨ base.Marks ids id) :
    base.HasReached (ids ++ [id]) s := by
  have hmarks (u : TypeId) : base.Marks (ids ++ [id]) u ↔ base.Marks ids u := by
    rw [marks_snoc]
    refine or_iff_left_of_imp ?_
    rintro ⟨rfl, hlt, hbuiltin⟩
    exact hid.resolve_left (by simp [hbuiltin])
  refine ⟨h.pass, h.unstamped, fun u => ?_, ?_⟩
  · rw [h.get u]
    exact if_congr (hmarks u).symm rfl rfl
  · rw [h.reported, List.eraseDups_append, List.flatMap_append]
    by_cases hmem : id ∈ ids
    · simp [List.removeAll, hmem]
    · have hbuiltin := hid.resolve_right fun hreached => hmem hreached.1
      simp [List.removeAll, hmem, Store.block_of_isBuiltin hbuiltin]

/-- The check of a declaration reports its block. -/
theorem collector_checked (h : base.HasReached ids s) {id : TypeId}
    (hbuiltin : (base.store.get id).isBuiltin = false) :
    (s.checked id).collector.toList = s.collector.toList ++ base.store.block id := by
  obtain ⟨collector, errorCount, hreported, hlist⟩ :=
    s.emitAll_eq (s.store.get id).location (s.store.complaints id)
  have hblock : base.store.block id =
      (s.store.complaints id).map (Complaint.diagnostic (s.store.get id).location) := by
    rw [Store.block, hbuiltin, Store.complaints_congr h.unstamped,
      Store.location_congr h.unstamped]
    rfl
  rw [Session.checked, hreported, hblock]
  exact hlist

/-- Reaching another declaration reports its block, and marks it. -/
theorem snoc_checked (h : base.HasReached ids s) {id : TypeId}
    (hbuiltin : (base.store.get id).isBuiltin = false) (hid : ¬ base.Marks ids id) :
    base.HasReached (ids ++ [id]) (s.checked id) := by
  refine ⟨(s.checked_pass id).trans h.pass, (s.checked_unstamped id).trans h.unstamped,
    fun u => ?_, ?_⟩
  · rw [show (s.checked id).store = s.store.setStamp id _ from rfl, Store.get_setStamp,
      Store.size_congr h.unstamped, h.get u]
    by_cases hu : id = u ∧ u < base.store.size
    · obtain ⟨rfl, hlt⟩ := hu
      have hmarks : base.Marks (ids ++ [id]) id := marks_snoc.mpr (.inr ⟨rfl, hlt, hbuiltin⟩)
      rw [if_pos ⟨rfl, hlt⟩, if_neg hid, if_pos hmarks, h.pass,
        Store.complaints_congr h.unstamped, Store.verdict, hbuiltin, Bool.false_or, Bool.not_not]
    · have hmarks : base.Marks (ids ++ [id]) u ↔ base.Marks ids u :=
        marks_snoc.trans (or_iff_left fun hmark => hu ⟨hmark.1, hmark.2.1⟩)
      rw [if_neg hu]
      exact if_congr hmarks.symm rfl rfl
  · rw [h.collector_checked hbuiltin, h.reported, List.eraseDups_append, List.flatMap_append,
      List.append_assoc]
    by_cases hmem : id ∈ ids
    · -- a number that was reached and bears no mark has no declaration
      have hsize : base.store.size ≤ id := by
        by_contra hlt
        exact hid ⟨hmem, Nat.lt_of_not_le hlt, hbuiltin⟩
      simp [List.removeAll, hmem, Store.block_of_size_le hsize]
    · simp [List.removeAll, hmem, List.eraseDups_cons]

/-- One step of a run. -/
theorem declaration (h : base.HasReached ids s) (hbase : base.Untouched) (id : TypeId) :
    base.HasReached (ids ++ [id]) ((Check.declaration id).run s).2 := by
  by_cases hsettled : s.IsSettled id
  · rw [declaration_of_settled hsettled]
    exact h.snoc_of_isSettled ((h.isSettled_iff hbase id).mp hsettled)
  · rw [declaration_of_due hsettled]
    rw [h.isSettled_iff hbase, not_or, Bool.not_eq_true] at hsettled
    exact h.snoc_checked hsettled.1 hsettled.2

theorem declarations (h : base.HasReached ids s) (hbase : base.Untouched)
    (others : List TypeId) :
    base.HasReached (ids ++ others) ((Check.declarations others).run s).2 := by
  induction others generalizing s ids with
  | nil => rwa [List.append_nil]
  | cons id rest ih =>
    rw [declarations_cons, List.append_cons]
    exact ih (h.declaration hbase id)

theorem requests (h : base.HasReached ids s) (hbase : base.Untouched)
    (requests : List CheckRequest) :
    base.HasReached (ids ++ CheckRequest.reached base.store requests)
      ((Check.requests requests).run s).2 := by
  induction requests generalizing s ids with
  | nil => rwa [CheckRequest.reached, List.flatMap_nil, List.append_nil]
  | cons r rest ih =>
    have hfirst := h.declarations hbase (r.targets s.store)
    rw [← Check.request_snd, CheckRequest.targets_congr h.unstamped] at hfirst
    rw [Check.requests_cons, CheckRequest.reached, List.flatMap_cons, ← List.append_assoc]
    exact ih hfirst

/-- A larger pass finds everything untouched again. -/
theorem untouched_setPass (h : base.HasReached ids s) (hbase : base.Untouched) {later : Pass}
    (hlater : base.pass < later) : (s.setPass later).Untouched := by
  intro u hbuiltin p hp
  have hget : ((s.setPass later).store.get u) = _ := h.get u
  rw [hget] at hbuiltin hp
  by_cases hmarks : base.Marks ids u
  · rw [if_pos hmarks] at hp
    obtain rfl := Option.some.inj hp
    exact hlater
  · rw [if_neg hmarks] at hbuiltin hp
    exact Nat.lt_trans (hbase u hbuiltin p hp) hlater

/-- What was reached is marked erroneous exactly if it has an error. -/
theorem isErroneous (h : base.HasReached ids s) {id : TypeId} (hid : id ∈ ids)
    (hbuiltin : (base.store.get id).isBuiltin = false) :
    (s.store.get id).isErroneous = !base.store.verdict id := by
  rw [h.get id]
  by_cases hlt : id < base.store.size
  · rw [if_pos ⟨hid, hlt, hbuiltin⟩]
    rfl
  · have hle : base.store.size ≤ id := Nat.le_of_not_lt hlt
    rw [if_neg fun hmarks => hlt hmarks.2.1, Store.verdict, Store.complaints_of_size_le hle,
      Store.get_of_size_le hle]
    rfl

variable {others : List TypeId} {t : Session}

/-- Runs that reach the same declarations leave the same store. -/
theorem store_eq (h : base.HasReached ids s) (h' : base.HasReached others t)
    (hsame : ∀ u, base.Marks ids u ↔ base.Marks others u) : s.store = t.store := by
  refine Store.eq_of_get (Store.size_congr (h.unstamped.trans h'.unstamped.symm)) fun u => ?_
  rw [h.get u, h'.get u]
  exact if_congr (hsame u) rfl rfl

/-- Runs that reach the same declarations report the same, but for the order. -/
theorem perm (h : base.HasReached ids s) (h' : base.HasReached others t)
    (hsame : ∀ u, (base.store.get u).isBuiltin = false → (u ∈ ids ↔ u ∈ others)) :
    s.collector.toList.Perm t.collector.toList := by
  rw [h.reported, h'.reported]
  refine (perm_flatMap_eraseDups fun u hu => hsame u ?_).append_left _
  by_contra hbuiltin
  exact hu (Store.block_of_isBuiltin (by simpa using hbuiltin))

/-- A later run over declarations that were reached before leaves their marks. -/
theorem isErroneous_again (h : base.HasReached ids s) {later : Pass}
    (hagain : (s.setPass later).HasReached others t)
    (hsub : ∀ u ∈ others, (base.store.get u).isBuiltin = false → u ∈ ids) (id : TypeId) :
    (t.store.get id).isErroneous = (s.store.get id).isErroneous := by
  rw [hagain.get id]
  split
  · rename_i hmarks
    have hbuiltin : (base.store.get id).isBuiltin = false :=
      (Store.isBuiltin_congr h.unstamped id).symm.trans hmarks.2.2
    rw [h.isErroneous (hsub id hmarks.1 hbuiltin) hbuiltin, ← Store.verdict_congr h.unstamped id]
    rfl
  · rfl

end HasReached

/-- Requests to an untouched session reach what they reach in the store without its stamps. -/
theorem Untouched.hasReached (hs : s.Untouched) {store : Store}
    (hstore : store.unstamped = s.store.unstamped) (requests : List CheckRequest) :
    s.HasReached (CheckRequest.reached store requests) ((Check.requests requests).run s).2 := by
  have hreached := HasReached.start.requests hs requests
  rwa [List.nil_append, ← CheckRequest.reached_congr hstore] at hreached

/-- They are answered by that store. -/
theorem Untouched.requests_fst (hs : s.Untouched) {store : Store}
    (hstore : store.unstamped = s.store.unstamped) (requests : List CheckRequest) :
    ((Check.requests requests).run s).1 = requests.map (·.reply store) := by
  rw [hs.faithful.requests_fst requests, funext (CheckRequest.reply_congr hstore)]

end Session

/-- In a pass in which nothing was checked, requests are answered by the store without its stamps;
each declaration that they reach reports its block once, where it is reached first, and is marked
by it.  Other requests that reach the same declarations lead to the same store and, but for the
order, to the same diagnostics; in a later pass they report the blocks again, and the marks stay. -/
theorem Check.requests_of_untouched {s : Session} (hs : s.Untouched)
    (requests : List CheckRequest) :
    let store := s.store.unstamped
    let run := (Check.requests requests).run s
    run.1 = requests.map (·.reply store) ∧
    run.2.collector.toList = s.collector.toList ++
      (CheckRequest.reached store requests).eraseDups.flatMap store.block ∧
    (∀ id ∈ CheckRequest.reached store requests, (store.get id).isBuiltin = false →
      (run.2.store.get id).isErroneous = !store.verdict id) ∧
    ∀ others, CheckRequest.ReachSame store requests others →
      let other := (Check.requests others).run s
      other.2.store = run.2.store ∧
      other.2.collector.toList.Perm run.2.collector.toList ∧
      ∀ later > s.pass,
        let again := (Check.requests others).run (run.2.setPass later)
        again.1 = others.map (·.reply store) ∧
        again.2.collector.toList = run.2.collector.toList ++
          (CheckRequest.reached store others).eraseDups.flatMap store.block ∧
        ∀ id, (again.2.store.get id).isErroneous = (run.2.store.get id).isErroneous := by
  intro store run
  have hstore : store.unstamped = s.store.unstamped := s.store.unstamped_unstamped
  have hblock : s.store.block = store.block := funext (Store.block_congr hstore.symm)
  have hverdict : s.store.verdict = store.verdict := funext (Store.verdict_congr hstore.symm)
  have hbuiltin (id : TypeId) : (s.store.get id).isBuiltin = (store.get id).isBuiltin :=
    Store.isBuiltin_congr hstore.symm id
  have hrun := hs.hasReached hstore requests
  refine ⟨hs.requests_fst hstore requests, ?_, fun id hid hid' => ?_, fun others hsame => ?_⟩
  · rw [hrun.reported, hblock]
  · rw [hrun.isErroneous hid ((hbuiltin id).trans hid'), hverdict]
  intro other
  have hother := hs.hasReached hstore others
  have hmem (u : TypeId) (hu : (s.store.get u).isBuiltin = false) :
      u ∈ CheckRequest.reached store others ↔ u ∈ CheckRequest.reached store requests :=
    (hsame u ((hbuiltin u).symm.trans hu)).symm
  refine ⟨hother.store_eq hrun fun u => ?_, hother.perm hrun hmem, ?_⟩
  · exact and_congr_left fun hu => hmem u hu.2
  intro later hlater again
  -- the later pass starts from what the run has left, which is untouched in it
  have huntouched : (run.2.setPass later).Untouched := hrun.untouched_setPass hs hlater
  have hlaterStore : store.unstamped = (run.2.setPass later).store.unstamped :=
    hstore.trans hrun.unstamped.symm
  have hagain := huntouched.hasReached hlaterStore others
  refine ⟨huntouched.requests_fst hlaterStore others, ?_, ?_⟩
  · rw [hagain.reported, funext (Store.block_congr hlaterStore.symm)]
    rfl
  · exact hrun.isErroneous_again hagain fun u hu hu' => (hmem u hu').mp hu

namespace Session

/-- A record with two fields of one name, and an alias of it. -/
def twinRecord : Session where
  store := ⟨#[{ name := "Pair", kind := .record,
                fields := [⟨"x", .name "Pair", true⟩, ⟨"x", .name "Pair", true⟩] },
              { name := "Copy", kind := .referenced, target := some (.name "Pair") }]⟩
  pass := 1

end Session

/-- The record is refused however often and through whichever request it is reached, and the one
complaint about it is reported once in each of two passes. -/
theorem Check.requests_of_untouched_twinRecord :
    let s := Session.twinRecord
    let run := (Check.requests [.declaration 1, .allDeclarations, .declaration 0]).run s
    let again := (Check.requests [.declaration 0, .declaration 1]).run (run.2.setPass 2)
    s.Untouched ∧
    run.1 = [.inOrder true, .erroneous 1, .inOrder false] ∧
    run.2.collector.toList.map Diagnostic.code = [2006] ∧
    again.1 = [.inOrder false, .inOrder true] ∧
    again.2.collector.toList.map Diagnostic.code = [2006, 2006] := by
  intro s run again
  have hs : s.Untouched := Session.untouched_of_size (by decide)
  obtain ⟨hreplies, hreported, -, hothers⟩ :=
    Check.requests_of_untouched hs [.declaration 1, .allDeclarations, .declaration 0]
  have hsame : CheckRequest.ReachSame s.store.unstamped
      [.declaration 1, .allDeclarations, .declaration 0] [.declaration 0, .declaration 1] := by
    have hfirst : CheckRequest.reached s.store.unstamped
        [.declaration 1, .allDeclarations, .declaration 0] = [1, 0, 1, 0] := by decide +kernel
    have hsecond : CheckRequest.reached s.store.unstamped
        [.declaration 0, .declaration 1] = [0, 1] := by decide +kernel
    have hmem (id : Nat) : id ∈ [1, 0, 1, 0] ↔ id ∈ [0, 1] := by
      simp only [List.mem_cons, List.not_mem_nil, or_false]
      omega
    intro id _
    rw [hfirst, hsecond]
    exact hmem id
  obtain ⟨-, -, hlater⟩ := hothers _ hsame
  obtain ⟨hreplies', hreported', -⟩ := hlater 2 (by decide)
  refine ⟨hs, hreplies.trans (by decide +kernel), ?_, hreplies'.trans (by decide +kernel), ?_⟩
  · rw [hreported]
    decide +kernel
  · rw [hreported', hreported]
    decide +kernel

end TestSpec
