import Mathlib.Tactic.Common

/-!
# Computations that may fail

A computation in several parts gives a value only if each of its parts does.  The lemmas of this
file take such a computation apart: along a `do` block, and along a list whose members are all
worked on by the same part.
-/

namespace BindingSync

variable {ε α β : Type}

/-- A result that was mapped comes from a result. -/
lemma exists_of_map_eq_ok {f : α → β} {result : Except ε α} {b : β} (h : result.map f = .ok b) :
    ∃ a, result = .ok a ∧ f a = b := by
  cases result with
  | error e => cases h
  | ok a => exact ⟨a, rfl, Except.ok.inj h⟩

/-- A failure that was mapped past is the failure itself. -/
lemma eq_error_of_map_eq_error {f : α → β} {result : Except ε α} {e : ε}
    (h : result.map f = .error e) : result = .error e := by
  cases result with
  | error e' => exact congrArg Except.error (Except.error.inj h)
  | ok a => cases h

/-- Behind a part that gave a value the next part goes on with it. -/
@[simp] lemma ok_bind (a : α) (f : α → Except ε β) : (Except.ok a >>= f) = f a := rfl

/-- Two parts in a row give a value only if both do. -/
lemma exists_of_bind_eq_ok {f : α → Except ε β} {result : Except ε α} {b : β}
    (h : result >>= f = .ok b) : ∃ a, result = .ok a ∧ f a = .ok b := by
  cases result with
  | error e => cases h
  | ok a => exact ⟨a, rfl, h⟩

/-- What is left of a result without its errors is its value. -/
lemma eq_ok_of_toOption {result : Except ε α} {a : α} (h : result.toOption = some a) :
    result = .ok a := by
  cases result with
  | error e => cases h
  | ok b => exact congrArg Except.ok (Option.some.inj h)

/-- If each member of a list is given back from what it was turned into, so is the list. -/
lemma mapM_map_eq_some {f : α → β} {g : β → Option α} {as : List α}
    (h : ∀ a ∈ as, g (f a) = some a) : (as.map f).mapM g = some as := by
  induction as with
  | nil => rfl
  | cons a as ih =>
    obtain ⟨hfirst, hrest⟩ := List.forall_mem_cons.1 h
    rw [List.map_cons, List.mapM_cons, hfirst, ih hrest]
    rfl

/-- Each member of a list that was given comes from a member of the other. -/
lemma exists_of_mapM_eq_some {g : α → Option β} {as : List α} {bs : List β}
    (h : as.mapM g = some bs) : ∀ b ∈ bs, ∃ a ∈ as, g a = some b := by
  induction as generalizing bs with
  | nil =>
    cases h
    simp
  | cons a as ih =>
    rw [List.mapM_cons] at h
    obtain ⟨first, hfirst, h⟩ := Option.bind_eq_some_iff.1 h
    obtain ⟨rest, hrest, h⟩ := Option.bind_eq_some_iff.1 h
    cases h
    refine List.forall_mem_cons.2 ⟨⟨a, List.mem_cons_self, hfirst⟩, fun b hb => ?_⟩
    obtain ⟨source, hmem, heq⟩ := ih hrest b hb
    exact ⟨source, List.mem_cons_of_mem _ hmem, heq⟩

/-- Work on a list has no result exactly if it has none for one of its members. -/
lemma mapM_eq_none_iff {g : α → Option β} {as : List α} :
    as.mapM g = none ↔ ∃ a ∈ as, g a = none := by
  induction as with
  | nil => simp
  | cons a as ih =>
    rw [List.mapM_cons]
    cases ha : g a with
    | none => simp [ha]
    | some b =>
      cases has : as.mapM g with
      | none => simpa [ha] using ih.1 has
      | some bs =>
        have hrest : ¬∃ a ∈ as, g a = none := fun h => absurd (has.symm.trans (ih.2 h)) nofun
        simpa [ha] using hrest

/-- What a state has to begin with, and what each part keeps, it has after all parts. -/
lemma foldlM_invariant {p : β → Prop} {step : β → α → Option β} {as : List α} {first last : β}
    (h : as.foldlM step first = some last) (hfirst : p first)
    (hstep : ∀ a ∈ as, ∀ before after, p before → step before a = some after → p after) :
    p last := by
  induction as generalizing first with
  | nil =>
    cases h
    exact hfirst
  | cons a as ih =>
    rw [List.foldlM_cons] at h
    obtain ⟨next, hnext, h⟩ := Option.bind_eq_some_iff.1 h
    obtain ⟨ha, has⟩ := List.forall_mem_cons.1 hstep
    exact ih h (ha first next hfirst hnext) has

/-- Two parts in a row fail if the first one does, or else the second. -/
lemma bind_eq_error_iff {f : α → Except ε β} {result : Except ε α} {e : ε} :
    result >>= f = .error e ↔ result = .error e ∨ ∃ a, result = .ok a ∧ f a = .error e := by
  cases result with
  | error e' =>
    constructor
    · intro h
      exact .inl (congrArg Except.error (Except.error.inj h))
    · rintro (h | ⟨a, h, -⟩)
      · exact congrArg Except.error (Except.error.inj h)
      · cases h
  | ok a => simp

/-- Working on a list fails at the first member at which it does. -/
lemma foldlM_eq_error_iff {step : β → α → Except ε β} {as : List α} {first : β} {e : ε} :
    as.foldlM step first = .error e ↔ ∃ before a after between, as = before ++ a :: after ∧
      before.foldlM step first = .ok between ∧ step between a = .error e := by
  induction as generalizing first with
  | nil =>
    constructor
    · intro h
      cases h
    · rintro ⟨before, a, after, _, hsplit, -⟩
      simp at hsplit
  | cons a as ih =>
    rw [List.foldlM_cons, bind_eq_error_iff]
    constructor
    · rintro (hstep | ⟨next, hnext, hrest⟩)
      · exact ⟨[], a, as, first, rfl, rfl, hstep⟩
      · obtain ⟨before, b, after, between, rfl, hbefore, hb⟩ := ih.1 hrest
        refine ⟨a :: before, b, after, between, rfl, ?_, hb⟩
        rw [List.foldlM_cons, hnext, ok_bind, hbefore]
    · rintro ⟨before, b, after, between, hsplit, hbefore, hb⟩
      cases before with
      | nil =>
        obtain ⟨rfl, rfl⟩ := List.cons.inj hsplit
        cases hbefore
        exact .inl hb
      | cons c before =>
        obtain ⟨rfl, rfl⟩ := List.cons.inj hsplit
        rw [List.foldlM_cons] at hbefore
        obtain ⟨next, hnext, hbefore⟩ := exists_of_bind_eq_ok hbefore
        exact .inr ⟨next, hnext, ih.2 ⟨before, b, after, between, rfl, hbefore, hb⟩⟩

/-- Looking at each member of a list fails at the first member at which it does. -/
lemma forM_eq_error_iff {part : α → Except ε Unit} {as : List α} {e : ε} :
    as.forM part = .error e ↔ ∃ before a after, as = before ++ a :: after ∧
      before.forM part = .ok () ∧ part a = .error e := by
  have hfold : ∀ list : List α, list.forM part = list.foldlM (fun _ a => part a) () := by
    intro list
    induction list with
    | nil => rfl
    | cons a list ih =>
      rw [List.foldlM_cons]
      exact congrArg (part a >>= ·) (funext fun _ => ih)
  simp only [hfold, foldlM_eq_error_iff]
  constructor
  · rintro ⟨before, a, after, ⟨⟩, hfound⟩
    exact ⟨before, a, after, hfound⟩
  · rintro ⟨before, a, after, hfound⟩
    exact ⟨before, a, after, (), hfound⟩

/-- Work on a list that no state lets come past one of its members has no result. -/
lemma foldlM_eq_none_of_mem {step : β → α → Option β} {as : List α} {a : α} (hmem : a ∈ as)
    (hstep : ∀ b, step b a = none) (first : β) : as.foldlM step first = none := by
  induction as generalizing first with
  | nil => cases hmem
  | cons other as ih =>
    rw [List.foldlM_cons]
    rcases List.mem_cons.1 hmem with rfl | hmem
    · rw [hstep]
      rfl
    · cases step first other with
      | none => rfl
      | some next => exact ih hmem next

end BindingSync
