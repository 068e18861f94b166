/-!
# Lists ordered by a key

A keyed list holds at most one entry per key and keeps its entries in increasing order of
their keys.  The order is part of the type, so two keyed lists with the same entries are
equal.  Inserting an entry replaces the one with the same key.
-/

namespace BindingSync

section Insert

variable {α κ : Type} [LT κ] [DecidableLT κ]

/-- Inserts an entry in front of the first one with a greater key. -/
def insertByKey (key : α → κ) (entry : α) : List α → List α
  | [] => [entry]
  | first :: rest =>
    if key entry < key first then entry :: first :: rest
    else if key first < key entry then first :: insertByKey key entry rest
    else entry :: rest

theorem mem_of_mem_insertByKey {key : α → κ} {entry a : α} {entries : List α}
    (h : a ∈ insertByKey key entry entries) : a = entry ∨ a ∈ entries := by
  induction entries with
  | nil => simpa [insertByKey] using h
  | cons first rest ih =>
    rw [insertByKey] at h
    split at h
    · simpa using h
    · split at h
      · rcases List.mem_cons.1 h with h | h
        · simp [h]
        · rcases ih h with h | h <;> simp [h]
      · rcases List.mem_cons.1 h with h | h <;> simp [h]

variable [LE κ] [Std.IsLinearOrder κ] [Std.LawfulOrderLT κ]

theorem pairwise_insertByKey {key : α → κ} {entry : α} {entries : List α}
    (h : entries.Pairwise fun a b => key a < key b) :
    (insertByKey key entry entries).Pairwise fun a b => key a < key b := by
  induction entries with
  | nil => simp [insertByKey]
  | cons first rest ih =>
    rw [List.pairwise_cons] at h
    rw [insertByKey]
    split
    · next hlt =>
      refine List.pairwise_cons.2 ⟨fun b hb => ?_, List.pairwise_cons.2 h⟩
      rcases List.mem_cons.1 hb with rfl | hb
      · exact hlt
      · exact Std.lt_trans hlt (h.1 b hb)
    · split
      · next hgt =>
        refine List.pairwise_cons.2 ⟨fun b hb => ?_, ih h.2⟩
        rcases mem_of_mem_insertByKey hb with rfl | hb
        · exact hgt
        · exact h.1 b hb
      · next hlt hgt =>
        have heq : key entry = key first :=
          Std.le_antisymm (Std.not_lt.1 hgt) (Std.not_lt.1 hlt)
        refine List.pairwise_cons.2 ⟨fun b hb => ?_, h.2⟩
        rw [heq]
        exact h.1 b hb

end Insert

/-- Entries in increasing order of their keys. -/
structure Keyed {α κ : Type} [LT κ] (key : α → κ) where
  toList : List α := []
  increasing : toList.Pairwise fun a b => key a < key b := by simp

namespace Keyed

variable {α κ : Type} [LT κ] {key : α → κ}

/-- The keyed list without entries. -/
def empty : Keyed key := {}

instance : Inhabited (Keyed key) := ⟨empty⟩

instance [DecidableEq α] : DecidableEq (Keyed key) := fun a b =>
  if h : a.toList = b.toList then isTrue (by cases a; cases b; cases h; rfl)
  else isFalse fun e => h (by rw [e])

instance [Repr α] : Repr (Keyed key) where
  reprPrec table := reprPrec table.toList

/-- Two keyed lists with the same entries are equal. -/
theorem eq_of_toList {a b : Keyed key} (h : a.toList = b.toList) : a = b := by
  cases a; cases b; cases h; rfl

/-- The entry with a key. -/
def get? [DecidableEq κ] (table : Keyed key) (k : κ) : Option α :=
  table.toList.find? fun entry => key entry = k

/-- There is an entry with the key. -/
def contains [DecidableEq κ] (table : Keyed key) (k : κ) : Bool :=
  table.toList.any fun entry => key entry = k

/-- The keyed list with one more entry, or another entry for its key. -/
def insert [LE κ] [DecidableLT κ] [Std.IsLinearOrder κ] [Std.LawfulOrderLT κ]
    (table : Keyed key) (entry : α) : Keyed key where
  toList := insertByKey key entry table.toList
  increasing := pairwise_insertByKey table.increasing

end Keyed

end BindingSync
