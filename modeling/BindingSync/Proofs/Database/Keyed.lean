import Mathlib.Data.List.Sort
import Mathlib.Tactic.Common
import BindingSync.Database.Keyed

/-!
# Looking up in keyed lists

A keyed list is a finite map: inserting an entry changes what is found under its key and
nothing else (`Keyed.get?_insert`).  Because the order of the entries is fixed by their keys,
an entry that is inserted a second time changes nothing at all (`Keyed.insert_eq_self`), and
inserting the entries of a keyed list one after the other builds the list again
(`Keyed.foldl_insert_toList`).  The last fact is what reading a written list relies on.
-/

namespace BindingSync

/-- In a list without repeated keys, exactly the entry with a key is found under it. -/
lemma find?_key_eq_some_iff {α κ : Type} [DecidableEq κ] {key : α → κ} {entries : List α}
    (h : (entries.map key).Nodup) {k : κ} {entry : α} :
    entries.find? (fun a => key a = k) = some entry ↔ entry ∈ entries ∧ key entry = k := by
  induction entries with
  | nil => simp
  | cons first rest ih =>
    obtain ⟨hfresh, hrest⟩ := List.nodup_cons.1 h
    rw [List.find?_cons]
    by_cases hfirst : key first = k
    · simp only [hfirst, decide_true, Option.some.injEq, List.mem_cons]
      constructor
      · rintro rfl
        exact ⟨.inl rfl, hfirst⟩
      · rintro ⟨rfl | hmem, hentry⟩
        · rfl
        · exact absurd (hfirst.trans hentry.symm ▸ List.mem_map_of_mem hmem) hfresh
    · simp only [hfirst, decide_false, ih hrest, List.mem_cons]
      constructor
      · exact fun ⟨hmem, hentry⟩ => ⟨.inr hmem, hentry⟩
      · rintro ⟨rfl | hmem, hentry⟩
        · exact absurd hentry hfirst
        · exact ⟨hmem, hentry⟩

section Insert

variable {α κ : Type} [LT κ] [LE κ] [Std.IsLinearOrder κ] [Std.LawfulOrderLT κ]

/-- Keys that are ordered neither way are equal. -/
lemma eq_of_not_lt {a b : κ} (hab : ¬a < b) (hba : ¬b < a) : a = b :=
  Std.le_antisymm (Std.not_lt.1 hba) (Std.not_lt.1 hab)

variable [DecidableLT κ]

/-- An inserted entry is found under its key, and every other key finds what it found before. -/
lemma find?_insertByKey [DecidableEq κ] (key : α → κ) (entry : α) (entries : List α) (k : κ)
    (h : entries.Pairwise fun a b => key a < key b) :
    (insertByKey key entry entries).find? (fun a => key a = k) =
      if key entry = k then some entry else entries.find? fun a => key a = k := by
  induction entries with
  | nil => by_cases hk : key entry = k <;> simp [insertByKey, hk]
  | cons first rest ih =>
    rw [List.pairwise_cons] at h
    rw [insertByKey]
    split
    · by_cases hk : key entry = k <;> simp [hk]
    · next hlt =>
      split
      · next hgt =>
        rw [List.find?_cons, ih h.2]
        by_cases hk : key entry = k
        · have hfirst : key first ≠ k := fun e => by
            rw [hk, e] at hgt
            exact Std.lt_irrefl hgt
          simp [hk, hfirst]
        · simp only [hk, if_false, List.find?_cons]
      · next hgt =>
        have heq : key entry = key first := eq_of_not_lt hlt hgt
        by_cases hk : key entry = k
        · simp [hk]
        · have hfirst : key first ≠ k := heq ▸ hk
          simp [hk, hfirst]

/-- In a list without repeated keys, inserting an entry that is there changes nothing. -/
lemma insertByKey_eq_self {key : α → κ} {entry : α} {entries : List α}
    (h : entries.Pairwise fun a b => key a < key b) (hmem : entry ∈ entries) :
    insertByKey key entry entries = entries := by
  induction entries with
  | nil => simp at hmem
  | cons first rest ih =>
    rw [List.pairwise_cons] at h
    rw [insertByKey]
    rcases List.mem_cons.1 hmem with rfl | hrest
    · simp [Std.lt_irrefl]
    · have hlt : key first < key entry := h.1 entry hrest
      rw [if_neg fun hgt => Std.lt_irrefl (Std.lt_trans hlt hgt), if_pos hlt, ih h.2 hrest]

/-- An entry whose key is above all others goes to the end. -/
lemma insertByKey_eq_append {key : α → κ} {entry : α} {entries : List α}
    (h : ∀ a ∈ entries, key a < key entry) :
    insertByKey key entry entries = entries ++ [entry] := by
  induction entries with
  | nil => rfl
  | cons first rest ih =>
    have hlt : key first < key entry := h first List.mem_cons_self
    rw [insertByKey, if_neg fun hgt => Std.lt_irrefl (Std.lt_trans hlt hgt), if_pos hlt,
      ih fun a ha => h a (List.mem_cons_of_mem _ ha), List.cons_append]

end Insert

namespace Keyed

variable {α κ : Type} [LT κ] {key : α → κ}

/-- The entries of the keyed list without entries. -/
@[simp] lemma toList_empty : (empty : Keyed key).toList = [] := rfl

section Lookup

variable [DecidableEq κ]

/-- What is found under a key is an entry with that key. -/
lemma mem_of_get? {table : Keyed key} {k : κ} {entry : α} (h : table.get? k = some entry) :
    entry ∈ table.toList ∧ key entry = k :=
  ⟨List.mem_of_find?_eq_some h, by simpa using List.find?_some h⟩

/-- Exactly the entry with a key is found under it. -/
lemma get?_eq_some_iff [LE κ] [Std.IsPreorder κ] [Std.LawfulOrderLT κ] {table : Keyed key} {k : κ}
    {entry : α} : table.get? k = some entry ↔ entry ∈ table.toList ∧ key entry = k :=
  find?_key_eq_some_iff <| List.pairwise_map.2 <|
    table.increasing.imp fun {a b} (hlt : key a < key b) (heq : key a = key b) =>
      Std.lt_irrefl (heq ▸ hlt)

/-- A keyed list holds a key exactly if something is found under it. -/
lemma contains_iff {table : Keyed key} {k : κ} :
    table.contains k = true ↔ ∃ entry ∈ table.toList, key entry = k := by
  simp [contains]

/-- A keyed list holds a key exactly if it finds an entry for it. -/
lemma contains_eq_isSome (table : Keyed key) (k : κ) :
    table.contains k = (table.get? k).isSome := by
  rw [Bool.eq_iff_iff, contains_iff, get?, List.find?_isSome]
  simp

/-- A keyed list without entries holds no key. -/
@[simp] lemma contains_empty (k : κ) : (empty : Keyed key).contains k = false := rfl

end Lookup

/-- A list of keys holds those that are in it. -/
lemma contains_iff_mem [DecidableEq κ] {table : Keyed (id : κ → κ)} {k : κ} :
    table.contains k = true ↔ k ∈ table.toList := by
  rw [contains_iff]
  exact ⟨fun ⟨_, hmem, hid⟩ => hid ▸ hmem, fun hmem => ⟨k, hmem, rfl⟩⟩

section Keys

variable [LE κ]

/-- No key stands in a list of keys twice. -/
lemma nodup_toList [Std.IsPreorder κ] [Std.LawfulOrderLT κ] (table : Keyed (id : κ → κ)) :
    table.toList.Nodup :=
  table.increasing.imp fun {x y} (hlt : x < y) (heq : x = y) => Std.lt_irrefl (heq ▸ hlt)

variable [Std.IsLinearOrder κ] [Std.LawfulOrderLT κ] [DecidableEq κ]

/-- Two lists of keys in increasing order are equal if they hold the same keys. -/
lemma eq_of_contains {a b : Keyed (id : κ → κ)}
    (h : ∀ k, a.contains k = b.contains k) : a = b := by
  have hmem : ∀ k, k ∈ a.toList ↔ k ∈ b.toList := fun k => by
    rw [← contains_iff_mem, h, contains_iff_mem]
  refine eq_of_toList (List.Perm.eq_of_pairwise ?_ a.increasing b.increasing
    ((List.perm_ext_iff_of_nodup a.nodup_toList b.nodup_toList).2 hmem))
  exact fun x y _ _ hxy hyx => absurd (Std.lt_trans hxy hyx) Std.lt_irrefl

/-- If one list of keys holds all keys of another one, it has them in the same order. -/
lemma sublist_of_contains {a b : Keyed (id : κ → κ)}
    (h : ∀ k, a.contains k = true → b.contains k = true) : a.toList.Sublist b.toList := by
  have hsubset : a.toList ⊆ b.toList := fun k hk =>
    contains_iff_mem.1 (h k (contains_iff_mem.2 hk))
  refine List.sublist_of_subperm_of_pairwise (r := fun x y => x < y)
    (List.subperm_of_subset a.nodup_toList hsubset) a.increasing b.increasing

end Keys

variable [DecidableLT κ] [LE κ] [Std.IsLinearOrder κ] [Std.LawfulOrderLT κ]

/-- The entries after an insertion are the new one and, of the old ones, those with another
key. -/
lemma mem_toList_insert {table : Keyed key} {entry a : α} (h : a ∈ (table.insert entry).toList) :
    a = entry ∨ a ∈ table.toList :=
  mem_of_mem_insertByKey h

/-- Inserting an entry that is there changes nothing. -/
lemma insert_eq_self {table : Keyed key} {entry : α} (h : entry ∈ table.toList) :
    table.insert entry = table :=
  eq_of_toList (insertByKey_eq_self table.increasing h)

/-- Inserting entries in the order of their keys, above all that is there, appends them. -/
lemma toList_foldl_insert (entries : List α) (table : Keyed key)
    (h : (table.toList ++ entries).Pairwise fun a b => key a < key b) :
    (entries.foldl insert table).toList = table.toList ++ entries := by
  induction entries generalizing table with
  | nil => simp
  | cons entry rest ih =>
    have habove : ∀ a ∈ table.toList, key a < key entry := fun a ha =>
      (List.pairwise_append.1 h).2.2 a ha entry List.mem_cons_self
    have hinsert : (table.insert entry).toList = table.toList ++ [entry] :=
      insertByKey_eq_append habove
    rw [List.foldl_cons, ih, hinsert, List.append_assoc, List.singleton_append]
    rwa [hinsert, List.append_assoc, List.singleton_append]

/-- The entries of a keyed list, inserted one after the other, give the keyed list. -/
lemma foldl_insert_toList (table : Keyed key) :
    table.toList.foldl insert (empty : Keyed key) = table :=
  eq_of_toList (by rw [toList_foldl_insert _ _ (by simpa using table.increasing)]; rfl)

variable [DecidableEq κ]

/-- Insertion changes exactly what is found under the key of the new entry. -/
lemma get?_insert (table : Keyed key) (entry : α) (k : κ) :
    (table.insert entry).get? k = if key entry = k then some entry else table.get? k :=
  find?_insertByKey key entry table.toList k table.increasing

/-- Insertion adds exactly the key of the new entry. -/
lemma contains_insert (table : Keyed key) (entry : α) (k : κ) :
    (table.insert entry).contains k = (decide (key entry = k) || table.contains k) := by
  rw [contains_eq_isSome, contains_eq_isSome, get?_insert]
  by_cases hk : key entry = k <;> simp [hk]

end Keyed

end BindingSync
