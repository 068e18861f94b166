import BindingSync.Proofs.Json.RoundTrip

/-!
# What is read from JSON

Whatever text is read, the value is readable: its strings are joined and its integers are short
(`readable_of_parse`).

The induction is on the fuel again, with one statement for each part of the reader.
-/

namespace BindingSync.Json

open BindingSync.Text

/-- What the reader gives for a value is readable. -/
def GivesValues (fuel : Nat) : Prop :=
  ∀ (text : List Char) (value : Json) (rest : List Char),
    Reader.value fuel text = .ok (value, rest) → Readable value

/-- What the reader gives for the items of an array is readable. -/
def GivesItems (fuel : Nat) : Prop :=
  ∀ (text : List Char) (found : List Json) (rest : List Char),
    Reader.items fuel text = .ok (found, rest) → ∀ item ∈ found, Readable item

/-- What the reader gives for the fields of an object is readable if what was read before is. -/
def GivesFields (fuel : Nat) : Prop :=
  ∀ (read : List (WideString × Json)) (text : List Char) (found : List (WideString × Json))
    (rest : List Char), Reader.fields fuel read text = .ok (found, rest) →
    (∀ field ∈ read, field.1.IsJoined ∧ Readable field.2) →
      ∀ field ∈ found, field.1.IsJoined ∧ Readable field.2

/-- The fields after one was added are the new one and old ones. -/
lemma mem_setField {fields : List (WideString × Json)} {name : WideString} {value : Json}
    {field : WideString × Json} (h : field ∈ setField fields name value) :
    field = (name, value) ∨ field ∈ fields := by
  induction fields with
  | nil => exact .inl (List.mem_singleton.1 h)
  | cons first fields ih =>
    rw [setField] at h
    split at h
    · rcases List.mem_cons.1 h with rfl | h
      · exact .inl rfl
      · exact .inr (List.mem_cons_of_mem _ h)
    · rcases List.mem_cons.1 h with rfl | h
      · exact .inr List.mem_cons_self
      · exact (ih h).imp_right (List.mem_cons_of_mem _)

/-- A value without parts is readable. -/
lemma readable_of_plain {text rest : List Char} {value : Json}
    (h : Reader.plain text = .ok (value, rest)) : Readable value := by
  rcases plain_cases h with ⟨n, rfl, hshort⟩ | ⟨x, rfl⟩ | ⟨b, rfl⟩ | rfl
  · exact .int hshort
  · exact .float x
  · exact .bool b
  · exact .null

/-- What is read for the items of an array is readable if the parts of the reader that are called
give what is readable. -/
lemma givesItems_succ {fuel : Nat} (hvalues : GivesValues fuel) (hitems : GivesItems fuel) :
    GivesItems (fuel + 1) := by
  intro text found rest h
  rw [Reader.items] at h
  obtain ⟨⟨item, after⟩, hvalue, h⟩ := exists_of_bind_eq_ok h
  have hreadable := hvalues text item after hvalue
  simp only at h
  split at h
  · cases h
    exact List.forall_mem_singleton.2 hreadable
  · obtain ⟨⟨others, last⟩, hothers, h⟩ := exists_of_bind_eq_ok h
    cases h
    exact List.forall_mem_cons.2 ⟨hreadable, hitems _ others _ hothers⟩
  · cases h

/-- What is read for the fields of an object is readable if the parts of the reader that are called
give what is readable. -/
lemma givesFields_succ {fuel : Nat} (hvalues : GivesValues fuel) (hfields : GivesFields fuel) :
    GivesFields (fuel + 1) := by
  intro read text found rest h hread
  unfold Reader.fields at h
  split at h
  · obtain ⟨⟨name, colon⟩, hname, h⟩ := exists_of_bind_eq_ok h
    simp only at h
    split at h
    · obtain ⟨⟨value, after⟩, hvalue, h⟩ := exists_of_bind_eq_ok h
      have hadded : ∀ field ∈ setField read name value, field.1.IsJoined ∧ Readable field.2 := by
        intro field hmem
        rcases mem_setField hmem with rfl | hmem
        · exact ⟨isJoined_of_string hname, hvalues _ value after hvalue⟩
        · exact hread field hmem
      simp only at h
      split at h
      · cases h
        exact hadded
      · exact hfields _ _ found rest h hadded
      · cases h
    · cases h
  · cases h

/-- What is read for a value is readable if the parts of the reader that are called give what is
readable. -/
lemma givesValues_succ {fuel : Nat} (hitems : GivesItems fuel) (hfields : GivesFields fuel) :
    GivesValues (fuel + 1) := by
  intro text value rest h
  unfold Reader.value at h
  split at h
  · obtain ⟨⟨found, after⟩, hstring, heq⟩ := exists_of_map_eq_ok h
    cases heq
    exact .string (isJoined_of_string hstring)
  · split at h
    · cases h
      exact .array (by simp)
    · obtain ⟨⟨found, after⟩, hfound, heq⟩ := exists_of_map_eq_ok h
      cases heq
      exact .array (hitems _ found _ hfound)
  · split at h
    · cases h
      exact .object (by simp) (by simp)
    · obtain ⟨⟨found, after⟩, hfound, heq⟩ := exists_of_map_eq_ok h
      cases heq
      have hall := hfields [] _ found _ hfound (by simp)
      exact .object (List.forall_mem_map.2 fun field hmem => (hall field hmem).1)
        (List.forall_mem_map.2 fun field hmem => (hall field hmem).2)
  · exact readable_of_plain h

/-- With any fuel each part of the reader gives what is readable. -/
lemma gives_all (fuel : Nat) : GivesValues fuel ∧ GivesItems fuel ∧ GivesFields fuel := by
  induction fuel with
  | zero =>
    refine ⟨?_, ?_, ?_⟩
    · intro text value rest h
      cases h
    · intro text found rest h
      cases h
    · intro read text found rest h
      cases h
  | succ fuel ih =>
    obtain ⟨hvalues, hitems, hfields⟩ := ih
    exact ⟨givesValues_succ hitems hfields, givesItems_succ hvalues hitems,
      givesFields_succ hvalues hfields⟩

/-- Whatever text is read, the value is readable. -/
theorem readable_of_parse {text : String} {value : Json} (h : parse text = .ok value) :
    Readable value := by
  unfold parse Reader.document at h
  split at h
  · cases h
  · obtain ⟨⟨found, rest⟩, hvalue, h⟩ := exists_of_bind_eq_ok h
    simp only at h
    split at h
    · cases h
      exact (gives_all _).1 _ _ _ hvalue
    · cases h

end BindingSync.Json
