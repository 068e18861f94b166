import BindingSync.Proofs.Json.Numbers
import BindingSync.Proofs.Json.Strings
import BindingSync.Proofs.Json.Values

/-!
# Reading JSON that was written

The reader and the printer agree: the text of a faithful value with short integers is read as
the value (`parse_written`).

The reader has fuel, of which two units for each character are enough, and three mutual parts:
for values, for the items of an array and for the fields of an object.  Each statement about
the reader is one statement for each part, and the induction is on the fuel: a part with one
more unit of fuel calls the others with the rest of it.
-/

namespace BindingSync.Json

open BindingSync.Text
open Printer

/-! ### Blanks and first characters -/

/-- A line break is skipped. -/
@[simp] lemma skipBlanks_lineBreak (level : Nat) (text : List Char) :
    Reader.skipBlanks (lineBreak level ++ text) = Reader.skipBlanks text := by
  have hspaces : ∀ count, Reader.skipBlanks (List.replicate count ' ' ++ text) =
      Reader.skipBlanks text := by
    intro count
    induction count with
    | zero => rfl
    | succ count ih => exact ih
  exact hspaces (2 * level)

/-- A space is skipped. -/
lemma skipBlanks_space (text : List Char) :
    Reader.skipBlanks (' ' :: text) = Reader.skipBlanks text := rfl

/-- Where there is no blank, nothing is skipped. -/
lemma skipBlanks_cons {c : Char} (h : Reader.isBlank c = false) (text : List Char) :
    Reader.skipBlanks (c :: text) = c :: text :=
  List.dropWhile_cons_of_neg (by simp [h])

/-- A written string starts with a quote. -/
lemma encodeString_eq (text : WideString) :
    ∃ more, encodeString text = '"' :: more :=
  ⟨_, rfl⟩

/-- In front of a written string there is nothing to skip. -/
lemma skipBlanks_encodeString (text : WideString) (rest : List Char) :
    Reader.skipBlanks (encodeString text ++ rest) = encodeString text ++ rest := by
  obtain ⟨quoted, hquoted⟩ := encodeString_eq text
  rw [hquoted, List.cons_append, skipBlanks_cons (by decide)]

/-- The character may be the first one of a written value. -/
structure IsHead (c : Char) : Prop where
  blank : Reader.isBlank c = false
  bracket : c ≠ ']'
  mark : c ≠ '\uFEFF'

/-- A minus sign or a digit may be the first character of a written value. -/
lemma isHead_of_number {c : Char} (h : c = '-' ∨ c.isDigit = true) : IsHead c := by
  rcases h with rfl | h
  · constructor <;> decide
  constructor
  · rw [Bool.eq_false_iff]
    intro hblank
    simp only [Reader.isBlank, Bool.or_eq_true, decide_eq_true_eq] at hblank
    rcases hblank with ((rfl | rfl) | rfl) | rfl <;> exact absurd h (by decide)
  all_goals
    rintro rfl
    exact absurd h (by decide)

/-- A written value starts with a character that tells it from blanks and from a closing bracket. -/
lemma head_renderAt {value : Json} (h : value.Faithful) (level : Nat) :
    ∃ c more, renderAt level value = c :: more ∧ IsHead c := by
  cases h with
  | null => exact ⟨'n', _, rfl, by constructor <;> decide⟩
  | bool value =>
    cases value with
    | true => exact ⟨'t', _, rfl, by constructor <;> decide⟩
    | false => exact ⟨'f', _, rfl, by constructor <;> decide⟩
  | int n =>
    obtain ⟨c, more, heq, hnumber⟩ := head_toString n
    exact ⟨c, more, heq, isHead_of_number hnumber⟩
  | string _ => exact ⟨'"', _, rfl, by constructor <;> decide⟩
  | @array items _ =>
    cases items with
    | nil => exact ⟨'[', _, rfl, by constructor <;> decide⟩
    | cons item items => exact ⟨'[', _, rfl, by constructor <;> decide⟩
  | @object fields _ _ _ =>
    cases fields with
    | nil => exact ⟨'\x7b', _, rfl, by constructor <;> decide⟩
    | cons field fields => exact ⟨'\x7b', _, rfl, by constructor <;> decide⟩

/-- In front of a written value there is nothing to skip. -/
lemma skipBlanks_renderAt {value : Json} (h : value.Faithful) (level : Nat) (rest : List Char) :
    Reader.skipBlanks (renderAt level value ++ rest) = renderAt level value ++ rest := by
  obtain ⟨c, more, heq, hhead⟩ := head_renderAt h level
  rw [heq, List.cons_append, skipBlanks_cons hhead.blank]

/-- Each further item stands behind a comma and a line break. -/
lemma renderItems_append (level : Nat) (item : Json) (items : List Json) (rest : List Char) :
    renderItems level (item :: items) ++ rest =
      ',' :: (lineBreak level ++ (renderAt level item ++ (renderItems level items ++ rest))) := by
  simp [renderItems]

/-- Each further field stands behind a comma and a line break. -/
lemma renderFields_append (level : Nat) (field : WideString × Json)
    (fields : List (WideString × Json)) (rest : List Char) :
    renderFields level (field :: fields) ++ rest =
      ',' :: (lineBreak level ++ (encodeString field.1 ++ (':' :: ' ' :: (renderAt level field.2 ++
        (renderFields level fields ++ rest))))) := by
  simp [renderFields]

/-- An array with items is written between brackets. -/
lemma renderAt_array_append (level : Nat) (item : Json) (items : List Json) (rest : List Char) :
    renderAt level (.array (item :: items)) ++ rest =
      '[' :: (lineBreak (level + 1) ++ (renderAt (level + 1) item ++
        (renderItems (level + 1) items ++ (lineBreak level ++ ']' :: rest)))) := by
  simp [renderAt]

/-- An object with fields is written between braces. -/
lemma renderAt_object_append (level : Nat) (field : WideString × Json)
    (fields : List (WideString × Json)) (rest : List Char) :
    renderAt level (.object (field :: fields)) ++ rest =
      '\x7b' :: (lineBreak (level + 1) ++ (encodeString field.1 ++
        (':' :: ' ' :: (renderAt (level + 1) field.2 ++ (renderFields (level + 1) fields ++
          (lineBreak level ++ '\x7d' :: rest)))))) := by
  simp [renderAt]

/-! ### The parts of the reader -/

/-- What does not start a string, an array or an object has no parts. -/
lemma value_eq_plain {c : Char} {text : List Char} (hquote : c ≠ '"') (hbracket : c ≠ '[')
    (hbrace : c ≠ '\x7b') (fuel : Nat) :
    Reader.value (fuel + 1) (c :: text) = Reader.plain (c :: text) := by
  rw [Reader.value]
  all_goals
    intro more heq
    cases heq
    contradiction

/-- A number has no parts. -/
lemma value_eq_plain_of_number {c : Char} (h : c = '-' ∨ c.isDigit = true) (text : List Char)
    (fuel : Nat) : Reader.value (fuel + 1) (c :: text) = Reader.plain (c :: text) := by
  rcases h with rfl | h
  · exact value_eq_plain (by decide) (by decide) (by decide) fuel
  · have hne : ∀ other : Char, other.isDigit = false → c ≠ other := fun other hother e => by
      rw [← e, h] at hother
      cases hother
    exact value_eq_plain (hne _ (by decide)) (hne _ (by decide)) (hne _ (by decide)) fuel

/-- A quote starts a string. -/
lemma value_encodeString {text : WideString} (hjoined : text.IsJoined) {fuel : Nat}
    (hfuel : text.points.length < fuel) (rest : List Char) :
    Reader.value (fuel + 1) (encodeString text ++ rest) = .ok (.string text, rest) := by
  have hread := string_encodeString hjoined hfuel rest
  obtain ⟨quoted, hquoted⟩ := encodeString_eq text
  rw [hquoted] at hread ⊢
  rw [List.cons_append] at hread ⊢
  rw [Reader.value, hread]
  rfl

/-- A bracket starts an array. -/
lemma value_array {fuel : Nat} {text first after : List Char} {found : List Json}
    (hskip : Reader.skipBlanks text = first) (hopen : ∀ more, first ≠ ']' :: more)
    (hitems : Reader.items fuel first = .ok (found, after)) :
    Reader.value (fuel + 1) ('[' :: text) = .ok (.array found, after) := by
  rw [Reader.value, hskip]
  split
  · exact absurd rfl (hopen _)
  · rw [hitems]
    rfl

/-- A brace starts an object. -/
lemma value_object {fuel : Nat} {text first after : List Char}
    {found : List (WideString × Json)} (hskip : Reader.skipBlanks text = first)
    (hopen : ∀ more, first ≠ '\x7d' :: more)
    (hfields : Reader.fields fuel [] first = .ok (found, after)) :
    Reader.value (fuel + 1) ('\x7b' :: text) = .ok (.object found, after) := by
  rw [Reader.value, hskip]
  split
  · exact absurd rfl (hopen _)
  · rw [hfields]
    rfl

/-- The last item of an array is followed by a closing bracket. -/
lemma items_last {fuel : Nat} {text after rest : List Char} {item : Json}
    (hvalue : Reader.value fuel text = .ok (item, after))
    (hclose : Reader.skipBlanks after = ']' :: rest) :
    Reader.items (fuel + 1) text = .ok ([item], rest) := by
  rw [Reader.items, hvalue, ok_bind]
  simp only [hclose]

/-- An item that is followed by a comma is not the last one. -/
lemma items_more {fuel : Nat} {text after more rest : List Char} {item : Json}
    {others : List Json} (hvalue : Reader.value fuel text = .ok (item, after))
    (hcomma : Reader.skipBlanks after = ',' :: more)
    (hothers : Reader.items fuel (Reader.skipBlanks more) = .ok (others, rest)) :
    Reader.items (fuel + 1) text = .ok (item :: others, rest) := by
  rw [Reader.items, hvalue, ok_bind]
  simp only [hcomma, hothers, ok_bind]

/-- A field starts with its name and a colon. -/
lemma fields_encodeString {name : WideString} (hjoined : name.IsJoined) {fuel : Nat}
    (hfuel : name.points.length < fuel) (read : List (WideString × Json))
    (colon : List Char) :
    Reader.fields (fuel + 1) read (encodeString name ++ ':' :: colon) = (do
      let (value, rest) ← Reader.value fuel (Reader.skipBlanks colon)
      match Reader.skipBlanks rest with
      | '\x7d' :: rest => .ok (setField read name value, rest)
      | ',' :: rest => Reader.fields fuel (setField read name value) (Reader.skipBlanks rest)
      | rest => Reader.fault .comma rest) := by
  have hname := string_encodeString hjoined hfuel (':' :: colon)
  have hcolon : Reader.skipBlanks (':' :: colon) = ':' :: colon := skipBlanks_cons (by decide) _
  obtain ⟨quoted, hquoted⟩ := encodeString_eq name
  rw [hquoted] at hname ⊢
  rw [List.cons_append] at hname ⊢
  rw [Reader.fields, hname, ok_bind]
  dsimp only
  split
  · next rest heq =>
    rw [hcolon] at heq
    cases heq
    rfl
  · next hne => exact absurd hcolon (hne colon)

/-- The last field of an object is followed by a closing brace. -/
lemma fields_last {name : WideString} (hjoined : name.IsJoined) {fuel : Nat}
    (hfuel : name.points.length < fuel) {colon after rest : List Char} {value : Json}
    (hvalue : Reader.value fuel (Reader.skipBlanks colon) = .ok (value, after))
    (hclose : Reader.skipBlanks after = '\x7d' :: rest) (read : List (WideString × Json)) :
    Reader.fields (fuel + 1) read (encodeString name ++ ':' :: colon) =
      .ok (setField read name value, rest) := by
  rw [fields_encodeString hjoined hfuel, hvalue, ok_bind]
  simp only [hclose]

/-- A field that is followed by a comma is not the last one. -/
lemma fields_more {name : WideString} (hjoined : name.IsJoined) {fuel : Nat}
    (hfuel : name.points.length < fuel) {colon after more rest : List Char} {value : Json}
    {read found : List (WideString × Json)}
    (hvalue : Reader.value fuel (Reader.skipBlanks colon) = .ok (value, after))
    (hcomma : Reader.skipBlanks after = ',' :: more)
    (hothers : Reader.fields fuel (setField read name value) (Reader.skipBlanks more) =
      .ok (found, rest)) :
    Reader.fields (fuel + 1) read (encodeString name ++ ':' :: colon) = .ok (found, rest) := by
  rw [fields_encodeString hjoined hfuel, hvalue, ok_bind]
  simp only [hcomma, hothers]

/-! ### Reading what was written -/

/-- With this much fuel the reader takes every written value off the front of a text. -/
def ReadsValues (fuel : Nat) : Prop :=
  ∀ (value : Json) (level : Nat) (rest : List Char), value.Faithful → value.isWritable = true →
    EndsNumber rest → 2 * (renderAt level value ++ rest).length + 1 ≤ fuel →
    Reader.value fuel (renderAt level value ++ rest) = .ok (value, rest)

/-- With this much fuel the reader takes the written items of an array off the front of a text. -/
def ReadsItems (fuel : Nat) : Prop :=
  ∀ (item : Json) (items : List Json) (level outer : Nat) (rest : List Char),
    (∀ value ∈ item :: items, value.Faithful ∧ value.isWritable = true) →
    2 * (renderAt level item ++
      (renderItems level items ++ (lineBreak outer ++ ']' :: rest))).length + 2 ≤ fuel →
    Reader.items fuel
      (renderAt level item ++ (renderItems level items ++ (lineBreak outer ++ ']' :: rest))) =
      .ok (item :: items, rest)

/-- With this much fuel the reader takes the written fields of an object off the front of a text,
and adds them to those already read. -/
def ReadsFields (fuel : Nat) : Prop :=
  ∀ (read : List (WideString × Json)) (field : WideString × Json)
    (fields : List (WideString × Json)) (level outer : Nat) (rest : List Char),
    ((read ++ field :: fields).map Prod.fst).Nodup →
    (∀ other ∈ field :: fields,
      other.1.IsJoined ∧ other.2.Faithful ∧ other.2.isWritable = true) →
    2 * (encodeString field.1 ++ (':' :: ' ' :: (renderAt level field.2 ++
      (renderFields level fields ++ (lineBreak outer ++ '\x7d' :: rest))))).length + 2 ≤ fuel →
    Reader.fields fuel read (encodeString field.1 ++ (':' :: ' ' :: (renderAt level field.2 ++
      (renderFields level fields ++ (lineBreak outer ++ '\x7d' :: rest))))) =
      .ok (read ++ field :: fields, rest)

/-- Behind an item stands a comma or a line break, so a number ends there. -/
lemma endsNumber_renderItems (level outer : Nat) (items : List Json) (rest : List Char) :
    EndsNumber (renderItems level items ++ (lineBreak outer ++ rest)) := by
  cases items with
  | nil => intro c hc; cases hc; decide
  | cons item items => intro c hc; cases hc; decide

/-- Behind a field stands a comma or a line break, so a number ends there. -/
lemma endsNumber_renderFields (level outer : Nat) (fields : List (WideString × Json))
    (rest : List Char) : EndsNumber (renderFields level fields ++ (lineBreak outer ++ rest)) := by
  cases fields with
  | nil => intro c hc; cases hc; decide
  | cons field fields => intro c hc; cases hc; decide

/-- A field with a new name goes behind the others. -/
lemma setField_of_new {read : List (WideString × Json)} {name : WideString} {value : Json}
    (h : name ∉ read.map Prod.fst) : setField read name value = read ++ [(name, value)] := by
  induction read with
  | nil => rfl
  | cons first read ih =>
    rw [List.map_cons, List.mem_cons, not_or] at h
    rw [setField, if_neg (Ne.symm h.1), ih h.2, List.cons_append]

/-- The items of an array are read one after the other. -/
lemma readsItems_succ {fuel : Nat} (hvalues : ReadsValues fuel) (hitems : ReadsItems fuel) :
    ReadsItems (fuel + 1) := by
  intro item items level outer rest hall hfuel
  obtain ⟨⟨hfaithful, hshort⟩, hothers⟩ := List.forall_mem_cons.1 hall
  have hvalue := hvalues item level _ hfaithful hshort
    (endsNumber_renderItems level outer items (']' :: rest)) (by omega)
  cases items with
  | nil => exact items_last hvalue (skipBlanks_lineBreak outer _)
  | cons next items =>
    obtain ⟨⟨hnext, -⟩, -⟩ := List.forall_mem_cons.1 hothers
    rw [renderItems_append] at hvalue hfuel ⊢
    refine items_more hvalue (skipBlanks_cons (by decide) _) ?_
    rw [skipBlanks_lineBreak, skipBlanks_renderAt hnext]
    refine hitems next items level outer rest hothers ?_
    simp only [List.length_append, List.length_cons] at hfuel ⊢
    omega

/-- The fields of an object are read one after the other. -/
lemma readsFields_succ {fuel : Nat} (hvalues : ReadsValues fuel) (hfields : ReadsFields fuel) :
    ReadsFields (fuel + 1) := by
  intro read field fields level outer rest hnodup hall hfuel
  obtain ⟨⟨hjoined, hfaithful, hshort⟩, hothers⟩ := List.forall_mem_cons.1 hall
  have hnew : field.1 ∉ read.map Prod.fst := by
    rw [List.map_append, List.map_cons, List.nodup_append] at hnodup
    exact fun hmem => hnodup.2.2 _ hmem _ List.mem_cons_self rfl
  have hlength := length_le_encodeString field.1
  simp only [List.length_append, List.length_cons] at hfuel
  have hvalue := hvalues field.2 level _ hfaithful hshort
    (endsNumber_renderFields level outer fields ('\x7d' :: rest))
    (by simp only [List.length_append, List.length_cons]; omega)
  rw [← skipBlanks_renderAt hfaithful, ← skipBlanks_space] at hvalue
  cases fields with
  | nil =>
    rw [fields_last hjoined (by omega) hvalue (skipBlanks_lineBreak outer _),
      setField_of_new hnew]
  | cons next fields =>
    rw [renderFields_append] at hvalue ⊢
    refine fields_more hjoined (by omega) hvalue (skipBlanks_cons (by decide) _) ?_
    rw [skipBlanks_lineBreak, skipBlanks_encodeString, setField_of_new hnew,
      hfields _ next fields level outer rest ?_ hothers ?_]
    · rw [List.append_assoc, List.singleton_append]
    · rwa [List.append_assoc, List.singleton_append]
    · have hshape := congrArg List.length (renderFields_append level next fields [])
      simp only [List.length_append, List.length_cons, List.length_nil] at hshape ⊢
      omega

/-- A value is read by the part of the reader that its first character asks for. -/
lemma readsValues_succ {fuel : Nat} (hitems : ReadsItems fuel) (hfields : ReadsFields fuel) :
    ReadsValues (fuel + 1) := by
  intro value level rest hfaithful hshort hrest hfuel
  cases hfaithful with
  | null =>
    exact (value_eq_plain (by decide) (by decide) (by decide) fuel).trans (plain_null rest)
  | bool value =>
    have hread := plain_bool value rest
    cases value with
    | true =>
      exact (value_eq_plain (by decide) (by decide) (by decide) fuel).trans hread
    | false =>
      exact (value_eq_plain (by decide) (by decide) (by decide) fuel).trans hread
  | int n =>
    have hread := plain_toString hshort hrest
    obtain ⟨c, more, heq, hnumber⟩ := head_toString n
    rw [renderAt]
    rw [heq, List.cons_append] at hread ⊢
    rw [value_eq_plain_of_number hnumber, hread]
  | @string text hjoined =>
    have hlength := length_le_encodeString text
    simp only [renderAt, List.length_append] at hfuel ⊢
    exact value_encodeString hjoined (by omega) rest
  | @array items hitem =>
    cases items with
    | nil => rfl
    | cons item items =>
      have hall : ∀ value ∈ item :: items, value.Faithful ∧ value.isWritable = true :=
        fun value hmem => ⟨hitem value hmem, areWritable_iff.1 hshort value hmem⟩
      have hfirst := (hall item List.mem_cons_self).1
      obtain ⟨c, more, hhead, hc⟩ := head_renderAt hfirst (level + 1)
      rw [renderAt_array_append] at hfuel ⊢
      refine value_array (by rw [skipBlanks_lineBreak, skipBlanks_renderAt hfirst]) ?_
        (hitems item items (level + 1) level rest hall ?_)
      · rw [hhead]
        exact fun others e => hc.bracket (List.cons.inj e).1
      · simp only [List.length_append, List.length_cons] at hfuel ⊢
        omega
  | @object fields hnodup hjoined hvalue =>
    cases fields with
    | nil => rfl
    | cons field fields =>
      have hall : ∀ other ∈ field :: fields, other.1.IsJoined ∧ other.2.Faithful ∧
          other.2.isWritable = true := fun other hmem =>
        ⟨hjoined _ (List.mem_map_of_mem hmem), hvalue _ (List.mem_map_of_mem hmem),
          haveWritable_iff.1 hshort other hmem⟩
      rw [renderAt_object_append] at hfuel ⊢
      refine value_object (by rw [skipBlanks_lineBreak, skipBlanks_encodeString]) (by
        simp [encodeString]) (hfields [] field fields (level + 1) level rest hnodup hall ?_)
      simp only [List.length_append, List.length_cons] at hfuel ⊢
      omega

/-- With any fuel each part of the reader takes off what it has fuel for. -/
lemma reads_all (fuel : Nat) : ReadsValues fuel ∧ ReadsItems fuel ∧ ReadsFields fuel := by
  induction fuel with
  | zero =>
    refine ⟨?_, ?_, ?_⟩
    · intro _ _ _ _ _ _ hfuel
      omega
    · intro _ _ _ _ _ _ hfuel
      omega
    · intro _ _ _ _ _ _ _ _ hfuel
      omega
  | succ fuel ih =>
    obtain ⟨hvalues, hitems, hfields⟩ := ih
    exact ⟨readsValues_succ hitems hfields, readsItems_succ hvalues hitems,
      readsFields_succ hvalues hfields⟩

/-- A written value is read. -/
theorem parse_written {value : Json} (hfaithful : value.Faithful)
    (hshort : value.isWritable = true) : parse value.render = .ok value := by
  have hread := (reads_all (2 * (renderAt 0 value).length + 1)).1 value 0 []
    hfaithful hshort (fun c hc => by cases hc) (by simp)
  have hskip := skipBlanks_renderAt hfaithful 0 []
  obtain ⟨c, more, heq, hhead⟩ := head_renderAt hfaithful 0
  rw [List.append_nil] at hread hskip
  rw [parse, render, String.toList_ofList, Reader.document, hskip, hread]
  · rfl
  · intro rest h
    rw [heq] at h
    exact hhead.mark (List.cons.inj h).1

end BindingSync.Json
