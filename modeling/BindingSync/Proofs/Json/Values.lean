import BindingSync.Json.Printer
import BindingSync.Json.Reader
import BindingSync.Proofs.Text.Joined

/-!
# What can be written and what is read

Two predicates on JSON values bound what goes through a text.  A value is `Faithful` if its text
says all there is to it: its strings are joined, its field names differ, and it holds no
floating-point number, whose digits are rounded.  A value is `Readable` if the reader may have
given it: its strings are joined and its integers are short.
-/

namespace BindingSync.Json

open BindingSync.Text
open BindingSync.Numeral (Binary64)

/-! ### Short integers -/

/-- The items of an array can be written if each of them can. -/
lemma areWritable_iff {items : List Json} :
    areWritable items = true ↔ ∀ item ∈ items, item.isWritable = true := by
  induction items with
  | nil => simp [areWritable]
  | cons item items ih => rw [areWritable, Bool.and_eq_true, ih, List.forall_mem_cons]

/-- The fields of an object can be written if each of them can. -/
lemma haveWritable_iff {fields : List (WideString × Json)} :
    haveWritable fields = true ↔ ∀ field ∈ fields, field.2.isWritable = true := by
  induction fields with
  | nil => simp [haveWritable]
  | cons field fields ih => rw [haveWritable, Bool.and_eq_true, ih, List.forall_mem_cons]

/-! ### Faithful values -/

/-- The text of the value says all there is to it. -/
inductive Faithful : Json → Prop
  | null : Faithful null
  | bool (value : Bool) : Faithful (bool value)
  | int (value : Int) : Faithful (int value)
  | string {text : WideString} (h : text.IsJoined) : Faithful (string text)
  | array {items : List Json} (h : ∀ item ∈ items, Faithful item) : Faithful (array items)
  | object {fields : List (WideString × Json)} (hnodup : (fields.map Prod.fst).Nodup)
      (hjoined : ∀ name ∈ fields.map Prod.fst, name.IsJoined)
      (hvalues : ∀ value ∈ fields.map Prod.snd, Faithful value) : Faithful (object fields)

/-! ### Readable values -/

/-- The value may have been read. -/
inductive Readable : Json → Prop
  | null : Readable null
  | bool (value : Bool) : Readable (bool value)
  | int {value : Int} (h : Integer.isWritable value = true) : Readable (int value)
  | float (value : Binary64) : Readable (float value)
  | string {text : WideString} (h : text.IsJoined) : Readable (string text)
  | array {items : List Json} (h : ∀ item ∈ items, Readable item) : Readable (array items)
  | object {fields : List (WideString × Json)}
      (hjoined : ∀ name ∈ fields.map Prod.fst, name.IsJoined)
      (hvalues : ∀ value ∈ fields.map Prod.snd, Readable value) : Readable (object fields)

/-- A readable value holds no long integer. -/
lemma Readable.isWritable {value : Json} (h : Readable value) : value.isWritable = true := by
  induction h with
  | int h => exact h
  | array _ ih => exact areWritable_iff.2 ih
  | object _ _ ih =>
    exact haveWritable_iff.2 fun field hmem => ih field.2 (List.mem_map_of_mem hmem)
  | _ => rfl

end BindingSync.Json
