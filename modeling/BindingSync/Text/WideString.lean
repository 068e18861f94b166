/-!
# Strings with halves

Escapes can write one half of a surrogate pair without the other.  Such a half is a code point
but no character, so a string that holds one is no `String`.  A wide string is a string of code
points: a `String`, or a list of code points with a half among them.  Every list of code points
is that of exactly one wide string, and their order is that of their code points.
-/

namespace BindingSync.Text

/-- A code point: a character, or half of a surrogate pair by its number among the halves. -/
inductive Point where
  | char (c : Char)
  | half (place : Fin 0x800)
deriving DecidableEq, Repr, Inhabited

namespace Point

/-- The number of the first half. -/
def firstHalf : Nat := 0xd800

/-- The code point of a number that is not behind the last plane. -/
def ofNat (n : Nat) : Point :=
  if h : firstHalf ≤ n ∧ n - firstHalf < 0x800 then half ⟨n - firstHalf, h.2⟩
  else char (Char.ofNat n)

/-- The number of a code point. -/
def toNat : Point → Nat
  | char c => c.toNat
  | half place => firstHalf + place

/-- The code point is no character. -/
def isHalf : Point → Bool
  | char _ => false
  | half _ => true

/-- The character that is shown for a code point; a half cannot be shown. -/
def shown : Point → Char
  | char c => c
  | half _ => '\uFFFD'

theorem toNat_injective {a b : Point} (h : a.toNat = b.toNat) : a = b := by
  have valid : ∀ c : Char, c.toNat < firstHalf ∨ firstHalf + 0x800 ≤ c.toNat := fun c => by
    rcases c.valid with hc | hc
    · exact .inl hc
    · exact .inr hc.1
  cases a with
  | char c =>
    cases b with
    | char d => rw [Char.toNat_inj.1 h]
    | half q =>
      have := valid c
      simp only [toNat] at h
      omega
  | half p =>
    cases b with
    | char d =>
      have := valid d
      simp only [toNat] at h
      omega
    | half q =>
      simp only [toNat] at h
      rw [Fin.ext (show p.val = q.val by omega)]

end Point

/-- A string of code points. -/
inductive WideString where
  | plain (text : String)
  /-- A string with a half in it. -/
  | broken (points : List Point) (hasHalf : points.any Point.isHalf = true)
deriving DecidableEq, Repr

namespace WideString

instance : Inhabited WideString := ⟨plain ""⟩

instance : Coe String WideString := ⟨plain⟩

/-- The code points of a string. -/
def points : WideString → List Point
  | plain text => text.toList.map .char
  | broken points _ => points

/-- The string of some code points. -/
def ofPoints (points : List Point) : WideString :=
  if h : points.any Point.isHalf = true then broken points h
  else plain (String.ofList (points.map Point.shown))

/-- The string as it can be shown: without its halves. -/
def toString : WideString → String
  | plain text => text
  | broken points _ => String.ofList (points.map Point.shown)

instance : ToString WideString where
  toString := toString

theorem map_char_map_shown {points : List Point} (h : ¬ points.any Point.isHalf = true) :
    (points.map Point.shown).map Point.char = points := by
  induction points with
  | nil => rfl
  | cons point rest ih =>
    rw [List.any_cons, Bool.or_eq_true, not_or] at h
    cases point with
    | char c => simp only [List.map_cons, Point.shown, ih h.2]
    | half place => simp [Point.isHalf] at h

@[simp] theorem points_ofPoints (points : List Point) : (ofPoints points).points = points := by
  unfold ofPoints
  split
  · rfl
  · next h => rw [WideString.points, String.toList_ofList, map_char_map_shown h]

theorem not_any_isHalf_map_char (text : List Char) :
    ¬ (text.map Point.char).any Point.isHalf = true := by
  simp [Point.isHalf]

@[simp] theorem ofPoints_points (text : WideString) : ofPoints text.points = text := by
  cases text with
  | plain text =>
    rw [points, ofPoints, dif_neg (not_any_isHalf_map_char _), List.map_map,
      show Point.shown ∘ Point.char = id from rfl, List.map_id, String.ofList_toList]
  | broken points h => rw [WideString.points, ofPoints, dif_pos h]

theorem points_injective {a b : WideString} (h : a.points = b.points) : a = b := by
  rw [← ofPoints_points a, h, ofPoints_points]

/-! ### Order -/

/-- The numbers of the code points. -/
def numbers (text : WideString) : List Nat :=
  text.points.map Point.toNat

theorem numbers_injective {a b : WideString} (h : a.numbers = b.numbers) : a = b :=
  points_injective ((List.map_inj_right fun _ _ => Point.toNat_injective).1 h)

instance : LT WideString := ⟨fun a b => a.numbers < b.numbers⟩

instance : LE WideString := ⟨fun a b => ¬ b.numbers < a.numbers⟩

instance : DecidableLT WideString := fun a b => inferInstanceAs (Decidable (a.numbers < b.numbers))

instance : Std.IsLinearOrder WideString where
  le_refl a := List.le_refl a.numbers
  le_trans _ _ _ h h' := List.le_trans h h'
  le_antisymm _ _ h h' := numbers_injective (List.le_antisymm h h')
  le_total a b := List.le_total a.numbers b.numbers

instance : Std.LawfulOrderLT WideString where
  lt_iff _ _ := ⟨fun h => ⟨List.lt_asymm h, not_not_intro h⟩, fun h => Decidable.not_not.1 h.2⟩

end WideString

end BindingSync.Text
