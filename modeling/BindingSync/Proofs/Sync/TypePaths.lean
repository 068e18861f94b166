import BindingSync.Proofs.Binding.WrittenTypes
import BindingSync.Proofs.ClassNamespaces
import BindingSync.Proofs.Database.Coherence

/-!
# The places of types

A type expression has one place in every database.  Its category is made of the scopes of its name,
and its own name carries the template clause as it is written.  As different clauses are written
differently, two expressions that were read share a place exactly if their names and their template
arguments are the same (`Resolution.sharesPlace_iff`); the `const`, the stars and the ampersands
behind a clause have no part in it.
-/

namespace BindingSync

open BindingSync.Binding
open BindingSync.Text

/-- Names of words are told apart by what they write. -/
lemma QualifiedName.toString_injective {a b : QualifiedName} (ha : a.WellFormed)
    (hb : b.WellFormed) (h : a.toString = b.toString) : a = b := by
  have hsegments := segments_ofString_toString ha
  rw [h, segments_ofString_toString hb] at hsegments
  exact segments_injective hsegments.symm

namespace DataType

/-- Behind any number of indirections, the same type stands for the same one. -/
lemma eq_of_indirect_eq {first second : DataType} {length : Int} {depth : Nat}
    (h : first.indirect length depth = second.indirect length depth) : first = second := by
  induction depth with
  | zero => exact h
  | succ depth ih => exact ih (DataType.pointer.inj h).1

end DataType

namespace Resolution

variable {db : Database} {expr t u : TypeExpr} {path : TypePath}

/-- The expression is looked up at the path: in the database it is resolved to the type that
stands there from then on, behind as many pointers as it has marks. -/
def LooksUp (db : Database) (expr : TypeExpr) (path : TypePath) : Prop :=
  ∃ resolution found, resolve db expr = .ok resolution ∧
    resolution.db.typeAt? path = some found ∧ found.path? = some path ∧
    resolution.type = found.indirect db.pointerSize (depth expr)

/-- An expression that has a name is resolved in every database. -/
lemma exists_resolve_eq_ok (hname : expr.name.base ≠ "") (db : Database) :
    ∃ resolution, resolve db expr = .ok resolution := by
  cases hresolve : resolve db expr with
  | ok resolution => exact ⟨resolution, rfl⟩
  | error error => exact absurd (Declared.error_of_resolve hresolve).1 hname

/-- An expression that has a name is looked up at its place and nowhere else. -/
lemma looksUp_iff (hname : expr.name.base ≠ "") : LooksUp db expr path ↔ path = pathOf expr := by
  obtain ⟨resolution, hresolve⟩ := exists_resolve_eq_ok hname db
  obtain ⟨hgrows, -, -⟩ := Declared.grows_of_resolve hresolve
  obtain ⟨found, hfound, htype⟩ :=
    Option.map_eq_some_iff.1 (Declared.known_of_resolve hresolve).2
  have hplace : found.path? = some (pathOf expr) := Database.path?_of_typeAt? hfound
  rw [hgrows.pointerSize] at htype
  constructor
  · rintro ⟨resolution', other, hresolve', -, hpath, htype'⟩
    rw [hresolve] at hresolve'
    obtain rfl := Except.ok.inj hresolve'
    -- the pointers are as many, so the same type is behind them
    have hsame : found = other := DataType.eq_of_indirect_eq (htype.trans htype')
    rw [← hsame, hplace] at hpath
    exact (Option.some.inj hpath).symm
  · rintro rfl
    exact ⟨resolution, found, hresolve, hfound, hplace, htype.symm⟩

/-- The name of a type at its place is what the expression writes without its scopes and marks. -/
lemma render_unscoped (expr : TypeExpr) :
    (TypeExpr.mk { base := expr.name.base } expr.args false 0 0).render =
      expr.name.base ++ expr.templateSuffix := by
  simp [TypeExpr.render, TypeExpr.templateSuffix, TypeExpr.suffix, QualifiedName.toString,
    QualifiedName.join, QualifiedName.segments]

/-- What can be written can be written without its scopes and marks. -/
lemma fitsIn_unscoped {bound : Nat} (h : expr.FitsIn bound) :
    (TypeExpr.mk { base := expr.name.base } expr.args false 0 0).FitsIn bound := by
  have hbase : ∀ name : QualifiedName, name.WellFormed →
      QualifiedName.WellFormed { base := name.base } := by
    intro name hname segment hmem
    obtain rfl : segment = name.base := by simpa [QualifiedName.segments] using hmem
    exact hname _ (by simp [QualifiedName.segments])
  obtain ⟨name, args, isConst, pointers, references⟩ := expr
  cases bound with
  | zero => exact ⟨hbase name h.1, h.2.1, le_rfl, le_rfl⟩
  | succ bound => exact ⟨hbase name h.1, h.2.1, le_rfl, le_rfl⟩

/-- Two expressions that can be written have the same place exactly if their names and their
template arguments are the same. -/
lemma pathOf_eq_iff {bound bound' : Nat} (ht : t.FitsIn bound) (hu : u.FitsIn bound') :
    pathOf t = pathOf u ↔ t.name = u.name ∧ t.args = u.args := by
  constructor
  · intro hpath
    obtain ⟨hcategory, hplain⟩ := TypePath.mk.inj hpath
    have hscopes : t.name.scopes = u.name.scopes :=
      List.map_injective_iff.2 (fun _ _ => WideString.plain.inj) hcategory
    have hwritten : (TypeExpr.mk { base := t.name.base } t.args false 0 0).render =
        (TypeExpr.mk { base := u.name.base } u.args false 0 0).render := by
      rw [render_unscoped, render_unscoped]
      exact WideString.plain.inj hplain
    have hsame := TypeExpr.render_injective (fitsIn_unscoped ht) (fitsIn_unscoped hu) hwritten
    obtain ⟨hunscoped, hargs, -⟩ := TypeExpr.mk.inj hsame
    have hbase : t.name.base = u.name.base := (QualifiedName.mk.inj hunscoped).2
    refine ⟨QualifiedName.segments_injective ?_, hargs⟩
    rw [QualifiedName.segments, QualifiedName.segments, hscopes, hbase]
  · rintro ⟨hname, hargs⟩
    rw [pathOf, pathOf, TypeExpr.templateSuffix, TypeExpr.templateSuffix, hname, hargs]

/-- In every database, two expressions that were read are looked up at the same place if and only
if their names and their template arguments are the same; the name is told by its text.  What is
written around them has no part in it. -/
theorem sharesPlace_iff (ht : t.IsRead) (hu : u.IsRead) (db : Database) :
    ((∃ path, LooksUp db t path ∧ LooksUp db u path) ↔ t.name = u.name ∧ t.args = u.args) ∧
      (t.name = u.name ↔ t.name.toString = u.name.toString) ∧
      (∀ path, LooksUp db t path ↔ path = pathOf t) ∧
      ∀ isConst pointers references path,
        LooksUp db (.mk t.name t.args isConst pointers references) path ↔ LooksUp db t path := by
  obtain ⟨_, ht⟩ := ht.exists_fitsIn
  obtain ⟨_, hu⟩ := hu.exists_fitsIn
  have htname : t.name.base ≠ "" := base_ne_empty ht.name
  have huname : u.name.base ≠ "" := base_ne_empty hu.name
  refine ⟨?_, ?_, fun path => looksUp_iff htname, fun isConst pointers references path => ?_⟩
  · rw [← pathOf_eq_iff ht hu]
    constructor
    · rintro ⟨path, htpath, hupath⟩
      exact ((looksUp_iff htname).1 htpath).symm.trans ((looksUp_iff huname).1 hupath)
    · intro hpath
      exact ⟨pathOf t, (looksUp_iff htname).2 rfl, (looksUp_iff huname).2 hpath⟩
  · exact ⟨congrArg QualifiedName.toString, QualifiedName.toString_injective ht.name hu.name⟩
  · have hmarked : (TypeExpr.mk t.name t.args isConst pointers references).name.base ≠ "" := htname
    rw [looksUp_iff hmarked, looksUp_iff htname]
    rfl

/-- The type `const gd::vector<CCNode*>&`. -/
def nodePointers : TypeExpr :=
  .mk ⟨["gd"], "vector"⟩ [.mk ⟨[], "CCNode"⟩ [] false 1 0] true 0 1

/-- The type `gd::vector<CCNode>`. -/
def nodeValues : TypeExpr :=
  .mk ⟨["gd"], "vector"⟩ [.mk ⟨[], "CCNode"⟩ [] false 0 0] false 0 0

/-- Both are read from their texts. -/
lemma isRead_nodes : nodePointers.IsRead ∧ nodeValues.IsRead := by
  constructor
  · exact TypeExpr.isRead_of_source "const gd::vector<CCNode*>& nodes" 2 (by decide +kernel)
  · exact TypeExpr.isRead_of_source "gd::vector<CCNode>" 2 (by decide +kernel)

/-- A vector of pointers and a vector of values do not get in each other's way: in the empty
database, as in any other, they have different places. -/
theorem sharesPlace_iff_nodes :
    nodePointers.IsRead ∧ nodeValues.IsRead ∧
      ¬∃ path, LooksUp {} nodePointers path ∧ LooksUp {} nodeValues path := by
  obtain ⟨hpointers, hvalues⟩ := isRead_nodes
  refine ⟨hpointers, hvalues, ?_⟩
  rw [(sharesPlace_iff hpointers hvalues {}).1]
  decide

end Resolution

end BindingSync
