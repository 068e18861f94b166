import BindingSync.Binding.Cursor
import BindingSync.Proofs.Binding.Types
import BindingSync.Proofs.Fallible

/-!
# Types and their written forms

A type that is read from a text at any place of it can be written (`TypeExpr.IsRead.exists_fitsIn`),
and what is written is read as the type again.  So no two such types are written alike
(`TypeExpr.render_injective`), however their clauses nest.
-/

namespace BindingSync.Binding

open BindingSync.Text

namespace TypeExpr

/-- The type is read from some text, at some cursor and with some bound on its clauses. -/
def IsRead (type : TypeExpr) : Prop :=
  ∃ (source : String) (tokens : List Token) (position depth : Int) (behind : Cursor),
    tokenize source = .ok tokens ∧
      (Cursor.mk tokens position).runRule? (Grammar.typeUpTo depth) = some (some type, behind)

/-- A type is read if it stands at the front of a text. -/
lemma isRead_of_source (source : String) (depth : Int) {type : TypeExpr}
    (h : ((tokenize source).toOption.bind fun tokens =>
      ((Cursor.mk tokens 0).runRule? (Grammar.typeUpTo depth)).bind Prod.fst) = some type) :
    type.IsRead := by
  obtain ⟨tokens, htokens, hrun⟩ := Option.bind_eq_some_iff.1 h
  obtain ⟨⟨_, behind⟩, hresult, rfl⟩ := Option.bind_eq_some_iff.1 hrun
  exact ⟨source, tokens, 0, depth, behind, eq_ok_of_toOption htokens, hresult⟩

/-- Types of a depth can be written where clauses may nest deeper. -/
lemma FitsIn.mono {depth bound : Nat} {type : TypeExpr} (h : type.FitsIn depth)
    (hle : depth ≤ bound) : type.FitsIn bound := by
  induction bound generalizing depth type with
  | zero =>
    obtain rfl : depth = 0 := Nat.le_zero.1 hle
    exact h
  | succ bound ih =>
    obtain ⟨name, args, isConst, pointers, references⟩ := type
    cases depth with
    | zero =>
      obtain ⟨hname, rfl, hdepths⟩ := h
      exact ⟨hname, by simp, hdepths⟩
    | succ depth =>
      obtain ⟨hname, hargs, hdepths⟩ := h
      exact ⟨hname, fun arg hmem => ih (hargs arg hmem) (Nat.le_of_succ_le_succ hle), hdepths⟩

/-- A type that is read can be written. -/
lemma IsRead.exists_fitsIn {type : TypeExpr} (h : type.IsRead) : ∃ depth, type.FitsIn depth := by
  obtain ⟨source, tokens, position, depth, behind, htokens, hrun⟩ := h
  obtain ⟨left, hleft, hrule⟩ := Option.map_eq_some_iff.1 hrun
  obtain ⟨index, -, rfl⟩ := Option.map_eq_some_iff.1 hleft
  have hsub : tokens.dropLast.drop index ⊆ tokens :=
    ((List.drop_sublist index _).trans (List.dropLast_sublist tokens)).subset
  have hworded : Worded (tokens.dropLast.drop index) := (worded_of_tokenize htokens).of_subset hsub
  split at hrule
  · next value rest hparse =>
    cases hrule
    exact ⟨_, (Grammar.gives_typeExpr _ hworded hparse).1⟩
  · cases hrule

/-- A type that can be written has no negative depths. -/
lemma FitsIn.depths_nonneg {depth : Nat} {type : TypeExpr} (h : type.FitsIn depth) :
    0 ≤ type.pointers ∧ 0 ≤ type.references := by
  obtain ⟨name, args, isConst, pointers, references⟩ := type
  cases depth with
  | zero => exact h.2.2
  | succ depth => exact h.2.2

/-- A type that can be written is read as the tokens of its lexemes. -/
lemma FitsIn.tokenize_render {depth : Nat} {type : TypeExpr} (h : type.FitsIn depth) :
    tokenize type.render = .ok (Lexeme.tokensAt .start (Lexeme.ofType type) ++
      [Token.endAt (Position.start.afterAll type.render.toList)]) := by
  have hreadable : Lexeme.Readable (Lexeme.ofType type) [] :=
    Lexeme.readable_type h (by simp [Lexeme.Ends])
  exact Lexeme.tokenize_of_readable (Lexeme.toList_type type) hreadable

/-- These tokens are read as the type, and none of them is left. -/
lemma FitsIn.parse_eq {depth : Nat} {type : TypeExpr} (h : type.FitsIn depth) :
    (Grammar.typeExpr depth).parse (Lexeme.tokensAt .start (Lexeme.ofType type)) =
      some (type, []) := by
  have hends : Grammar.EndsType [] := by simp [Grammar.EndsType]
  simpa using Grammar.typeExpr_tokensAt h .start hends

/-- Types that can be written are not written alike. -/
theorem render_injective {depth depth' : Nat} {type type' : TypeExpr} (h : type.FitsIn depth)
    (h' : type'.FitsIn depth') (heq : type.render = type'.render) : type = type' := by
  have hbound : type.FitsIn (max depth depth') := h.mono (le_max_left _ _)
  have hbound' : type'.FitsIn (max depth depth') := h'.mono (le_max_right _ _)
  have htokens : Lexeme.tokensAt .start (Lexeme.ofType type) =
      Lexeme.tokensAt .start (Lexeme.ofType type') := by
    have hread := hbound.tokenize_render
    rw [heq, hbound'.tokenize_render] at hread
    exact (List.append_cancel_right (Except.ok.inj hread)).symm
  have hparse := hbound.parse_eq
  rw [htokens, hbound'.parse_eq] at hparse
  exact (congrArg Prod.fst (Option.some.inj hparse)).symm

end TypeExpr

end BindingSync.Binding
