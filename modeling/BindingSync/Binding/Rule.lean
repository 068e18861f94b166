import BindingSync.Binding.Token

/-!
# Grammar rules

A rule looks at the tokens that are left, without the token for the end of the text.  It
either takes a construct off the front and gives what it means together with the tokens after
it, or it does not match.  A rule that matches takes at least one token, so a loop over rules
ends.
-/

namespace BindingSync.Binding

/-- A rule for one construct. -/
structure Rule (α : Type) where
  /-- The construct at the front, and the tokens after it. -/
  parse : List Token → Option (α × List Token)
  /-- A match takes at least one token. -/
  shorter : ∀ {tokens value rest}, parse tokens = some (value, rest) →
    rest.length < tokens.length

namespace Rule

/-- The items that follow a first one, each behind a comma. -/
def afterCommas {α : Type} (rule : Rule α) : List Token → Option (List α × List Token)
  | [] => some ([], [])
  | token :: rest =>
    if token.kind = .comma then
      match _h : rule.parse rest with
      | none => none
      | some (value, rest') =>
        (afterCommas rule rest').map fun (values, last) => (value :: values, last)
    else some ([], token :: rest)
termination_by tokens => tokens.length
decreasing_by
  have := rule.shorter _h
  simp only [List.length_cons]
  omega

theorem length_of_afterCommas {α : Type} {rule : Rule α} {tokens rest : List Token}
    {values : List α} (h : rule.afterCommas tokens = some (values, rest)) :
    rest.length ≤ tokens.length := by
  fun_induction afterCommas rule tokens generalizing values with
  | case1 => simp_all
  | case2 => simp at h
  | case3 token tokens _ value rest' hp ih =>
    obtain ⟨⟨vs, last⟩, hv, he⟩ := Option.map_eq_some_iff.1 h
    cases he
    have := ih hv
    have := rule.shorter hp
    simp only [List.length_cons]
    omega
  | case4 => simp_all

/-- The constructs that a rule finds in the tokens: where it does not match, one token is
passed over.  The constructs found so far come in reverse order. -/
def scan {α : Type} (rule : Rule α) (found : List α) : List Token → List α
  | [] => found.reverse
  | token :: rest =>
    match _h : rule.parse (token :: rest) with
    | some (value, rest') => scan rule (value :: found) rest'
    | none => scan rule found rest
termination_by tokens => tokens.length
decreasing_by
  · exact rule.shorter _h
  · simp

end Rule

end BindingSync.Binding
