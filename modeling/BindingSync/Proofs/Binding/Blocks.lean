import Mathlib.Algebra.GroupWithZero.Nat
import BindingSync.Proofs.Binding.Lines
import BindingSync.Proofs.Binding.RoundTrip

/-!
# Class blocks

The rules look ahead over stretches without a bound: an attribute up to its brackets, bases up to
a brace, an inline body up to the end.  Still a class block keeps to itself.  The rules in front of
the body take what they take whatever comes behind it (`Rule.IsLocal`), and those inside are given
nothing but the tokens up to the first closing brace in column one.  With the lexer keeping to the
lines of the block as well, the text below it is read as if it stood alone (`parse_blocks`).
-/

namespace BindingSync.Binding

/-- What the rule takes does not depend on what comes behind it. -/
def Rule.IsLocal {α : Type} (rule : Rule α) : Prop :=
  ∀ {tokens value rest}, rule.parse tokens = some (value, rest) →
    ∀ more, rule.parse (tokens ++ more) = some (value, rest ++ more)

namespace Grammar

/-- A token at the front is found whatever comes behind it. -/
lemma expect_append {kind : TokenKind} {tokens rest : List Token}
    (h : expect kind tokens = some rest) (more : List Token) :
    expect kind (tokens ++ more) = some (rest ++ more) := by
  cases tokens with
  | nil => cases h
  | cons token tokens =>
    by_cases hkind : token.kind = kind
    · simp_all [expect]
    · simp [expect, hkind] at h

/-- The names behind a first one end in front of a token that is no `::`. -/
lemma scopedNames_append {tokens rest : List Token} {names : List String} {token : Token}
    (h : scopedNames tokens = (names, token :: rest)) (htoken : token.kind ≠ .scope)
    (more : List Token) :
    scopedNames (tokens ++ more) = (names, token :: rest ++ more) := by
  fun_induction scopedNames tokens generalizing names with
  | case1 mark name tokens hkinds others last heq ih =>
    cases h
    simp [scopedNames, hkinds, ih heq]
  | case2 mark name tokens hkinds =>
    cases h
    simp [scopedNames, htoken]
  | case3 tokens hshort =>
    cases h
    cases rest with
    | nil =>
      cases more <;> simp [scopedNames, htoken]
    | cons name rest => exact absurd rfl (hshort token name rest)

/-- A name ends in front of a token that is no `::`. -/
lemma frontName_append {tokens rest : List Token} {name : QualifiedName} {token : Token}
    (h : frontName tokens = some (name, token :: rest)) (htoken : token.kind ≠ .scope)
    (more : List Token) :
    frontName (tokens ++ more) = some (name, token :: rest ++ more) := by
  cases tokens with
  | nil => cases h
  | cons first tokens =>
    by_cases hkind : first.kind = .identifier
    · rw [frontName, if_pos hkind] at h
      cases hnames : scopedNames tokens with
      | mk names last =>
        rw [hnames] at h
        cases h
        rw [List.cons_append, frontName, if_pos hkind, scopedNames_append hnames htoken]
    · simp [frontName, hkind] at h

/-- An attribute block is read up to its brackets, whatever comes behind them. -/
lemma linkedIn_append {inLink : Bool} {platforms linked : List String} {tokens rest : List Token}
    (h : linkedIn inLink platforms tokens = some (linked, rest)) (more : List Token) :
    linkedIn inLink platforms (tokens ++ more) = some (linked, rest ++ more) := by
  fun_induction linkedIn inLink platforms tokens with
  | case1 inLink platforms => cases h
  | case2 platforms token tokens hclose ih =>
    rw [List.cons_append, linkedIn_inside, if_pos hclose, ih h]
  | case3 platforms token tokens hclose hname ih =>
    rw [List.cons_append, linkedIn_inside, if_neg hclose, if_pos hname, ih h]
  | case4 platforms token tokens hclose hname ih =>
    rw [List.cons_append, linkedIn_inside, if_neg hclose, if_neg hname, ih h]
  | case5 inLink platforms token hout => cases h
  | case6 inLink platforms token hout next rest hclose =>
    cases h
    simp_all [linkedIn]
  | case7 inLink platforms token hout next rest hclose hlink ih => simp_all [linkedIn]
  | case8 inLink platforms token hout next rest hclose hlink ih =>
    rw [Bool.not_eq_true] at hout
    subst hout
    have hmore := ih h
    simp only [List.cons_append, linkedIn, if_neg hclose, if_neg hlink] at hmore ⊢
    rw [← hmore]
    rfl

/-- The rule for attribute blocks takes nothing behind the brackets. -/
lemma isLocal_linkAttribute : linkAttribute.IsLocal := by
  intro tokens linked rest h more
  simp only [linkAttribute, Option.bind_eq_bind, Option.bind_eq_some_iff] at h ⊢
  obtain ⟨first, hfirst, second, hsecond, hlinked⟩ := h
  exact ⟨_, expect_append hfirst more, _, expect_append hsecond more,
    linkedIn_append hlinked more⟩

/-- The opening brace behind the bases is found, whatever comes behind it. -/
lemma openBrace_append {tokens rest : List Token}
    (h : expect .openBrace (skipBases tokens) = some rest) (more : List Token) :
    expect .openBrace (skipBases (tokens ++ more)) = some (rest ++ more) := by
  cases hcolon : expect .colon tokens with
  | none =>
    rw [skipBases, hcolon] at h
    cases tokens with
    | nil => cases h
    | cons token tokens =>
      have hopen : token.kind = .openBrace := by
        by_contra hkind
        simp [expect, hkind] at h
      rw [List.cons_append, skipBases, expect_of_ne (by simp [hopen])]
      exact expect_append h more
  | some bases =>
    rw [skipBases, hcolon] at h
    rw [skipBases, expect_append hcolon]
    have hfound : bases.dropWhile (·.kind != .openBrace) ≠ [] := by
      intro hnil
      simp [hnil, expect] at h
    simp only [List.dropWhile_append, List.isEmpty_iff, if_neg hfound]
    exact expect_append h more

/-- The rule for class headers takes nothing behind the brace. -/
lemma isLocal_classHeader : classHeader.IsLocal := by
  intro tokens name rest h more
  simp only [classHeader, Option.bind_eq_bind, Option.bind_eq_some_iff, Option.pure_def,
    Option.some.injEq, Prod.exists, Prod.mk.injEq] at h ⊢
  obtain ⟨first, hfirst, name, second, hname, last, hlast, rfl, rfl⟩ := h
  refine ⟨_, expect_append hfirst more, name, second ++ more, ?_, last ++ more,
    openBrace_append hlast more, rfl, rfl⟩
  -- Behind the name there is a colon or a brace, so the name does not go on.
  cases second with
  | nil => cases hlast
  | cons token second =>
    refine frontName_append hname (fun hscope => ?_) more
    simp [skipBases, expect, hscope] at hlast

end Grammar

/-- The token ends a class body: it is a closing brace in column one. -/
def Token.EndsBody (token : Token) : Prop :=
  token.kind = .closeBrace ∧ token.position.column = 1

instance (token : Token) : Decidable token.EndsBody :=
  inferInstanceAs (Decidable (token.kind = .closeBrace ∧ token.position.column = 1))

/-- The text is a class block and nothing more: perhaps an attribute block, a class header, a body
that may be as malformed as it likes, and the first closing brace in column one. -/
def IsBlock (source : String) : Prop :=
  ∃ (link header inside : List Token) (brace eof : Token),
    tokenize source = .ok (link ++ header ++ inside ++ [brace, eof]) ∧
    (link = [] ∨ ∃ linked, Grammar.linkAttribute.parse link = some (linked, [])) ∧
    (∃ name, Grammar.classHeader.parse header = some (name, [])) ∧
    (∀ token ∈ inside, ¬token.EndsBody) ∧ brace.EndsBody

/-- Classes that were found before come first. -/
lemma classesIn_append (found before : List ClassDecl) (tokens : List Token) :
    classesIn (found ++ before) tokens =
      (classesIn found tokens).map (before.reverse ++ ·) := by
  fun_induction classesIn found tokens with
  | case1 found => simp [classesIn, Except.map]
  | case2 found token rest start rest' hstart inside last hbody ih =>
    rw [classesIn_cons, hstart]
    simp only [hbody]
    exact ih
  | case3 found token rest start rest' hstart hbody =>
    rw [classesIn_cons, hstart]
    simp only [hbody]
    rfl
  | case4 found token rest hstart linked rest' hlink ih =>
    rw [classesIn_cons, hstart, hlink]
    exact ih
  | case5 found token rest hstart hlink ih =>
    rw [classesIn_cons, hstart, hlink]
    exact ih

/-- The start of a block is found in front of whatever its body is. -/
lemma exists_blockStart {link header : List Token} {name : QualifiedName}
    (hlink : link = [] ∨ ∃ linked, Grammar.linkAttribute.parse link = some (linked, []))
    (hheader : Grammar.classHeader.parse header = some (name, [])) :
    ∃ start, ∀ more, Grammar.blockStart.parse (link ++ header ++ more) = some (start, more) := by
  cases header with
  | nil => cases hheader
  | cons token header =>
    have hbehind : ∀ linked more, BlockStart.behind linked (token :: header ++ more) =
        some ({ linked, name, position := token.position }, more) := by
      intro linked more
      have hmore := Grammar.isLocal_classHeader hheader more
      rw [List.cons_append] at hmore
      simp [BlockStart.behind, hmore]
    rcases hlink with rfl | ⟨linked, hlinked⟩
    · refine ⟨{ linked := [], name, position := token.position }, fun more => ?_⟩
      have hkind := Grammar.kind_of_classHeader (hheader ▸ Option.some_ne_none _)
      have hnone : Grammar.linkAttribute.parse (token :: header ++ more) = none := by
        simp [Grammar.linkAttribute, Grammar.expect, hkind]
      rw [Grammar.blockStart, List.nil_append]
      simp only [hnone]
      exact hbehind [] more
    · refine ⟨{ linked, name, position := token.position }, fun more => ?_⟩
      rw [Grammar.blockStart, List.append_assoc]
      simp only [Grammar.isLocal_linkAttribute hlinked (token :: header ++ more)]
      exact hbehind linked more

/-- A scan that comes to a class block finds its class, and goes on behind it. -/
lemma classesIn_block {head inside : List Token} {brace : Token} {start : BlockStart}
    (hstart : ∀ more, Grammar.blockStart.parse (head ++ more) = some (start, more))
    (hinside : ∀ token ∈ inside, ¬token.EndsBody) (hbrace : brace.EndsBody)
    (found : List ClassDecl) (below : List Token) :
    classesIn found (head ++ inside ++ [brace] ++ below) =
      classesIn (.ofBody start inside :: found) below := by
  have hbody := Grammar.body_append hinside hbrace.1 hbrace.2 below
  rw [List.append_assoc, List.append_assoc, List.singleton_append]
  exact classesIn_of_block (hstart (inside ++ brace :: below)) hbody

/-- Moving tokens down keeps column one. -/
lemma keepsMargin_below (lines : Nat) :
    Grammar.KeepsMargin fun _ position => position.below lines :=
  fun _ => Iff.rfl

lemma ParseError.moved_below_zero (error : ParseError) :
    error.moved (Position.below 0) = error := by
  cases error <;> rfl

/-- Moving an error down twice. -/
lemma ParseError.moved_moved_below (error : ParseError) (lines more : Nat) :
    (error.moved (Position.below lines)).moved (Position.below more) =
      error.moved (Position.below (more + lines)) := by
  cases error <;> simp [ParseError.moved, LexError.moved, Nat.add_comm]

/-- A class block on top of a text is one class, and the text below it is read as if it stood
alone. -/
lemma parse_block {block : String} (h : IsBlock block) :
    ∃ cls, parse block = .ok [cls] ∧ ∀ lower, parse (block ++ "\n" ++ lower) =
      match parse lower with
      | .ok others => .ok (cls :: others)
      | .error error => .error (error.moved (Position.below (linesOf block))) := by
  obtain ⟨link, header, inside, brace, eof, htokens, hlink, ⟨name, hheader⟩, hinside, hbrace⟩ := h
  obtain ⟨start, hstart⟩ := exists_blockStart hlink hheader
  have hblock : ∀ rest, classesIn [] (link ++ header ++ inside ++ [brace] ++ rest) =
      (classesIn [] rest).map (ClassDecl.ofBody start inside :: ·) := by
    intro rest
    rw [classesIn_block hstart hinside hbrace]
    exact classesIn_append [] [ClassDecl.ofBody start inside] rest
  have hends : (link ++ header ++ inside ++ [brace, eof]).dropLast =
      link ++ header ++ inside ++ [brace] := by
    simp [List.dropLast_append_of_ne_nil]
  refine ⟨ClassDecl.ofBody start inside, ?_, fun lower => ?_⟩
  · rw [parse, htokens]
    have hself := hblock []
    rw [List.append_nil] at hself
    simp only [hends, hself]
    simp [classesIn, Except.map]
  · rw [parse, tokenize_newline htokens, parse]
    cases hlower : tokenize lower with
    | error error => rfl
    | ok others =>
      have hne : others.map (Token.moved fun _ => Position.below (linesOf block)) ≠ [] := by
        simpa using ne_nil_of_lexFrom hlower
      simp only [hends, List.dropLast_append_of_ne_nil hne, ← List.map_dropLast, hblock,
        classesIn_moved (keepsMargin_below (linesOf block))]
      cases classesIn [] others.dropLast <;> rfl

/-- Class blocks are isolated from one another and from what follows, however malformed their
bodies are: each of them is one class, and an error in the text below them is at the place where it
is without them, as many lines further down as they take up. -/
theorem parse_blocks {blocks : List String} (h : ∀ block ∈ blocks, IsBlock block) (rest : String) :
    ∃ classes, List.Forall₂ (fun block cls => parse block = .ok [cls]) blocks classes ∧
      parse (blocks.foldr (fun block lower => block ++ "\n" ++ lower) rest) =
        match parse rest with
        | .ok others => .ok (classes ++ others)
        | .error error => .error (error.moved (Position.below (blocks.map linesOf).sum)) := by
  induction blocks with
  | nil =>
    refine ⟨[], .nil, ?_⟩
    cases hrest : parse rest with
    | ok others => simp [hrest]
    | error error => simp [hrest, ParseError.moved_below_zero]
  | cons block blocks ih =>
    obtain ⟨hblock, hblocks⟩ := List.forall_mem_cons.1 h
    obtain ⟨cls, hcls, hlower⟩ := parse_block hblock
    obtain ⟨classes, hclasses, hrest⟩ := ih hblocks
    refine ⟨cls :: classes, .cons hcls hclasses, ?_⟩
    rw [List.foldr_cons, hlower, hrest, List.map_cons, List.sum_cons]
    cases parse rest with
    | ok others => rfl
    | error error => exact congrArg Except.error (error.moved_moved_below _ _)

/-- A class block with an inline body that goes wrong. -/
def brokenText : String :=
  "[[link(win)]]\nclass Broken : Base \x7b\n  int good(int) = win 0x10;\n" ++
  "  int bad(int ( \x7b \x7b [ ) ]]\n \x7d /* \x7d */\n\x7d"

/-- `brokenText` is a class block, so two of them are two classes on top of `nodeText`. -/
theorem parse_brokenText_nodeText :
    (∀ block ∈ [brokenText, brokenText], IsBlock block) ∧
      ∃ classes, List.Forall₂ (fun block cls => parse block = .ok [cls])
          [brokenText, brokenText] classes ∧
        parse ([brokenText, brokenText].foldr (fun block lower => block ++ "\n" ++ lower)
            nodeText) =
          match parse nodeText with
          | .ok others => .ok (classes ++ others)
          | .error error =>
            .error (error.moved (Position.below ([brokenText, brokenText].map linesOf).sum)) := by
  have hblock : IsBlock brokenText := by
    let tokens := (tokenize brokenText).toOption.getD []
    let start := tokens.dropLast.dropLast
    obtain ⟨htokens, hlink, hheader, hinside, hbrace⟩ :
        tokenize brokenText = .ok (start.take 8 ++ (start.drop 8).take 5 ++ start.drop 13 ++
          [tokens.dropLast.getLastD default, tokens.getLastD default]) ∧
        Grammar.linkAttribute.parse (start.take 8) = some (["win"], []) ∧
        Grammar.classHeader.parse ((start.drop 8).take 5) = some (⟨[], "Broken"⟩, []) ∧
        (∀ token ∈ start.drop 13, ¬token.EndsBody) ∧
        (tokens.dropLast.getLastD default).EndsBody := by decide +kernel
    exact ⟨_, _, _, _, _, htokens, .inr ⟨_, hlink⟩, ⟨_, hheader⟩, hinside, hbrace⟩
  have hblocks : ∀ block ∈ [brokenText, brokenText], IsBlock block := by
    simp [hblock]
  exact ⟨hblocks, parse_blocks hblocks nodeText⟩

example :
    parse (brokenText ++ "\n" ++ "class Open \x7b\n  \x7d") =
      .error (.openBody ⟨[], "Open"⟩ ⟨7, 1⟩) := by
  decide +kernel

end BindingSync.Binding
