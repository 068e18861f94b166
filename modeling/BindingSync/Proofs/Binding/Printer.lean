import BindingSync.Proofs.Binding.Lexeme

/-!
# Writing classes

`Binding.render` writes classes in the form in which people write them: an attribute line for
the linked platforms, if there are any, a header line, one indented line for each function, and
a closing brace in column one.

The text that is written is the text of a list of lexemes (`Binding.toList_render`).  If the
classes are well-formed, the lexemes are readable (`Lexeme.readable_class`), so that the
lexer takes them apart again.
-/

namespace BindingSync.Binding

open BindingSync.Text

/-! ### Texts -/

/-- The written form of a parameter: its type and, if it has one, its name. -/
def ParamDecl.render (param : ParamDecl) : String :=
  match param.name with
  | none => param.type.render
  | some name => param.type.render ++ " " ++ name

/-- The keyword of a dispatch, with a blank behind it. -/
def Dispatch.keyword : Dispatch → String
  | .none => ""
  | .inlined => "inline "
  | .virtual => "virtual "
  | .static => "static "
  | .callback => "callback "

/-- The written form of an address clause; without offsets there is none. -/
def AddressClause.render (clause : AddressClause) : String :=
  if clause = [] then ""
  else " = " ++ ", ".intercalate (clause.map fun pair => pair.1 ++ " " ++ hexOfInt pair.2)

/-- The name of a function behind its return type.  A destructor has only the name. -/
def FunctionDecl.renderHeading (decl : FunctionDecl) : String :=
  match decl.returnType with
  | none => decl.name
  | some type => type.render ++ " " ++ decl.name

/-- The line of a function. -/
def FunctionDecl.render (decl : FunctionDecl) : String :=
  "  " ++ decl.dispatch.keyword ++ decl.renderHeading ++ "(" ++
    ", ".intercalate (decl.params.map ParamDecl.render) ++ ")" ++ decl.addresses.render ++ ";\n"

/-- The attribute line for linked platforms; without any there is none. -/
def renderAttribute (linked : List String) : String :=
  if linked = [] then "" else "[[link(" ++ ", ".intercalate linked ++ ")]]\n"

/-- The lines of a class. -/
def ClassDecl.render (cls : ClassDecl) : String :=
  renderAttribute cls.linked ++ "class " ++ cls.name.toString ++ " \x7b\n" ++
    String.join (cls.functions.map FunctionDecl.render) ++ "\x7d\n"

/-- The text of classes. -/
def render (classes : List ClassDecl) : String :=
  String.join (classes.map ClassDecl.render)

namespace Lexeme

/-! ### Lexemes -/

/-- A character that is a token on its own. -/
abbrev mark (kind : TokenKind) (c : Char) : Lexeme :=
  token kind (String.singleton c)

/-- A comma and a blank. -/
def comma : List Lexeme :=
  [mark .comma ',', blank ' ']

/-- The lexemes of the segments of a name. -/
def ofSegments (segments : List String) : List Lexeme :=
  separated [token .scope "::"] (segments.map fun segment => [token .identifier segment])

/-- The lexemes of a template clause; without arguments there is none. -/
def ofClause (args : List (List Lexeme)) : List Lexeme :=
  if args = [] then [] else mark .openAngle '<' :: separated comma args ++ [mark .closeAngle '>']

mutual

/-- The lexemes of a type. -/
def ofType : TypeExpr → List Lexeme
  | .mk name args isConst pointers references =>
    (if isConst then [token .constWord "const", blank ' '] else []) ++
      (ofSegments name.segments ++ (ofClause (ofTypes args) ++
        (List.replicate pointers.toNat (mark .star '*') ++
          List.replicate references.toNat (mark .ampersand '&'))))

/-- The lexemes of several types. -/
def ofTypes : List TypeExpr → List (List Lexeme)
  | [] => []
  | type :: types => ofType type :: ofTypes types

end

/-- The lexemes of a parameter. -/
def ofParam (param : ParamDecl) : List Lexeme :=
  ofType param.type ++
    match param.name with
    | none => []
    | some name => [blank ' ', token .identifier name]

/-- The lexemes of the keyword of a dispatch. -/
def ofDispatch : Dispatch → List Lexeme
  | .none => []
  | .inlined => [token .inlineWord "inline", blank ' ']
  | .virtual => [token .virtualWord "virtual", blank ' ']
  | .static => [token .staticWord "static", blank ' ']
  | .callback => [token .callbackWord "callback", blank ' ']

/-- The lexemes of a heading.  The name of a destructor is a word behind a `~`. -/
def ofHeading (decl : FunctionDecl) : List Lexeme :=
  match decl.returnType with
  | none =>
    [mark .tilde '~', token .identifier (String.ofList decl.name.toList.tail)]
  | some type => ofType type ++ [blank ' ', token .identifier decl.name]

/-- The lexemes of parameters in parentheses. -/
def ofParams (params : List ParamDecl) : List Lexeme :=
  mark .openParen '(' :: (separated comma (params.map ofParam) ++ [mark .closeParen ')'])

/-- The lexemes of an offset behind its tag. -/
def ofAddress (pair : String × Int) : List Lexeme :=
  [token .identifier pair.1, blank ' ', token .number (hexOfInt pair.2)]

/-- The lexemes of an address clause. -/
def ofAddresses (clause : AddressClause) : List Lexeme :=
  if clause = [] then []
  else blank ' ' :: mark .equals '=' :: blank ' ' :: separated comma (clause.map ofAddress)

/-- The lexemes of the line of a function. -/
def ofFunction (decl : FunctionDecl) : List Lexeme :=
  blank ' ' :: blank ' ' :: (ofDispatch decl.dispatch ++ (ofHeading decl ++
    (ofParams decl.params ++ (ofAddresses decl.addresses ++
      [mark .semicolon ';', blank '\n']))))

/-- The lexemes of an attribute line. -/
def ofAttribute (linked : List String) : List Lexeme :=
  if linked = [] then []
  else mark .openBracket '[' :: mark .openBracket '[' :: token .identifier "link" ::
    mark .openParen '(' ::
      (separated comma (linked.map fun tag => [token .identifier tag]) ++
        [mark .closeParen ')', mark .closeBracket ']', mark .closeBracket ']', blank '\n'])

/-- The lexemes of a class without its attribute line. -/
def ofBlock (cls : ClassDecl) : List Lexeme :=
  token .classWord "class" :: blank ' ' ::
    (ofSegments cls.name.segments ++ (blank ' ' :: mark .openBrace '\x7b' :: blank '\n' ::
      (cls.functions.flatMap ofFunction ++ [mark .closeBrace '\x7d', blank '\n'])))

/-- The lexemes of a class. -/
def ofClass (cls : ClassDecl) : List Lexeme :=
  ofAttribute cls.linked ++ ofBlock cls

/-! ### Texts are made of lexemes -/

/-- A repeated mark is written as often as it is repeated. -/
lemma textOf_replicate (n : Nat) (kind : TokenKind) (c : Char) :
    textOf (List.replicate n (mark kind c)) = List.replicate n c := by
  induction n with
  | zero => rfl
  | succ n ih => rw [List.replicate_succ, textOf_cons, ih, List.replicate_succ]; simp [text]

/-- The text of a qualified name. -/
lemma toList_name (name : QualifiedName) :
    name.toString.toList = textOf (ofSegments name.segments) := by
  rw [QualifiedName.toString, QualifiedName.join, String.toList_intercalate, ofSegments,
    textOf_separated]
  simp [text, Function.comp_def]

/-- The text of a template clause. -/
lemma toList_clause {args : List String} {groups : List (List Lexeme)}
    (h : args.map String.toList = groups.map textOf) :
    (TypeExpr.clause args).toList = textOf (ofClause groups) := by
  cases args with
  | nil =>
    obtain rfl : groups = [] := by simpa using h.symm
    rfl
  | cons arg args =>
    have hne : groups ≠ [] := by
      rintro rfl
      simp at h
    rw [TypeExpr.clause, ofClause, if_neg hne]
    · simp [String.toList_intercalate, textOf_separated, h, comma, text]
    · simp

mutual

/-- The text of a type. -/
theorem toList_type : ∀ type : TypeExpr, type.render.toList = textOf (ofType type)
  | .mk name args isConst pointers references => by
    have hargs := toList_clause (toList_types args)
    cases isConst <;>
      simp [TypeExpr.render, ofType, toList_name, hargs, TypeExpr.suffix, textOf_replicate, text]

/-- The texts of several types. -/
theorem toList_types : ∀ types : List TypeExpr,
    (TypeExpr.renderAll types).map String.toList = (ofTypes types).map textOf
  | [] => rfl
  | type :: types => by
    rw [TypeExpr.renderAll, ofTypes, List.map_cons, List.map_cons, toList_type type,
      toList_types types]

end

/-- The text of a parameter. -/
lemma toList_param (param : ParamDecl) : param.render.toList = textOf (ofParam param) := by
  unfold ParamDecl.render ofParam
  cases param.name <;> simp [toList_type, text]

/-- The text of a dispatch. -/
lemma toList_dispatch (dispatch : Dispatch) :
    dispatch.keyword.toList = textOf (ofDispatch dispatch) := by
  cases dispatch <;> rfl

/-- The text of a heading. -/
lemma toList_heading {decl : FunctionDecl} (h : decl.HeadingWellFormed) :
    decl.renderHeading.toList = textOf (ofHeading decl) := by
  unfold FunctionDecl.HeadingWellFormed at h
  unfold FunctionDecl.renderHeading ofHeading
  split
  · next hnone =>
    rw [hnone] at h
    obtain ⟨-, word, hname, -⟩ := h
    simp [hname, text]
  · simp [toList_type, text]

/-- The text of an address clause. -/
lemma toList_addresses (clause : AddressClause) :
    clause.render.toList = textOf (ofAddresses clause) := by
  unfold AddressClause.render ofAddresses
  by_cases h : clause = []
  · rw [if_pos h, if_pos h]
    rfl
  · rw [if_neg h, if_neg h]
    simp [String.toList_intercalate, textOf_separated, ofAddress, comma, text, Function.comp_def]

/-- The text of a function. -/
lemma toList_function {decl : FunctionDecl} (h : decl.HeadingWellFormed) :
    decl.render.toList = textOf (ofFunction decl) := by
  simp [FunctionDecl.render, ofFunction, ofParams, toList_dispatch, toList_heading h,
    toList_addresses, String.toList_intercalate, textOf_separated, comma, text,
    Function.comp_def, toList_param]

/-- The text of an attribute. -/
lemma toList_attribute (linked : List String) :
    (renderAttribute linked).toList = textOf (ofAttribute linked) := by
  unfold renderAttribute ofAttribute
  by_cases h : linked = []
  · rw [if_pos h, if_pos h]
    rfl
  · rw [if_neg h, if_neg h]
    simp [String.toList_intercalate, textOf_separated, comma, text, Function.comp_def]

/-- The texts of list members in a row are the text of their lexemes in a row. -/
lemma flatMap_eq_textOf {α : Type} {list : List α} {f : α → List Char} {g : α → List Lexeme}
    (h : ∀ a ∈ list, f a = textOf (g a)) : list.flatMap f = textOf (list.flatMap g) := by
  induction list with
  | nil => rfl
  | cons a rest ih =>
    obtain ⟨ha, hrest⟩ := List.forall_mem_cons.1 h
    rw [List.flatMap_cons, List.flatMap_cons, textOf_append, ih hrest, ha]

/-- The text of a class. -/
lemma toList_class {cls : ClassDecl} (h : cls.WellFormed) :
    cls.render.toList = textOf (ofClass cls) := by
  have hfunctions : (String.join (cls.functions.map FunctionDecl.render)).toList =
      textOf (cls.functions.flatMap ofFunction) := by
    rw [String.toList_join, List.flatMap_map]
    exact flatMap_eq_textOf fun decl hdecl => toList_function (h.functions decl hdecl).heading
  simp [ClassDecl.render, ofClass, ofBlock, toList_attribute, toList_name, hfunctions, text]

/-! ### Readable lexemes -/

/-- A blank in front of readable lexemes is readable. -/
lemma readable_blank {c : Char} (h : isBlank c = true) {lexemes : List Lexeme}
    {rest : List Char} : Readable (blank c :: lexemes) rest ↔ Readable lexemes rest :=
  and_iff_right (reads_blank h _)

/-- A mark in front of readable lexemes is readable. -/
lemma readable_mark {kind : TokenKind} {c : Char} (h : TokenKind.ofMark? c = some kind)
    {lexemes : List Lexeme} {rest : List Char} :
    Readable (mark kind c :: lexemes) rest ↔ Readable lexemes rest :=
  and_iff_right (reads_mark h _)

/-- An identifier is readable if words end behind it. -/
lemma readable_identifier {word : String} (hword : IsIdentifier word) {rest : List Char}
    (hrest : Ends rest) : Readable [token .identifier word] rest :=
  ⟨reads_identifier hword hrest, trivial⟩

/-- A character that goes on with no number ends words. -/
lemma ends_cons {c : Char} (h : continuesNumber c = false) (rest : List Char) :
    Ends (c :: rest) := by
  simpa [Ends] using h

/-- A mark ends words. -/
lemma ends_mark {kind : TokenKind} {c : Char} (h : TokenKind.ofMark? c = some kind)
    (lexemes : List Lexeme) (rest : List Char) :
    Ends (textOf (mark kind c :: lexemes) ++ rest) := by
  have hc : continuesNumber c = false := by
    unfold TokenKind.ofMark? at h
    split at h <;> first | decide | cases h
  simpa [text] using ends_cons hc _

/-- A comma is readable and ends words. -/
lemma readable_comma (rest : List Char) : Readable comma rest ∧ Ends (textOf comma ++ rest) :=
  ⟨(readable_mark rfl).2 ((readable_blank rfl).2 trivial), ends_mark rfl _ _⟩

/-- The scope mark is readable and ends words. -/
lemma readable_scope (rest : List Char) :
    Readable [token .scope "::"] rest ∧ Ends (textOf [token .scope "::"] ++ rest) :=
  ⟨⟨reads_scope _, trivial⟩, ends_cons (by decide) _⟩

/-- A repeated mark is readable. -/
lemma readable_replicate (n : Nat) {kind : TokenKind} {c : Char}
    (h : TokenKind.ofMark? c = some kind) (rest : List Char) :
    Readable (List.replicate n (mark kind c)) rest := by
  induction n with
  | zero => trivial
  | succ n ih => exact (readable_mark h).2 ih

/-- A repeated mark ends words if what is behind it does. -/
lemma ends_replicate (n : Nat) {kind : TokenKind} {c : Char} (h : TokenKind.ofMark? c = some kind)
    {rest : List Char} (hrest : Ends rest) :
    Ends (textOf (List.replicate n (mark kind c)) ++ rest) := by
  cases n with
  | zero => exact hrest
  | succ n => exact ends_mark h _ _

/-- A well-formed name is readable. -/
lemma readable_segments {segments : List String} (h : ∀ segment ∈ segments, IsIdentifier segment)
    {rest : List Char} (hrest : Ends rest) : Readable (ofSegments segments) rest := by
  refine readable_separated readable_scope (fun group hgroup rest hrest => ?_) hrest
  obtain ⟨segment, hsegment, rfl⟩ := List.mem_map.1 hgroup
  exact readable_identifier (h segment hsegment) hrest

/-- A template clause of readable arguments is readable. -/
lemma readable_clause {args : List (List Lexeme)}
    (h : ∀ arg ∈ args, ∀ rest, Ends rest → Readable arg rest) (rest : List Char) :
    Readable (ofClause args) rest := by
  unfold ofClause
  split
  · trivial
  · rw [List.cons_append, readable_mark rfl, readable_append]
    exact ⟨readable_separated readable_comma h (ends_mark rfl _ _), (readable_mark rfl).2 trivial⟩

/-- A template clause ends words if what is behind it does. -/
lemma ends_clause (args : List (List Lexeme)) {rest : List Char} (hrest : Ends rest) :
    Ends (textOf (ofClause args) ++ rest) := by
  unfold ofClause
  split
  · exact hrest
  · exact ends_mark rfl _ _

/-- The lexemes of types, one after the other. -/
lemma ofTypes_eq_map (types : List TypeExpr) : ofTypes types = types.map ofType := by
  induction types with
  | nil => rfl
  | cons type types ih => rw [ofTypes, ih, List.map_cons]

/-- The parts of a type are readable if its name is well-formed and its arguments are readable. -/
lemma readable_mk {name : QualifiedName} {args : List TypeExpr} {isConst : Bool}
    {pointers references : Int} (hname : name.WellFormed)
    (hargs : ∀ arg ∈ args, ∀ rest, Ends rest → Readable (ofType arg) rest) {rest : List Char}
    (hrest : Ends rest) :
    Readable (ofType (.mk name args isConst pointers references)) rest := by
  have hmarks : Ends (textOf (List.replicate pointers.toNat (mark .star '*') ++
      List.replicate references.toNat (mark .ampersand '&')) ++ rest) := by
    rw [textOf_append, List.append_assoc]
    exact ends_replicate _ rfl (ends_replicate _ rfl hrest)
  have hclause : ∀ arg ∈ ofTypes args, ∀ rest, Ends rest → Readable arg rest := by
    rw [ofTypes_eq_map]
    intro arg hmem
    obtain ⟨type, htype, rfl⟩ := List.mem_map.1 hmem
    exact hargs type htype
  rw [ofType, readable_append, readable_append, readable_append, readable_append]
  refine ⟨?_, readable_segments hname ?_, readable_clause hclause _, readable_replicate _ rfl _,
    readable_replicate _ rfl _⟩
  · split
    · refine ⟨reads_keyword rfl (by decide) (by decide) (by decide) rfl ?_, ?_⟩
      · exact ends_cons (by decide) _
      · exact (readable_blank rfl).2 trivial
    · trivial
  · rw [textOf_append, List.append_assoc]
    exact ends_clause _ hmarks

/-- A type that can be written is readable. -/
lemma readable_type {depth : Nat} {type : TypeExpr} (h : type.FitsIn depth) {rest : List Char}
    (hrest : Ends rest) : Readable (ofType type) rest := by
  induction depth generalizing type rest with
  | zero =>
    obtain ⟨name, args, isConst, pointers, references⟩ := type
    obtain ⟨hname, rfl, -, -⟩ := h
    exact readable_mk hname (by simp) hrest
  | succ depth ih =>
    obtain ⟨name, args, isConst, pointers, references⟩ := type
    obtain ⟨hname, hargs, -, -⟩ := h
    exact readable_mk hname (fun arg hmem _ hends => ih (hargs arg hmem) hends) hrest

/-- A well-formed parameter is readable. -/
lemma readable_param {param : ParamDecl} (h : param.WellFormed) {rest : List Char}
    (hrest : Ends rest) : Readable (ofParam param) rest := by
  unfold ofParam
  cases hname : param.name with
  | none =>
    rw [List.append_nil]
    exact readable_type h.type hrest
  | some name =>
    rw [readable_append, readable_blank rfl]
    exact ⟨readable_type h.type (ends_cons (by decide) _),
      readable_identifier (h.name name hname) hrest⟩

/-- The keyword of a dispatch is readable. -/
lemma readable_dispatch (dispatch : Dispatch) (rest : List Char) :
    Readable (ofDispatch dispatch) rest := by
  have hends : Ends (textOf [blank ' '] ++ rest) := ends_cons (by decide) _
  have hblank : Readable [blank ' '] rest := (readable_blank rfl).2 trivial
  cases dispatch with
  | none => trivial
  | inlined => exact ⟨reads_keyword rfl (by decide) (by decide) (by decide) rfl hends, hblank⟩
  | virtual => exact ⟨reads_keyword rfl (by decide) (by decide) (by decide) rfl hends, hblank⟩
  | static => exact ⟨reads_keyword rfl (by decide) (by decide) (by decide) rfl hends, hblank⟩
  | callback => exact ⟨reads_keyword rfl (by decide) (by decide) (by decide) rfl hends, hblank⟩

/-- A well-formed heading is readable. -/
lemma readable_heading {decl : FunctionDecl} (h : decl.HeadingWellFormed) {rest : List Char}
    (hrest : Ends rest) : Readable (ofHeading decl) rest := by
  unfold FunctionDecl.HeadingWellFormed at h
  unfold ofHeading
  split
  · next hnone =>
    rw [hnone] at h
    obtain ⟨-, word, hname, hword⟩ := h
    have htail : String.ofList decl.name.toList.tail = word := by simp [hname]
    rw [readable_mark rfl, htail]
    exact readable_identifier hword hrest
  · next type hsome =>
    rw [hsome] at h
    obtain ⟨-, htype, hname⟩ := h
    rw [readable_append, readable_blank rfl]
    exact ⟨readable_type htype (ends_cons (by decide) _), readable_identifier hname hrest⟩

/-- Well-formed parameters are readable. -/
lemma readable_params {params : List ParamDecl} (h : ∀ param ∈ params, param.WellFormed)
    (rest : List Char) : Readable (ofParams params) rest := by
  rw [ofParams, readable_mark rfl, readable_append]
  refine ⟨readable_separated readable_comma (fun group hgroup rest hrest => ?_)
    (ends_mark rfl _ _), (readable_mark rfl).2 trivial⟩
  obtain ⟨param, hparam, rfl⟩ := List.mem_map.1 hgroup
  exact readable_param (h param hparam) hrest

/-- A hexadecimal digit goes on with a number. -/
lemma continuesNumber_digitChar : ∀ d, d < 16 → continuesNumber (Nat.digitChar d) = true := by
  decide

/-- The hexadecimal digits of a number go on with a number. -/
lemma continuesNumber_of_mem_toDigits {n : Nat} {c : Char} (h : c ∈ Nat.toDigits 16 n) :
    continuesNumber c = true := by
  obtain ⟨d, hlt, rfl⟩ := exists_of_mem_toDigits (by decide) h
  exact continuesNumber_digitChar d hlt

/-- An offset that is not negative is readable behind its tag. -/
lemma readable_address {pair : String × Int} (htag : IsIdentifier pair.1) (hoffset : 0 ≤ pair.2)
    {rest : List Char} (hrest : Ends rest) : Readable (ofAddress pair) rest := by
  refine ⟨reads_identifier htag (ends_cons (by decide) _), (readable_blank rfl).2 ⟨?_, trivial⟩⟩
  rw [hexOfInt_eq hoffset]
  refine reads_number (fun c hmem => ?_) hrest
  rcases List.mem_cons.1 hmem with rfl | hmem
  · decide
  · exact continuesNumber_of_mem_toDigits hmem

/-- A well-formed address clause is readable. -/
lemma readable_addresses {clause : AddressClause} (h : clause.WellFormed) {rest : List Char}
    (hrest : Ends rest) : Readable (ofAddresses clause) rest := by
  unfold ofAddresses
  split
  · trivial
  · rw [readable_blank rfl, readable_mark rfl, readable_blank rfl]
    refine readable_separated readable_comma (fun group hgroup rest hrest => ?_) hrest
    obtain ⟨pair, hpair, rfl⟩ := List.mem_map.1 hgroup
    exact readable_address (h.tag pair hpair) (h.nonneg pair hpair) hrest

/-- A well-formed function is readable. -/
lemma readable_function {decl : FunctionDecl} (h : decl.WellFormed) (rest : List Char) :
    Readable (ofFunction decl) rest := by
  rw [ofFunction, readable_blank rfl, readable_blank rfl, readable_append, readable_append,
    readable_append, readable_append]
  refine ⟨readable_dispatch _ _, readable_heading h.heading ?_, readable_params h.params _,
    readable_addresses h.addresses (ends_mark rfl _ _), ?_⟩
  · have hopen : continuesNumber '(' = false := by decide
    simpa [ofParams, text] using ends_cons hopen _
  · exact (readable_mark rfl).2 ((readable_blank rfl).2 trivial)

/-- Linked platforms are readable if their tags are identifiers. -/
lemma readable_attribute {linked : List String} (h : ∀ tag ∈ linked, IsIdentifier tag)
    (rest : List Char) : Readable (ofAttribute linked) rest := by
  unfold ofAttribute
  split
  · trivial
  · rw [readable_mark rfl, readable_mark rfl]
    refine ⟨reads_keyword rfl (by decide) (by decide) (by decide) rfl (ends_mark rfl _ _), ?_⟩
    rw [readable_mark rfl, readable_append]
    refine ⟨readable_separated readable_comma (fun group hgroup rest hrest => ?_)
      (ends_mark rfl _ _), ?_⟩
    · obtain ⟨tag, htag, rfl⟩ := List.mem_map.1 hgroup
      exact readable_identifier (h tag htag) hrest
    · rw [readable_mark rfl, readable_mark rfl, readable_mark rfl, readable_blank rfl]
      trivial

/-- Lists of readable lexemes in a row are readable. -/
lemma readable_flatMap {α : Type} {list : List α} {f : α → List Lexeme}
    (h : ∀ a ∈ list, ∀ rest, Readable (f a) rest) (rest : List Char) :
    Readable (list.flatMap f) rest := by
  induction list with
  | nil => trivial
  | cons a list ih =>
    obtain ⟨ha, hlist⟩ := List.forall_mem_cons.1 h
    rw [List.flatMap_cons, readable_append]
    exact ⟨ha _, ih hlist⟩

/-- A well-formed class is readable. -/
lemma readable_class {cls : ClassDecl} (h : cls.WellFormed) (rest : List Char) :
    Readable (ofClass cls) rest := by
  rw [ofClass, readable_append]
  refine ⟨readable_attribute h.linked _, ?_, ?_⟩
  · exact reads_keyword rfl (by decide) (by decide) (by decide) rfl (ends_cons (by decide) _)
  · rw [readable_blank rfl, readable_append, readable_blank rfl, readable_mark rfl,
      readable_blank rfl, readable_append, readable_mark rfl, readable_blank rfl]
    exact ⟨readable_segments h.name (ends_cons (by decide) _),
      readable_flatMap (fun decl hdecl => readable_function (h.functions decl hdecl)) _, trivial⟩

end Lexeme

/-- The text of classes is that of their lexemes. -/
theorem toList_render {classes : List ClassDecl} (h : ∀ cls ∈ classes, cls.WellFormed) :
    (render classes).toList = Lexeme.textOf (classes.flatMap Lexeme.ofClass) := by
  rw [render, String.toList_join, List.flatMap_map]
  exact Lexeme.flatMap_eq_textOf fun cls hcls => Lexeme.toList_class (h cls hcls)

/-- The text of well-formed classes is read as the tokens of their lexemes. -/
theorem tokenize_render {classes : List ClassDecl} (h : ∀ cls ∈ classes, cls.WellFormed) :
    ∃ position, tokenize (render classes) =
      .ok (Lexeme.tokensAt .start (classes.flatMap Lexeme.ofClass) ++ [Token.endAt position]) := by
  have hreadable : Lexeme.Readable (classes.flatMap Lexeme.ofClass) [] :=
    Lexeme.readable_flatMap (fun cls hcls => Lexeme.readable_class (h cls hcls)) _
  exact ⟨_, Lexeme.tokenize_of_readable (toList_render h) hreadable⟩

end BindingSync.Binding
