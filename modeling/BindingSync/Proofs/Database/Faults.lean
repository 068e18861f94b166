import BindingSync.Database.Fault
import BindingSync.Proofs.Fallible

/-!
# Faults that a reader does not expect

Reading a document looks at many places, and what is wrong in one of them is almost always reported.
`Document.Expects` says that a part never asks a value for a member that values of its kind do not
have; it composes along the parts of an entry, and every part expects what it may find but two: a
pointer among the defined types, and a function that is no object.  So such an entry is what ends
the program, if everything in front of it is in order (`Document.check_eq_noMember_iff`).
-/

namespace BindingSync

open BindingSync.Text

namespace Document

open Check

variable {α β : Type}

/-! ### What the parts of an entry expect -/

/-- What is wrong in a part is reported. -/
def Expects (part : Check α) : Prop :=
  part ≠ .error .noMember

lemma expects_ok (a : α) : Expects (.ok a) := by
  rintro ⟨⟩

lemma expects_bad (fault : EntryFault) : Expects (bad (α := α) fault) := by
  rintro ⟨⟩

lemma expects_duplicate (error : DuplicateError) :
    Expects (.error (.duplicate error) : Check α) := by
  rintro ⟨⟩

/-- Two parts in a row. -/
lemma Expects.bind {part : Check α} {next : α → Check β} (hpart : Expects part)
    (hnext : ∀ a, part = .ok a → Expects (next a)) : Expects (part >>= next) := by
  intro h
  rcases bind_eq_error_iff.1 h with h | ⟨a, ha, h⟩
  · exact hpart h
  · exact hnext a ha h

/-- One part for each member of a list. -/
lemma expects_forM {part : α → Check Unit} {list : List α} (h : ∀ a ∈ list, Expects (part a)) :
    Expects (list.forM part) := by
  intro hforM
  obtain ⟨before, a, after, rfl, -, ha⟩ := forM_eq_error_iff.1 hforM
  exact h a (by simp) ha

lemma Expects.map {part : Check α} (f : α → β) (h : Expects part) : Expects (part.map f) :=
  fun hmap => h (eq_error_of_map_eq_error hmap)

lemma expects_field (entry : Json) (key : String) : Expects (field entry key) := by
  unfold field
  split
  · split
    · exact expects_ok _
    · exact expects_bad _
  · exact expects_bad _

lemma expects_members (value : Json) : Expects (members value) := by
  unfold members
  split
  · exact expects_ok _
  · exact expects_bad _

lemma expects_optionalMembers (entry : Json) (key : String) :
    Expects (optionalMembers entry key) := by
  unfold optionalMembers
  split
  · exact expects_members _
  · exact expects_ok _

/-- One part or another. -/
lemma expects_ite {c : Prop} [Decidable c] {first second : Check α} (hfirst : Expects first)
    (hsecond : Expects second) : Expects (if c then first else second) := by
  split
  · exact hfirst
  · exact hsecond

lemma expects_keys (values : List Json) : Expects (keys values) :=
  expects_ite (expects_ok _) (expects_bad _)

lemma expects_worded (path : List Json) : Expects (worded path) := by
  unfold worded
  split
  · exact expects_ok _
  · exact expects_bad _

/-! ### What the entries expect -/

lemma expects_builtinNamed (name : Json) : Expects (builtinNamed name) := by
  unfold builtinNamed
  split
  · exact expects_ok _
  · exact expects_ite (expects_bad _) (expects_bad _)

lemma expects_named (kind entry : Json) : Expects (named kind entry) := by
  unfold named
  refine (expects_field _ _).bind fun value _ => (expects_members value).bind fun category _ =>
    (expects_field _ _).bind fun name _ => ?_
  split
  · exact (expects_field _ _).map _
  · exact (expects_field _ _).map _
  · exact expects_bad _

/-- A type may be anything, however deep it is. -/
lemma expects_type (entry : Json) : Expects (type entry) := by
  fun_induction type entry with
  | case1 entry error hkind =>
    rintro ⟨⟩
    exact expects_field entry "kind" hkind
  | case2 entry hkind =>
    exact (expects_field _ _).bind fun name _ => expects_builtinNamed name
  | case3 entry hkind target htarget ih =>
    exact ih.bind fun place _ => (expects_field _ _).map _
  | case4 entry hkind htarget =>
    exact expects_bad _
  | case5 entry kind hbuiltin hpointer hkind =>
    exact expects_named kind entry

lemma expects_storage (entry : Json) : Expects (storage entry) := by
  unfold storage
  split
  · exact expects_ok _
  · split
    · exact expects_ok _
    · exact (expects_field _ _).bind fun _ _ => (expects_field _ _).bind fun _ _ => expects_ok ()

lemma expects_source (value : Json) : Expects (source value) :=
  expects_ite (expects_ok _) (expects_bad _)

lemma expects_mode (value : Json) : Expects (mode value) :=
  expects_ite (expects_ok _) (expects_bad _)

lemma expects_parameter (entry : Json) : Expects (parameter entry) := by
  unfold parameter
  exact (expects_field _ _).bind fun _ _ => (expects_field _ _).bind fun type _ =>
    (expects_type type).bind fun _ _ => (expects_field _ _).bind fun source _ =>
      (expects_source source).bind fun _ _ => expects_storage _

lemma expects_returnValue (entry : Json) : Expects (returnValue entry) := by
  unfold returnValue
  split
  · exact expects_ok _
  · exact (expects_field _ _).bind fun type _ => (expects_type type).bind fun _ _ =>
      (expects_field _ _).bind fun source _ => expects_source source

lemma expects_category (entry : Json) : Expects (category entry) :=
  (expects_members entry).bind fun items _ => expects_keys items

lemma expects_known (paths : Paths) (path : List Json) : Expects (known paths path) := by
  unfold known
  refine (expects_keys path).bind fun _ _ => ?_
  split
  · exact expects_bad _
  · exact expects_ok _

lemma expects_addNamespace (paths : Paths) (entry : Json) : Expects (addNamespace paths entry) := by
  unfold addNamespace
  refine (expects_field _ _).bind fun value _ => (expects_members value).bind fun path _ => ?_
  have hplace : Expects (do
      let _ ← field entry "class"
      keys path
      if isAmong path paths.namespaces then
        .error (.duplicate (.namespaceExists (← worded path)))
      else .ok { paths with namespaces := path :: paths.namespaces } : Check Paths) :=
    (expects_field _ _).bind fun _ _ => (expects_keys path).bind fun _ _ =>
      expects_ite ((expects_worded path).bind fun _ _ => expects_duplicate _) (expects_ok _)
  have hparent := expects_ite (c := !path.dropLast.isEmpty)
    ((expects_known paths path.dropLast).bind fun _ _ => hplace) hplace
  exact expects_ite ((expects_bad _).bind fun _ _ => hparent) hparent

lemma expects_function (paths : Paths) (fields : List (WideString × Json)) :
    Expects (Check.function paths (.object fields)) := by
  unfold Check.function
  have hrest : Expects (do
      let address ← field (.object fields) "address"
      let _ ← field (.object fields) "name"
      returnValue ((field? (.object fields) "return").getD .null)
      (← optionalMembers (.object fields) "params").forM parameter
      mode ((field? (.object fields) "storage-mode").getD (ofMode .dynamic))
      keys [address]) :=
    (expects_field _ _).bind fun address _ => (expects_field _ _).bind fun _ _ =>
      (expects_returnValue _).bind fun _ _ => (expects_optionalMembers _ _).bind fun _ _ =>
        (expects_forM fun entry _ => expects_parameter entry).bind fun _ _ =>
          (expects_mode _).bind fun _ _ => expects_keys [address]
  exact expects_ite
    ((expects_members _).bind fun scope _ => (expects_known paths scope).bind fun _ _ => hrest) hrest

/-- Namespaces are no surprise. -/
lemma expects_foldlM_addNamespace (entries : List Json) (paths : Paths) :
    Expects (entries.foldlM addNamespace paths) := by
  intro h
  obtain ⟨before, entry, after, between, rfl, -, hentry⟩ := foldlM_eq_error_iff.1 h
  exact expects_addNamespace between entry hentry

/-! ### What ends the program -/

/-- A field that has to be there is one that is there. -/
lemma field_eq_ok_iff {entry : Json} {key : String} {value : Json} :
    field entry key = .ok value ↔ field? entry key = some value := by
  cases entry with
  | object fields =>
    rw [field, field?]
    cases fields.lookup (.plain key) with
    | none => simp [bad]
    | some found => simp
  | _ => simp [field, field?, bad]

/-- The entry of a pointer whose target can be read. -/
structure IsPointer (entry : Json) : Prop where
  kind : field? entry "kind" = some (.string "pointer")
  target : ∃ target place, field? entry "target" = some target ∧ type target = .ok place
  length : (field? entry "length").isSome

lemma builtinNamed_ne_pointer (name : Json) : builtinNamed name ≠ .ok .pointer := by
  unfold builtinNamed
  split
  · rintro ⟨⟩
  · split <;> rintro ⟨⟩

lemma named_ne_pointer (kind entry : Json) : named kind entry ≠ .ok .pointer := by
  intro h
  unfold named at h
  obtain ⟨_, -, h⟩ := exists_of_bind_eq_ok h
  obtain ⟨_, -, h⟩ := exists_of_bind_eq_ok h
  obtain ⟨_, -, h⟩ := exists_of_bind_eq_ok h
  split at h
  · obtain ⟨_, -, ⟨⟩⟩ := exists_of_map_eq_ok h
  · obtain ⟨_, -, ⟨⟩⟩ := exists_of_map_eq_ok h
  · cases h

lemma type_eq_pointer_iff {entry : Json} : type entry = .ok .pointer ↔ IsPointer entry := by
  fun_cases type entry with
  | case1 error hkind =>
    refine iff_of_false (by rintro ⟨⟩) fun h => ?_
    cases hkind.symm.trans (field_eq_ok_iff.2 h.kind)
  | case2 hkind =>
    refine iff_of_false (fun h => ?_) fun h => ?_
    · obtain ⟨name, -, hname⟩ := exists_of_bind_eq_ok h
      exact builtinNamed_ne_pointer name hname
    · simpa using hkind.symm.trans (field_eq_ok_iff.2 h.kind)
  | case3 hkind target htarget =>
    constructor
    · intro h
      obtain ⟨place, hplace, h⟩ := exists_of_bind_eq_ok h
      obtain ⟨length, hlength, -⟩ := exists_of_map_eq_ok h
      exact ⟨field_eq_ok_iff.1 hkind, ⟨target, place, htarget, hplace⟩,
        Option.isSome_iff_exists.2 ⟨length, field_eq_ok_iff.1 hlength⟩⟩
    · rintro ⟨-, ⟨other, place, hother, hplace⟩, hlength⟩
      obtain rfl := Option.some.inj (htarget.symm.trans hother)
      obtain ⟨length, hlength⟩ := Option.isSome_iff_exists.1 hlength
      rw [hplace, ok_bind, field_eq_ok_iff.2 hlength]
      rfl
  | case4 hkind htarget =>
    refine iff_of_false (by rintro ⟨⟩) fun h => ?_
    obtain ⟨target, -, hother, -⟩ := h.target
    cases htarget.symm.trans hother
  | case5 kind hbuiltin hpointer hkind =>
    refine iff_of_false (named_ne_pointer kind entry) fun h => ?_
    exact hpointer (Except.ok.inj (hkind.symm.trans (field_eq_ok_iff.2 h.kind)))

/-- A type ends the program exactly if it is a pointer. -/
lemma addType_eq_noMember_iff {paths : Paths} {entry : Json} :
    addType paths entry = .error .noMember ↔ IsPointer entry := by
  rw [addType, bind_eq_error_iff, ← type_eq_pointer_iff]
  constructor
  · rintro (h | ⟨place, hplace, h⟩)
    · exact absurd h (expects_type entry)
    · cases place with
      | builtin type => cases h
      | pointer => exact hplace
      | named category name =>
        have hnamed : Expects (do
            keys (category ++ [name])
            if category.isEmpty && ((toText? name).bind Builtin.ofName?).isSome ||
                isAmong (category ++ [name]) paths.types then
              let segments ← worded (category ++ [name])
              .error (.duplicate (.typeExists ⟨segments.dropLast, segments.getLastD (.plain "")⟩))
            else .ok { paths with types := (category ++ [name]) :: paths.types } : Check Paths) :=
          (expects_keys _).bind fun _ _ =>
            expects_ite ((expects_worded _).bind fun _ _ => expects_duplicate _) (expects_ok _)
        exact absurd h hnamed
  · intro h
    exact .inr ⟨.pointer, h, rfl⟩

/-- A function ends the program exactly if it is no object. -/
lemma function_eq_noMember_iff {paths : Paths} {entry : Json} :
    Check.function paths entry = .error .noMember ↔ ∀ fields, entry ≠ .object fields := by
  cases entry with
  | object fields => exact iff_of_false (expects_function paths fields) fun h => h fields rfl
  | _ => exact iff_of_true rfl (by rintro _ ⟨⟩)

/-- The fields of a document that are read before its types are in order. -/
structure HasHeader (document : Json) : Prop where
  imageBase : (field? document "image-base").isSome
  pointerSize : (field? document "pointer-size").isSome
  integerSize : (field? document "integer-size").isSome
  categories : ∃ categories, optionalMembers document "categories" = .ok categories ∧
    categories.forM category = .ok ()

/-- The first fault of a document is one that a reader does not expect. -/
inductive Surprises (document : Json) : Prop
  /-- A pointer stands among the defined types. -/
  | pointer {before after : List Json} {entry : Json} {paths : Paths} (hheader : HasHeader document)
      (htypes : optionalMembers document "types" = .ok (before ++ entry :: after))
      (hbefore : before.foldlM addType {} = .ok paths) (hentry : IsPointer entry)
  /-- A function is no object. -/
  | function {types namespaces before after : List Json} {entry : Json} {paths paths' : Paths}
      (hheader : HasHeader document) (htypes : optionalMembers document "types" = .ok types)
      (hpaths : types.foldlM addType {} = .ok paths)
      (hnamespaces : optionalMembers document "namespaces" = .ok namespaces)
      (hpaths' : namespaces.foldlM addNamespace paths = .ok paths')
      (hfunctions : optionalMembers document "functions" = .ok (before ++ entry :: after))
      (hbefore : before.forM (function paths') = .ok ())
      (hentry : ∀ fields, entry ≠ .object fields)

/-- What ends the program behind a part that expects everything comes of the next part. -/
lemma Expects.bind_eq_iff {part : Check α} {next : α → Check β} (h : Expects part) :
    part >>= next = .error .noMember ↔ ∃ a, part = .ok a ∧ next a = .error .noMember := by
  rw [bind_eq_error_iff, or_iff_right h]

/-- What is looked at behind the header. -/
def contents (document : Json) : Check Unit := do
  let paths ← (← optionalMembers document "types").foldlM addType {}
  let paths ← (← optionalMembers document "namespaces").foldlM addNamespace paths
  (← optionalMembers document "functions").forM (function paths)

/-- A header that is in order is read past. -/
lemma check_of_hasHeader {document : Json} (h : HasHeader document) :
    check document = contents document := by
  obtain ⟨image, himage⟩ := Option.isSome_iff_exists.1 h.imageBase
  obtain ⟨pointer, hpointer⟩ := Option.isSome_iff_exists.1 h.pointerSize
  obtain ⟨integer, hinteger⟩ := Option.isSome_iff_exists.1 h.integerSize
  obtain ⟨categories, hlist, hcategories⟩ := h.categories
  rw [check, field_eq_ok_iff.2 himage, ok_bind, field_eq_ok_iff.2 hpointer, ok_bind,
    field_eq_ok_iff.2 hinteger, ok_bind, hlist, ok_bind, hcategories, ok_bind, contents]

/-- What is not expected stands behind the header. -/
lemma check_eq_noMember_iff_contents {document : Json} : check document = .error .noMember ↔
    HasHeader document ∧ contents document = .error .noMember := by
  constructor
  · intro h
    have hcheck := h
    unfold check at h
    obtain ⟨_, himage, h⟩ := (expects_field _ _).bind_eq_iff.1 h
    obtain ⟨_, hpointer, h⟩ := (expects_field _ _).bind_eq_iff.1 h
    obtain ⟨_, hinteger, h⟩ := (expects_field _ _).bind_eq_iff.1 h
    obtain ⟨categories, hlist, h⟩ := (expects_optionalMembers _ _).bind_eq_iff.1 h
    obtain ⟨_, hcategories, -⟩ :=
      (expects_forM fun entry _ => expects_category entry).bind_eq_iff.1 h
    have hheader : HasHeader document :=
      ⟨Option.isSome_iff_exists.2 ⟨_, field_eq_ok_iff.1 himage⟩,
        Option.isSome_iff_exists.2 ⟨_, field_eq_ok_iff.1 hpointer⟩,
        Option.isSome_iff_exists.2 ⟨_, field_eq_ok_iff.1 hinteger⟩, categories, hlist, hcategories⟩
    exact ⟨hheader, check_of_hasHeader hheader ▸ hcheck⟩
  · rintro ⟨hheader, h⟩
    rw [check_of_hasHeader hheader, h]

/-- A document ends the program exactly if its first fault is not expected. -/
theorem check_eq_noMember_iff {document : Json} :
    check document = .error .noMember ↔ Surprises document := by
  rw [check_eq_noMember_iff_contents]
  constructor
  · rintro ⟨hheader, h⟩
    unfold contents at h
    obtain ⟨types, htypes, h⟩ := (expects_optionalMembers _ _).bind_eq_iff.1 h
    rcases bind_eq_error_iff.1 h with h | ⟨paths, hpaths, h⟩
    · obtain ⟨before, entry, after, between, rfl, hbefore, hentry⟩ := foldlM_eq_error_iff.1 h
      exact .pointer hheader htypes hbefore (addType_eq_noMember_iff.1 hentry)
    · obtain ⟨namespaces, hnamespaces, h⟩ := (expects_optionalMembers _ _).bind_eq_iff.1 h
      obtain ⟨paths', hpaths', h⟩ := (expects_foldlM_addNamespace _ _).bind_eq_iff.1 h
      obtain ⟨functions, hfunctions, h⟩ := (expects_optionalMembers _ _).bind_eq_iff.1 h
      obtain ⟨before, entry, after, rfl, hbefore, hentry⟩ := forM_eq_error_iff.1 h
      exact .function hheader htypes hpaths hnamespaces hpaths' hfunctions hbefore
        (function_eq_noMember_iff.1 hentry)
  · rintro (⟨hheader, htypes, hbefore, hentry⟩ |
      ⟨hheader, htypes, hpaths, hnamespaces, hpaths', hfunctions, hbefore, hentry⟩)
    · refine ⟨hheader, ?_⟩
      rw [contents, htypes, ok_bind]
      exact bind_eq_error_iff.2 (.inl (foldlM_eq_error_iff.2
        ⟨_, _, _, _, rfl, hbefore, addType_eq_noMember_iff.2 hentry⟩))
    · refine ⟨hheader, ?_⟩
      rw [contents, htypes, ok_bind, hpaths, ok_bind, hnamespaces, ok_bind, hpaths', ok_bind,
        hfunctions, ok_bind]
      exact forM_eq_error_iff.2 ⟨_, _, _, rfl, hbefore, function_eq_noMember_iff.2 hentry⟩

/-- The members of a field are the same for all who read it. -/
lemma optionalMembers?_eq_some {document : Json} {key : String} {items : List Json}
    (h : optionalMembers document key = .ok items) : optionalMembers? document key = some items := by
  unfold optionalMembers at h
  unfold optionalMembers?
  cases hfield : field? document key with
  | none =>
    rw [hfield] at h
    exact congrArg some (Except.ok.inj h)
  | some value =>
    rw [hfield] at h
    dsimp only at h ⊢
    unfold members at h
    split at h
    · next found hfound => rw [hfound, Except.ok.inj h]
    · cases h

/-- There is no type for a pointer among those that are defined. -/
lemma addType?_of_isPointer {entry : Json} (h : IsPointer entry) (db : Database) :
    addType? db entry = none := by
  have hpointer : ∀ named, toType? entry ≠ some (.named named) := by
    fun_cases toType? entry with
    | case1 hkind => simpa using hkind.symm.trans h.kind
    | case2 hkind target htarget =>
      intro named hnamed
      obtain ⟨_, -, hnamed⟩ := Option.bind_eq_some_iff.1 hnamed
      obtain ⟨_, -, hnamed⟩ := Option.bind_eq_some_iff.1 hnamed
      obtain ⟨_, -, ⟨⟩⟩ := Option.bind_eq_some_iff.1 hnamed
    | case3 hkind htarget => simp
    | case4 hkind => simpa using hkind.symm.trans h.kind
    | case5 hkind => simpa using hkind.symm.trans h.kind
    | case6 => simp
  unfold addType?
  cases htype : toType? entry with
  | none => rfl
  | some type =>
    cases type with
    | named named => exact absurd htype (hpointer named)
    | _ => rfl

/-- There is no function for an entry that is no object. -/
lemma addFunction?_of_ne_object {entry : Json} (h : ∀ fields, entry ≠ .object fields)
    (db : Database) : addFunction? db entry = none := by
  cases entry with
  | object fields => exact absurd rfl (h fields)
  | _ => rfl

/-- A document with such a fault has no database. -/
theorem toDatabase?_of_surprises {document : Json} (h : Surprises document) :
    toDatabase? document = none := by
  cases hdb : toDatabase? document with
  | none => rfl
  | some db =>
    obtain ⟨imageValue, -, hdb⟩ := Option.bind_eq_some_iff.1 hdb
    obtain ⟨imageBase, -, hdb⟩ := Option.bind_eq_some_iff.1 hdb
    obtain ⟨pointerValue, -, hdb⟩ := Option.bind_eq_some_iff.1 hdb
    obtain ⟨pointerSize, -, hdb⟩ := Option.bind_eq_some_iff.1 hdb
    obtain ⟨integerValue, -, hdb⟩ := Option.bind_eq_some_iff.1 hdb
    obtain ⟨integerSize, -, hdb⟩ := Option.bind_eq_some_iff.1 hdb
    obtain ⟨categories, -, hdb⟩ := Option.bind_eq_some_iff.1 hdb
    obtain ⟨categorized, -, hdb⟩ := Option.bind_eq_some_iff.1 hdb
    obtain ⟨types, htypes, hdb⟩ := Option.bind_eq_some_iff.1 hdb
    obtain ⟨typed, htyped, hdb⟩ := Option.bind_eq_some_iff.1 hdb
    obtain ⟨namespaces, -, hdb⟩ := Option.bind_eq_some_iff.1 hdb
    obtain ⟨named, -, hdb⟩ := Option.bind_eq_some_iff.1 hdb
    obtain ⟨functions, hfunctions, hdb⟩ := Option.bind_eq_some_iff.1 hdb
    cases h with
    | @pointer before after entry _ _ hlist _ hentry =>
      obtain rfl := Option.some.inj (htypes.symm.trans (optionalMembers?_eq_some hlist))
      have hmem : entry ∈ before ++ entry :: after := by simp
      cases (foldlM_eq_none_of_mem hmem (addType?_of_isPointer hentry) categorized).symm.trans htyped
    | @function _ _ before after entry _ _ _ _ _ _ _ hlist _ hentry =>
      obtain rfl := Option.some.inj (hfunctions.symm.trans (optionalMembers?_eq_some hlist))
      have hmem : entry ∈ before ++ entry :: after := by simp
      cases (foldlM_eq_none_of_mem hmem (addFunction?_of_ne_object hentry) named).symm.trans hdb

/-- The values of the document are of the types that are written: if nothing in it is at fault, it
has a database. -/
def IsTyped (document : Json) : Prop :=
  check document = .ok () → (toDatabase? document).isSome

/-- A typed document without a database really has the fault that is reported. -/
lemma IsTyped.check_eq_error {document : Json} (h : IsTyped document)
    (hnone : toDatabase? document = none) : check document = .error (firstError document) := by
  cases hcheck : check document with
  | ok _ => simpa [hnone] using h hcheck
  | error error => rw [firstError, hcheck]

end Document

end BindingSync
