import BindingSync.Proofs.Sync.Creation
import BindingSync.Proofs.Sync.Failures

/-!
# The namespaces of classes

Every function that a run creates stands in the namespace of its class, and the path of that
namespace is the name of the class, cut at its separators.  Whether the namespace is a class too is
decided when it is made, and it is made for whoever needs it first: a class that lies inside another
one makes a plain namespace of the outer one, and the outer one then finds it there.

`Database.MadeFor` tells the history of a database by the entries for which its functions were
created, over all files and all runs, and `Database.namespace_of_madeFor` says of each of them which
namespace its function got and when that is a class: if and only if no class strictly inside it was
needed before every entry of the class itself.
-/

namespace BindingSync

open BindingSync.Text
open BindingSync.Dialogue (Transcript)

/-! ### Names that are cut at their separators -/

namespace QualifiedName

/-- A piece without a colon is cut off at the separator behind it. -/
lemma split_append_separator {piece : List Char} (h : ':' ∉ piece) (rest : List Char) :
    split (piece ++ ':' :: ':' :: rest) = (piece, (split rest).1 :: (split rest).2) := by
  induction piece with
  | nil => rw [List.nil_append, split]
  | cons c piece ih =>
    obtain ⟨hc, hpiece⟩ := not_or.1 (mt List.mem_cons.2 h)
    rw [List.cons_append, split, ih hpiece]
    rintro _ rfl _
    exact hc rfl

/-- Nothing is cut where there is no colon. -/
lemma split_of_not_mem {piece : List Char} (h : ':' ∉ piece) : split piece = (piece, []) := by
  induction piece with
  | nil => rw [split]
  | cons c piece ih =>
    obtain ⟨hc, hpiece⟩ := not_or.1 (mt List.mem_cons.2 h)
    rw [split, ih hpiece]
    rintro _ rfl _
    exact hc rfl

/-- Pieces without colons are what is found between the separators. -/
lemma split_intercalate {first : List Char} {rest : List (List Char)}
    (h : ∀ piece ∈ first :: rest, ':' ∉ piece) :
    split ([':', ':'].intercalate (first :: rest)) = (first, rest) := by
  induction rest generalizing first with
  | nil =>
    rw [List.intercalate_singleton]
    exact split_of_not_mem (h first List.mem_cons_self)
  | cons next rest ih =>
    obtain ⟨hfirst, hrest⟩ := List.forall_mem_cons.1 h
    have hcut := split_append_separator hfirst ([':', ':'].intercalate (next :: rest))
    rw [ih hrest] at hcut
    rwa [List.intercalate_cons_cons, List.append_assoc]

/-- There is no colon in a word. -/
lemma colon_not_mem_of_isIdentifier {text : String} (h : Binding.IsIdentifier text) :
    ':' ∉ text.toList := by
  intro hmem
  obtain ⟨c, hhead, -, hstarts⟩ := h.starts
  obtain ⟨rest, htext⟩ : ∃ rest, text.toList = c :: rest := List.head?_eq_some_iff.1 hhead
  rw [htext, List.mem_cons] at hmem
  rcases hmem with rfl | hmem
  · exact absurd hstarts (by decide)
  · have hcontinues := h.continues ':' (by rwa [htext])
    exact absurd hcontinues (by decide)

/-- A name of words is read back from what it writes. -/
lemma segments_ofString_toString {name : QualifiedName} (h : name.WellFormed) :
    (ofString name.toString).segments = name.segments := by
  obtain ⟨first, rest, hsegments⟩ := List.exists_cons_of_ne_nil name.segments_ne_nil
  have hwords : ∀ piece ∈ first.toList :: rest.map String.toList, ':' ∉ piece := by
    rw [← List.map_cons, ← hsegments]
    intro piece hpiece
    obtain ⟨segment, hmem, rfl⟩ := List.mem_map.1 hpiece
    exact colon_not_mem_of_isIdentifier (h segment hmem)
  have hsplit : split name.toString.toList = (first.toList, rest.map String.toList) := by
    rw [toString, join, hsegments, String.toList_intercalate, List.map_cons]
    exact split_intercalate hwords
  have hrest : (rest.map String.toList).map String.ofList = rest := by
    simp [Function.comp_def]
  rw [ofString, hsplit]
  simp only [String.ofList_toList, hrest, segments_ofSegments, hsegments]

end QualifiedName

namespace Sync

open BindingSync.Binding
open Database (Frame)

/-- The path that the name of the class of an entry writes. -/
def Entry.classPath (e : Entry) : List WideString :=
  (QualifiedName.ofString e.cls.name.toString).segments.map .plain

/-- The namespace of the class of an entry has that path. -/
lemma Entry.classPath_eq {e : Entry} (h : e.cls.WellFormed) : e.classPath = namespaceOf e.cls := by
  rw [classPath, QualifiedName.segments_ofString_toString h.name, namespaceOf]

/-- There is a word in every path. -/
lemma Entry.classPath_ne_nil (e : Entry) : e.classPath ≠ [] :=
  mt List.map_eq_nil_iff.1 (QualifiedName.segments_ne_nil _)

end Sync

/-! ### Histories -/

namespace Database

open BindingSync.Sync (Source Entry entries creators)

/-- The databases that come of an empty one by runs, however these end, and the entries for which
functions were created in them, in this order. -/
inductive MadeFor : List Entry → Database → Prop
  | new (imageBase : Option Int) (pointerSize integerSize : Int) :
      MadeFor [] { imageBase, pointerSize, integerSize }
  | synchronize {created : List Entry} {db : Database} (h : MadeFor created db)
      {platform : Platform} {files : List Source} {log : Transcript} {outcome : Outcome Unit}
      (hends : (synchronize platform files db).Ends log outcome) :
      MadeFor (created ++ creators db outcome.progress.db (entries platform files))
        outcome.progress.db

variable {created : List Entry} {db : Database}

/-- The classes of the entries are such as a parser makes. -/
lemma wellFormed_of_madeFor (h : db.MadeFor created) : ∀ e ∈ created, e.cls.WellFormed := by
  induction h with
  | new => simp
  | synchronize _ _ ih =>
    intro e hmem
    rcases List.mem_append.1 hmem with hmem | hmem
    · exact ih e hmem
    · exact (Sync.wellFormed_of_mem_entries (Sync.mem_of_mem_creators hmem)).1

/-- All functions were created for some entry. -/
lemma exists_creator_of_madeFor (h : db.MadeFor created) {address : Int}
    (hfunction : (db.functionAt? address).isSome) : ∃ e ∈ created, e.address? db = some address := by
  induction h with
  | new => cases hfunction
  | @synchronize created db h platform files log outcome hends ih =>
    have hframe := (Sync.creates_of_ends hends).frame
    by_cases hold : (db.functionAt? address).isSome
    · obtain ⟨e, hmem, haddress⟩ := ih hold
      exact ⟨e, List.mem_append_left _ hmem,
        (Sync.address?_of_grows hframe.toGrows e).trans haddress⟩
    · have htouched : Sync.IsAddressOf (entries platform files) db address := by
        by_contra hfree
        rw [hframe.untouched hfree] at hfunction
        exact hold hfunction
      obtain ⟨e, hmem, haddress⟩ := htouched
      have hafter : e.address? outcome.progress.db = some address :=
        (Sync.address?_of_grows hframe.toGrows e).trans haddress
      have hadded :
          Sync.isAddition (e.function? db) (e.function? outcome.progress.db) = true := by
        rw [Entry.function?, Entry.function?, haddress, hafter, Option.bind_some, Option.bind_some,
          Sync.isAddition, hfunction, Bool.and_true]
        simpa using hold
      obtain ⟨creator, hcreator, hoffset⟩ := Sync.exists_creator hmem hadded
      refine ⟨creator, List.mem_append_right _ hcreator, ?_⟩
      rw [Entry.address?, hoffset, ← Entry.address?, hafter]

/-- The functions stand in the namespaces of the classes of their entries. -/
lemma function?_of_madeFor (h : db.MadeFor created) : ∀ e ∈ created, ∃ function,
    e.function? db = some function ∧ function.name = e.decl.name ∧
      function.namespacePath = some (Sync.namespaceOf e.cls) := by
  induction h with
  | new => simp
  | synchronize _ hends ih =>
    intro e hmem
    have hcreates := Sync.creates_of_ends hends
    rcases List.mem_append.1 hmem with hmem | hmem
    · obtain ⟨function, hfunction, hname, hpath⟩ := ih e hmem
      obtain ⟨new, hnew, hname', hpath'⟩ := Sync.function?_kept hcreates.frame hfunction
      exact ⟨new, hnew, hname'.trans hname, hpath'.trans hpath⟩
    · exact hcreates.functions e hmem

/-- The namespaces were made for one class after the other. -/
lemma hasNamespacesOf_of_madeFor (h : db.MadeFor created) :
    db.HasNamespacesOf (created.map fun e => Sync.namespaceOf e.cls) := by
  induction h with
  | new => exact fun path _ => rfl
  | synchronize _ hends ih =>
    rw [List.map_append]
    exact (Sync.creates_of_ends hends).namespaces _ ih

/-- A class lies at a path before any class lies strictly inside it. -/
def IsFirstAt (created : List Entry) (path : List WideString) : Prop :=
  ∃ front first back, created = front ++ first :: back ∧ first.classPath = path ∧
    ∀ other ∈ front, ¬path <+: other.classPath

/-- The namespace of a class is a class exactly if it was needed for that class before it was needed
for a class inside. -/
theorem namespace_of_madeFor (h : db.MadeFor created) :
    (∀ address, (db.functionAt? address).isSome → ∃ e ∈ created, e.address? db = some address) ∧
      ∀ e ∈ created, ∃ function space, e.function? db = some function ∧
        function.name = e.decl.name ∧ function.namespacePath = some e.classPath ∧
        db.namespaceAt? e.classPath = some space ∧ space.path = e.classPath ∧
        (space.isClass = true ↔ IsFirstAt created e.classPath) := by
  have hnames : ∀ e ∈ created, e.classPath = Sync.namespaceOf e.cls := fun e hmem =>
    Entry.classPath_eq (wellFormed_of_madeFor h e hmem)
  have hclasses : created.map (fun e => Sync.namespaceOf e.cls) = created.map Entry.classPath :=
    List.map_congr_left fun e hmem => (hnames e hmem).symm
  refine ⟨fun address => exists_creator_of_madeFor h, fun e hmem => ?_⟩
  obtain ⟨function, hfunction, hname, hpath⟩ := function?_of_madeFor h e hmem
  have hfound := hasNamespacesOf_of_madeFor h e.classPath e.classPath_ne_nil
  rw [hclasses, List.find?_map, Option.map_map] at hfound
  -- The namespace was made for the first class that lies at the path or inside it.
  obtain ⟨first, hfirst⟩ : ∃ first,
      created.find? (fun other => e.classPath <+: other.classPath) = some first :=
    Option.isSome_iff_exists.1 (List.find?_isSome.2 ⟨e, hmem, by simp⟩)
  have hnamespace : db.namespaceAt? e.classPath =
      some ⟨e.classPath, e.classPath = first.classPath⟩ := by
    rw [hfound]
    exact congrArg (Option.map _) hfirst
  refine ⟨function, _, hfunction, hname, by rw [hpath, hnames e hmem], hnamespace, rfl, ?_⟩
  rw [decide_eq_true_iff]
  constructor
  · intro hclass
    obtain ⟨-, front, back, hsplit, hfront⟩ := List.find?_eq_some_iff_append.1 hfirst
    exact ⟨front, first, back, hsplit, hclass.symm, by simpa using hfront⟩
  · rintro ⟨front, other, back, hsplit, hother, hfront⟩
    have hfind : created.find? (fun other => e.classPath <+: other.classPath) = some other :=
      List.find?_eq_some_iff_append.2 ⟨by simp [hother], front, back, hsplit, by simpa using hfront⟩
    obtain rfl := Option.some.inj (hfirst.symm.trans hfind)
    exact hother.symm

/-- A binding file in which a class stands behind a class inside it. -/
def menuFile : Source where
  label := "menu.bro"
  text := .ok
    "class Menu::Item \x7b\n  void draw() = win 0x10;\n\x7d\nclass Menu \x7b\n  void open() = win 0x20;\n\x7d\n"

/-- The functions of a menu are created for its item first, so that the namespace of the item is a
class. -/
theorem namespace_of_madeFor_menu :
    ∃ (created : List Entry) (db : Database), db.MadeFor created ∧
      created.map Entry.classPath = [[.plain "Menu", .plain "Item"], [.plain "Menu"]] ∧
      ∃ item ∈ created, ∃ function space, item.function? db = some function ∧
        function.name = item.decl.name ∧ function.namespacePath = some item.classPath ∧
        db.namespaceAt? item.classPath = some space ∧ space.isClass = true := by
  let run := (synchronize .windows [menuFile] {}).runFixed .useIncoming
  obtain ⟨log, hends, -⟩ := Dialogue.exists_ends_runFixed .useIncoming
    (synchronize .windows [menuFile] {})
  let created := creators {} run.progress.db (entries .windows [menuFile])
  have hmade : run.progress.db.MadeFor created :=
    (MadeFor.new (some 0x400000) 4 4).synchronize hends
  have hpaths :
      created.map Entry.classPath = [[.plain "Menu", .plain "Item"], [.plain "Menu"]] := by
    decide +kernel
  obtain ⟨item, rest, hcreated, hitem, -⟩ := List.map_eq_cons_iff.1 hpaths
  have hmem : item ∈ created := by
    rw [hcreated]
    exact List.mem_cons_self
  have hfirst : IsFirstAt created item.classPath := ⟨[], item, rest, hcreated, rfl, by simp⟩
  obtain ⟨function, space, hfunction, hname, hpath, hnamespace, -, hclass⟩ :=
    (namespace_of_madeFor hmade).2 item hmem
  exact ⟨created, run.progress.db, hmade, hpaths, item, hmem, function, space, hfunction, hname,
    hpath, hnamespace, hclass.2 hfirst⟩

/-- The menu itself finds the plain namespace that was made on the way to its item. -/
theorem namespace_not_class_menu :
    ∃ (log : Transcript) (outcome : Outcome Unit) (function : FunctionRecord),
      (synchronize .windows [menuFile] {}).Ends log outcome ∧ outcome.isDone = true ∧
      outcome.progress.added = ["Menu::Item::draw", "Menu::open"] ∧
      outcome.progress.db.functionAt? 0x400020 = some function ∧ function.name = .plain "open" ∧
      function.namespacePath = some [.plain "Menu"] ∧
      outcome.progress.db.namespaceAt? [.plain "Menu"] = some ⟨[.plain "Menu"], false⟩ := by
  let run := (synchronize .windows [menuFile] {}).runFixed .useIncoming
  obtain ⟨log, hends, -⟩ := Dialogue.exists_ends_runFixed .useIncoming
    (synchronize .windows [menuFile] {})
  obtain ⟨hdone, hadded, hfunction, hnamespace⟩ : run.isDone = true ∧
      run.progress.added = ["Menu::Item::draw", "Menu::open"] ∧
      (run.progress.db.functionAt? 0x400020).map (fun f => (f.name, f.namespacePath)) =
        some (.plain "open", some [.plain "Menu"]) ∧
      run.progress.db.namespaceAt? [.plain "Menu"] = some ⟨[.plain "Menu"], false⟩ := by
    decide +kernel
  obtain ⟨function, hfound, hdata⟩ := Option.map_eq_some_iff.1 hfunction
  obtain ⟨hname, hpath⟩ := Prod.mk.inj hdata
  exact ⟨log, run, function, hends, hdone, hadded, hfound, hname, hpath, hnamespace⟩

end Database

end BindingSync
