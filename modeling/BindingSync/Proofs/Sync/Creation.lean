import BindingSync.Proofs.Database.Sound
import BindingSync.Proofs.Sync.Fate

/-!
# What a run creates

A function that a run creates comes with the namespace of its class.  `Sync.creators` reads off two
databases for which entries functions were created between them, and `Sync.Creates` says what else
is there for it: the function stands in the namespace of the class of its entry, and the namespaces
are made for one such class after the other (`Database.HasNamespacesOf`).

Who is first decides: a namespace is made on the way to the first class that lies at its path or
inside it, and it is a class only if the way ends there.  It is never looked at again but by its
path.  So all that has to be known of a history is the order in which classes got their first
functions.
-/

namespace BindingSync

open BindingSync.Binding
open BindingSync.Text
open BindingSync.Dialogue (Transcript)

/-! ### Namespaces -/

namespace Database

/-- A namespace that is added is found where there was none before. -/
lemma namespaceAt?_addNamespace (db : Database) (added : Namespace) (path : List WideString) :
    (db.addNamespace added).namespaceAt? path =
      (db.namespaceAt? path).or (if added.path = path then some added else none) := by
  simp only [namespaceAt?, addNamespace, List.find?_append, List.find?_singleton,
    decide_eq_true_eq]

/-- A database has the namespaces of some classes, made for one after the other: each stands on
the way to the first class that lies at its path or inside it, and is a class if the way ends
there. -/
def HasNamespacesOf (db : Database) (classes : List (List WideString)) : Prop :=
  ∀ path, path ≠ [] → db.namespaceAt? path =
    (classes.find? (path <+: ·)).map fun first => ⟨path, path = first⟩

/-- The namespaces are a matter of nothing else in a database. -/
lemma HasNamespacesOf.of_namespaces {db db' : Database} {classes : List (List WideString)}
    (h : db.HasNamespacesOf classes) (hsame : db'.namespaces = db.namespaces) :
    db'.HasNamespacesOf classes := by
  intro path hne
  rw [namespaceAt?, hsame]
  exact h path hne

end Database

namespace Sync

open Database (Frame HasNamespacesOf beginnings)

/-- On the way to a path, a namespace is made wherever there is none, and only the one at the end
is a class. -/
lemma namespaceAt?_namespacesBelow (db : Database) (parent path other : List WideString) :
    (namespacesBelow db parent path).namespaceAt? other =
      (db.namespaceAt? other).or
        (if other ∈ beginnings parent path then some ⟨other, other = parent ++ path⟩ else none) := by
  induction path generalizing db parent with
  | nil => simp [namespacesBelow, beginnings]
  | cons segment rest ih =>
    have hpath : parent ++ [segment] ++ rest = parent ++ segment :: rest := by simp
    rw [namespacesBelow, beginnings]
    cases hfound : db.namespaceAt? (parent ++ [segment]) with
    | some entry =>
      rw [ih, hpath]
      by_cases hother : other = parent ++ [segment]
      · rw [hother, hfound, Option.some_or, Option.some_or]
      · simp only [List.mem_cons, hother, false_or]
    | none =>
      rw [ih, hpath, Database.namespaceAt?_addNamespace]
      by_cases hother : other = parent ++ [segment]
      · have hclass : decide (parent ++ [segment] = parent ++ segment :: rest) = rest.isEmpty := by
          cases rest <;> simp
        subst hother
        rw [hfound, hclass]
        simp
      · simp [hother, Ne.symm hother]

/-- Making the namespaces of one more class. -/
lemma hasNamespacesOf_namespacesBelow {db : Database} {classes : List (List WideString)}
    (h : db.HasNamespacesOf classes) (path : List WideString) :
    (namespacesBelow db [] path).HasNamespacesOf (classes ++ [path]) := by
  intro other hne
  rw [namespaceAt?_namespacesBelow, h other hne, List.find?_append, Option.map_or,
    List.find?_singleton]
  congr 1
  by_cases hbefore : other <+: path
  · simp [Database.mem_beginnings_nil_iff, hbefore, hne]
  · simp [Database.mem_beginnings_nil_iff, hbefore]

/-! ### Entries for which functions are created -/

/-- The function of an entry is a matter of its offset. -/
lemma Entry.function?_congr {e other : Entry} (h : e.offset = other.offset) (db : Database) :
    e.function? db = other.function? db := by
  rw [Entry.function?, Entry.address?, h, Entry.function?, Entry.address?]

/-- The function of an entry keeps its name and its namespace. -/
lemma function?_kept {touched : Int → Prop} {db db' : Database} (h : Frame touched db db')
    {e : Entry} {old : FunctionRecord} (hold : e.function? db = some old) :
    ∃ new, e.function? db' = some new ∧ new.name = old.name ∧
      new.namespacePath = old.namespacePath := by
  obtain ⟨address, haddress, hfound⟩ := Option.bind_eq_some_iff.1 hold
  obtain ⟨new, hnew, -, hname, hpath⟩ := h.kept hfound
  refine ⟨new, ?_, hname, hpath⟩
  rw [Entry.function?, address?_of_grows h.toGrows, haddress, Option.bind_some, hnew]

/-- The entries for which functions were created between two databases: of those with the same
offset, the first. -/
def creators (before after : Database) : List Entry → List Entry
  | [] => []
  | e :: rest =>
    if isAddition (e.function? before) (e.function? after) then
      e :: (creators before after rest).filter (·.offset ≠ e.offset)
    else creators before after rest

/-- The entries are among those that were given. -/
lemma mem_of_mem_creators {before after : Database} {list : List Entry} {e : Entry}
    (h : e ∈ creators before after list) : e ∈ list := by
  induction list with
  | nil => exact h
  | cons first rest ih =>
    rw [creators] at h
    split at h
    · rcases List.mem_cons.1 h with rfl | h
      · exact List.mem_cons_self
      · exact List.mem_cons_of_mem _ (ih (List.mem_filter.1 h).1)
    · exact List.mem_cons_of_mem _ (ih h)

/-- Each function that was added was created for one of the entries. -/
lemma exists_creator {before after : Database} {list : List Entry} {e : Entry} (hmem : e ∈ list)
    (hadded : isAddition (e.function? before) (e.function? after) = true) :
    ∃ creator ∈ creators before after list, creator.offset = e.offset := by
  induction list with
  | nil => cases hmem
  | cons first rest ih =>
    rw [creators]
    rcases List.mem_cons.1 hmem with rfl | hmem
    · exact ⟨e, by simp [hadded], rfl⟩
    · obtain ⟨creator, hcreator, hoffset⟩ := ih hmem
      split
      · by_cases hfirst : creator.offset = first.offset
        · exact ⟨first, List.mem_cons_self, hfirst.symm.trans hoffset⟩
        · exact ⟨creator, by simp [hcreator, hfirst], hoffset⟩
      · exact ⟨creator, hcreator, hoffset⟩

/-- Who is created for depends on where there were no functions before. -/
lemma creators_congr {a b c : Database} {list : List Entry}
    (h : ∀ e ∈ list, (e.function? b).isNone = (e.function? a).isNone) :
    creators a c list = creators b c list := by
  induction list with
  | nil => rfl
  | cons first rest ih =>
    obtain ⟨hfirst, hrest⟩ := List.forall_mem_cons.1 h
    rw [creators, creators, ih hrest, isAddition, ← hfirst, isAddition]

/-- Nothing is created where nothing changes. -/
lemma creators_self (db : Database) (list : List Entry) : creators db db list = [] := by
  induction list with
  | nil => rfl
  | cons first rest ih =>
    have hnot : isAddition (first.function? db) (first.function? db) = false := by
      cases first.function? db <;> rfl
    rw [creators, hnot, if_neg Bool.false_ne_true, ih]

/-- Once a function has been created, the others are those that were not created with it. -/
lemma filter_creators {a b c : Database} {offset : Int} {list : List Entry}
    (hsame : ∀ e ∈ list, e.offset ≠ offset → e.function? b = e.function? a)
    (hthere : ∀ e ∈ list, e.offset = offset → (e.function? b).isSome) :
    (creators a c list).filter (·.offset ≠ offset) = creators b c list := by
  induction list with
  | nil => rfl
  | cons first rest ih =>
    obtain ⟨hfirst, hrest⟩ := List.forall_mem_cons.1 hsame
    obtain ⟨hfirst', hrest'⟩ := List.forall_mem_cons.1 hthere
    have hothers := ih hrest hrest'
    rw [creators, creators]
    by_cases hoffset : first.offset = offset
    · have hold : isAddition (first.function? b) (first.function? c) = false := by
        obtain ⟨function, hfunction⟩ := Option.isSome_iff_exists.1 (hfirst' hoffset)
        rw [hfunction]
        rfl
      rw [hold, if_neg Bool.false_ne_true, ← hothers]
      split
      · simp [hoffset, List.filter_filter]
      · rfl
    · rw [hfirst hoffset, ← hothers]
      split
      · simp [hoffset, List.filter_filter, Bool.and_comm]
      · rfl

/-- An entry that touches its own function only is followed by what is created behind it. -/
lemma creators_cons {a b c : Database} {first : Entry} {rest : List Entry}
    (hframe : Frame (IsAddressOf [first] a) a b)
    (hfirst : (first.function? c).isSome = (first.function? b).isSome) :
    creators a c (first :: rest) = creators a b [first] ++ creators b c rest := by
  have hsame : ∀ e ∈ rest, e.offset ≠ first.offset → e.function? b = e.function? a :=
    fun e _ hother => function?_of_frame hframe (by simpa using hother)
  have hadds : isAddition (first.function? a) (first.function? c) =
      isAddition (first.function? a) (first.function? b) := by
    rw [isAddition, hfirst, isAddition]
  rw [creators, hadds, creators, creators]
  split
  · next hadded =>
    have hthere : ∀ e ∈ rest, e.offset = first.offset → (e.function? b).isSome := by
      intro e _ hoffset
      rw [Entry.function?_congr hoffset]
      exact (Bool.and_eq_true_iff.1 hadded).2
    rw [filter_creators hsame hthere, List.filter_nil, List.singleton_append]
  · next hold =>
    have hfirst' : (first.function? b).isNone = (first.function? a).isNone := by
      cases hbefore : first.function? a with
      | none =>
        rw [hbefore] at hold
        simpa [isAddition] using hold
      | some old =>
        obtain ⟨new, hnew, -⟩ := function?_kept hframe hbefore
        rw [hnew]
        rfl
    refine creators_congr fun e hmem => ?_
    by_cases hoffset : e.offset = first.offset
    · rw [Entry.function?_congr hoffset, Entry.function?_congr hoffset, hfirst']
    · rw [hsame e hmem hoffset]

/-! ### Runs -/

variable {before after : Progress} {log : Transcript} {platform : Platform}

/-- What becomes of a database while some entries are handled: it changes at their addresses only,
the functions that are created for some of them stand in the namespaces of their classes, and these
namespaces are made in this order. -/
structure Creates (list : List Entry) (before after : Database) : Prop where
  frame : Frame (IsAddressOf list before) before after
  functions : ∀ e ∈ creators before after list, ∃ function, e.function? after = some function ∧
    function.name = e.decl.name ∧ function.namespacePath = some (namespaceOf e.cls)
  namespaces : ∀ classes, before.HasNamespacesOf classes → after.HasNamespacesOf
    (classes ++ (creators before after list).map fun e => namespaceOf e.cls)

/-- Handling no entry creates nothing. -/
lemma Creates.refl (list : List Entry) (db : Database) : Creates list db db where
  frame := .refl db
  functions e hmem := by
    rw [creators_self] at hmem
    cases hmem
  namespaces classes h := by rwa [creators_self, List.map_nil, List.append_nil]

/-- Behind an entry the others are handled. -/
lemma Creates.cons {a b c : Database} {first : Entry} {rest : List Entry}
    (hab : Creates [first] a b) (hbc : Creates rest b c)
    (hfirst : (first.function? c).isSome = (first.function? b).isSome) :
    Creates (first :: rest) a c := by
  have hcreators : creators a c (first :: rest) = creators a b [first] ++ creators b c rest :=
    creators_cons hab.frame hfirst
  have hmore : ∀ address, IsAddressOf rest b address → IsAddressOf (first :: rest) a address := by
    intro address haddress
    obtain ⟨e, hmem, he⟩ := isAddressOf_of_grows hab.frame.toGrows haddress
    exact ⟨e, List.mem_cons_of_mem _ hmem, he⟩
  have hone : ∀ address, IsAddressOf [first] a address → IsAddressOf (first :: rest) a address := by
    rintro address ⟨e, hmem, he⟩
    exact ⟨e, List.mem_cons.2 (.inl (List.mem_singleton.1 hmem)), he⟩
  refine ⟨(hab.frame.mono hone).trans (hbc.frame.mono hmore), ?_, ?_⟩
  · intro e hmem
    rw [hcreators, List.mem_append] at hmem
    rcases hmem with hmem | hmem
    · obtain ⟨function, hfunction, hname, hpath⟩ := hab.functions e hmem
      obtain ⟨new, hnew, hname', hpath'⟩ := function?_kept hbc.frame hfunction
      exact ⟨new, hnew, hname'.trans hname, hpath'.trans hpath⟩
    · exact hbc.functions e hmem
  · intro classes h
    rw [hcreators, List.map_append, ← List.append_assoc]
    exact hbc.namespaces _ (hab.namespaces classes h)

/-- A function that is located, with whatever is written for it later, is found or created. -/
lemma creates_of_located {e : Entry} {base : Int} {function result : FunctionRecord} {isNew : Bool}
    {start : Progress} {db : Database} (hbase : before.db.imageBase = some base)
    (located : Located e.cls e.decl (base + e.offset) before function isNew start)
    (hframe : Frame (IsAddressOf [e] before.db) before.db db)
    (hnamespaces : db.namespaces = start.db.namespaces) (hresult : e.function? db = some result)
    (hname : result.name = function.name) (hpath : result.namespacePath = function.namespacePath) :
    Creates [e] before.db db := by
  have haddress : e.address? before.db = some (base + e.offset) := by
    rw [Entry.address?, hbase]
    rfl
  have hbefore : e.function? before.db = before.db.functionAt? (base + e.offset) := by
    rw [Entry.function?, haddress, Option.bind_some]
  cases located with
  | found hfound =>
    have hnone : creators before.db db [e] = [] := by
      rw [creators, hbefore, hfound]
      rfl
    refine ⟨hframe, ?_, ?_⟩
    · rw [hnone]
      simp
    · intro classes h
      rw [hnone, List.map_nil, List.append_nil]
      exact h.of_namespaces hnamespaces
  | created hfree _ =>
    have hone : creators before.db db [e] = [e] := by
      rw [creators, hbefore, hfree, hresult]
      rfl
    refine ⟨hframe, ?_, ?_⟩
    · rw [hone]
      rintro other hmem
      obtain rfl := List.mem_singleton.1 hmem
      exact ⟨result, hresult, hname, hpath⟩
    · intro classes h
      rw [hone]
      have hbare : (before.db.putFunction
          { address := base + e.offset, name := e.decl.name }).HasNamespacesOf classes :=
        h.of_namespaces rfl
      exact (hasNamespacesOf_namespacesBelow hbare (namespaceOf e.cls)).of_namespaces hnamespaces

/-- What a step creates. -/
lemma Step.creates {e : Entry} (step : Step platform e.cls e.decl e.offset before log after) :
    Creates [e] before.db after.db := by
  have hnamespaces : after.db.namespaces = step.start.db.namespaces := by
    rw [step.db_eq]
    exact step.resolving.namespaces
  exact creates_of_located step.imageBase_eq step.located
    (step.frame_of_mem (List.mem_singleton_self e)) hnamespaces step.function?_after
    (by rw [step.result_eq]; rfl) (by rw [step.result_eq]; rfl)

/-- A step that stops may have created its function. -/
lemma Halted.creates {e : Entry} {cause : Stop}
    (h : Halted platform e.cls e.decl e.offset before log cause after) :
    Creates [e] before.db after.db := by
  rcases h.cases_db with hdb | ⟨base, function, _, start, typed, _, _, hbase, located, introduces,
    hdb⟩
  · rw [hdb]
    exact .refl _ _
  · have hframe : Frame (IsAddressOf [e] before.db) before.db after.db :=
      h.frame.mono fun address haddress => ⟨e, List.mem_singleton_self _, haddress⟩
    have hfunction : e.function? after.db = some function := by
      rw [Entry.function?, address?_of_grows hframe.toGrows, Entry.address?, hbase, hdb]
      change typed.db.functionAt? (base + e.offset) = some function
      rw [introduces.functionAt?, located.functionAt?, if_pos rfl]
    have hnamespaces : after.db.namespaces = start.db.namespaces := by
      rw [hdb]
      exact introduces.namespaces
    exact creates_of_located hbase located hframe hnamespaces hfunction rfl rfl

/-- What is created by the steps of some entries, in front of what is created behind them. -/
lemma creates_append_of_returns_each {handled rest : List Entry} {final : Database}
    (h : (each (entry platform) handled).Returns before log () after)
    (hrest : Creates rest after.db final) : Creates (handled ++ rest) before.db final := by
  induction handled generalizing before log with
  | nil =>
    obtain ⟨-, -, rfl⟩ := returns_pure_iff.1 h
    exact hrest
  | cons first others ih =>
    obtain ⟨_, between, _, -, ⟨step⟩, hothers⟩ := returns_each_cons h
    have hlater := ih hothers
    obtain ⟨new, hnew, -⟩ := function?_kept hlater.frame step.function?_after
    exact step.creates.cons hlater (by rw [hnew, step.function?_after]; rfl)

/-- What a run creates, however it ends. -/
theorem creates_of_ends {files : List Source} {db : Database} {outcome : Outcome Unit}
    (hends : (synchronize platform files db).Ends log outcome) :
    Creates (entries platform files) db outcome.progress.db := by
  cases outcome with
  | done _ progress =>
    have hall := creates_append_of_returns_each (returns_each_of_returns_sources hends)
      (.refl [] progress.db)
    rwa [List.append_nil] at hall
  | stopped cause progress =>
    cases cutShort_of_stops hends with
    | atFile hentries _ _ hhandled =>
      rw [hentries]
      exact creates_append_of_returns_each hhandled (.refl _ _)
    | @atEntry _ rest e _ _ _ between _ hentries hhandled hstops =>
      rw [hentries]
      have hlast : Creates (e :: rest) between.db progress.db :=
        (halted_of_stops hstops).creates.cons (.refl _ _) rfl
      exact creates_append_of_returns_each hhandled hlast

end Sync

end BindingSync
