import BindingSync.Proofs.Sync.Step

/-!
# The entries of a run

A run goes through files, classes and functions, but all that it does is done by the
declarations that have an offset on the platform: its entries.  `Sync.sources_eq_each` says
that a run over readable files is one step after the other for its entries, and
`Sync.readable_of_returns` that a run that comes to its end read all its files.

Entries with distinct offsets do not get into each other's way: what the step of an entry wrote
is still there at the end of the run, and it started from what was there before the run
(`Sync.exists_step_of_mem`).
-/

namespace BindingSync

open BindingSync.Binding
open BindingSync.Dialogue (Transcript)

namespace Sync

variable {before after : Progress} {log : Transcript}

/-! ### Entries -/

/-- A declaration with its class and its offset on the platform. -/
structure Entry where
  cls : ClassDecl
  decl : FunctionDecl
  offset : Int

/-- The qualified name by which an entry is reported. -/
def Entry.location (e : Entry) : String :=
  e.cls.qualify e.decl

/-- The classes of a binding file; one that cannot be read declares none. -/
def Source.classes (file : Source) : List ClassDecl :=
  match file.text with
  | .error _ => []
  | .ok text =>
    match parse text with
    | .error _ => []
    | .ok classes => classes

/-- A binding file can be read. -/
def Source.IsReadable (file : Source) : Prop :=
  ∃ text, file.text = .ok text ∧ parse text = .ok file.classes

/-- The entries of a class. -/
def entriesOf (platform : Platform) (cls : ClassDecl) : List Entry :=
  cls.functions.filterMap fun decl =>
    (decl.offsetOn? platform.tag).map fun offset => ⟨cls, decl, offset⟩

/-- The entries of binding files, in the order in which they are handled. -/
def entries (platform : Platform) (files : List Source) : List Entry :=
  files.flatMap fun file => file.classes.flatMap (entriesOf platform)

/-- Synchronizes an entry. -/
def entry (platform : Platform) (entry : Entry) : Sync Unit :=
  addressed platform entry.cls entry.decl entry.offset

/-! ### Runs as sequences of steps -/

/-- Doing one thing after the other for two lists in a row. -/
lemma each_append {α : Type} (part : α → Sync Unit) (first second : List α) :
    each part (first ++ second) = each part first >>= fun _ => each part second := by
  induction first with
  | nil => rfl
  | cons a rest ih =>
    rw [List.cons_append, each, ih, each, bind_assoc]

/-- Doing, for each thing, one thing after the other. -/
lemma each_flatMap {α β : Type} (part : β → Sync Unit) (f : α → List β) (list : List α) :
    each part (list.flatMap f) = each (fun a => each part (f a)) list := by
  induction list with
  | nil => rfl
  | cons a rest ih => rw [List.flatMap_cons, each_append, each, ih]

/-- Only the declarations with an offset are synchronized. -/
lemma classDecl_eq_each (platform : Platform) (cls : ClassDecl) :
    classDecl platform cls = each (entry platform) (entriesOf platform cls) := by
  rw [classDecl, entriesOf]
  induction cls.functions with
  | nil => rfl
  | cons decl rest ih =>
    rw [each, declaration, ih, List.filterMap_cons]
    cases decl.offsetOn? platform.tag with
    | none => rfl
    | some offset => rfl

/-- A readable file is synchronized entry by entry. -/
lemma source_eq_each {platform : Platform} {file : Source} (h : file.IsReadable) :
    source platform file =
      each (entry platform) (file.classes.flatMap (entriesOf platform)) := by
  have hclass : classDecl platform = fun cls => each (entry platform) (entriesOf platform cls) :=
    funext (classDecl_eq_each platform)
  obtain ⟨text, htext, hparse⟩ := h
  rw [each_flatMap, ← hclass, source, htext]
  simp only [hparse]

/-- A run over readable files is one step after the other. -/
lemma sources_eq_each {platform : Platform} {files : List Source}
    (h : ∀ file ∈ files, file.IsReadable) :
    sources platform files = each (entry platform) (entries platform files) := by
  rw [entries, each_flatMap, sources]
  induction files with
  | nil => rfl
  | cons file rest ih =>
    rw [each, each, ih fun other hmem => h other (List.mem_cons_of_mem _ hmem),
      source_eq_each (h file List.mem_cons_self)]

/-- A run that comes to its end read all its files. -/
lemma readable_of_returns {platform : Platform} {files : List Source}
    (h : (sources platform files).Returns before log () after) :
    ∀ file ∈ files, file.IsReadable := by
  rw [sources] at h
  induction files generalizing before log with
  | nil => simp
  | cons file rest ih =>
    obtain ⟨first, _, between, second, hfirst, hrest, -⟩ := returns_bind_iff.1 h
    refine List.forall_mem_cons.2 ⟨?_, ih hrest⟩
    unfold source at hfirst
    split at hfirst
    · exact absurd hfirst not_returns_stop
    · next text htext =>
      split at hfirst
      · exact absurd hfirst not_returns_stop
      · next classes hparse =>
        exact ⟨text, htext, by rw [hparse, Source.classes, htext]; simp [hparse]⟩

/-- A run that comes to its end is one step after the other. -/
lemma returns_each_of_returns_sources {platform : Platform} {files : List Source}
    (h : (sources platform files).Returns before log () after) :
    (each (entry platform) (entries platform files)).Returns before log () after := by
  rwa [← sources_eq_each (readable_of_returns h)]

/-! ### What is left of a step at the end of a run -/

/-- A run consists of the step of its first entry and the run of the others. -/
lemma returns_each_cons {platform : Platform} {first : Entry} {rest : List Entry}
    (h : (each (entry platform) (first :: rest)).Returns before log () after) :
    ∃ log₁ between log₂, log = log₁ ++ log₂ ∧
      Nonempty (Step platform first.cls first.decl first.offset before log₁ between) ∧
      (each (entry platform) rest).Returns between log₂ () after := by
  obtain ⟨log₁, _, between, log₂, hfirst, hrest, rfl⟩ := returns_bind_iff.1 h
  exact ⟨log₁, between, log₂, rfl, nonempty_step_of_returns hfirst, hrest⟩

/-- What the steps of all entries keep, a run over them keeps. -/
lemma invariant_of_returns_each {platform : Platform} {list : List Entry} {P : Progress → Prop}
    (hstep : ∀ e ∈ list, ∀ {before log after},
      Step platform e.cls e.decl e.offset before log after → P before → P after)
    (h : (each (entry platform) list).Returns before log () after) (hbefore : P before) :
    P after := by
  induction list generalizing before log with
  | nil =>
    obtain ⟨-, -, rfl⟩ := returns_pure_iff.1 h
    exact hbefore
  | cons first rest ih =>
    obtain ⟨hfirst, hothers⟩ := List.forall_mem_cons.1 hstep
    obtain ⟨_, between, _, -, ⟨step⟩, hrest⟩ := returns_each_cons h
    exact ih hothers hrest (hfirst step hbefore)

/-- A run lets the database grow. -/
lemma grows_of_returns_each {platform : Platform} {list : List Entry}
    (h : (each (entry platform) list).Returns before log () after) : before.db.Grows after.db :=
  invariant_of_returns_each (P := fun progress => before.db.Grows progress.db)
    (fun _ _ _ _ _ step hgrows => hgrows.trans step.grows) h (.refl _)

/-- A run over any entry starts from an image base. -/
lemma exists_imageBase_of_mem {platform : Platform} {list : List Entry}
    (h : (each (entry platform) list).Returns before log () after) {e : Entry} (hmem : e ∈ list) :
    ∃ base, before.db.imageBase = some base := by
  cases list with
  | nil => simp at hmem
  | cons first rest =>
    obtain ⟨_, _, _, -, ⟨step⟩, -⟩ := returns_each_cons h
    exact ⟨step.imageBase, step.imageBase_eq⟩

/-- A run leaves the functions alone that stand at no address of an entry. -/
lemma functionAt?_of_returns_each {platform : Platform} {list : List Entry} {base address : Int}
    (h : (each (entry platform) list).Returns before log () after)
    (hbase : before.db.imageBase = some base)
    (haddress : ∀ entry ∈ list, base + entry.offset ≠ address) :
    after.db.functionAt? address = before.db.functionAt? address := by
  refine (invariant_of_returns_each (P := fun progress => progress.db.imageBase = some base ∧
    progress.db.functionAt? address = before.db.functionAt? address) ?_ h ⟨hbase, rfl⟩).2
  rintro e hmem start _ finish step ⟨hstart, hsame⟩
  have hstep : step.imageBase = base := Option.some.inj (step.imageBase_eq.symm.trans hstart)
  have hother : step.address ≠ address := by
    rw [Step.address, hstep]
    exact haddress e hmem
  exact ⟨step.grows.imageBase.trans hstart, by rw [step.functionAt?, if_neg hother, hsame]⟩

/-- With distinct offsets, every entry has a step that started from the function of the database
before the run, and whose result is the function of the database after it. -/
theorem exists_step_of_mem {platform : Platform} {list : List Entry} {base : Int}
    (h : (each (entry platform) list).Returns before log () after)
    (hbase : before.db.imageBase = some base)
    (hdistinct : (list.map Entry.offset).Nodup) {e : Entry} (hmem : e ∈ list) :
    ∃ start finish part, ∃ step : Step platform e.cls e.decl e.offset start part finish,
      step.imageBase = base ∧ before.db.Grows start.db ∧ finish.db.Grows after.db ∧
      start.db.functionAt? step.address = before.db.functionAt? step.address ∧
      after.db.functionAt? step.address = some step.result ∧ part ⊆ log := by
  induction list generalizing before log with
  | nil => simp at hmem
  | cons first rest ih =>
    obtain ⟨log₁, between, log₂, rfl, ⟨step⟩, hrest⟩ := returns_each_cons h
    have hstep : step.imageBase = base := Option.some.inj (step.imageBase_eq.symm.trans hbase)
    have hbetween : between.db.imageBase = some base := step.grows.imageBase.trans hbase
    obtain ⟨hfresh, hdistinct'⟩ := List.nodup_cons.1 hdistinct
    have hnew : ∀ other ∈ rest, base + other.offset ≠ step.address := fun other hother heq => by
      rw [Step.address, hstep] at heq
      have hoffset : other.offset = first.offset := by omega
      exact hfresh (hoffset ▸ List.mem_map_of_mem hother)
    rcases List.mem_cons.1 hmem with rfl | hmem
    · refine ⟨before, between, log₁, step, hstep, .refl _, grows_of_returns_each hrest, rfl, ?_,
        List.subset_append_left _ _⟩
      rw [functionAt?_of_returns_each hrest hbetween hnew, step.functionAt?, if_pos rfl]
    · obtain ⟨start, finish, part, later, hlater, hgrows, hgrows', hold, hresult, hpart⟩ :=
        ih hrest hbetween hdistinct' hmem
      have hother : step.address ≠ later.address := fun heq => by
        refine hnew e hmem ?_
        rw [heq, Step.address, hlater]
      refine ⟨start, finish, part, later, hlater, step.grows.trans hgrows, hgrows', ?_, hresult,
        fun x hx => List.mem_append_right _ (hpart hx)⟩
      rw [hold, step.functionAt?, if_neg hother]

/-! ### A small run -/

/-- A class with a function that is there already and one that is new. -/
def playerText : String :=
  "class Player \x7b\n  bool update(float dt) = win 0x10;\n  Team* team() = win 0x20;\n\x7d\n"

/-- The class of `playerText`. -/
def playerClass : ClassDecl where
  name := { base := "Player" }
  functions := [
    { name := "update"
      returnType := some (.mk { base := "bool" } [] false 0 0)
      params := [{ type := .mk { base := "float" } [] false 0 0, name := some "dt" }]
      addresses := [("win", 0x10)] },
    { name := "team"
      returnType := some (.mk { base := "Team" } [] false 1 0)
      addresses := [("win", 0x20)] }]

/-- The binding file of `playerText`. -/
def playerFile : Source where
  label := "player.bro"
  text := .ok playerText

/-- A database in which a user gave `update` another parameter than the binding file does. -/
def playerDatabase : Database :=
  ({} : Database).putFunction
    { address := 0x400010, name := "update"
      params := [{ name := some "dt", type := .builtin ⟨"int", 4, false⟩ }] }

end Sync

end BindingSync
