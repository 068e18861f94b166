import BindingSync.Proofs.Binding.WellFormed
import BindingSync.Proofs.History
import BindingSync.Proofs.Sync.Checks
import BindingSync.Proofs.Sync.Replay
import BindingSync.Proofs.Sync.Summary

/-!
# The failures of a run

A run that does not come to its end was given a text that is no binding file, or it stopped at an
entry, and then for one of three reasons (`Sync.Entry.Expected`): a conflict was answered with an
abort, it was not answered at all, or a floating-point parameter has a width for which there is no
register.  Nothing else ends a run over a database that has an image base
(`Sync.expected_of_ends`).

Each of the other failures that are written into the program has its own reason not to occur.  No
database is locked, so that a function can always be created; what is read from a text has words
for names, so that no type and no class is without one; and the checks that the operations of a
database make never fail (`Checked.synchronize_eq`).

An image base may be missing in one case: a text from which a database is loaded may give none.
Then the first declaration with an offset ends the program (`Sync.crashes_baseless`).
-/

namespace BindingSync

open BindingSync.Binding
open BindingSync.Text
open BindingSync.Dialogue (Transcript)

/-! ### Parameters without a place -/

namespace Allocation

/-- A floating-point parameter among the first ones has a width for which there is no register. -/
structure IsMisfit (params : List Parameter) (index : Nat) (type : DataType) : Prop where
  param : ∃ param, params[index]? = some param ∧ param.type = type
  isEarly : index < floatRegisters
  isFloat : type.isFloat = true
  width : type.length ≠ 4 ∧ type.length ≠ 8

/-- A register is not found only for the width of a floating-point parameter. -/
lemma of_register?_eq_error {convention : Option CallingConvention} {location : String}
    {index : Nat} {type : DataType} {error : SyncError}
    (h : register? convention location index type = .error error) :
    error = .floatWidth index type location ∧ index < floatRegisters ∧ type.isFloat = true ∧
      type.length ≠ 4 ∧ type.length ≠ 8 := by
  unfold register? at h
  split at h
  · next hfloat =>
    unfold floatRegister at h
    split at h
    · cases h
    · next hfour =>
      split at h
      · cases h
      · next height =>
        exact ⟨(Except.error.inj h).symm, hfloat.1, hfloat.2, hfour, height⟩
  · split at h
    · cases h
    · split at h <;> cases h

/-- Placing from an index on fails at one of the pairs. -/
lemma of_placeFrom_eq_error {convention : Option CallingConvention} {location : String}
    {pairs : List (Parameter × Parameter)} {index : Nat} {offset : Int} {error : SyncError}
    (h : (placeFrom convention location index offset pairs).2 = .error error) :
    ∃ place pair, pairs[place]? = some pair ∧
      error = .floatWidth (index + place : Nat) pair.1.type location ∧
      index + place < floatRegisters ∧ pair.1.type.isFloat = true ∧
      pair.1.type.length ≠ 4 ∧ pair.1.type.length ≠ 8 := by
  induction pairs generalizing index offset with
  | nil => cases h
  | cons pair rest ih =>
    have hlater : ∀ {offset : Int},
        (placeFrom convention location (index + 1) offset rest).2 = .error error →
          ∃ place other, (pair :: rest)[place]? = some other ∧
            error = .floatWidth (index + place : Nat) other.1.type location ∧
            index + place < floatRegisters ∧ other.1.type.isFloat = true ∧
            other.1.type.length ≠ 4 ∧ other.1.type.length ≠ 8 := by
      intro offset hrest
      obtain ⟨place, other, hother, herror, hearly, hfacts⟩ := ih hrest
      have hindex : index + 1 + place = index + (place + 1) := by omega
      rw [hindex] at herror hearly
      exact ⟨place + 1, other, hother, herror, hearly, hfacts⟩
    obtain ⟨param, advance⟩ := pair
    rw [placeFrom] at h
    split at h
    · next error' hregister =>
      cases h
      exact ⟨0, (param, advance), rfl, of_register?_eq_error hregister⟩
    · exact hlater (eq_error_of_map_eq_error h)
    · exact hlater (eq_error_of_map_eq_error h)

/-- Placing fails at a floating-point parameter for which there is no register. -/
lemma isMisfit_of_place {convention : Option CallingConvention} {location : String}
    {params : List Parameter} {raised : List Warning} {error : SyncError}
    (h : place convention params location = (raised, .error error)) :
    ∃ (index : Nat) (type : DataType), error = .floatWidth index type location ∧
      IsMisfit params index type := by
  obtain ⟨index, pair, hpair, herror, hearly, hfloat, hwidth⟩ :=
    of_placeFrom_eq_error (congrArg Prod.snd h)
  rw [Nat.zero_add] at herror hearly
  obtain ⟨hparam, -⟩ := List.getElem?_zip_eq_some.1 hpair
  exact ⟨index, pair.1.type, herror, ⟨pair.1, hparam, rfl⟩, hearly, hfloat, hwidth⟩

end Allocation

/-! ### Names -/

namespace Binding

/-- An identifier is not empty. -/
lemma IsIdentifier.ne_empty {text : String} (h : IsIdentifier text) : text ≠ "" := by
  rintro rfl
  obtain ⟨c, hhead, -⟩ := h.starts
  simp at hhead

/-- A well-formed name has a base name that is not empty. -/
lemma base_ne_empty {name : QualifiedName} (h : name.WellFormed) : name.base ≠ "" := by
  apply IsIdentifier.ne_empty
  apply h
  simp [QualifiedName.segments]

/-- A type that can be written has a well-formed name. -/
lemma TypeExpr.FitsIn.name {depth : Nat} {type : TypeExpr} (h : type.FitsIn depth) :
    type.name.WellFormed := by
  cases type with
  | mk name args isConst pointers references =>
    cases depth with
    | zero => exact h.1
    | succ depth => exact h.1

/-- All types that a function of a well-formed class mentions have a name. -/
lemma base_ne_empty_of_mem_mentioned {cls : ClassDecl} {decl : FunctionDecl}
    (hcls : cls.WellFormed) (hdecl : decl ∈ cls.functions) :
    ∀ expr ∈ Declared.mentioned cls decl, expr.name.base ≠ "" := by
  have hwell := hcls.functions decl hdecl
  intro expr hmem
  simp only [Declared.mentioned, List.mem_append, List.mem_map] at hmem
  rcases hmem with (hmem | hmem) | ⟨param, hparam, rfl⟩
  · have hheading := hwell.heading
    unfold FunctionDecl.HeadingWellFormed at hheading
    split at hheading
    · next hnone => simp [hnone] at hmem
    · next type hsome =>
      obtain rfl : expr = type := by simpa [hsome, eq_comm] using hmem
      exact base_ne_empty hheading.2.1.name
  · split at hmem
    · obtain rfl := List.mem_singleton.1 hmem
      exact base_ne_empty hcls.name
    · cases hmem
  · exact base_ne_empty (hwell.params param hparam).type.name

end Binding

namespace Outcome

/-- The fault by which the run was ended, if it was. -/
def crash? {α : Type} : Outcome α → Option Crash
  | .stopped (.crash crash) _ => some crash
  | _ => none

/-- A run that was ended by a fault stopped with the progress it made. -/
lemma eq_stopped_of_crash? {α : Type} {outcome : Outcome α} {crash : Crash}
    (h : outcome.crash? = some crash) : outcome = .stopped (.crash crash) outcome.progress := by
  unfold crash? at h
  split at h
  · cases h
    rfl
  · cases h

end Outcome

namespace Sync

variable {before after : Progress} {log : Transcript} {platform : Platform} {cls : ClassDecl}
  {decl : FunctionDecl} {offset : Int} {cause : Stop}

/-- An entry is a function of a class that was read from a text. -/
lemma wellFormed_of_mem_entries {files : List Source} {e : Entry}
    (h : e ∈ entries platform files) : e.cls.WellFormed ∧ e.decl ∈ e.cls.functions := by
  obtain ⟨file, -, hfile⟩ := List.mem_flatMap.1 h
  obtain ⟨cls, hcls, he⟩ := List.mem_flatMap.1 hfile
  obtain ⟨decl, hdecl, hentry⟩ := List.mem_filterMap.1 he
  obtain ⟨offset, -, rfl⟩ := Option.map_eq_some_iff.1 hentry
  refine ⟨?_, hdecl⟩
  unfold Source.classes at hcls
  split at hcls
  · cases hcls
  · split at hcls
    · cases hcls
    · next hparse => exact wellFormed_of_parse hparse _ hcls

/-! ### Steps -/

/-- The ways in which the step of an entry may fail, where a database with an image base is
given. -/
inductive Entry.Expected (platform : Platform) (e : Entry) (log : Transcript) (db : Database) :
    Stop → Prop
  /-- The last conflict was answered with an abort. -/
  | aborted {front : Transcript} {conflict : Conflict}
      (hlog : log = front ++ [(conflict, some .abort)]) : Expected platform e log db
        (.aborted e.location)
  /-- The last conflict was not answered. -/
  | unanswered {front : Transcript} {conflict : Conflict}
      (hlog : log = front ++ [(conflict, none)]) : Expected platform e log db
        (.failed (.unanswered e.location))
  /-- One of the first parameters, declared or there before, finds no register. -/
  | misfit {params : List Parameter} {index : Nat} {type : DataType}
      (hconvention : conventionOf platform e.cls e.decl = some .membercall ∨
        conventionOf platform e.cls e.decl = some .optcall)
      (hparams : Declared.params? db e.cls e.decl = some params ∨
        ∃ function, e.function? db = some function ∧ function.params = params)
      (hmisfit : Allocation.IsMisfit params index type) : Expected platform e log db
        (.failed (.floatWidth index type e.location))

/-- What was asked before does not matter. -/
lemma Entry.Expected.append {e : Entry} {db : Database} (first : Transcript)
    (h : e.Expected platform log db cause) : e.Expected platform (first ++ log) db cause := by
  cases h with
  | @aborted front conflict hlog =>
    have hall : first ++ log = (first ++ front) ++ [(conflict, some .abort)] := by
      rw [hlog, List.append_assoc]
    exact .aborted hall
  | @unanswered front conflict hlog =>
    have hall : first ++ log = (first ++ front) ++ [(conflict, none)] := by
      rw [hlog, List.append_assoc]
    exact .unanswered hall
  | misfit hconvention hparams hmisfit => exact .misfit hconvention hparams hmisfit

/-- Parameters are placed one by one under two conventions only. -/
lemma convention_of_stops_placed {convention : Option CallingConvention} {location : String}
    {params : List Parameter}
    (h : (placed convention params location).Stops before log cause after) :
    convention = some .membercall ∨ convention = some .optcall := by
  have hneeded : Allocation.isNeeded convention params = true := by
    by_contra hnot
    rw [placed, if_neg hnot] at h
    exact not_stops_pure h
  have hexplicit := (Bool.and_eq_true_iff.1 hneeded).1
  cases convention with
  | none => cases hexplicit
  | some convention =>
    cases convention with
    | membercall => exact .inl rfl
    | optcall => exact .inr rfl
    | cdecl => cases hexplicit
    | thiscall => cases hexplicit
    | fastcall => cases hexplicit

/-- A step fails in one of the expected ways, if there is an image base, no lock, and a name for
every type. -/
theorem expected_of_stops {e : Entry} (hbase : before.db.imageBase.isSome)
    (hopen : before.db.isLocked = false)
    (hnames : ∀ expr ∈ Declared.mentioned e.cls e.decl, expr.name.base ≠ "")
    (h : (entry platform e).Stops before log cause after) :
    e.Expected platform log after.db cause := by
  rw [entry, addressed_eq] at h
  rcases stops_bind_iff.1 h with hstop | ⟨_, address, _, _, haddress, h₁, rfl⟩
  · obtain ⟨-, hnone, -⟩ := stops_addressOf_iff.1 hstop
    rw [hnone] at hbase
    cases hbase
  obtain ⟨rfl, hsame, base, hbase, rfl⟩ := returns_addressOf_iff.1 haddress
  rw [hsame] at h₁
  rcases stops_bind_iff.1 h₁ with hstop | ⟨_, ⟨function, isNew⟩, start, _, hlocate, h₂, rfl⟩
  · obtain ⟨-, -, hlocked, -⟩ := stops_locate_iff.1 hstop
    exact absurd (hlocked.symm.trans hopen) (by decide)
  obtain ⟨rfl, located⟩ := located_of_returns hlocate
  rcases stops_bind_iff.1 h₂ with hstop | ⟨_, ⟨returnType, params⟩, typed, _, htyped, h₃, rfl⟩
  · obtain ⟨-, front, expr, rest, _, hmentioned, hname, -⟩ :=
      (resolves_incoming e.cls e.decl).stops hstop
    exact absurd hname (hnames expr (by rw [hmentioned]; simp))
  obtain ⟨-, hparams⟩ := reads_of_returns_incoming htyped
  obtain ⟨rfl, placeholders, introduces⟩ := (resolves_incoming e.cls e.decl).returns htyped
  rcases stops_bind_iff.1 h₃ with hstop | ⟨_, agreed, consulted, _, hconsult, h₄, rfl⟩
  · obtain ⟨hends, rfl⟩ := stops_consult_iff.1 hstop
    obtain ⟨-, front, conflict, answer, rfl, ⟨rfl, rfl⟩ | ⟨rfl, rfl⟩⟩ :=
      Reconciliation.last_of_ends hends
    · exact .aborted (List.nil_append _)
    · exact .unanswered (List.nil_append _)
  obtain ⟨hends, rfl⟩ := returns_consult_iff.1 hconsult
  rcases stops_bind_iff.1 h₄ with hstop | ⟨_, ⟨result, mode⟩, _, _, hplaced, h₅, rfl⟩
  · have hconvention := convention_of_stops_placed hstop
    obtain ⟨raised, error, -, rfl, rfl, hplace⟩ := crowded_of_stops hstop
    obtain ⟨index, type, rfl, hmisfit⟩ := Allocation.isMisfit_of_place hplace
    refine .misfit hconvention ?_ hmisfit
    obtain ⟨keepsParams, _, _, _, -, -, -, hagreed, -⟩ := Reconciliation.cases_of_ends hends
    cases keepsParams with
    | false => exact .inl (by rw [hagreed]; exact hparams)
    | true =>
      have hthere : e.function? consulted.db = some function := by
        have haddress : e.address? before.db = some (base + e.offset) := by
          rw [Entry.address?, hbase]
          rfl
        rw [Entry.function?, address?_of_grows (located.grows.trans introduces.grows), haddress,
          Option.bind_some, introduces.functionAt?, located.functionAt?, if_pos rfl]
      exact .inr ⟨function, hthere, hagreed.symm⟩
  · exact absurd ((stops_of_done (write_apply _ _ _ _ _)).1 h₅).2 (by simp)

/-! ### Runs -/

/-- The ways in which a run over texts may fail, where a database with an image base is given. -/
inductive Expected (platform : Platform) (files : List Source) (log : Transcript)
    (db : Database) : Stop → Prop
  /-- One of the texts is no binding file. -/
  | unparsable {file : Source} {text : String} {error : ParseError} (hfile : file ∈ files)
      (htext : file.text = .ok text) (hparse : parse text = .error error) :
      Expected platform files log db (.failed (.unparsable file.label error))
  /-- The step of an entry fails. -/
  | atEntry {e : Entry} {cause : Stop} (he : e ∈ entries platform files)
      (hcause : e.Expected platform log db cause) : Expected platform files log db cause

/-- Over a database with an image base, a run over texts comes to its end or fails in one of the
expected ways.  This is so even if all checks are made, and whatever a check that fails would do. -/
theorem expected_of_ends {files : List Source} {db : Database} (hbuilt : db.Built)
    (hbase : db.imageBase.isSome) (htexts : ∀ file ∈ files, ∃ text, file.text = .ok text)
    (faults : Checked.Faults) :
    Checked.synchronize faults platform files db = synchronize platform files db ∧
      ∀ {log : Transcript} {outcome : Outcome Unit},
        (Checked.synchronize faults platform files db).Ends log outcome →
          outcome.isDone = true ∨ ∃ cause progress, outcome = .stopped cause progress ∧
            Expected platform files log progress.db cause := by
  have hsame := Checked.synchronize_eq faults platform files db
  refine ⟨hsame, ?_⟩
  intro log outcome hends
  rw [hsame] at hends
  cases outcome with
  | done _ progress => exact .inl rfl
  | stopped cause progress =>
    right
    refine ⟨cause, progress, rfl, ?_⟩
    cases cutShort_of_stops hends with
    | @atFile _ _ file _ _ _ _ hfile hrefuses _ =>
      cases hrefuses with
      | missing htext =>
        obtain ⟨text, hread⟩ := htexts file hfile
        exact absurd (htext.symm.trans hread) (by simp)
      | unparsable htext hparse => exact .unparsable hfile htext hparse
    | @atEntry handled rest e first _ _ between _ hentries hhandled hstops =>
      have hmem : e ∈ entries platform files := by
        rw [hentries]
        simp
      have hgrows := grows_of_returns_each hhandled
      have hbase' : between.db.imageBase.isSome := by
        rw [hgrows.imageBase]
        exact hbase
      have hopen : between.db.isLocked = false :=
        hgrows.isLocked.trans (Database.sound_of_built hbuilt).isLocked
      obtain ⟨hcls, hdecl⟩ := wellFormed_of_mem_entries hmem
      have hnames := base_ne_empty_of_mem_mentioned hcls hdecl
      exact .atEntry hmem ((expected_of_stops hbase' hopen hnames hstops).append first)

/-- A run over a new database fails at a parameter for which there is no register, with all checks
made. -/
theorem expected_of_ends_wait :
    ∃ (faults : Checked.Faults) (log : Transcript) (cause : Stop) (progress : Progress),
      ({} : Database).Built ∧ ({} : Database).imageBase.isSome ∧
      (∀ file ∈ [playerFile, Database.waitFile], ∃ text, file.text = .ok text) ∧
      (Checked.synchronize faults .windows [playerFile, Database.waitFile] {}).Ends log
        (.stopped cause progress) ∧
      progress.added = ["Player::update", "Player::team"] ∧
      Expected .windows [playerFile, Database.waitFile] log progress.db cause := by
  let faults : Checked.Faults := ⟨fun _ => .crash .unacceptable, .crash .outOfRange⟩
  let run := (synchronize .windows [playerFile, Database.waitFile] {}).runFixed .useIncoming
  obtain ⟨hfailed, hadded⟩ : run.isDone = false ∧
      run.progress.added = ["Player::update", "Player::team"] := by decide +kernel
  have hbuilt : ({} : Database).Built := .new (some 0x400000) 4 4
  have htexts : ∀ file ∈ [playerFile, Database.waitFile], ∃ text, file.text = .ok text := by
    simp [playerFile, Database.waitFile]
  obtain ⟨hsame, hexpected⟩ := @expected_of_ends .windows _ _ hbuilt rfl htexts faults
  obtain ⟨log, hends, -⟩ := Dialogue.exists_ends_runFixed .useIncoming
    (Checked.synchronize faults .windows [playerFile, Database.waitFile] {})
  have hrun : (Checked.synchronize faults .windows [playerFile, Database.waitFile] {}).runFixed
      .useIncoming = run := by rw [hsame]
  rw [hrun] at hends
  rcases hexpected hends with hdone | ⟨cause, progress, hstopped, hcause⟩
  · exact absurd (hfailed.symm.trans hdone) (by decide)
  · rw [hstopped] at hends hadded
    exact ⟨faults, log, cause, progress, hbuilt, rfl, htexts, hends, hadded, hcause⟩

/-- The text of a database without an image base. -/
def baselessText : String :=
  "\x7b\"v\": \"1\", \"image-base\": [], \"pointer-size\": 4, \"integer-size\": 4\x7d"

/-- A database may be loaded without an image base, and then a run over it fails in a way that is not
expected. -/
theorem crashes_baseless :
    ∃ db progress, Database.deserialize baselessText = .ok db ∧ db.Built ∧
      (synchronize .windows [playerFile] db).Ends [] (.stopped (.crash .wrongKind) progress) ∧
      ∀ log final, ¬ Expected .windows [playerFile] log final (.crash .wrongKind) := by
  have hread : Database.deserialize baselessText = .ok { imageBase := none } :=
    eq_ok_of_toOption (by decide +kernel)
  let run := (synchronize .windows [playerFile] { imageBase := none }).runFixed .useIncoming
  have hends : (synchronize .windows [playerFile] { imageBase := none }).Ends [] run :=
    Dialogue.ends_runFixed_of_isSilent (by decide +kernel) .useIncoming
  have hcrash : run = .stopped (.crash .wrongKind) run.progress :=
    Outcome.eq_stopped_of_crash? (by decide +kernel)
  refine ⟨_, run.progress, hread, .new none 4 4, hcrash ▸ hends, ?_⟩
  rintro log final ⟨⟩
  next hcause => cases hcause

end Sync

end BindingSync
