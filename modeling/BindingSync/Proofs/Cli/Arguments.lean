import BindingSync.Cli.Command
import BindingSync.Proofs.Text.Integers

/-!
# A database and an image base on the command line

The path of a database is a word that does not look like a flag, and so is an integer behind
`--image-base`.  What such words are does not depend on what else stands in them
(`Form.markOf_eq_plain`), so a command with a database and an image base is understood for every path
and every integer of them (`Command.ofArguments_imageBase`), above all for integers of any length.
-/

namespace BindingSync.Cli

open BindingSync.Text

namespace Form

variable {σ : Type} {form : Form σ}

/-- A word that does not begin with a hyphen is no flag. -/
lemma markOf_eq_plain {word : String} (h : word.toList.head? ≠ some '-') :
    form.markOf word = .ok .plain := by
  unfold markOf
  split
  · next heq =>
    rw [heq] at h
    exact absurd rfl h
  · rfl

/-- The words are marked one after the other, up to the separator. -/
lemma markAll_cons {word : String} {mark : Mark} {rest : List String}
    {marked : List (String × Mark)} (hword : word ≠ "--") (hmark : form.markOf word = .ok mark)
    (hrest : form.markAll rest = .ok marked) :
    form.markAll (word :: rest) = .ok ((word, mark) :: marked) := by
  rw [markAll, if_neg hword, hmark, hrest]
  rfl

/-- Nor is it the separator. -/
lemma ne_separator {word : String} (h : word.toList.head? ≠ some '-') : word ≠ "--" := by
  intro heq
  rw [heq] at h
  exact absurd h (by decide)

lemma markAll_cons_plain {word : String} {rest : List String} {marked : List (String × Mark)}
    (h : word.toList.head? ≠ some '-') (hrest : form.markAll rest = .ok marked) :
    form.markAll (word :: rest) = .ok ((word, .plain) :: marked) :=
  markAll_cons (ne_separator h) (markOf_eq_plain h) hrest

/-- A list of words is parsed if its flags and slots are handled and no slot stays empty. -/
lemma parse_of_run {start : σ} {words : List String} {marked : List (String × Mark)}
    {state : State σ} {steps : Nat} (hmarked : form.markAll words = .ok marked)
    (hsteps : 2 * marked.length + 1 = steps)
    (hrun : form.run steps { value := start, words := marked, slots := form.slots } = .ok state)
    (hfilled : required state.slots = []) :
    form.parse start words = .ok (state.value, state.extras ++ state.words.map Prod.fst) := by
  rw [parse, hmarked]
  simp only [bind, Except.bind, hsteps, hrun, hfilled]
  rfl

end Form

namespace Command

variable {path word : String} {base : Int}

/-- The flag for the image base, as it is marked. -/
def imageBaseMark : Mark :=
  .flag (some ⟨valueFlag "--image-base", "--image-base", none⟩)

/-! ### The words behind the name of the command -/

lemma setOption_imageBase (options : SyncOptions) (hbase : Integer.ofString? word = some base) :
    setOption options (valueFlag "--image-base") (some word) =
      .ok { options with imageBase := some base } := by
  have himage : imageBaseOf word = .ok base := by
    rw [imageBaseOf, hbase]
  change (do
    let imageBase ← (some word).mapM imageBaseOf
    return { options with imageBase } : Except Exit SyncOptions) = _
  rw [Option.mapM_some, himage]
  rfl

/-- The path fills the slot of the database, and no word is left for that of the directory. -/
lemma fillSlots_database (rest : List (String × Mark)) (hpath : path.toList.head? ≠ some '-') :
    syncForm.fillSlots
        ⟨{}, (path, .plain) :: ("--image-base", imageBaseMark) :: rest, syncForm.slots, []⟩ =
      .ok ⟨{ database := path }, ("--image-base", imageBaseMark) :: rest, [], []⟩ := by
  have herase : [path].erase "--" = [path] :=
    List.erase_of_not_mem (by simpa using (Form.ne_separator hpath).symm)
  change (do
    let options ← syncForm.onSlot {} (.one "database") ([path].erase "--")
    let options ← syncForm.onSlot options (.optional "directory") []
    return ⟨options, ("--image-base", imageBaseMark) :: rest, [], []⟩ :
      Except Exit (Form.State SyncOptions)) = _
  rw [herase]
  rfl

lemma run_imageBase (options : SyncOptions) (hbase : Integer.ofString? word = some base) :
    syncForm.run 6 ⟨options, [("--image-base", imageBaseMark), (word, .plain)], [], []⟩ =
      .ok ⟨{ options with imageBase := some base }, [], [], []⟩ := by
  rw [Form.run]
  change (do
    let options ← setOption options (valueFlag "--image-base") (some word)
    return ⟨options, [], [], []⟩ : Except Exit (Form.State SyncOptions)) >>= syncForm.run 5 = _
  rw [setOption_imageBase options hbase]
  rfl

/-- The words of a synchronization into a database with an image base. -/
lemma parse_imageBase (hpath : path.toList.head? ≠ some '-') (hword : word.toList.head? ≠ some '-')
    (hbase : Integer.ofString? word = some base) :
    syncForm.parse {} [path, "--image-base", word] =
      .ok ({ database := path, imageBase := some base }, []) := by
  have hmarked : syncForm.markAll [path, "--image-base", word] =
      .ok [(path, .plain), ("--image-base", imageBaseMark), (word, .plain)] :=
    Form.markAll_cons_plain hpath <| Form.markAll_cons (by decide) (by decide) <|
      Form.markAll_cons_plain hword rfl
  have hrun : syncForm.run 7
      ⟨{}, [(path, .plain), ("--image-base", imageBaseMark), (word, .plain)], syncForm.slots, []⟩ =
      .ok ⟨{ database := path, imageBase := some base }, [], [], []⟩ := by
    rw [Form.run]
    change (do
      let filled ← syncForm.fillSlots ⟨{}, [(path, .plain), ("--image-base", imageBaseMark),
        (word, .plain)], syncForm.slots, []⟩
      if filled.words.length < 3 then syncForm.run 6 filled
      else
        syncForm.run 6 { filled with
          words := filled.words.drop 1
          extras := filled.extras ++ [path] }) = _
    rw [fillSlots_database _ hpath]
    exact run_imageBase _ hbase
  rw [Form.parse_of_run hmarked rfl hrun rfl]
  rfl

/-! ### The whole command line -/

/-- The name of the command takes all words behind it. -/
lemma fillSlots_sync (marked : List (String × Mark)) {options : SyncOptions}
    (hparse : syncForm.parse {} (marked.map Prod.fst) = .ok (options, [])) :
    mainForm.fillSlots ⟨none, ("sync", .plain) :: marked, mainForm.slots, []⟩ =
      .ok ⟨some (.sync options, []), [], [], []⟩ := by
  have hname : ofName "sync" (marked.map Prod.fst) = .ok (.sync options, []) := by
    simp only [ofName, hparse, bind, Except.bind]
    rfl
  have htake : (("sync", Mark.plain) :: marked).take (marked.length + 1) =
      ("sync", .plain) :: marked := by
    rw [List.take_succ_cons, List.take_length]
  have hdrop : (("sync", Mark.plain) :: marked).drop (marked.length + 1) = [] := by
    rw [List.drop_succ_cons, List.drop_length]
  change (do
    let words := ((("sync", Mark.plain) :: marked).take (marked.length + 1)).map Prod.fst
    let value ← mainForm.onSlot none (.remainder "COMMAND") words
    return ⟨value, (("sync", Mark.plain) :: marked).drop (marked.length + 1), [], []⟩ :
      Except Exit (Form.State Parsed)) = _
  rw [htake, hdrop]
  change (do
    let value ← (do return some (← ofName "sync" (marked.map Prod.fst)))
    return ⟨value, [], [], []⟩ : Except Exit (Form.State Parsed)) = _
  rw [hname]
  rfl

/-- A database and an image base are what they are given as. -/
theorem ofArguments_imageBase (hpath : path.toList.head? ≠ some '-')
    (hword : word.toList.head? ≠ some '-') (hbase : Integer.ofString? word = some base) :
    ofArguments ["sync", path, "--image-base", word] =
      .ok (.sync { database := path, imageBase := some base }) := by
  have hmarked : mainForm.markAll ["sync", path, "--image-base", word] =
      .ok [("sync", .plain), (path, .plain), ("--image-base", .flag none), (word, .plain)] :=
    Form.markAll_cons (by decide) (by decide) <| Form.markAll_cons_plain hpath <|
      Form.markAll_cons (by decide) (by decide) <| Form.markAll_cons_plain hword rfl
  have hfill := fillSlots_sync [(path, .plain), ("--image-base", .flag none), (word, .plain)]
    (parse_imageBase hpath hword hbase)
  have hrun : mainForm.run 9 ⟨none, [("sync", .plain), (path, .plain),
      ("--image-base", .flag none), (word, .plain)], mainForm.slots, []⟩ =
      .ok ⟨some (.sync { database := path, imageBase := some base }, []), [], [], []⟩ := by
    rw [Form.run]
    change (do
      let filled ← mainForm.fillSlots ⟨none, [("sync", .plain), (path, .plain),
        ("--image-base", .flag none), (word, .plain)], mainForm.slots, []⟩
      if filled.words.length < 4 then mainForm.run 8 filled
      else
        mainForm.run 8 { filled with
          words := filled.words.drop 2
          extras := filled.extras ++ ["sync", path] }) = _
    rw [hfill]
    rfl
  rw [ofArguments, Form.parse_of_run hmarked rfl hrun rfl]
  rfl

end Command

end BindingSync.Cli
