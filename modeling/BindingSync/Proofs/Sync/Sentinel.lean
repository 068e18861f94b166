import BindingSync.Proofs.Binding.FunctionGrammar
import BindingSync.Proofs.Sync.Frame

/-!
# Unknown addresses

The sentinel marks an address that is not known yet.  The first offset that a clause gives for a tag
counts, even if it is the sentinel: then the tag has no offset, whatever the clause says about it
further on.  So no declaration has the sentinel for its offset, and no run touches the place in the
program to which it would lead (`Sync.sentinel_is_no_offset`).
-/

namespace BindingSync.Sync

open BindingSync.Binding
open BindingSync.Binding.Grammar
open BindingSync.Dialogue (Transcript)

/-- The offset of an entry is known. -/
lemma offset_ne_sentinel_of_mem {platform : Platform} {files : List Source} {e : Entry}
    (h : e ∈ entries platform files) : e.offset ≠ sentinelOffset := by
  obtain ⟨file, -, hfile⟩ := List.mem_flatMap.1 h
  obtain ⟨cls, -, hcls⟩ := List.mem_flatMap.1 hfile
  obtain ⟨decl, -, hentry⟩ := List.mem_filterMap.1 hcls
  obtain ⟨offset, hoffset, rfl⟩ := Option.map_eq_some_iff.1 hentry
  obtain ⟨-, hkept⟩ := Option.filter_eq_some_iff.1 hoffset
  simpa using hkept

/-- No entry has the address to which the sentinel would lead. -/
lemma not_isAddressOf_sentinel {platform : Platform} {files : List Source} {db : Database}
    {base : Int} (hbase : db.imageBase = some base) :
    ¬IsAddressOf (entries platform files) db (base + sentinelOffset) := by
  rintro ⟨e, hmem, haddress⟩
  rw [Entry.address?, hbase, Option.map_some, Option.some.injEq] at haddress
  exact offset_ne_sentinel_of_mem hmem (by omega)

/-- At any cursor the rule for address clauses takes one or more pairs behind an equals sign, each
perhaps with a comma behind it, up to something that is neither another pair nor a comma behind the
last one.  Each tag gets the first offset that is there for it, and none if that is the sentinel.  So
nothing is ever found, created or changed at the offset of the sentinel: however a run ends, the
function there is the one that was there, or there is none as before. -/
theorem sentinel_is_no_offset :
    (∀ {before run rest : List Token} {equals : Token} {place : Position} {pairs : AddressClause},
      equals.kind = .equals → IsPairs run pairs → pairs ≠ [] → ¬PairFollows rest →
      ¬CommaFollows run rest →
        ∃ addresses, Collects pairs addresses ∧
          (Cursor.between before (equals :: run ++ rest) place).runRule? addressClause =
            some (some addresses, .between (before ++ equals :: run) rest place)) ∧
      ∀ {platform : Platform} {files : List Source} {db : Database} {log : Transcript}
        {outcome : Outcome Unit} {base : Int},
        (synchronize platform files db).Ends log outcome → db.imageBase = some base →
          outcome.progress.db.functionAt? (base + sentinelOffset) =
            db.functionAt? (base + sentinelOffset) := by
  constructor
  · intro before run rest equals place pairs hequals hrun hne hpair hcomma
    exact ⟨_, collects_keepFirst pairs,
      Cursor.runRule?_between_eq_some (hrun.addressClause_parse hequals hne hpair hcomma)⟩
  · intro platform files db log outcome base hends hbase
    exact (frame_of_ends hends).untouched (not_isAddressOf_sentinel hbase)

/-- The tokens of `win 0x9999999, mac 0x20 win 0x10,`, all at one place. -/
def repeatedPairs : List Token :=
  [(.identifier, "win"), (.number, "0x9999999"), (.comma, ","), (.identifier, "mac"),
    (.number, "0x20"), (.identifier, "win"), (.number, "0x10"), (.comma, ",")].map
      fun (kind, text) => ⟨kind, text, .start⟩

/-- They write three pairs, with a comma behind some of them. -/
lemma isPairs_repeatedPairs :
    IsPairs repeatedPairs [("win", 0x9999999), ("mac", 0x20), ("win", 0x10)] := by
  have hoffset : ∀ text offset, offset? ⟨.number, text, .start⟩ = some offset →
      IsOffset ⟨.number, text, .start⟩ offset := fun _ _ => offset?_eq_some_iff.1
  exact .cons rfl (hoffset "0x9999999" _ (by decide +kernel)) (.present rfl) <|
    .cons rfl (hoffset "0x20" _ (by decide +kernel)) .absent <|
      .cons rfl (hoffset "0x10" _ (by decide +kernel)) (.present rfl) .nil

/-- A binding file with a function whose address is not known yet and one whose address is. -/
def unknownFile : Source where
  label := "unknown.bro"
  text := .ok ("class Player \x7b\n  bool jump() = win 0x9999999, win 0x30;\n" ++
    "  Team* team() = win 0x20;\n\x7d\n")

/-- A repeated tag is not revived by its second offset, in a clause behind which another comma
follows; and a run over a file with such a clause creates only the other function. -/
theorem sentinel_is_no_offset_unknown :
    (∃ addresses,
      Collects [("win", 0x9999999), ("mac", 0x20), ("win", 0x10)] addresses ∧
      addresses.lookup "win" = none ∧
      (Cursor.between [] (⟨.equals, "=", .start⟩ :: repeatedPairs ++ [⟨.comma, ",", .start⟩])
        .start).runRule? addressClause = some (some addresses,
          .between ([] ++ ⟨.equals, "=", .start⟩ :: repeatedPairs) [⟨.comma, ",", .start⟩]
            .start)) ∧
      ∃ log outcome,
        (synchronize .windows [unknownFile] playerDatabase).Ends log outcome ∧
        outcome.progress.added = ["Player::team"] ∧
        outcome.progress.db.functionAt? (0x400000 + sentinelOffset) =
          playerDatabase.functionAt? (0x400000 + sentinelOffset) := by
  obtain ⟨hclause, hrun⟩ := sentinel_is_no_offset
  constructor
  · have hcomma : ¬CommaFollows repeatedPairs [⟨.comma, ",", .start⟩] :=
      fun hfollows => hfollows.2 ⟨.comma, ",", .start⟩ rfl rfl
    obtain ⟨addresses, hcollects, hread⟩ := @hclause [] repeatedPairs [⟨.comma, ",", .start⟩]
      ⟨.equals, "=", .start⟩ .start _ rfl isPairs_repeatedPairs (by simp) (by simp [PairFollows])
      hcomma
    exact ⟨addresses, hcollects, hcollects.lookup_eq "win", hread⟩
  · obtain ⟨log, hends, -⟩ := Dialogue.exists_ends_runFixed .useIncoming
      (synchronize .windows [unknownFile] playerDatabase)
    have hadded : ((synchronize .windows [unknownFile] playerDatabase).runFixed
        .useIncoming).progress.added = ["Player::team"] := by decide +kernel
    exact ⟨log, _, hends, hadded, hrun hends rfl⟩

end BindingSync.Sync
