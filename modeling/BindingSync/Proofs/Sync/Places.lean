import Mathlib.Tactic.IntervalCases
import BindingSync.Proofs.Sync.Failures

/-!
# The places of parameters

Placing goes through the parameters once.  At each of them it takes a register that belongs to the
index, or it takes the stack from the offset reached so far (`Allocation.placeFrom_cons`).  All
that is said here follows from that by induction on the parameters.

A register tells the index that it was taken for, so no register is taken twice
(`Allocation.index_unique`).  The offset moves on by the length of another parameter than the one
that was placed, namely the one at the same index when the structures are moved behind all others.
So the parts of the stack follow one another without gap or overlap as long as the two lists are
one, which is the case where no other parameter comes after a structure
(`Allocation.tiles_of_placeFrom`).
-/

namespace BindingSync

open BindingSync.Text

namespace Parameter

/-- The name of the register in which the parameter is passed. -/
def register? (param : Parameter) : Option WideString :=
  match param.storage with
  | some (.register name) => some name
  | _ => none

/-- The part of the stack in which the parameter is passed, from its first byte up to the first
byte behind it. -/
def slot? (param : Parameter) : Option (Int × Int) :=
  match param.storage with
  | some (.stack offset size) => some (offset, offset + size)
  | _ => none

end Parameter

namespace Allocation

/-- The register of which a name names a part: `XMM0_Da` and `XMM0_Qa` are parts of `XMM0`. -/
def wholeRegister (name : WideString) : List Char :=
  name.toString.toList.takeWhile (· != '_')

/-- The sum of the lengths that the second list has at those of the indices before the given one
at which the first list has a parameter on the stack. -/
def offsetAt (placed advancing : List Parameter) (index : Nat) : Int :=
  ((((placed.zip advancing).take index).filter (·.1.slot?.isSome)).map (·.2.type.length)).sum

/-- The parts of the stack follow one another from a place on, with nothing between them. -/
def Tiles (start : Int) : List (Int × Int) → Prop
  | [] => True
  | (first, behind) :: rest => first = start ∧ Tiles behind rest

/-- No other parameter comes after a structure by value. -/
def HasStructsLast (params : List Parameter) : Prop :=
  params.Pairwise fun earlier later => earlier.type.isStruct → later.type.isStruct

instance decidableTiles : (start : Int) → (slots : List (Int × Int)) → Decidable (Tiles start slots)
  | _, [] => isTrue trivial
  | start, (first, behind) :: rest =>
    have := decidableTiles behind rest
    inferInstanceAs (Decidable (first = start ∧ Tiles behind rest))

instance (params : List Parameter) : Decidable (HasStructsLast params) :=
  inferInstanceAs (Decidable (params.Pairwise _))

/-! ### Registers -/

/-- The registers that the parameter of an index may take. -/
def registersAt : Nat → List String
  | 0 => ["XMM0", "ECX"]
  | 1 => ["XMM1", "EDX"]
  | 2 => ["XMM2"]
  | 3 => ["XMM3"]
  | 4 => ["XMM4"]
  | _ => []

/-- A floating-point register is one of those of its index. -/
lemma wholeRegister_of_floatRegister {index : Nat} {type : DataType} {location name : String}
    (hindex : index < floatRegisters) (h : floatRegister index type location = .ok name) :
    wholeRegister name ∈ (registersAt index).map String.toList := by
  have hname : name = s!"XMM{(index : Int)}_Da" ∨ name = s!"XMM{(index : Int)}_Qa" := by
    unfold floatRegister at h
    split at h
    · exact .inl (Except.ok.inj h).symm
    · split at h
      · exact .inr (Except.ok.inj h).symm
      · cases h
  unfold floatRegisters at hindex
  rcases hname with rfl | rfl <;> interval_cases index <;> decide +kernel

/-- The register for a parameter is one of those of its index. -/
lemma wholeRegister_of_register? {convention : Option CallingConvention} {location name : String}
    {index : Nat} {type : DataType}
    (h : register? convention location index type = .ok (some name)) :
    wholeRegister name ∈ (registersAt index).map String.toList := by
  unfold register? at h
  split at h
  · next hfloat =>
    obtain ⟨other, hother, heq⟩ := exists_of_map_eq_ok h
    cases heq
    exact wholeRegister_of_floatRegister hfloat.1 hother
  · split at h
    · next hfirst =>
      cases h
      rw [hfirst]
      decide
    · split at h
      · next hsecond =>
        cases h
        rw [hsecond.2.1]
        decide
      · cases h

/-- No register may be taken at two indices. -/
lemma index_unique {register : List Char} {index other : Nat}
    (hindex : register ∈ (registersAt index).map String.toList)
    (hother : register ∈ (registersAt other).map String.toList) : index = other := by
  have hearly : ∀ {index}, register ∈ (registersAt index).map String.toList → index < 5 := by
    intro index hmem
    by_contra hlate
    obtain ⟨more, rfl⟩ : ∃ more, index = more + 5 := ⟨index - 5, by omega⟩
    cases hmem
  have hall : ∀ i < 5, ∀ j < 5, ∀ register ∈ (registersAt i).map String.toList,
      register ∈ (registersAt j).map String.toList → i = j := by decide
  exact hall index (hearly hindex) other (hearly hother) register hindex hother

/-! ### One parameter after the other -/

variable {convention : Option CallingConvention} {location : String}
  {pairs : List (Parameter × Parameter)} {index : Nat} {offset : Int} {warnings : List Warning}
  {result : List Parameter}

/-- A parameter in a register is in one of those of its index. -/
lemma wholeRegister_of_placeFrom
    (h : placeFrom convention location index offset pairs = (warnings, .ok result)) {place : Nat}
    {name : WideString} (hname : result[place]?.bind Parameter.register? = some name) :
    wholeRegister name ∈ (registersAt (index + place)).map String.toList := by
  induction pairs generalizing index offset warnings result place with
  | nil =>
    cases h
    cases hname
  | cons pair rest ih =>
    obtain ⟨storage, others, raised, next, rfl, hrest, hstorage⟩ := placeFrom_cons h
    cases place with
    | zero =>
      obtain ⟨taken, hregister, rfl, -⟩ | ⟨rfl, -⟩ := hstorage
      · cases hname
        exact wholeRegister_of_register? hregister
      · cases hname
    | succ place =>
      have hlater := ih hrest (by simpa using hname)
      rwa [Nat.add_right_comm] at hlater

/-- A parameter on the stack is at the offset that the earlier ones on the stack lead to, and takes
the length of its type. -/
lemma storage_of_placeFrom
    (h : placeFrom convention location index offset pairs = (warnings, .ok result)) {place : Nat}
    {placed : Parameter} (hplaced : result[place]? = some placed) {start size : Int}
    (hstorage : placed.storage = some (.stack start size)) :
    start = offset + offsetAt result (pairs.map Prod.snd) place ∧ size = placed.type.length := by
  induction pairs generalizing index offset warnings result place with
  | nil =>
    cases h
    cases hplaced
  | cons pair rest ih =>
    obtain ⟨storage, others, raised, next, rfl, hrest, hnext⟩ := placeFrom_cons h
    cases place with
    | zero =>
      obtain rfl := Option.some.inj hplaced
      obtain ⟨taken, -, rfl, -⟩ | ⟨rfl, -⟩ := hnext
      · cases hstorage
      · cases hstorage
        simp [offsetAt]
    | succ place =>
      obtain ⟨hstart, hsize⟩ := ih hrest (by simpa using hplaced)
      refine ⟨?_, hsize⟩
      obtain ⟨taken, -, rfl, rfl⟩ | ⟨rfl, rfl⟩ := hnext
      · simpa [offsetAt, Parameter.slot?] using hstart
      · simpa [offsetAt, Parameter.slot?, add_assoc] using hstart

/-- Where each parameter moves the offset on by its own length, the parts of the stack follow one
another. -/
lemma tiles_of_placeFrom
    (h : placeFrom convention location index offset pairs = (warnings, .ok result))
    (hown : ∀ pair ∈ pairs, pair.2.type.length = pair.1.type.length) :
    Tiles offset (result.filterMap Parameter.slot?) := by
  induction pairs generalizing index offset warnings result with
  | nil =>
    cases h
    trivial
  | cons pair rest ih =>
    obtain ⟨hfirst, hothers⟩ := List.forall_mem_cons.1 hown
    obtain ⟨storage, others, raised, next, rfl, hrest, hnext⟩ := placeFrom_cons h
    have htiles := ih hrest hothers
    obtain ⟨taken, -, rfl, rfl⟩ | ⟨rfl, rfl⟩ := hnext
    · rwa [List.filterMap_cons_none rfl]
    · rw [hfirst] at htiles
      simpa [List.filterMap_cons, Parameter.slot?, Tiles] using htiles

/-! ### All parameters -/

/-- Where the structures are the last parameters already, moving them behind all others changes
nothing. -/
lemma structsLast_eq_self {params : List Parameter} (h : HasStructsLast params) :
    structsLast params = params := by
  induction params with
  | nil => rfl
  | cons param params ih =>
    obtain ⟨hfirst, hothers⟩ := List.pairwise_cons.1 h
    have hrest := ih hothers
    unfold structsLast at hrest ⊢
    cases hstruct : param.type.isStruct with
    | false => simp [hstruct, hrest]
    | true =>
      have hall : ∀ other ∈ params, other.type.isStruct = true := fun other hmem =>
        hfirst other hmem hstruct
      have hnone : params.filter (!·.type.isStruct) = [] :=
        List.filter_eq_nil_iff.2 fun other hmem => by simp [hall other hmem]
      simp [hstruct, hnone, List.filter_eq_self.2 hall]

/-- Parts of the stack that follow one another do not overlap, if none of them ends before it
starts. -/
lemma pairwise_of_tiles {start : Int} {slots : List (Int × Int)} (h : Tiles start slots)
    (hforward : ∀ slot ∈ slots, slot.1 ≤ slot.2) :
    (∀ slot ∈ slots, start ≤ slot.1) ∧
      slots.Pairwise fun earlier later => earlier.2 ≤ later.1 := by
  induction slots generalizing start with
  | nil => simp
  | cons slot rest ih =>
    obtain ⟨rfl, hrest⟩ := h
    obtain ⟨hslot, hothers⟩ := List.forall_mem_cons.1 hforward
    obtain ⟨hbehind, hpairwise⟩ := ih hrest hothers
    refine ⟨List.forall_mem_cons.2 ⟨le_refl _, ?_⟩, List.pairwise_cons.2 ⟨hbehind, hpairwise⟩⟩
    intro other hmem
    exact hslot.trans (hbehind other hmem)

/-- A part of the stack has the length of the type of its parameter, and so it does not end before
it starts. -/
lemma slots_forward {params placed : List Parameter}
    (hshape : placed.map shape = params.map shape)
    (hlengths : ∀ param ∈ params, 0 ≤ param.type.length)
    (hsizes : ∀ param ∈ placed, ∀ offset size, param.storage = some (.stack offset size) →
      size = param.type.length) :
    ∀ slot ∈ placed.filterMap Parameter.slot?, slot.1 ≤ slot.2 := by
  intro slot hslot
  obtain ⟨param, hmem, hparam⟩ := List.mem_filterMap.1 hslot
  have hlength : 0 ≤ param.type.length := by
    have hmoved : shape param ∈ params.map shape := hshape ▸ List.mem_map_of_mem hmem
    obtain ⟨written, hwritten, heq⟩ := List.mem_map.1 hmoved
    have htype : written.type = param.type := congrArg Prod.snd heq
    rw [← htype]
    exact hlengths written hwritten
  unfold Parameter.slot? at hparam
  split at hparam
  · next offset size hstorage =>
    cases hparam
    have hsize := hsizes param hmem offset size hstorage
    simp only
    omega
  · cases hparam

/-- If each floating-point parameter among the first five has a width for which there is a register,
then all parameters are placed, and no two of them share a place.  No register is taken twice.  The
parts of the stack follow one another from its start without gap or overlap where no other
parameter comes after a structure by value.  In any case the offset of a parameter on the stack is
the sum of the lengths that the parameters have, with the structures moved behind all others, at
the earlier indices of parameters on the stack. -/
theorem exists_places (convention : Option CallingConvention) {params : List Parameter}
    (location : String) (hfits : ∀ index type, ¬ IsMisfit params index type)
    (hlengths : ∀ param ∈ params, 0 ≤ param.type.length) :
    ∃ raised placed, place convention params location = (raised, .ok placed) ∧
      placed.map shape = params.map shape ∧ (∀ param ∈ placed, param.storage.isSome) ∧
      (∀ (index other : Nat) (first second : WideString),
        placed[index]?.bind Parameter.register? = some first →
        placed[other]?.bind Parameter.register? = some second →
        wholeRegister first = wholeRegister second → index = other) ∧
      (HasStructsLast params → Tiles 0 (placed.filterMap Parameter.slot?) ∧
        (placed.filterMap Parameter.slot?).Pairwise fun earlier later => earlier.2 ≤ later.1) ∧
      ∀ (index : Nat) (param : Parameter) (offset size : Int), placed[index]? = some param →
        param.storage = some (.stack offset size) →
        offset = offsetAt placed (structsLast params) index ∧ size = param.type.length := by
  obtain ⟨raised, placed, hplace⟩ :
      ∃ raised placed, place convention params location = (raised, .ok placed) := by
    cases hresult : place convention params location with
    | mk raised result =>
      cases result with
      | ok placed => exact ⟨raised, placed, rfl⟩
      | error error =>
        obtain ⟨index, type, -, hmisfit⟩ := isMisfit_of_place hresult
        exact absurd hmisfit (hfits index type)
  obtain ⟨hshape, hall⟩ := shape_place hplace
  have hadvancing : (params.zip (structsLast params)).map Prod.snd = structsLast params :=
    List.map_snd_zip (Nat.le_of_eq (length_structsLast params))
  have hstack : ∀ (index : Nat) (param : Parameter) (offset size : Int),
      placed[index]? = some param → param.storage = some (.stack offset size) →
      offset = offsetAt placed (structsLast params) index ∧ size = param.type.length := by
    intro index param offset size hparam hstorage
    have hoffset := storage_of_placeFrom hplace hparam hstorage
    rwa [Int.zero_add, hadvancing] at hoffset
  have hsizes : ∀ param ∈ placed, ∀ offset size, param.storage = some (.stack offset size) →
      size = param.type.length := by
    intro param hmem offset size hstorage
    obtain ⟨index, hparam⟩ := List.getElem?_of_mem hmem
    exact (hstack index param offset size hparam hstorage).2
  refine ⟨raised, placed, hplace, hshape, fun param hmem => (hall param hmem).2, ?_, ?_, hstack⟩
  · intro index other first second hfirst hsecond hsame
    have hindex := wholeRegister_of_placeFrom hplace hfirst
    have hother := wholeRegister_of_placeFrom hplace hsecond
    rw [Nat.zero_add] at hindex hother
    exact index_unique hindex (hsame ▸ hother)
  · intro hlast
    have hown : ∀ pair ∈ params.zip (structsLast params),
        pair.2.type.length = pair.1.type.length := by
      rw [structsLast_eq_self hlast]
      intro pair hmem
      obtain ⟨index, hpair⟩ := List.getElem?_of_mem hmem
      obtain ⟨hfirst, hsecond⟩ := List.getElem?_zip_eq_some.1 hpair
      rw [Option.some.inj (hfirst.symm.trans hsecond)]
    have htiles := tiles_of_placeFrom hplace hown
    exact ⟨htiles, (pairwise_of_tiles htiles (slots_forward hshape hlengths hsizes)).2⟩

/-- The parameters of a function: two floating-point numbers, whole numbers, a floating-point number
that is too late for a register, and two structures. -/
def mixedParams : List Parameter :=
  [{ type := .builtin ⟨"float", 4, true⟩ }, { type := .builtin ⟨"double", 8, true⟩ },
    { type := .builtin ⟨"int", 4, false⟩ }, { type := .builtin ⟨"bool", 1, false⟩ },
    { type := .builtin ⟨"int", 4, false⟩ }, { type := .builtin ⟨"longdouble", 10, true⟩ },
    { type := .named ⟨.struct, ⟨[], "CCPoint"⟩, 8⟩ }, { type := .named ⟨.struct, ⟨[], "CCSize"⟩, 8⟩ }]

/-- `mixedParams` are placed in two registers and, without a gap, on the stack. -/
theorem exists_places_mixedParams :
    (∀ index type, ¬ IsMisfit mixedParams index type) ∧
      (∀ param ∈ mixedParams, 0 ≤ param.type.length) ∧ HasStructsLast mixedParams ∧
      ∃ raised placed,
        place (some .optcall) mixedParams "Layer::draw" = (raised, .ok placed) ∧
        placed.map shape = mixedParams.map shape ∧ (∀ param ∈ placed, param.storage.isSome) ∧
        (∀ (index other : Nat) (first second : WideString),
          placed[index]?.bind Parameter.register? = some first →
          placed[other]?.bind Parameter.register? = some second →
          wholeRegister first = wholeRegister second → index = other) ∧
        (HasStructsLast mixedParams → Tiles 0 (placed.filterMap Parameter.slot?) ∧
          (placed.filterMap Parameter.slot?).Pairwise fun earlier later => earlier.2 ≤ later.1) ∧
        ∀ (index : Nat) (param : Parameter) (offset size : Int), placed[index]? = some param →
          param.storage = some (.stack offset size) →
          offset = offsetAt placed (structsLast mixedParams) index ∧
            size = param.type.length := by
  have hfits : ∀ index type, ¬ IsMisfit mixedParams index type := by
    rintro index type ⟨⟨param, hparam, rfl⟩, hearly, hfloat, hwidth⟩
    have hall : ∀ index < floatRegisters, ∀ param ∈ mixedParams[index]?,
        param.type.isFloat = true → param.type.length = 4 ∨ param.type.length = 8 := by decide
    exact (not_or.2 hwidth) (hall index hearly param hparam hfloat)
  have hlengths : ∀ param ∈ mixedParams, 0 ≤ param.type.length := by decide
  exact ⟨hfits, hlengths, by decide, exists_places (some .optcall) "Layer::draw" hfits hlengths⟩

end Allocation

end BindingSync
