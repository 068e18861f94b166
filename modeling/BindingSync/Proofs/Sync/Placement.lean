import BindingSync.Proofs.Sync.Places

/-!
# How placing parameters ends

Placing takes the parameters one after the other.  What becomes of a parameter depends on its index
and its type and on nothing around it: it lacks a register (`Allocation.LacksRegister`), it goes to
the stack (`Allocation.GoesToStack`), or it is given a register.  A parameter that lacks a register
ends the placing with an error, and a structure of unknown length that goes to the stack is warned
of.

So placing fails at the first parameter that lacks a register, and has then warned of what stands in
front of it (`Allocation.placeFrom_of_lacksRegister`); without such a parameter all are placed
(`Allocation.exists_placed`).  Both are inductions over what happens at one parameter
(`Allocation.exists_storage`).
-/

namespace BindingSync.Allocation

/-- The parameter of an index is a floating-point number that belongs in a register, and has a width
for which there is none. -/
def LacksRegister (index : Nat) (type : DataType) : Prop :=
  index < floatRegisters ∧ type.isFloat = true ∧ type.length ≠ 4 ∧ type.length ≠ 8

/-- The parameter of an index goes to the stack: it is not the first one, it is no floating-point
number that belongs in a register, and under `optcall` it is not the second one, unless it is a
structure. -/
def GoesToStack (convention : Option CallingConvention) (index : Nat) (type : DataType) : Prop :=
  index ≠ 0 ∧ ¬(index < floatRegisters ∧ type.isFloat = true) ∧
    ¬(convention = some .optcall ∧ index = 1 ∧ type.isStruct = false)

instance (convention : Option CallingConvention) (index : Nat) (type : DataType) :
    Decidable (GoesToStack convention index type) :=
  inferInstanceAs (Decidable (_ ∧ _ ∧ _))

/-- The warnings about parameters of which the first one has the given index: one for each structure
of unknown length that goes to the stack. -/
def warningsFrom (convention : Option CallingConvention) (location : String) (index : Nat)
    (params : List Parameter) : List Warning :=
  ((params.zipIdx index).filter fun (param, place) =>
    GoesToStack convention place param.type ∧ param.type.isUndefined = true).map
      fun (param, _) => .undefinedParameter location param.name

/-- The warnings about placed parameters: one for each structure of unknown length that is on the
stack. -/
def warningsOf (location : String) (placed : List Parameter) : List Warning :=
  (placed.filter fun param => param.slot?.isSome && param.type.isUndefined).map
    fun param => .undefinedParameter location param.name

variable (convention : Option CallingConvention) (location : String) {index : Nat}
  {type : DataType} {param : Parameter}

/-! ### One parameter -/

/-- The warnings about some parameters are those about the first one and those about the others. -/
lemma warningsFrom_cons (index : Nat) (param : Parameter) (params : List Parameter) :
    warningsFrom convention location index (param :: params) =
      warningsFrom convention location index [param] ++
        warningsFrom convention location (index + 1) params := by
  simp only [warningsFrom, List.zipIdx_cons, List.zipIdx_nil]
  rw [← List.map_append, ← List.filter_append, List.singleton_append]

/-- A parameter that lacks a register is given none. -/
lemma register?_of_lacksRegister (h : LacksRegister index type) :
    register? convention location index type = .error (.floatWidth index type location) := by
  obtain ⟨hearly, hfloat, hfour, height⟩ := h
  rw [register?, if_pos ⟨hearly, hfloat⟩, floatRegister, if_neg hfour, if_neg height]
  rfl

variable {convention location}

/-- A parameter that is given a register does not go to the stack. -/
lemma not_goesToStack_of_register? {name : String}
    (h : register? convention location index type = .ok (some name)) :
    ¬GoesToStack convention index type := by
  rintro ⟨hfirst, hfloat, hsecond⟩
  rw [register?, if_neg hfloat, if_neg hfirst, if_neg (by simpa using hsecond)] at h
  cases h

/-- A parameter that needs no register goes to the stack. -/
lemma goesToStack_of_register? (h : register? convention location index type = .ok none) :
    GoesToStack convention index type := by
  unfold register? at h
  split at h
  · obtain ⟨_, -, hname⟩ := exists_of_map_eq_ok h
    cases hname
  · next hfloat =>
    split at h
    · cases h
    · next hfirst =>
      split at h
      · cases h
      · next hsecond => exact ⟨hfirst, hfloat, by simpa using hsecond⟩

variable (convention location)

/-- A parameter that does not lack a register is placed, and then the others are.  It is warned of
as its index and its type ask for, and as its place does. -/
lemma exists_storage (h : ¬LacksRegister index param.type) (advance : Parameter) (offset : Int)
    (rest : List (Parameter × Parameter)) :
    ∃ placed next,
      (∃ storage, placed = { param with storage := some storage, source := .analysis }) ∧
      placeFrom convention location index offset ((param, advance) :: rest) =
        (warningsFrom convention location index [param] ++
            (placeFrom convention location (index + 1) next rest).1,
          (placeFrom convention location (index + 1) next rest).2.map (placed :: ·)) ∧
      (placed.slot?.isSome ↔ GoesToStack convention index param.type) ∧
      warningsFrom convention location index [param] = warningsOf location [placed] := by
  rw [placeFrom]
  cases hregister : register? convention location index param.type with
  | error error =>
    obtain ⟨-, hearly, hfloat, hfour, height⟩ := of_register?_eq_error hregister
    exact absurd ⟨hearly, hfloat, hfour, height⟩ h
  | ok register =>
    cases register with
    | some name =>
      have hnot := not_goesToStack_of_register? hregister
      have hwarnings : warningsFrom convention location index [param] = [] := by
        simp [warningsFrom, hnot]
      refine ⟨_, offset, ⟨.register name, rfl⟩, ?_, ?_, ?_⟩
      · rw [hwarnings]
        rfl
      · simp [Parameter.slot?, hnot]
      · rw [hwarnings]
        simp [warningsOf, Parameter.slot?]
    | none =>
      have hstack := goesToStack_of_register? hregister
      have hwarnings : warningsFrom convention location index [param] =
          if param.type.isUndefined then [.undefinedParameter location param.name] else [] := by
        cases hundefined : param.type.isUndefined <;> simp [warningsFrom, hstack, hundefined]
      refine ⟨_, offset + advance.type.length, ⟨.stack offset param.type.length, rfl⟩, ?_, ?_, ?_⟩
      · rw [hwarnings]
      · simp [Parameter.slot?, hstack]
      · rw [hwarnings]
        cases hundefined : param.type.isUndefined <;>
          simp [warningsOf, Parameter.slot?, hundefined]

/-! ### All parameters -/

/-- No parameter of those behind the first one lacks a register if none of them all does. -/
lemma not_lacksRegister_tail {pair : Parameter × Parameter} {rest : List (Parameter × Parameter)}
    (h : ∀ place other, (pair :: rest)[place]? = some other →
      ¬LacksRegister (index + place) other.1.type) :
    ∀ place other, rest[place]? = some other → ¬LacksRegister (index + 1 + place) other.1.type := by
  intro place other hother
  have hlater := h (place + 1) other (by simpa using hother)
  rwa [Nat.add_assoc, Nat.add_comm 1]

/-- Placing fails at the first parameter that lacks a register, with the warnings about those in
front of it. -/
lemma placeFrom_of_lacksRegister {advance : Parameter} {front back : List (Parameter × Parameter)}
    (hfront : ∀ place pair, front[place]? = some pair → ¬LacksRegister (index + place) pair.1.type)
    (h : LacksRegister (index + front.length) param.type) (offset : Int) :
    placeFrom convention location index offset (front ++ (param, advance) :: back) =
      (warningsFrom convention location index (front.map Prod.fst),
        .error (.floatWidth (index + front.length : Nat) param.type location)) := by
  induction front generalizing index offset with
  | nil =>
    have hregister := register?_of_lacksRegister convention location h
    simp only [List.length_nil, Nat.add_zero] at hregister ⊢
    rw [List.nil_append, placeFrom, hregister]
    rfl
  | cons pair front ih =>
    obtain ⟨first, other⟩ := pair
    have hfirst : ¬LacksRegister index first.type := hfront 0 _ rfl
    have hindex : index + (front.length + 1) = index + 1 + front.length := by omega
    rw [List.length_cons, hindex] at h ⊢
    obtain ⟨placed, next, -, hplace, -, -⟩ := exists_storage convention location hfirst other offset
      (front ++ (param, advance) :: back)
    rw [List.cons_append, hplace, ih (not_lacksRegister_tail hfront) h, List.map_cons,
      warningsFrom_cons convention location index first (front.map _)]
    rfl

/-- If no parameter lacks a register, all are placed.  Each keeps its name and its type, and is on
the stack if it belongs there. -/
lemma exists_placed {pairs : List (Parameter × Parameter)}
    (h : ∀ place pair, pairs[place]? = some pair → ¬LacksRegister (index + place) pair.1.type)
    (offset : Int) :
    ∃ placed,
      placeFrom convention location index offset pairs = (warningsOf location placed, .ok placed) ∧
      placed.length = pairs.length ∧
      ∀ place pair result, pairs[place]? = some pair → placed[place]? = some result →
        (∃ storage, result = { pair.1 with storage := some storage, source := .analysis }) ∧
          (result.slot?.isSome ↔ GoesToStack convention (index + place) pair.1.type) := by
  induction pairs generalizing index offset with
  | nil => exact ⟨[], rfl, rfl, by simp⟩
  | cons pair rest ih =>
    obtain ⟨first, other⟩ := pair
    have hfirst : ¬LacksRegister index first.type := h 0 _ rfl
    obtain ⟨head, next, hhead, hplace, hstack, hwarnings⟩ :=
      exists_storage convention location hfirst other offset rest
    obtain ⟨placed, hrest, hlength, hall⟩ := ih (not_lacksRegister_tail h) next
    refine ⟨head :: placed, ?_, ?_, ?_⟩
    · have hsplit : warningsOf location (head :: placed) =
          warningsOf location [head] ++ warningsOf location placed := by
        rw [warningsOf, warningsOf, warningsOf, ← List.map_append, ← List.filter_append,
          List.singleton_append]
      rw [hplace, hrest, hwarnings, hsplit]
      rfl
    · rw [List.length_cons, List.length_cons, hlength]
    · intro place pair result hpair hresult
      cases place with
      | zero =>
        obtain rfl := Option.some.inj hpair
        obtain rfl := Option.some.inj hresult
        exact ⟨hhead, hstack⟩
      | succ place =>
        have hlater := hall place pair result (by simpa using hpair) (by simpa using hresult)
        rwa [Nat.add_assoc, Nat.add_comm 1] at hlater

/-- There is a misfit at an index exactly if the parameter there lacks a register. -/
lemma isMisfit_iff {params : List Parameter} :
    IsMisfit params index type ↔
      (∃ param, params[index]? = some param ∧ param.type = type) ∧ LacksRegister index type :=
  ⟨fun h => ⟨h.param, h.isEarly, h.isFloat, h.width⟩,
    fun ⟨hparam, hearly, hfloat, hwidth⟩ => ⟨hparam, hearly, hfloat, hwidth⟩⟩

/-- A list is cut at any of its members. -/
lemma exists_cut {α : Type} {list : List α} {a : α} (h : list[index]? = some a) :
    ∃ front back, list = front ++ a :: back ∧ front.length = index := by
  obtain ⟨hbound, rfl⟩ := List.getElem?_eq_some_iff.1 h
  refine ⟨list.take index, list.drop (index + 1), ?_, ?_⟩
  · rw [← List.drop_eq_getElem_cons hbound, List.take_append_drop]
  · rw [List.length_take, Nat.min_eq_left (Nat.le_of_lt hbound)]

/-- Each parameter comes with one that advances the offset. -/
lemma map_fst_zip_structsLast (params : List Parameter) :
    (params.zip (structsLast params)).map Prod.fst = params :=
  List.map_fst_zip (Nat.le_of_eq (length_structsLast params).symm)

/-- Placing fails at the first misfit. -/
lemma place_of_isMisfit {params : List Parameter} (h : IsMisfit params index type)
    (hfirst : ∀ earlier < index, ∀ other, ¬IsMisfit params earlier other) :
    place convention params location =
      (warningsFrom convention location 0 (params.take index),
        .error (.floatWidth index type location)) := by
  obtain ⟨⟨param, hparam, rfl⟩, hlacks⟩ := isMisfit_iff.1 h
  obtain ⟨⟨found, advance⟩, hpair, hfound⟩ : ∃ pair,
      (params.zip (structsLast params))[index]? = some pair ∧ pair.1 = param := by
    have hmapped : ((params.zip (structsLast params)).map Prod.fst)[index]? = some param := by
      rwa [map_fst_zip_structsLast]
    exact Option.map_eq_some_iff.1 (List.getElem?_map ▸ hmapped)
  obtain rfl : found = param := hfound
  obtain ⟨front, back, hpairs, rfl⟩ := exists_cut hpair
  have htake : params.take front.length = front.map Prod.fst := by
    rw [← map_fst_zip_structsLast params, hpairs, List.map_append]
    exact List.take_left' (List.length_map _)
  have hfront : ∀ place pair, front[place]? = some pair →
      ¬LacksRegister (0 + place) pair.1.type := by
    intro place pair hplace hearly
    have hbound := (List.getElem?_eq_some_iff.1 hplace).1
    have hall : (params.zip (structsLast params))[place]? = some pair := by
      rw [hpairs, List.getElem?_append_left hbound, hplace]
    have hthere := (List.getElem?_zip_eq_some.1 hall).1
    rw [Nat.zero_add] at hearly
    exact hfirst place hbound pair.1.type (isMisfit_iff.2 ⟨⟨pair.1, hthere, rfl⟩, hearly⟩)
  have hat : LacksRegister (0 + front.length) found.type := by rwa [Nat.zero_add]
  rw [place, hpairs, htake, placeFrom_of_lacksRegister convention location hfront hat,
    Nat.zero_add]

/-- Without a misfit all parameters are placed. -/
lemma exists_placed_of_fits {params : List Parameter}
    (hfits : ∀ index type, ¬IsMisfit params index type) :
    ∃ placed, place convention params location = (warningsOf location placed, .ok placed) ∧
      placed.length = params.length ∧
      ∀ index param result, params[index]? = some param → placed[index]? = some result →
        (∃ storage, result = { param with storage := some storage, source := .analysis }) ∧
          (result.slot?.isSome ↔ GoesToStack convention index param.type) := by
  have hplaced : ∀ place pair, (params.zip (structsLast params))[place]? = some pair →
      ¬LacksRegister (0 + place) pair.1.type := by
    intro place pair hpair hlacks
    have hthere := (List.getElem?_zip_eq_some.1 hpair).1
    rw [Nat.zero_add] at hlacks
    exact hfits place pair.1.type (isMisfit_iff.2 ⟨⟨pair.1, hthere, rfl⟩, hlacks⟩)
  obtain ⟨placed, hplace, hlength, hall⟩ := exists_placed convention location hplaced 0
  refine ⟨placed, hplace, ?_, ?_⟩
  · rw [hlength, ← List.length_map Prod.fst, map_fst_zip_structsLast]
  · intro index param result hparam hresult
    have hmapped : ((params.zip (structsLast params)).map Prod.fst)[index]? = some param := by
      rwa [map_fst_zip_structsLast]
    obtain ⟨pair, hpair, rfl⟩ := Option.map_eq_some_iff.1 (List.getElem?_map ▸ hmapped)
    have hat := hall index pair result hpair hresult
    rwa [Nat.zero_add] at hat

/-- Placing fails if and only if a floating-point parameter among the first five has a width for
which there is no register.  Where it fails, it does so at the first of them, and has warned of the
structures of unknown length that go to the stack in front of it.  Where it does not fail, it gives
the same parameters in the same order, each with a storage and from analysis, and has warned of
exactly those structures of unknown length that it placed on the stack. -/
theorem outcome_of_place (params : List Parameter) :
    ((∃ raised error, place convention params location = (raised, .error error)) ↔
        ∃ index type, IsMisfit params index type) ∧
      (∀ raised error, place convention params location = (raised, .error error) →
        ∃ index type, IsMisfit params index type ∧
          (∀ earlier < index, ∀ other, ¬IsMisfit params earlier other) ∧
          error = .floatWidth index type location ∧
          raised = warningsFrom convention location 0 (params.take index)) ∧
      ∀ raised placed, place convention params location = (raised, .ok placed) →
        raised = warningsOf location placed ∧ placed.length = params.length ∧
        ∀ index param result, params[index]? = some param → placed[index]? = some result →
          (∃ storage, result = { param with storage := some storage, source := .analysis }) ∧
            (result.slot?.isSome ↔ GoesToStack convention index param.type) := by
  by_cases hmisfit : ∃ index type, IsMisfit params index type
  · obtain ⟨index, ⟨type, h⟩, hleast⟩ : ∃ index, (∃ type, IsMisfit params index type) ∧
        ∀ earlier < index, ∀ other, ¬IsMisfit params earlier other := by
      classical
      refine ⟨Nat.find hmisfit, Nat.find_spec hmisfit, ?_⟩
      intro earlier hearlier other hother
      exact Nat.find_min hmisfit hearlier ⟨other, hother⟩
    have hplace := place_of_isMisfit convention location h hleast
    refine ⟨⟨fun _ => hmisfit, fun _ => ⟨_, _, hplace⟩⟩, ?_, ?_⟩
    · intro raised error hfailed
      obtain ⟨rfl, heq⟩ := Prod.mk.inj (hplace.symm.trans hfailed)
      exact ⟨index, type, h, hleast, (Except.error.inj heq).symm, rfl⟩
    · intro raised placed hreturned
      obtain ⟨-, heq⟩ := Prod.mk.inj (hplace.symm.trans hreturned)
      cases heq
  · have hfits : ∀ index type, ¬IsMisfit params index type :=
      fun index type h => hmisfit ⟨index, type, h⟩
    obtain ⟨placed, hplace, hlength, hall⟩ := exists_placed_of_fits convention location hfits
    have hreturns : ∀ raised error, place convention params location ≠ (raised, .error error) := by
      intro raised error hfailed
      obtain ⟨-, heq⟩ := Prod.mk.inj (hplace.symm.trans hfailed)
      cases heq
    refine ⟨⟨?_, fun h => absurd h hmisfit⟩, ?_, ?_⟩
    · rintro ⟨raised, error, hfailed⟩
      exact absurd hfailed (hreturns raised error)
    · intro raised error hfailed
      exact absurd hfailed (hreturns raised error)
    · intro raised other hreturned
      obtain ⟨rfl, heq⟩ := Prod.mk.inj (hplace.symm.trans hreturned)
      obtain rfl := Except.ok.inj heq
      exact ⟨rfl, hlength, hall⟩

/-- A structure of unknown length for the first register, and two for the stack; between these, a
floating-point number of a width without a register. -/
def vagueParams : List Parameter :=
  [{ name := some "self", type := .named ⟨.struct, ⟨[], "CCNode"⟩, 0⟩ },
    { name := some "size", type := .named ⟨.struct, ⟨[], "CCSize"⟩, 0⟩ },
    { name := some "scale", type := .builtin ⟨"longdouble", 10, true⟩ },
    { name := some "color", type := .named ⟨.struct, ⟨[], "ccColor3B"⟩, 0⟩ }]

/-- `vagueParams` behind three whole numbers. -/
def lateParams : List Parameter :=
  List.replicate 3 { type := .builtin ⟨"int", 4, false⟩ } ++ vagueParams

/-- Of `vagueParams` only `size` is warned of before placing fails.  In `lateParams` the same number
is too late for a register, so all of them are placed, and all structures are warned of. -/
theorem outcome_of_place_vagueParams :
    (∃ raised error, place (some .optcall) vagueParams "Layer::draw" = (raised, .error error) ∧
      raised = [.undefinedParameter "Layer::draw" (some "size")] ∧
      ∃ index type, IsMisfit vagueParams index type ∧
        (∀ earlier < index, ∀ other, ¬IsMisfit vagueParams earlier other) ∧
        error = .floatWidth index type "Layer::draw" ∧
        raised = warningsFrom (some .optcall) "Layer::draw" 0 (vagueParams.take index)) ∧
    ∃ raised placed, place (some .optcall) lateParams "Layer::draw" = (raised, .ok placed) ∧
      raised = ["self", "size", "color"].map
        (fun name => .undefinedParameter "Layer::draw" (some (.plain name))) ∧
      raised = warningsOf "Layer::draw" placed ∧ placed.length = lateParams.length := by
  obtain ⟨hfails, hfailed, -⟩ := outcome_of_place (some .optcall) "Layer::draw" vagueParams
  obtain ⟨hfailsLate, -, hreturned⟩ := outcome_of_place (some .optcall) "Layer::draw" lateParams
  refine ⟨?_, ?_⟩
  · have hmisfit : IsMisfit vagueParams 2 (.builtin ⟨"longdouble", 10, true⟩) :=
      ⟨⟨_, rfl, rfl⟩, by decide, rfl, by decide⟩
    obtain ⟨raised, error, hplace⟩ := hfails.2 ⟨_, _, hmisfit⟩
    have hraised : (place (some .optcall) vagueParams "Layer::draw").1 =
        [.undefinedParameter "Layer::draw" (some "size")] := by decide +kernel
    rw [hplace] at hraised
    exact ⟨raised, error, hplace, hraised, hfailed raised error hplace⟩
  · have hfits : ∀ index type, ¬IsMisfit lateParams index type := by
      rintro index type ⟨⟨param, hparam, rfl⟩, hearly, hfloat, -⟩
      have hnone : ∀ index < floatRegisters, ∀ param ∈ lateParams[index]?,
          param.type.isFloat = false := by decide
      rw [hnone index hearly param hparam] at hfloat
      cases hfloat
    have hraised : (place (some .optcall) lateParams "Layer::draw").1 =
        ["self", "size", "color"].map
          fun name => .undefinedParameter "Layer::draw" (some (.plain name)) := by decide +kernel
    cases hplace : place (some .optcall) lateParams "Layer::draw" with
    | mk raised result =>
      cases result with
      | error error =>
        obtain ⟨index, type, hmisfit⟩ := hfailsLate.1 ⟨raised, error, hplace⟩
        exact absurd hmisfit (hfits index type)
      | ok placed =>
        rw [hplace] at hraised
        obtain ⟨hwarnings, hlength, -⟩ := hreturned raised placed hplace
        exact ⟨raised, placed, rfl, hraised, hwarnings, hlength⟩

end BindingSync.Allocation
