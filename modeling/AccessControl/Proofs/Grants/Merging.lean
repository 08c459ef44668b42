import AccessControl.Proofs.Grant
import AccessControl.Proofs.Json.Same
import Mathlib.Tactic.ByContra

/-!
# Merging in any order

A grant that is folded from permissions judges every request by the permissions that were folded, not
by their order nor by how often they were folded.  Actions, conditions and restricted fields are
unions.  Allowed values of one shape are unions too, of values or of sets of values; only where both
shapes meet at one attribute does the first of them stay, and the order can be told from what is
allowed there.
-/

namespace AccessControl

/-- Adding items unless their value is there already makes a list hold exactly the values of both. -/
theorem any_foldl_add {α : Type} (same : α → α → Bool) {add : List α → α → List α}
    (trans : ∀ {first second third : α}, same first second = true → same second third = true →
      same first third = true)
    (adds : ∀ present new, add present new =
      if present.any (same · new) then present else present ++ [new])
    {present more : List α} {item : α} :
    (more.foldl add present).any (same · item) = true ↔
      present.any (same · item) = true ∨ more.any (same · item) = true := by
  induction more generalizing present with
  | nil => simp
  | cons first rest ih =>
      have added : (add present first).any (same · item) = true ↔
          present.any (same · item) = true ∨ same first item = true := by
        rw [adds]
        split
        · next isThere =>
          refine ⟨.inl, fun isAny => isAny.elim id fun isFirst => ?_⟩
          obtain ⟨held, isHeld, sameHeld⟩ := List.any_eq_true.mp isThere
          exact List.any_eq_true.mpr ⟨held, isHeld, trans sameHeld isFirst⟩
        · simp
      rw [List.foldl_cons, ih, added, List.any_cons, Bool.or_eq_true, or_assoc]

/-! ## Values of one attribute -/

namespace AllowedValues

variable {first second : AllowedValues} {rest others : List AllowedValues}

/-- Whether sets of values are allowed, of which one must cover the attribute. -/
def isLists : AllowedValues → Bool
  | .lists _ => true
  | .scalars _ => false

/-- Whether a set of values is named. -/
def NamesSet : AllowedValues → List Json → Prop
  | .lists sets, set => hasSet sets set = true
  | .scalars _, _ => False

/-- Whether a value is named. -/
def NamesValue : AllowedValues → Json → Prop
  | .lists _, _ => False
  | .scalars values, value => Json.memberOf value values = true

/-- What allowed values name decides whether a list is permitted. -/
theorem permits_arr_iff {items : List Json} :
    first.permits (.arr items) = true ↔
      (∃ set, first.NamesSet set ∧ covers set items = true) ∨
        first.isLists = false ∧ ∀ item ∈ items, first.NamesValue item := by
  cases first with
  | lists sets =>
      simp only [permits, isLists, NamesSet, List.any_eq_true, Bool.true_eq_false, false_and, or_false]
      constructor
      · rintro ⟨set, isSet, covered⟩
        exact ⟨set, List.any_eq_true.mpr ⟨set, isSet, Json.sameItems_self set⟩, covered⟩
      · rintro ⟨set, named, covered⟩
        obtain ⟨held, isSet, same⟩ := List.any_eq_true.mp named
        refine ⟨held, isSet, List.all_eq_true.mpr fun item isItem => ?_⟩
        exact Json.memberOf_of_sameItems same (List.all_eq_true.mp covered item isItem)
  | scalars values => simp [permits, covers, isLists, NamesSet, NamesValue]

/-- Allowed values of one shape that name the same. -/
structure Alike (first second : AllowedValues) : Prop where
  shape : first.isLists = second.isLists
  sets : ∀ set, first.NamesSet set ↔ second.NamesSet set
  values : ∀ value, first.NamesValue value ↔ second.NamesValue value

theorem Alike.permits_eq (alike : first.Alike second) (value : Json) :
    first.permits value = second.permits value := by
  rw [Bool.eq_iff_iff]
  cases value with
  | arr items => simp only [permits_arr_iff, alike.shape, alike.sets, alike.values]
  | _ =>
      have named := alike.values
      cases first <;> cases second <;> simp_all [permits, NamesValue]

theorem hasSet_foldl_addSet {sets more : List (List Json)} {set : List Json} :
    hasSet (more.foldl addSet sets) set = true ↔ hasSet sets set = true ∨ hasSet more set = true :=
  any_foldl_add Json.sameItems (Json.sameItems_trans _) fun _ _ => rfl

theorem memberOf_foldl_addValue {values more : List Json} {value : Json} :
    Json.memberOf value (more.foldl addValue values) = true ↔
      Json.memberOf value values = true ∨ Json.memberOf value more = true :=
  any_foldl_add Json.same (Json.same_trans _) fun _ _ => rfl

theorem isLists_merge : (first.merge second).isLists = first.isLists := by
  cases first <;> cases second <;> rfl

theorem namesSet_merge {set : List Json} (shape : first.isLists = second.isLists) :
    (first.merge second).NamesSet set ↔ first.NamesSet set ∨ second.NamesSet set := by
  cases first with
  | lists sets =>
      cases second with
      | lists more => exact hasSet_foldl_addSet
      | scalars values => cases shape
  | scalars values =>
      cases second with
      | lists sets => cases shape
      | scalars more => simp [merge, NamesSet]

theorem namesValue_merge {value : Json} (shape : first.isLists = second.isLists) :
    (first.merge second).NamesValue value ↔ first.NamesValue value ∨ second.NamesValue value := by
  cases first with
  | lists sets =>
      cases second with
      | lists more => simp [merge, NamesValue]
      | scalars values => cases shape
  | scalars values =>
      cases second with
      | lists sets => cases shape
      | scalars more => exact memberOf_foldl_addValue

theorem isLists_foldl_merge : (rest.foldl merge first).isLists = first.isLists := by
  induction rest generalizing first with
  | nil => rfl
  | cons next later ih => exact ih.trans isLists_merge

/-- Of one shape, all together name what each of them names. -/
theorem foldl_merge_iff (names : AllowedValues → Prop)
    (merges : ∀ {first second : AllowedValues}, first.isLists = second.isLists →
      (names (first.merge second) ↔ names first ∨ names second))
    (shape : ∀ spec ∈ rest, spec.isLists = first.isLists) :
    names (rest.foldl merge first) ↔ ∃ spec ∈ first :: rest, names spec := by
  induction rest generalizing first with
  | nil => simp
  | cons next later ih =>
      obtain ⟨sameNext, sameLater⟩ := List.forall_mem_cons.mp shape
      have shapeLater : ∀ spec ∈ later, spec.isLists = (first.merge next).isLists :=
        fun spec isSpec => (sameLater spec isSpec).trans isLists_merge.symm
      rw [List.foldl_cons, ih shapeLater]
      simp only [List.mem_cons, exists_eq_or_imp, merges sameNext.symm, or_assoc]

/-- Allowed values of one shape are merged to the same in whatever order and however often. -/
theorem alike_foldl_merge
    (same : ∀ spec, spec ∈ first :: rest ↔ spec ∈ second :: others)
    (shape : ∀ spec ∈ first :: rest, spec.isLists = first.isLists) :
    (rest.foldl merge first).Alike (others.foldl merge second) := by
  have shapeSecond : second.isLists = first.isLists :=
    shape second ((same second).mpr List.mem_cons_self)
  have shapeRest : ∀ spec ∈ rest, spec.isLists = first.isLists :=
    fun spec isSpec => shape spec (List.mem_cons_of_mem first isSpec)
  have shapeOthers : ∀ spec ∈ others, spec.isLists = second.isLists := fun spec isSpec =>
    (shape spec ((same spec).mpr (List.mem_cons_of_mem second isSpec))).trans shapeSecond.symm
  constructor
  · rw [isLists_foldl_merge, isLists_foldl_merge, shapeSecond]
  · intro set
    rw [foldl_merge_iff (NamesSet · set) namesSet_merge shapeRest,
      foldl_merge_iff (NamesSet · set) namesSet_merge shapeOthers]
    simp only [same]
  · intro value
    rw [foldl_merge_iff (NamesValue · value) namesValue_merge shapeRest,
      foldl_merge_iff (NamesValue · value) namesValue_merge shapeOthers]
    simp only [same]

/-- The values allowed so far with more merged in, if there are some yet or not. -/
def mergeAt (present : Option AllowedValues) (values : AllowedValues) : Option AllowedValues :=
  some (present.elim values (·.merge values))

theorem foldl_mergeAt_some : rest.foldl mergeAt (some first) = some (rest.foldl merge first) := by
  induction rest generalizing first with
  | nil => rfl
  | cons next later ih => exact ih

end AllowedValues

/-! ## Grants -/

/-- Whether certain permissions name both values and sets of values for an attribute. -/
structure Clashes (among : Permission → Prop) (field : String) : Prop where
  lists : ∃ permission sets, among permission ∧
    permission.allowedValues[field]? = some (.lists sets)
  scalars : ∃ permission values, among permission ∧
    permission.allowedValues[field]? = some (.scalars values)

/-- Whether two outcomes are the same, or one passes and the other fails at the restrictions on
account of a clash. -/
def AgreeUnless (clash : Prop) (first second : Except AccessCheck Unit) : Prop :=
  first = second ∨
    clash ∧ (first = .ok () ∧ second = .error .restriction ∨
      first = .error .restriction ∧ second = .ok ())

theorem AgreeUnless.mono {clash other : Prop} {first second : Except AccessCheck Unit}
    (agree : AgreeUnless clash first second) (implies : clash → other) :
    AgreeUnless other first second :=
  agree.imp_right (And.imp_left implies)

namespace Grant

open AllowedValues

variable {field : String} {permissions others : List Permission} {flat : Dict String Json}
  {spec : AllowedValues}

/-- What a map of allowed values holds for a field is merged into what is allowed already. -/
theorem exists_specs_addValues (more : Dict String AllowedValues) (field : String) :
    ∃ specs : List AllowedValues, (∀ spec, spec ∈ specs ↔ more[field]? = some spec) ∧
      ∀ allowed : Dict String AllowedValues,
        (more.foldl addValues allowed)[field]? = specs.foldl mergeAt allowed[field]? := by
  have overList (members : List (String × AllowedValues)) (allowed : Dict String AllowedValues) :
      (members.foldl (fun allowed member => addValues allowed member.1 member.2) allowed)[field]? =
        ((members.filter (·.1 = field)).map Prod.snd).foldl mergeAt allowed[field]? := by
    induction members generalizing allowed with
    | nil => rfl
    | cons first rest ih =>
        rw [List.foldl_cons, ih, getElem?_addValues, List.filter_cons]
        by_cases same : first.1 = field <;> simp [same, mergeAt]
  refine ⟨(more.toList.filter (·.1 = field)).map Prod.snd, fun spec => ?_, fun allowed => ?_⟩
  · simp [Std.ExtTreeMap.mem_toList_iff_getElem?_eq_some]
  · rw [Std.ExtTreeMap.foldl_eq_foldl_toList, overList]

/-- What a fold of permissions allows for a field is merged from what each of them names for it. -/
theorem exists_specs (permissions : List Permission) (field : String) :
    ∃ specs : List AllowedValues,
      (∀ spec, spec ∈ specs ↔
        ∃ permission ∈ permissions, permission.allowedValues[field]? = some spec) ∧
      ∀ grant : Grant, (permissions.foldl absorb grant).allowedValues[field]? =
        specs.foldl mergeAt grant.allowedValues[field]? := by
  induction permissions with
  | nil => exact ⟨[], by simp, fun grant => rfl⟩
  | cons first rest ih =>
      obtain ⟨here, isHere, mergesHere⟩ := exists_specs_addValues first.allowedValues field
      obtain ⟨later, isLater, mergesLater⟩ := ih
      refine ⟨here ++ later, fun spec => ?_, fun grant => ?_⟩
      · simp [isHere, isLater]
      · rw [List.foldl_cons, mergesLater, List.foldl_append, ← mergesHere]
        rfl

/-- Where the shapes of allowed values do not clash, the order in which permissions were folded and
their repetitions make no difference to what is named. -/
theorem exists_alike (same : ∀ permission, permission ∈ permissions ↔ permission ∈ others)
    (unmixed : ¬ Clashes (· ∈ permissions) field)
    (found : (permissions.foldl absorb .empty).allowedValues[field]? = some spec) :
    ∃ other, (others.foldl absorb .empty).allowedValues[field]? = some other ∧ spec.Alike other := by
  obtain ⟨specs, isSpec, merges⟩ := exists_specs permissions field
  obtain ⟨otherSpecs, isOtherSpec, mergesOthers⟩ := exists_specs others field
  have sameSpecs : ∀ spec, spec ∈ specs ↔ spec ∈ otherSpecs := by
    intro spec
    simp only [isSpec, isOtherSpec, same]
  have nothing : Grant.empty.allowedValues[field]? = none := by simp [Grant.empty]
  rw [merges, nothing] at found
  cases specs with
  | nil => cases found
  | cons first rest =>
      cases otherSpecs with
      | nil => exact absurd ((sameSpecs first).mp List.mem_cons_self) List.not_mem_nil
      | cons second more =>
          have shape : ∀ spec ∈ first :: rest, spec.isLists = first.isLists := by
            intro spec isMember
            obtain ⟨one, isOne, names⟩ := (isSpec spec).mp isMember
            obtain ⟨two, isTwo, namesFirst⟩ := (isSpec first).mp List.mem_cons_self
            cases spec <;> cases first
            · rfl
            · exact absurd ⟨⟨one, _, isOne, names⟩, ⟨two, _, isTwo, namesFirst⟩⟩ unmixed
            · exact absurd ⟨⟨two, _, isTwo, namesFirst⟩, ⟨one, _, isOne, names⟩⟩ unmixed
            · rfl
          obtain rfl : rest.foldl merge first = spec :=
            Option.some.inj (foldl_mergeAt_some.symm.trans found)
          refine ⟨more.foldl merge second, ?_, alike_foldl_merge sameSpecs shape⟩
          rw [mergesOthers, nothing]
          exact foldl_mergeAt_some

/-- Where the shapes of allowed values do not clash, what is allowed follows from the permissions that
were folded. -/
theorem valuesAllowed_foldl_of_mem_iff
    (same : ∀ permission, permission ∈ permissions ↔ permission ∈ others)
    (unmixed : ∀ field ∈ flat, ¬ Clashes (· ∈ permissions) field)
    (allowed : (permissions.foldl absorb .empty).valuesAllowed flat = true) :
    (others.foldl absorb .empty).valuesAllowed flat = true := by
  rw [valuesAllowed_iff] at allowed ⊢
  intro field spec found value present
  have carried : field ∈ flat := Dict.mem_iff_exists_getElem?.mpr ⟨value, present⟩
  have unmixedOthers : ¬ Clashes (· ∈ others) field := by
    simpa only [same] using unmixed field carried
  obtain ⟨other, foundOther, alike⟩ :=
    exists_alike (fun permission => (same permission).symm) unmixedOthers found
  rw [alike.permits_eq]
  exact allowed field other foundOther value present

/-- Restricted fields are those of all permissions, in whatever order they were folded. -/
theorem touchesRestricted_foldl_of_mem_iff
    (same : ∀ permission, permission ∈ permissions ↔ permission ∈ others) :
    (permissions.foldl absorb .empty).touchesRestricted flat =
      (others.foldl absorb .empty).touchesRestricted flat := by
  rw [← Bool.not_inj_iff, Bool.eq_iff_iff]
  simp only [Bool.not_eq_true', touchesRestricted_eq_false_iff, mem_restrictedFields_foldl, same]

theorem allowsAction_foldl_of_mem_iff {action : Action}
    (same : ∀ permission, permission ∈ permissions ↔ permission ∈ others) :
    (permissions.foldl absorb .empty).allowsAction action =
      (others.foldl absorb .empty).allowsAction action := by
  rw [Bool.eq_iff_iff]
  simp only [allowsAction, ← Std.ExtTreeSet.mem_iff_contains, mem_actions_foldl, same]

theorem conditionsMet_foldl_of_mem_iff {action : Action} {achieved : Bag Condition}
    (same : ∀ permission, permission ∈ permissions ↔ permission ∈ others) :
    (permissions.foldl absorb .empty).conditionsMet action achieved =
      (others.foldl absorb .empty).conditionsMet action achieved := by
  rw [Bool.eq_iff_iff]
  simp only [conditionsMet_iff, mem_conditions_foldl, same]

/-- Grants that only the restrictions can tell apart judge alike, or one fails at the restrictions
where the other passes. -/
theorem evaluate_eq_or {first second : Grant} {action : Action} {achieved : Bag Condition}
    {attributes : Attributes.Members}
    (sameActions : first.allowsAction action = second.allowsAction action)
    (sameConditions : first.conditionsMet action achieved = second.conditionsMet action achieved) :
    first.evaluate action achieved attributes = second.evaluate action achieved attributes ∨
      first.restrictionsMet action attributes ≠ second.restrictionsMet action attributes ∧
        (first.evaluate action achieved attributes = .ok () ∧
            second.evaluate action achieved attributes = .error .restriction ∨
          first.evaluate action achieved attributes = .error .restriction ∧
            second.evaluate action achieved attributes = .ok ()) := by
  simp only [evaluate, sameActions, sameConditions]
  cases second.allowsAction action <;> cases second.conditionsMet action achieved <;>
    cases first.restrictionsMet action attributes <;>
    cases second.restrictionsMet action attributes <;> simp

/-- Grants that are folded from the same permissions judge alike, unless one fails at the restrictions
on account of an attribute of the payload for which the shapes of allowed values clash. -/
theorem agreeUnless_foldl_absorb
    (same : ∀ permission, permission ∈ permissions ↔ permission ∈ others) (action : Action)
    (achieved : Bag Condition) (attributes : Attributes.Members) :
    AgreeUnless (∃ field ∈ Attributes.flatten attributes, Clashes (· ∈ permissions) field)
      ((permissions.foldl absorb .empty).evaluate action achieved attributes)
      ((others.foldl absorb .empty).evaluate action achieved attributes) := by
  refine (evaluate_eq_or (allowsAction_foldl_of_mem_iff same)
    (conditionsMet_foldl_of_mem_iff same)).imp_right (And.imp_left fun differ => ?_)
  by_contra unmixed
  have unmixedHere : ∀ field ∈ Attributes.flatten attributes, ¬ Clashes (· ∈ permissions) field :=
    fun field carried clashes => unmixed ⟨field, carried, clashes⟩
  have unmixedThere : ∀ field ∈ Attributes.flatten attributes, ¬ Clashes (· ∈ others) field := by
    simpa only [same] using unmixedHere
  have sameValues : (permissions.foldl absorb .empty).valuesAllowed (Attributes.flatten attributes) =
      (others.foldl absorb .empty).valuesAllowed (Attributes.flatten attributes) :=
    Bool.eq_iff_iff.mpr ⟨valuesAllowed_foldl_of_mem_iff same unmixedHere,
      valuesAllowed_foldl_of_mem_iff (fun permission => (same permission).symm) unmixedThere⟩
  exact differ (by simp only [restrictionsMet, touchesRestricted_foldl_of_mem_iff same, sameValues])

end Grant

end AccessControl
