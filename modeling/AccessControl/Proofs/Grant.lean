import AccessControl.Grant
import AccessControl.Proofs.Ordered

/-!
# Grants folded from permissions

Folding permissions into a grant loses nothing that restricts: actions, conditions and restricted
fields are those of all permissions together.  The values allowed for a field are put together from
the values that the single permissions allow for it, so a value that the grant permits is one that
the permissions permit.
-/

namespace AccessControl

/-- A fold that adds at most the items it goes over holds nothing else. -/
theorem mem_of_mem_foldl {α : Type} {add : List α → α → List α}
    (adds : ∀ {present : List α} {new item : α}, item ∈ add present new → item ∈ present ∨ item = new)
    {present more : List α} {item : α} (member : item ∈ more.foldl add present) :
    item ∈ present ∨ item ∈ more := by
  induction more generalizing present with
  | nil => exact .inl member
  | cons first rest ih =>
      rcases ih member with added | later
      · rcases adds added with old | rfl
        · exact .inl old
        · exact .inr (List.mem_cons_self ..)
      · exact .inr (List.mem_cons_of_mem first later)

/-! ## Values of one attribute -/

namespace AllowedValues

variable {specs : AllowedValues → Prop} {merged spec : AllowedValues}

theorem mem_of_mem_addSet {sets : List (List Json)} {new set : List Json}
    (member : set ∈ addSet sets new) : set ∈ sets ∨ set = new := by
  unfold addSet at member
  split at member
  · exact .inl member
  · simpa using member

theorem mem_of_mem_addValue {values : List Json} {new value : Json}
    (member : value ∈ addValue values new) : value ∈ values ∨ value = new := by
  unfold addValue at member
  split at member
  · exact .inl member
  · simpa using member

/-- Whether everything that a specification names is named by one of certain others. -/
def IsNamedBy (specs : AllowedValues → Prop) : AllowedValues → Prop
  | .lists sets => ∀ set ∈ sets, ∃ named, specs (.lists named) ∧ set ∈ named
  | .scalars values => ∀ value ∈ values, ∃ named, specs (.scalars named) ∧ value ∈ named

theorem isNamedBy_self (isSpec : specs spec) : IsNamedBy specs spec := by
  cases spec with
  | lists sets => exact fun set isSet => ⟨sets, isSpec, isSet⟩
  | scalars values => exact fun value isValue => ⟨values, isSpec, isValue⟩

/-- Merging makes nothing up. -/
theorem IsNamedBy.merge (named : IsNamedBy specs merged) (isSpec : specs spec) :
    IsNamedBy specs (merged.merge spec) := by
  have more := isNamedBy_self isSpec
  cases merged with
  | lists sets =>
      cases spec with
      | lists others =>
          intro set isSet
          exact (mem_of_mem_foldl mem_of_mem_addSet isSet).elim (named set) (more set)
      | scalars others => exact named
  | scalars values =>
      cases spec with
      | lists others => exact named
      | scalars others =>
          intro value isValue
          exact (mem_of_mem_foldl mem_of_mem_addValue isValue).elim (named value) (more value)

/-- Whether certain specifications together let an attribute have a value: one of them does, or each
item of a list is named by one of them. -/
def TogetherPermit (specs : AllowedValues → Prop) (value : Json) : Prop :=
  (∃ spec, specs spec ∧ spec.permits value = true) ∨
    ∃ items, value = .arr items ∧
      ∀ item ∈ items, ∃ values, specs (.scalars values) ∧ Json.memberOf item values = true

theorem IsNamedBy.exists_memberOf {values : List Json} {item : Json}
    (named : IsNamedBy specs (.scalars values)) (member : Json.memberOf item values = true) :
    ∃ others, specs (.scalars others) ∧ Json.memberOf item others = true := by
  obtain ⟨value, isValue, same⟩ := List.any_eq_true.mp member
  obtain ⟨others, isSpec, isOther⟩ := named value isValue
  exact ⟨others, isSpec, List.any_eq_true.mpr ⟨value, isOther, same⟩⟩

/-- What a merged specification permits, the specifications that it names permit together. -/
theorem IsNamedBy.togetherPermit {value : Json} (named : IsNamedBy specs merged)
    (permitted : merged.permits value = true) : TogetherPermit specs value := by
  cases merged with
  | lists sets =>
      cases value with
      | arr items =>
          obtain ⟨set, isSet, covered⟩ := List.any_eq_true.mp permitted
          obtain ⟨others, isSpec, isOther⟩ := named set isSet
          exact .inl ⟨.lists others, isSpec, List.any_eq_true.mpr ⟨set, isOther, covered⟩⟩
      | _ => cases permitted
  | scalars values =>
      cases value with
      | arr items =>
          refine .inr ⟨items, rfl, fun item isItem => ?_⟩
          exact named.exists_memberOf (List.all_eq_true.mp permitted item isItem)
      | _ =>
          obtain ⟨others, isSpec, member⟩ := named.exists_memberOf permitted
          exact .inl ⟨.scalars others, isSpec, member⟩

end AllowedValues

/-! ## Grants -/

namespace Grant

variable {grant : Grant} {permission : Permission} {permissions : List Permission} {field : String}

/-- What one permission adds, a fold of permissions adds if one of them does. -/
theorem foldl_absorb_iff (holds : Grant → Prop) {adds : Permission → Prop}
    (step : ∀ grant permission, holds (absorb grant permission) ↔ holds grant ∨ adds permission) :
    holds (permissions.foldl absorb grant) ↔
      holds grant ∨ ∃ permission ∈ permissions, adds permission := by
  induction permissions generalizing grant with
  | nil => simp
  | cons first rest ih => rw [List.foldl_cons, ih, step, or_assoc]; simp

theorem mem_actions_foldl {action : Action} :
    action ∈ (permissions.foldl absorb grant).actions ↔
      action ∈ grant.actions ∨ ∃ permission ∈ permissions, action ∈ permission.actions :=
  foldl_absorb_iff (action ∈ ·.actions) fun _ _ => Std.ExtTreeSet.mem_union_iff

theorem mem_conditions_foldl {condition : Condition} :
    condition ∈ (permissions.foldl absorb grant).conditions ↔
      condition ∈ grant.conditions ∨
        ∃ permission ∈ permissions, condition ∈ permission.conditions :=
  foldl_absorb_iff (condition ∈ ·.conditions) fun _ _ => Std.ExtTreeSet.mem_union_iff

theorem mem_foldl_addField {fields more : List String} :
    field ∈ more.foldl addField fields ↔ field ∈ fields ∨ field ∈ more := by
  induction more generalizing fields with
  | nil => simp
  | cons first rest ih =>
      have added : field ∈ addField fields first ↔ field ∈ fields ∨ field = first := by
        unfold addField
        split
        · grind
        · simp
      rw [List.foldl_cons, ih, added, List.mem_cons, or_assoc]

theorem mem_restrictedFields_foldl :
    field ∈ (permissions.foldl absorb grant).restrictedFields ↔
      field ∈ grant.restrictedFields ∨
        ∃ permission ∈ permissions, field ∈ permission.restrictedFields :=
  foldl_absorb_iff (field ∈ ·.restrictedFields) fun _ _ => mem_foldl_addField

theorem nodup_foldl_addField {fields more : List String} (distinct : fields.Nodup) :
    (more.foldl addField fields).Nodup := by
  induction more generalizing fields with
  | nil => exact distinct
  | cons first rest ih =>
      refine ih ?_
      unfold addField
      split
      · exact distinct
      · next isNew =>
        refine List.nodup_append.mpr ⟨distinct, by simp, fun field member other isFirst same => ?_⟩
        rw [same, List.mem_singleton.mp isFirst] at member
        exact isNew member

/-- However often a field is restricted, it is noted once. -/
theorem nodup_restrictedFields_foldl (distinct : grant.restrictedFields.Nodup) :
    (permissions.foldl absorb grant).restrictedFields.Nodup := by
  induction permissions generalizing grant with
  | nil => exact distinct
  | cons first rest ih => exact ih (nodup_foldl_addField distinct)

/-! ## Allowed values of a grant -/

theorem getElem?_addValues {allowed : Dict String AllowedValues} {other : String}
    {values : AllowedValues} :
    (addValues allowed other values)[field]? =
      if other = field then some (allowed[field]?.elim values (·.merge values))
      else allowed[field]? := by
  rw [addValues, Std.ExtTreeMap.getElem?_alter]
  by_cases same : other = field
  · subst same
    cases allowed[other]? <;> simp
  · simp [same, Std.LawfulEqCmp.compare_eq_iff_eq]

theorem isSome_foldl_addValues {more allowed : Dict String AllowedValues} :
    (more.foldl addValues allowed)[field]?.isSome = true ↔
      allowed[field]?.isSome = true ∨ more[field]?.isSome = true := by
  have overList (members : List (String × AllowedValues)) :
      (members.foldl (fun allowed member => addValues allowed member.1 member.2)
          allowed)[field]?.isSome = true ↔
        allowed[field]?.isSome = true ∨ ∃ values, (field, values) ∈ members := by
    induction members generalizing allowed with
    | nil => simp
    | cons first rest ih =>
        rw [List.foldl_cons, ih, getElem?_addValues]
        split <;> grind
  rw [Std.ExtTreeMap.foldl_eq_foldl_toList, overList, Option.isSome_iff_exists (x := more[field]?)]
  simp only [Std.ExtTreeMap.mem_toList_iff_getElem?_eq_some]

/-- Adding the values of a permission at a field keeps to what certain specifications name. -/
theorem isNamedBy_foldl_addValues {more allowed : Dict String AllowedValues}
    {specs : AllowedValues → Prop}
    (start : ∀ spec ∈ allowed[field]?, AllowedValues.IsNamedBy specs spec)
    (contained : ∀ spec ∈ more[field]?, specs spec) :
    ∀ spec ∈ (more.foldl addValues allowed)[field]?, AllowedValues.IsNamedBy specs spec := by
  have overList (members : List (String × AllowedValues))
      (contained : ∀ values, (field, values) ∈ members → specs values) :
      ∀ spec ∈ (members.foldl (fun allowed member => addValues allowed member.1 member.2)
        allowed)[field]?, AllowedValues.IsNamedBy specs spec := by
    induction members generalizing allowed with
    | nil => exact start
    | cons first rest ih =>
        refine ih (fun spec added => ?_) fun values later =>
          contained values (List.mem_cons_of_mem first later)
        rw [getElem?_addValues] at added
        split at added
        · next same =>
          obtain rfl : _ = spec := Option.some.inj added
          have isSpec : specs first.2 := contained first.2 (same ▸ List.mem_cons_self ..)
          cases old : allowed[field]? with
          | none => exact AllowedValues.isNamedBy_self isSpec
          | some present => exact (start present old).merge isSpec
        · exact start spec added
  rw [Std.ExtTreeMap.foldl_eq_foldl_toList]
  exact overList more.toList fun values member =>
    contained values (Std.ExtTreeMap.mem_toList_iff_getElem?_eq_some.mp member)

/-- A field is constrained as soon as one permission constrains it. -/
theorem isSome_allowedValues_foldl :
    (permissions.foldl absorb grant).allowedValues[field]?.isSome = true ↔
      grant.allowedValues[field]?.isSome = true ∨
        ∃ permission ∈ permissions, permission.allowedValues[field]?.isSome = true :=
  foldl_absorb_iff (fun grant => grant.allowedValues[field]?.isSome = true)
    fun _ _ => isSome_foldl_addValues

/-- What a grant allows for a field is named by the permissions that were folded into it. -/
theorem isNamedBy_allowedValues_foldl {specs : AllowedValues → Prop}
    (start : ∀ spec ∈ grant.allowedValues[field]?, AllowedValues.IsNamedBy specs spec)
    (contained : ∀ permission ∈ permissions, ∀ spec ∈ permission.allowedValues[field]?, specs spec) :
    ∀ spec ∈ (permissions.foldl absorb grant).allowedValues[field]?,
      AllowedValues.IsNamedBy specs spec := by
  induction permissions generalizing grant with
  | nil => exact start
  | cons first rest ih =>
      obtain ⟨here, later⟩ := List.forall_mem_cons.mp contained
      exact ih (isNamedBy_foldl_addValues start here) later

/-! ## Judging a request -/

theorem conditionsMet_iff {action : Action} {achieved : Bag Condition} :
    grant.conditionsMet action achieved = true ↔
      (action.skipsConditions = false → ∀ condition ∈ grant.conditions, condition ∈ achieved) := by
  rw [conditionsMet, Bool.or_eq_true, Bag.all_iff]
  cases action.skipsConditions <;> simp

/-- A path lies below a field if it continues it after a dot. -/
theorem isSameOrBelow_iff {path ancestor : String} :
    Attributes.isSameOrBelow path ancestor = true ↔
      path = ancestor ∨ ∃ rest, path = ancestor ++ "." ++ rest := by
  rw [Attributes.isSameOrBelow, Bool.or_eq_true, decide_eq_true_eq]
  refine or_congr_right ?_
  constructor
  · intro reached
    split at reached
    · next rest found =>
      refine ⟨String.ofList rest, String.toList_inj.mp ?_⟩
      simpa using Text.afterChars?_eq_some_iff.mp found
    · cases reached
  · rintro ⟨rest, rfl⟩
    have found : Text.afterChars? ancestor.toList (ancestor ++ "." ++ rest).toList =
        some ('.' :: rest.toList) := Text.afterChars?_eq_some_iff.mpr (by simp)
    simp only [found]

theorem touchesRestricted_eq_false_iff {flat : Dict String Json} :
    grant.touchesRestricted flat = false ↔
      ∀ field ∈ grant.restrictedFields, ∀ path ∈ flat,
        Attributes.isSameOrBelow path field = false := by
  simp [touchesRestricted, Std.ExtTreeMap.mem_keys]

theorem valuesAllowed_iff {flat : Dict String Json} :
    grant.valuesAllowed flat = true ↔
      ∀ (field : String) (spec : AllowedValues), grant.allowedValues[field]? = some spec →
        ∀ value ∈ flat[field]?, spec.permits value = true := by
  rw [valuesAllowed, Dict.all_iff]
  refine forall_congr' fun field => forall_congr' fun spec => imp_congr_right fun _ => ?_
  cases flat[field]? <;> simp

/-- A grant lets a request pass exactly if all three checks pass. -/
theorem isOk_evaluate {action : Action} {achieved : Bag Condition}
    {attributes : Attributes.Members} :
    (grant.evaluate action achieved attributes).isOk = true ↔
      grant.allowsAction action = true ∧ grant.conditionsMet action achieved = true ∧
        grant.restrictionsMet action attributes = true := by
  unfold evaluate
  split
  · simp_all [Except.isOk, Except.toBool]
  · split
    · simp_all [Except.isOk, Except.toBool]
    · split <;> simp_all [Except.isOk, Except.toBool]

end Grant

end AccessControl
