import AccessControl.Ordered

/-!
# Everything in a map or a set

A test on all of a map or a set passes exactly if everything that is looked up in it passes.
-/

namespace AccessControl

open Std

variable {κ α : Type} [Ord κ] [TransOrd κ]

namespace Dict

theorem all_eq_all_toList {dict : Dict κ α} {test : κ → α → Bool} :
    dict.all test = dict.toList.all fun member => test member.1 member.2 := by
  obtain ⟨inner⟩ := dict
  induction inner using ExtDTreeMap.inductionOn with
  | mk tree =>
      show DTreeMap.Internal.Impl.all tree.inner test =
        (DTreeMap.Internal.Impl.Const.toList tree.inner).all _
      rw [DTreeMap.Internal.Impl.all_eq_all_toListModel,
        DTreeMap.Internal.Impl.Const.toList_eq_toListModel_map]
      simp [List.all_map, Function.comp_def]

/-- A map holds the keys that something is found at. -/
theorem mem_iff_exists_getElem? {dict : Dict κ α} {key : κ} :
    key ∈ dict ↔ ∃ value, dict[key]? = some value := by
  rw [ExtTreeMap.mem_iff_isSome_getElem?, Option.isSome_iff_exists]

theorem all_iff [LawfulEqOrd κ] {dict : Dict κ α} {test : κ → α → Bool} :
    dict.all test = true ↔ ∀ key value, dict[key]? = some value → test key value = true := by
  rw [all_eq_all_toList, List.all_eq_true]
  constructor
  · intro passed key value found
    exact passed (key, value) (ExtTreeMap.mem_toList_iff_getElem?_eq_some.mpr found)
  · rintro passed ⟨key, value⟩ member
    exact passed key value (ExtTreeMap.mem_toList_iff_getElem?_eq_some.mp member)

/-- What is found in a map that was made from a list is in the list. -/
theorem mem_of_getElem?_ofList [LawfulEqOrd κ] {members : List (κ × α)} {key : κ} {value : α}
    (found : (ExtTreeMap.ofList members : Dict κ α)[key]? = some value) : (key, value) ∈ members := by
  classical
  let _ : BEq κ := instBEqOfDecidableEq
  rw [ExtTreeMap.ofList_eq_insertMany_empty, ExtTreeMap.getElem?_insertMany_list,
    List.findSomeRev?_eq_findSome?_reverse] at found
  simp only [ExtTreeMap.getElem?_empty, Option.or_none] at found
  obtain ⟨⟨other, held⟩, member, hit⟩ := List.exists_of_findSome?_eq_some found
  split at hit
  · next same =>
    obtain rfl : other = key := LawfulEqCmp.eq_of_compare same
    obtain rfl : held = value := Option.some.inj hit
    exact List.mem_reverse.mp member
  · cases hit

/-- A map is made of its own members. -/
theorem ofList_toList [LawfulEqOrd κ] (dict : Dict κ α) : ExtTreeMap.ofList dict.toList = dict := by
  refine ExtTreeMap.ext_getElem? fun key => ?_
  cases found : dict[key]? with
  | some value =>
      exact ExtTreeMap.getElem?_ofList_of_mem (ReflCmp.compare_self ..)
        ExtTreeMap.distinct_keys_toList (ExtTreeMap.mem_toList_iff_getElem?_eq_some.mpr found)
  | none =>
      refine Option.eq_none_iff_forall_ne_some.mpr fun value inList => ?_
      have held := ExtTreeMap.mem_toList_iff_getElem?_eq_some.mp (mem_of_getElem?_ofList inList)
      rw [found] at held
      cases held

/-- The order of the members does not matter if their keys are distinct. -/
theorem ofList_perm [LawfulEqOrd κ] {members others : List (κ × α)} (moved : members.Perm others)
    (distinct : others.Pairwise fun member other => ¬ compare member.1 other.1 = .eq) :
    (ExtTreeMap.ofList members : Dict κ α) = ExtTreeMap.ofList others := by
  have distinctBefore := (moved.pairwise_iff fun apart same => apart (OrientedCmp.eq_symm same)).mpr
    distinct
  refine ExtTreeMap.ext_getElem? fun key => ?_
  cases found : (ExtTreeMap.ofList others : Dict κ α)[key]? with
  | some value =>
      exact ExtTreeMap.getElem?_ofList_of_mem (ReflCmp.compare_self ..) distinctBefore
        (moved.mem_iff.mpr (mem_of_getElem?_ofList found))
  | none =>
      refine Option.eq_none_iff_forall_ne_some.mpr fun value held => ?_
      have inOthers := ExtTreeMap.getElem?_ofList_of_mem (ReflCmp.compare_self ..) distinct
        (moved.mem_iff.mp (mem_of_getElem?_ofList held))
      rw [found] at inOthers
      cases inOthers

/-- Of equal keys the last counts. -/
theorem getElem?_ofList_cons [LawfulEqOrd κ] [DecidableEq κ] {member : κ × α}
    {members : List (κ × α)} {key : κ} :
    (ExtTreeMap.ofList (member :: members) : Dict κ α)[key]? =
      (ExtTreeMap.ofList members : Dict κ α)[key]?.or
        (if member.1 = key then some member.2 else none) := by
  let _ : BEq κ := instBEqOfDecidableEq
  rw [ExtTreeMap.ofList_cons, ExtTreeMap.getElem?_insertMany_list,
    ExtTreeMap.ofList_eq_insertMany_empty, ExtTreeMap.getElem?_insertMany_list,
    ExtTreeMap.getElem?_empty, Option.or_none, ExtTreeMap.getElem?_insert, ExtTreeMap.getElem?_empty]
  simp only [LawfulEqCmp.compare_eq_iff_eq]

end Dict

/-- A set is made of its own members. -/
theorem Bag.ofList_toList [LawfulEqOrd κ] (bag : Bag κ) : ExtTreeSet.ofList bag.toList = bag := by
  classical
  let _ : BEq κ := instBEqOfDecidableEq
  refine ExtTreeSet.ext_mem fun item => ?_
  rw [ExtTreeSet.mem_ofList, List.contains_iff_mem, ExtTreeSet.mem_toList]

theorem Bag.all_iff [LawfulEqOrd κ] {bag : Bag κ} {test : κ → Bool} :
    bag.all test = true ↔ ∀ item ∈ bag, test item = true := by
  have overKeys : bag.all test = true ↔
      ∀ item value, bag.inner[item]? = some value → test item = true :=
    Dict.all_iff
  rw [overKeys]
  constructor
  · intro passed item member
    obtain ⟨value, found⟩ := Dict.mem_iff_exists_getElem?.mp member
    exact passed item value found
  · intro passed item value found
    exact passed item (Dict.mem_iff_exists_getElem?.mpr ⟨value, found⟩)

end AccessControl
