import AccessControl.Proofs.Json.Members

/-!
# Normal forms

A document in normal form has the members of every map in ascending order, no name twice.  The
normal form of a document is in normal form, and so is everything that a document in normal form
holds.
-/

namespace AccessControl

namespace Json

variable {name : String} {value : Json} {members : List (String × Json)}

/-! ## Ascending members -/

/-- Members in ascending order of their names, no name twice. -/
def Ascending (members : List (String × Json)) : Prop :=
  members.Pairwise fun first second => compare first.1 second.1 = .lt

theorem Ascending.insertMember (ascending : Ascending members) :
    Ascending (insertMember name value members) := by
  induction members with
  | nil => exact List.pairwise_singleton ..
  | cons first rest ih =>
      obtain ⟨smallest, restAscending⟩ := List.pairwise_cons.mp ascending
      rw [Json.insertMember]
      split
      · next less =>
        refine List.pairwise_cons.mpr ⟨fun member isMember => ?_, ascending⟩
        rcases List.mem_cons.mp isMember with rfl | later
        · exact less
        · exact Std.TransCmp.lt_trans less (smallest member later)
      · next equal =>
        obtain rfl := Std.LawfulEqCmp.eq_of_compare equal
        exact List.pairwise_cons.mpr ⟨smallest, restAscending⟩
      · next greater =>
        refine List.pairwise_cons.mpr ⟨fun member isMember => ?_, ih restAscending⟩
        rcases mem_insertMember isMember with rfl | old
        · exact Std.OrientedCmp.gt_iff_lt.mp greater
        · exact smallest member old

theorem ascending_sortMembers (members : List (String × Json)) : Ascending (sortMembers members) := by
  suffices general : ∀ present : List (String × Json), Ascending present →
      Ascending (members.foldl (fun sorted next => Json.insertMember next.1 next.2 sorted) present) from
    general [] List.Pairwise.nil
  induction members with
  | nil => exact fun present ascending => ascending
  | cons first rest ih => exact fun present ascending => ih _ ascending.insertMember

/-- A member with a greater name than all others comes last. -/
theorem insertMember_of_forall_lt (greatest : ∀ member ∈ members, compare member.1 name = .lt) :
    insertMember name value members = members ++ [(name, value)] := by
  induction members with
  | nil => rfl
  | cons first rest ih =>
      obtain ⟨less, others⟩ := List.forall_mem_cons.mp greatest
      rw [insertMember, Std.OrientedCmp.gt_iff_lt.mpr less]
      exact congrArg (first :: ·) (ih others)

/-- Members in ascending order stay as they are. -/
theorem Ascending.sortMembers_eq (ascending : Ascending members) : sortMembers members = members := by
  suffices general : ∀ present : List (String × Json), Ascending (present ++ members) →
      members.foldl (fun sorted next => Json.insertMember next.1 next.2 sorted) present =
        present ++ members from
    general [] ascending
  clear ascending
  induction members with
  | nil => simp
  | cons first rest ih =>
      intro present ascending
      have greatest : ∀ member ∈ present, compare member.1 first.1 = .lt := fun member isMember =>
        (List.pairwise_append.mp ascending).2.2 member isMember first (List.mem_cons_self ..)
      rw [List.foldl_cons, insertMember_of_forall_lt greatest, ih _ (by simpa using ascending)]
      simp

theorem Ascending.nodup (ascending : Ascending members) : (members.map Prod.fst).Nodup := by
  refine List.pairwise_map.mpr (ascending.imp fun less same => ?_)
  simp [same] at less

theorem Ascending.map {change : Json → Json} (ascending : Ascending members) :
    Ascending (members.map fun member => (member.1, change member.2)) :=
  List.pairwise_map.mpr ascending

/-! ## Normal documents -/

theorem normalItems_eq_map {items : List Json} : normalItems items = items.map normal := by
  induction items with
  | nil => rfl
  | cons first rest ih => rw [normalItems, ih]; rfl

theorem normalMembers_insertMember :
    normalMembers (insertMember name value members) =
      insertMember name (normal value) (normalMembers members) := by
  induction members with
  | nil => rfl
  | cons first rest ih =>
      rw [insertMember, normalMembers, insertMember]
      cases compare name first.1 with
      | lt => rfl
      | eq => rfl
      | gt => exact congrArg ((first.1, normal first.2) :: ·) ih

theorem normalMembers_sortMembers :
    normalMembers (sortMembers members) = sortMembers (normalMembers members) := by
  suffices general : ∀ present : List (String × Json),
      normalMembers (members.foldl (fun sorted next => insertMember next.1 next.2 sorted) present) =
        (normalMembers members).foldl (fun sorted next => insertMember next.1 next.2 sorted)
          (normalMembers present) from
    general []
  induction members with
  | nil => exact fun present => rfl
  | cons first rest ih =>
      intro present
      rw [List.foldl_cons, ih, normalMembers_insertMember]
      rfl

mutual

/-- The normal form of a document is its own normal form. -/
theorem normal_normal : (document : Json) → normal (normal document) = normal document
  | .null | .bool _ | .int _ | .float _ | .str _ => rfl
  | .arr items => by
      rw [normal, normal, normalItems_normalItems items]
  | .obj members => by
      rw [normal, normal, normalMembers_sortMembers, normalMembers_normalMembers members,
        (ascending_sortMembers _).sortMembers_eq]

theorem normalItems_normalItems :
    (items : List Json) → normalItems (normalItems items) = normalItems items
  | [] => rfl
  | item :: rest => by
      rw [normalItems, normalItems, normal_normal item, normalItems_normalItems rest]

theorem normalMembers_normalMembers :
    (members : List (String × Json)) → normalMembers (normalMembers members) = normalMembers members
  | [] => rfl
  | (name, value) :: rest => by
      rw [normalMembers, normalMembers, normal_normal value, normalMembers_normalMembers rest]

end

/-- A document with the members of every map in ascending order and no name twice. -/
def IsNormal (document : Json) : Prop := normal document = document

theorem isNormal_arr {items : List Json} :
    (Json.arr items).IsNormal ↔ ∀ item ∈ items, item.IsNormal := by
  rw [IsNormal, normal, Json.arr.injEq, normalItems_eq_map]
  constructor
  · intro same item member
    rw [← same] at member
    obtain ⟨original, -, rfl⟩ := List.mem_map.mp member
    exact normal_normal original
  · intro each
    exact (List.map_congr_left each).trans (List.map_id' items)

/-- A map is in normal form exactly if its members ascend and hold documents in normal form. -/
theorem isNormal_obj :
    (Json.obj members).IsNormal ↔ Ascending members ∧ ∀ member ∈ members, member.2.IsNormal := by
  rw [IsNormal, normal, Json.obj.injEq]
  constructor
  · intro same
    have ascending : Ascending members := same ▸ ascending_sortMembers (normalMembers members)
    refine ⟨ascending, fun member isMember => ?_⟩
    rw [← same] at isMember
    have inNormal := mem_sortMembers isMember
    rw [normalMembers_eq_map, List.mem_map] at inNormal
    obtain ⟨original, -, rfl⟩ := inNormal
    exact normal_normal original.2
  · intro inForm
    have kept : normalMembers members = members := by
      rw [normalMembers_eq_map]
      calc members.map (fun member => (member.1, normal member.2))
          = members.map id := List.map_congr_left fun member isMember =>
            congrArg (Prod.mk member.1) (inForm.2 member isMember)
        _ = members := List.map_id members
    rw [kept, inForm.1.sortMembers_eq]

/-- What a map in normal form holds is in normal form. -/
theorem IsNormal.of_mem (isNormal : (Json.obj members).IsNormal) (member : (name, value) ∈ members) :
    value.IsNormal :=
  (isNormal_obj.mp isNormal).2 (name, value) member

end Json

end AccessControl
