import AccessControl.Proofs.Json.Normal

/-!
# Forms of documents

A document is passed on as it was written, or in normal form.  Either form of a map has the members
that were written, if no name was written twice; what they hold is passed on in that form as well.
-/

namespace AccessControl.Json

/-- The forms that documents are passed on in. -/
inductive Form where
  | written
  | normal

namespace Form

/-- The document in this form. -/
def apply : Form → Json → Json
  | .written, document => document
  | .normal, document => document.normal

/-- Whether a document has this form. -/
def Has (form : Form) (document : Json) : Prop := form.apply document = document

/-- The members of a map in this form. -/
def members : Form → List (String × Json) → List (String × Json)
  | .written, members => members
  | .normal, members => sortMembers (normalMembers members)

variable {form : Form} {name : String} {document : Json} {members : List (String × Json)}

/-! ## Texts, flags and sequences -/

@[simp] theorem apply_null : form.apply .null = .null := by cases form <;> rfl

@[simp] theorem apply_str {text : String} : form.apply (.str text) = .str text := by
  cases form <;> rfl

theorem apply_arr {items : List Json} : form.apply (.arr items) = .arr (items.map form.apply) := by
  cases form with
  | written => exact congrArg Json.arr (List.map_id' items).symm
  | normal => exact congrArg Json.arr normalItems_eq_map

theorem apply_obj : form.apply (.obj members) = .obj (form.members members) := by
  cases form <;> rfl

/-- A document in normal form has both forms. -/
theorem has_of_isNormal (isNormal : document.IsNormal) : form.Has document := by
  cases form with
  | written => rfl
  | normal => exact isNormal

theorem has_arr_iff {items : List Json} : form.Has (.arr items) ↔ ∀ item ∈ items, form.Has item := by
  cases form with
  | written => exact iff_of_true rfl fun _ _ => rfl
  | normal => exact isNormal_arr

/-- What a map in one of the forms holds has that form. -/
theorem Has.of_mem (has : form.Has (.obj members)) (member : (name, document) ∈ members) :
    form.Has document := by
  cases form with
  | written => rfl
  | normal => exact IsNormal.of_mem has member

end Form

/-! ## Members -/

variable {name : String} {value document : Json} {members : List (String × Json)}

theorem insertMember_perm (absent : name ∉ members.map Prod.fst) :
    (insertMember name value members).Perm ((name, value) :: members) := by
  induction members with
  | nil => exact .refl _
  | cons first rest ih =>
      rw [List.map_cons, List.mem_cons, not_or] at absent
      rw [insertMember]
      split
      · exact .refl _
      · next equal => exact absurd (Std.LawfulEqCmp.eq_of_compare equal) absent.1
      · exact ((ih absent.2).cons first).trans (.swap ..)

/-- Ordering members moves them, if no name stands twice. -/
theorem sortMembers_perm (distinct : (members.map Prod.fst).Nodup) :
    (sortMembers members).Perm members := by
  suffices general : ∀ present : List (String × Json),
      ((present ++ members).map Prod.fst).Nodup →
      (members.foldl (fun sorted next => insertMember next.1 next.2 sorted) present).Perm
        (present ++ members) from
    general [] distinct
  clear distinct
  induction members with
  | nil => simp
  | cons first rest ih =>
      intro present distinct
      have moved : (present ++ first :: rest).Perm (first :: present ++ rest) := List.perm_middle
      have absent : first.1 ∉ present.map Prod.fst := by
        have first := List.nodup_cons.mp ((moved.map Prod.fst).nodup_iff.mp distinct)
        simp_all
      have placed : (insertMember first.1 first.2 present).Perm (first :: present) :=
        insertMember_perm absent
      have inserted := placed.append_right rest
      refine (ih _ ?_).trans (inserted.trans moved.symm)
      exact ((inserted.trans moved.symm).map Prod.fst).nodup_iff.mpr distinct

namespace Form

variable {form : Form}

/-- The members of either form are those that were written. -/
theorem members_perm (distinct : (members.map Prod.fst).Nodup) :
    (form.members members).Perm (members.map fun member => (member.1, form.apply member.2)) := by
  cases form with
  | written => exact .of_eq (List.map_id' members).symm
  | normal =>
      have sameNames : (normalMembers members).map Prod.fst = members.map Prod.fst := by
        rw [normalMembers_eq_map, List.map_map]
        rfl
      refine (sortMembers_perm (sameNames ▸ distinct)).trans (.of_eq ?_)
      exact normalMembers_eq_map

theorem nodup_members (distinct : (members.map Prod.fst).Nodup) :
    ((form.members members).map Prod.fst).Nodup := by
  cases form with
  | written => exact distinct
  | normal => exact (ascending_sortMembers _).nodup

end Form

end AccessControl.Json
