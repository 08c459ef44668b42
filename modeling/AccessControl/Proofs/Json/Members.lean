import AccessControl.Json.Decode

/-!
# Members of maps

Putting the members of a map into order keeps for every name the value that counts, the last one,
and makes no member up.  A record is decoded from a map by looking its fields up.
-/

namespace AccessControl

namespace Json

variable {name other : String} {value : Json} {members : List (String × Json)}

theorem mem_insertMember {member : String × Json}
    (inserted : member ∈ insertMember name value members) :
    member = (name, value) ∨ member ∈ members := by
  induction members with
  | nil => exact .inl (List.mem_singleton.mp inserted)
  | cons first rest ih =>
      rw [insertMember] at inserted
      split at inserted
      · exact List.mem_cons.mp inserted
      · rcases List.mem_cons.mp inserted with new | old
        · exact .inl new
        · exact .inr (List.mem_cons_of_mem first old)
      · rcases List.mem_cons.mp inserted with here | later
        · exact .inr (here ▸ List.mem_cons_self ..)
        · exact (ih later).imp id (List.mem_cons_of_mem first)

theorem lookup_cons {first : String × Json} :
    (first :: members).lookup name = if name = first.1 then some first.2 else members.lookup name := by
  rw [List.lookup_cons]
  by_cases same : name = first.1
  · simp [same]
  · simp [same, beq_eq_false_iff_ne.mpr same]

theorem lookup_insertMember :
    (insertMember name value members).lookup other =
      if other = name then some value else members.lookup other := by
  induction members with
  | nil => rw [insertMember, lookup_cons]
  | cons first rest ih =>
      rw [insertMember]
      split
      · exact lookup_cons
      · next equal =>
        have isFirst : name = first.1 := Std.LawfulEqCmp.eq_of_compare equal
        simp only [lookup_cons, isFirst]
        split <;> rfl
      · next greater =>
        have notFirst : name ≠ first.1 := by
          rintro rfl
          simp at greater
        simp only [lookup_cons, ih]
        split
        · next isFirst => rw [if_neg fun same => notFirst (same.symm.trans isFirst)]
        · rfl

/-- Ordering makes no member up. -/
theorem mem_sortMembers {member : String × Json} (sorted : member ∈ sortMembers members) :
    member ∈ members := by
  suffices general : ∀ present : List (String × Json),
      member ∈ members.foldl (fun sorted next => insertMember next.1 next.2 sorted) present →
        member ∈ present ∨ member ∈ members by
    simpa using general [] sorted
  clear sorted
  induction members with
  | nil => exact fun present folded => .inl folded
  | cons first rest ih =>
      intro present folded
      rcases ih _ folded with inserted | later
      · rcases mem_insertMember inserted with new | old
        · exact .inr (by simp [new])
        · exact .inl old
      · exact .inr (List.mem_cons_of_mem first later)

/-- Ordered members are looked up like the original ones from the last to the first. -/
theorem lookup_sortMembers :
    (sortMembers members).lookup name = members.reverse.lookup name := by
  suffices general : ∀ present : List (String × Json),
      (members.foldl (fun sorted next => insertMember next.1 next.2 sorted) present).lookup name =
        (members.reverse.lookup name).or (present.lookup name) by
    simpa [sortMembers] using general []
  induction members with
  | nil => simp
  | cons first rest ih =>
      intro present
      rw [List.foldl_cons, ih, lookup_insertMember, List.reverse_cons, List.lookup_append]
      cases rest.reverse.lookup name with
      | some value => rfl
      | none =>
          rw [lookup_cons]
          split <;> rfl

theorem normalMembers_eq_map :
    normalMembers members = members.map fun member => (member.1, normal member.2) := by
  induction members with
  | nil => rfl
  | cons first rest ih => rw [normalMembers, ih]; rfl

theorem lookup_reverse_normalMembers :
    (normalMembers members).reverse.lookup name = (members.reverse.lookup name).map normal := by
  rw [normalMembers_eq_map, ← List.map_reverse]
  induction members.reverse with
  | nil => rfl
  | cons first rest ih =>
      rw [List.map_cons, lookup_cons, lookup_cons, ih]
      split <;> rfl

end Json

namespace Fields

variable {α β : Type} {first : Nat} {layout : Layout}

theorem build_map_eq_ok {function : α → β} {fields : Fields α} {result : β} :
    (function <$> fields).build first layout = .ok result ↔
      ∃ value, fields.build first layout = .ok value ∧ function value = result := by
  change (fields.build first layout).map function = .ok result ↔ _
  cases fields.build first layout <;> simp [Except.map]

theorem build_seq_eq_ok {function : Fields (α → β)} {argument : Fields α} {result : β} :
    (function <*> argument).build first layout = .ok result ↔
      ∃ apply, function.build first layout = .ok apply ∧
        ∃ value, argument.build (first + function.checks.length) layout = .ok value ∧
          apply value = result := by
  change (function.build first layout >>= fun apply =>
    argument.build (first + function.checks.length) layout >>= fun value =>
      pure (apply value)) = .ok result ↔ _
  cases function.build first layout with
  | error cause => simp [bind, Except.bind]
  | ok apply =>
      cases argument.build (first + function.checks.length) layout <;>
        simp [bind, Except.bind, pure, Except.pure]

/-- A record is decoded from a map by building it from the members. -/
theorem build_of_decoder {record : String} {fields : Fields α} {members : List (String × Json)}
    {value : α} (decoded : fields.decoder record (.obj members) = .ok value) :
    fields.build 0 (.named members) = .ok value := by
  simp only [decoder, bind, Except.bind] at decoded
  split at decoded
  · cases decoded
  · exact decoded

/-- A field that the map holds is decoded from it. -/
theorem field_build_named {name : String} {item : Decoder α} {unnamed unlisted : Option α}
    {members : List (String × Json)} {document : Json}
    (found : members.lookup name = some document) :
    (field name item unnamed unlisted).build first (.named members) = item document := by
  simp [field, found]

end Fields

end AccessControl
