import AccessControl.Json.Basic

/-!
# Documents of one value

Documents are compared by value, and the only value with two written forms is zero.  Every document
has its own value, and two documents with the value of a third have one value.
-/

namespace AccessControl.Json

theorem sameFloat_self (bits : UInt64) : sameFloat bits bits = true := by
  simp [sameFloat]

theorem sameFloat_trans {first second third : UInt64} (same : sameFloat first second = true)
    (sameAgain : sameFloat second third = true) : sameFloat first third = true := by
  simp only [sameFloat, Bool.or_eq_true, Bool.and_eq_true, beq_iff_eq] at same sameAgain ⊢
  rcases same with rfl | ⟨firstZero, secondZero⟩
  · exact sameAgain
  · rcases sameAgain with rfl | ⟨-, thirdZero⟩
    · exact .inr ⟨firstZero, secondZero⟩
    · exact .inr ⟨firstZero, thirdZero⟩

mutual

/-- Every document has its own value. -/
theorem same_self : (document : Json) → document.same document = true
  | .null => rfl
  | .bool value => beq_self_eq_true value
  | .int value => beq_self_eq_true value
  | .float bits => sameFloat_self bits
  | .str text => beq_self_eq_true text
  | .arr items => sameItems_self items
  | .obj members => sameMembers_self members

theorem sameItems_self : (items : List Json) → sameItems items items = true
  | [] => rfl
  | item :: rest => by
      rw [sameItems, same_self item, sameItems_self rest]
      rfl

theorem sameMembers_self : (members : List (String × Json)) → sameMembers members members = true
  | [] => rfl
  | (name, value) :: rest => by
      rw [sameMembers, same_self value, sameMembers_self rest, beq_self_eq_true]
      rfl

end

mutual

/-- Documents with the value of a third have one value. -/
theorem same_trans : (first : Json) → {second third : Json} → first.same second = true →
    second.same third = true → first.same third = true
  | .null, second, third, same, sameAgain => by
      cases second <;> simp only [Json.same, Bool.false_eq_true] at same
      exact sameAgain
  | .bool value, second, third, same, sameAgain => by
      cases second <;> simp only [Json.same, beq_iff_eq, Bool.false_eq_true] at same
      exact same ▸ sameAgain
  | .int value, second, third, same, sameAgain => by
      cases second <;> simp only [Json.same, beq_iff_eq, Bool.false_eq_true] at same
      exact same ▸ sameAgain
  | .float bits, second, third, same, sameAgain => by
      cases second <;> simp only [Json.same, Bool.false_eq_true] at same
      cases third <;> simp only [Json.same, Bool.false_eq_true] at sameAgain ⊢
      exact sameFloat_trans same sameAgain
  | .str text, second, third, same, sameAgain => by
      cases second <;> simp only [Json.same, beq_iff_eq, Bool.false_eq_true] at same
      exact same ▸ sameAgain
  | .arr items, second, third, same, sameAgain => by
      cases second <;> simp only [Json.same, Bool.false_eq_true] at same
      cases third <;> simp only [Json.same, Bool.false_eq_true] at sameAgain ⊢
      exact sameItems_trans items same sameAgain
  | .obj members, second, third, same, sameAgain => by
      cases second <;> simp only [Json.same, Bool.false_eq_true] at same
      cases third <;> simp only [Json.same, Bool.false_eq_true] at sameAgain ⊢
      exact sameMembers_trans members same sameAgain

theorem sameItems_trans : (first : List Json) → {second third : List Json} →
    sameItems first second = true → sameItems second third = true → sameItems first third = true
  | [], second, third, same, sameAgain => by
      cases second <;> simp only [sameItems, Bool.false_eq_true] at same
      exact sameAgain
  | item :: rest, second, third, same, sameAgain => by
      cases second <;> simp only [sameItems, Bool.and_eq_true, Bool.false_eq_true] at same
      cases third <;> simp only [sameItems, Bool.and_eq_true, Bool.false_eq_true] at sameAgain ⊢
      exact ⟨same_trans item same.1 sameAgain.1, sameItems_trans rest same.2 sameAgain.2⟩

theorem sameMembers_trans : (first : List (String × Json)) → {second third : List (String × Json)} →
    sameMembers first second = true → sameMembers second third = true →
      sameMembers first third = true
  | [], second, third, same, sameAgain => by
      cases second <;> simp only [sameMembers, Bool.false_eq_true] at same
      exact sameAgain
  | (name, value) :: rest, second, third, same, sameAgain => by
      cases second <;>
        simp only [sameMembers, Bool.and_eq_true, beq_iff_eq, Bool.false_eq_true] at same
      cases third <;>
        simp only [sameMembers, Bool.and_eq_true, beq_iff_eq, Bool.false_eq_true] at sameAgain ⊢
      obtain ⟨⟨sameName, sameValue⟩, sameRest⟩ := same
      obtain ⟨⟨sameNameAgain, sameValueAgain⟩, sameRestAgain⟩ := sameAgain
      exact ⟨⟨sameName.trans sameNameAgain, same_trans value sameValue sameValueAgain⟩,
        sameMembers_trans rest sameRest sameRestAgain⟩

end

/-! ## Lists of values -/

/-- Lists that agree item by item hold the same values. -/
theorem memberOf_of_sameItems {value : Json} {values others : List Json}
    (same : sameItems values others = true) (member : memberOf value others = true) :
    memberOf value values = true := by
  induction values generalizing others with
  | nil =>
      cases others with
      | nil => exact member
      | cons first rest => cases same
  | cons item more ih =>
      cases others with
      | nil => cases same
      | cons first rest =>
          rw [sameItems, Bool.and_eq_true] at same
          rw [memberOf, List.any_cons, Bool.or_eq_true] at member ⊢
          exact member.imp (same_trans item same.1) (ih same.2)

end AccessControl.Json
