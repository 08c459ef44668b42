import Mathlib.Data.List.Induction

/-!
# What stands after a history

Events of one kind begin something, and events of another kind end it.  It stands after a history if it
began at some time and did not end since; this is told from the events alone, not from a state that they
lead to.  Its value after one more event follows from that event and from what stood before.
-/

namespace AccessControl.History

variable {α : Type} {begins ends : α → Prop} {history : List α} {last : α}

/-- Whether an event of the one kind happened, and none of the other kind since. -/
def Stands (begins ends : α → Prop) (history : List α) : Prop :=
  ∃ earlier event later, history = earlier ++ event :: later ∧ begins event ∧
    ∀ other ∈ later, ¬ ends other

theorem not_stands_nil : ¬ Stands begins ends [] := by
  rintro ⟨earlier, event, later, split, -⟩
  simp at split

/-- What stands after one more event began just then, or it stood before and did not end. -/
theorem stands_concat :
    Stands begins ends (history ++ [last]) ↔
      begins last ∨ ¬ ends last ∧ Stands begins ends history := by
  constructor
  · intro stands
    rcases stands with ⟨earlier, event, later, split, began, unended⟩
    -- Whether the event that began it is the last one shows in what happened later.
    rcases List.eq_nil_or_concat later with rfl | ⟨between, final, rfl⟩
    · have same : [last] = [event] := (List.append_inj' split rfl).2
      exact .inl (List.singleton_inj.mp same ▸ began)
    · rw [List.concat_eq_append, ← List.cons_append, ← List.append_assoc] at split
      have same := List.append_inj' split rfl
      rcases same with ⟨rfl, lasts⟩
      have isFinal : last = final := List.singleton_inj.mp lasts
      refine .inr ⟨isFinal ▸ unended final (by simp), earlier, event, between, rfl, began, ?_⟩
      exact fun other isBetween => unended other (by simp [isBetween])
  · intro stood
    rcases stood with began | ⟨unended, earlier, event, later, rfl, began, unendedBefore⟩
    · exact ⟨history, last, [], rfl, began, by simp⟩
    · refine ⟨earlier, event, later ++ [last], by simp, began, fun other isLater => ?_⟩
      rcases List.mem_append.mp isLater with isBefore | isLast
      · exact unendedBefore other isBefore
      · exact List.mem_singleton.mp isLast ▸ unended

end AccessControl.History
