import AccessControl.Uuid

/-!
# Reading written identifiers

A written identifier stands in five groups joined by hyphens: it is neither bare digits nor wrapped
in anything, so reading gives back the identifier that was written.
-/

namespace AccessControl

namespace Uuid

theorem readDigits_eq_none_of_mem {chars : List Char} (member : '-' ∈ chars) :
    readDigits chars = none := by
  induction chars with
  | nil => cases member
  | cons c rest ih =>
      rcases List.mem_cons.mp member with rfl | later
      · rfl
      · rw [readDigits, ih later]
        cases digit? c <;> rfl

/-- A digit starts neither braces nor the name of a URN space. -/
theorem unwrapped_digitChar (digit : Fin 16) (rest : List Char) :
    unwrapped (digitChar digit :: rest) = (0, digitChar digit :: rest) := by
  have noBrace : digitChar digit ≠ '{' := by
    revert digit
    decide
  have noUrn : (digitChar digit).toLower ≠ 'u' := by
    revert digit
    decide
  have urn : urnSpace = 'u' :: "rn:uuid:".toList := rfl
  have otherwise : ((digitChar digit :: rest).take urnSpace.length).map Char.toLower ≠ urnSpace := by
    intro same
    rw [urn] at same
    exact noUrn (List.cons.inj same).1
  rw [unwrapped]
  · rw [if_neg otherwise]
  · rintro _ same
    exact noBrace (List.cons.inj same).1

/-- A written identifier names the identifier that it was written for. -/
theorem parse_text (u : Uuid) : parse u.text = .ok u := by
  have written : u.text.toList = grouped groupSizes (u.digits.map digitChar) := String.toList_ofList
  have notBare : ofBare? u.text.toList = none := by
    rw [ofBare?, readDigits_eq_none_of_mem (by rw [written]; simp [groupSizes, grouped])]
    rfl
  have notWrapped : unwrapped u.text.toList = (0, u.text.toList) := by
    obtain ⟨first, others, shape⟩ :=
      List.exists_cons_of_length_pos (l := u.digits) (by rw [u.length_eq]; decide)
    rw [written, shape]
    exact unwrapped_digitChar first _
  have isGrouped : ofGrouped? u.text.toList = some u := ofText?_text u
  simp only [parse, notBare, notWrapped, isGrouped]
  rfl

end Uuid

end AccessControl
