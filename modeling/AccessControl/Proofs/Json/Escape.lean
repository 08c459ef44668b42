import AccessControl.Json.Escape
import AccessControl.Json.Writer

/-!
# Written texts are read back

What a step of reading gives does not depend on where in a text it stands; the places are needed only
to report faults.  The outcome of a step leaves them out.  Reading a text that was written in quotes
gives that text and leaves what stands behind the quotes.
-/

namespace AccessControl.Json

variable {α β : Type}

/-! ## Outcomes -/

/-- What a step gives and what it leaves of the text, without places and faults. -/
def outcome : Except Fault (α × Cursor) → Option (α × List Char)
  | .ok (value, cursor) => some (value, cursor.rest)
  | .error _ => none

@[simp] theorem outcome_ok (value : α) (cursor : Cursor) :
    outcome (.ok (value, cursor)) = some (value, cursor.rest) := rfl

@[simp] theorem outcome_error (fault : Fault) :
    outcome (.error fault : Except Fault (α × Cursor)) = none := rfl

@[simp] theorem outcome_fail (cursor : Cursor) (fault : TextFault) :
    outcome (cursor.fail fault : Except Fault (α × Cursor)) = none := rfl

@[simp] theorem outcome_failAhead (cursor : Cursor) (fault : TextFault) :
    outcome (cursor.failAhead fault : Except Fault (α × Cursor)) = none := rfl

@[simp] theorem outcome_settle (place : Cursor → Nat) (result : Except Fault (α × Cursor)) :
    outcome (settle place result) = outcome result := by
  cases result with
  | ok pair => rfl
  | error fault => cases fault <;> rfl

theorem outcome_map (change : α → β) (result : Except Fault (α × Cursor)) :
    outcome (result.map fun pair => (change pair.1, pair.2)) =
      (outcome result).map fun pair => (change pair.1, pair.2) := by
  cases result <;> rfl

theorem bind_of_eq_ok {result : Except Fault α} {value : α} {next : α → Except Fault β}
    (gives : result = .ok value) : result >>= next = next value := by
  rw [gives]
  rfl

theorem exists_of_outcome {result : Except Fault (α × Cursor)} {value : α} {left : List Char}
    (gives : outcome result = some (value, left)) : ∃ offset, result = .ok (value, ⟨left, offset⟩) := by
  cases result with
  | error fault => cases gives
  | ok pair =>
      cases gives
      exact ⟨pair.2.offset, rfl⟩

/-- A step that gives something and leaves a text goes on with both; one that gives nothing ends. -/
theorem outcome_bind {result : Except Fault (α × Cursor)} {next : α × Cursor → Except Fault (β × Cursor)}
    {value? : Option α} {left : List Char} {final : α → Option (β × List Char)}
    (gives : outcome result = value?.map fun value => (value, left))
    (goesOn : ∀ value offset, outcome (next (value, ⟨left, offset⟩)) = final value) :
    outcome (result >>= next) = value?.bind final := by
  cases result with
  | error fault =>
      cases value? with
      | none => rfl
      | some value => cases gives
  | ok pair =>
      cases value? with
      | none => cases gives
      | some value =>
          rcases exists_of_outcome gives with ⟨offset, isPair⟩
          rw [isPair]
          exact goesOn value offset

/-! ## Escapes -/

/-- The two digits of a control character are read as its code. -/
theorem readDigits_control : ∀ code < 32,
    Uuid.readDigits ['0', '0', Nat.digitChar (code / 16), Nat.digitChar (code % 16)] =
      some [0, 0, Fin.ofNat 16 (code / 16), Fin.ofNat 16 (code % 16)] ∧
    (String.ofList ['0', '0', Nat.digitChar (code / 16), Nat.digitChar (code % 16)]).utf8ByteSize =
      4 := by
  decide

theorem readCode_control {c : Char} (isControl : c.toNat < 0x20) (rest : List Char) (offset : Nat) :
    ∃ later, readCode ⟨['0', '0', Nat.digitChar (c.toNat / 16), Nat.digitChar (c.toNat % 16)] ++ rest,
      offset⟩ = .ok (c, ⟨rest, later⟩) := by
  have digits := readDigits_control c.toNat isControl
  have code : [(0 : Fin 16), 0, Fin.ofNat 16 (c.toNat / 16), Fin.ofNat 16 (c.toNat % 16)].foldl
      (fun n d => 16 * n + d.val) 0 = c.toNat := by
    simp [Fin.ofNat]
    omega
  have hex : readHex ⟨['0', '0', Nat.digitChar (c.toNat / 16), Nat.digitChar (c.toNat % 16)] ++ rest,
      offset⟩ = .ok (c.toNat, ⟨rest, offset + 4⟩) := by
    simp only [readHex, List.cons_append, List.nil_append, List.take, List.drop, digits.1, digits.2,
      code]
    rfl
  refine ⟨offset + 4, ?_⟩
  have notLow : ¬ (0xDC00 ≤ c.toNat ∧ c.toNat ≤ 0xDFFF) := by omega
  have notHigh : c.toNat < 0xD800 ∨ 0xDBFF < c.toNat := by omega
  rw [readCode, hex]
  simp only [bind, Except.bind, if_neg notLow, if_pos notHigh, Char.ofNat_toNat]
  rfl

/-- A backslash is read together with its escape. -/
theorem readString_backslash {c : Char} {escape rest : List Char} {offset later : Nat}
    (escaped : readEscape ⟨escape, offset + '\\'.utf8Size⟩ = .ok (c, ⟨rest, later⟩)) (fuel : Nat)
    (reversed : List Char) :
    readString (fuel + 1) reversed ⟨'\\' :: escape, offset⟩ =
      readString fuel (c :: reversed) ⟨rest, later⟩ := by
  rw [readString]
  simp only [Cursor.next?, escaped]
  rfl

/-- Reading an escaped character takes exactly its escape. -/
theorem readString_escapeChar (c : Char) (fuel : Nat) (reversed rest : List Char) (offset : Nat) :
    ∃ later, readString (fuel + 1) reversed ⟨escapeChar c ++ rest, offset⟩ =
      readString fuel (c :: reversed) ⟨rest, later⟩ := by
  unfold escapeChar
  by_cases isQuote : c = '"'
  · rw [if_pos isQuote, isQuote]
    exact ⟨_, readString_backslash rfl fuel reversed⟩
  rw [if_neg isQuote]
  by_cases isBackslash : c = '\\'
  · rw [if_pos isBackslash, isBackslash]
    exact ⟨_, readString_backslash rfl fuel reversed⟩
  rw [if_neg isBackslash]
  -- The five controls with a letter of their own.
  iterate 5
    split
    · next isControl =>
      rw [isControl]
      exact ⟨_, readString_backslash rfl fuel reversed⟩
  split
  · next isControl =>
    rcases readCode_control isControl rest (offset + '\\'.utf8Size + 'u'.utf8Size) with
      ⟨later, coded⟩
    have escaped : readEscape ⟨'u' :: (['0', '0', Nat.digitChar (c.toNat / 16),
        Nat.digitChar (c.toNat % 16)] ++ rest), offset + '\\'.utf8Size⟩ = .ok (c, ⟨rest, later⟩) := coded
    exact ⟨later, readString_backslash escaped fuel reversed⟩
  · next plain =>
    refine ⟨offset + c.utf8Size, ?_⟩
    rw [List.singleton_append, readString]
    simp only [Cursor.next?, if_neg isQuote, if_neg isBackslash, if_neg plain]

/-- Reading a written text gives the text and leaves what stands behind its closing quote. -/
theorem outcome_readString {chars rest : List Char} (fuel : Nat) (enough : chars.length < fuel)
    (reversed : List Char) (offset : Nat) :
    outcome (readString fuel reversed ⟨chars.flatMap escapeChar ++ '"' :: rest, offset⟩) =
      some (String.ofList (reversed.reverse ++ chars), rest) := by
  induction chars generalizing fuel reversed offset with
  | nil =>
      rcases fuel with _ | fuel
      · simp at enough
      · simp [readString, Cursor.next?]
  | cons c chars ih =>
      rcases fuel with _ | fuel
      · simp at enough
      · rw [List.flatMap_cons, List.append_assoc]
        rcases readString_escapeChar c fuel reversed (chars.flatMap escapeChar ++ '"' :: rest) offset
          with ⟨later, step⟩
        rw [step, ih fuel (Nat.lt_of_succ_lt_succ enough)]
        simp

end AccessControl.Json
