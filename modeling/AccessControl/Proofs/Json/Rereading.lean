import AccessControl.Proofs.Json.Numeral

/-!
# Written documents are read again

Reading the written text of a document gives the document again, with each number as it is read from its
own text, unless the document nests too deep.
-/

namespace AccessControl.Json

mutual

/-- What is read from the text of a document where lists and maps may still nest so deep. -/
def reread : (depth : Nat) → Json → Option Json
  | depth, .arr items => if depth ≤ 1 then none else (rereadItems (depth - 1) items).map .arr
  | depth, .obj members => if depth ≤ 1 then none else (rereadMembers (depth - 1) members).map .obj
  | _, .int n => rereadNumber (.int n)
  | _, .float bits => rereadNumber (.float bits)
  | _, .null => some .null
  | _, .bool value => some (.bool value)
  | _, .str text => some (.str text)

/-- `reread` on each item. -/
def rereadItems : (depth : Nat) → List Json → Option (List Json)
  | _, [] => some []
  | depth, item :: rest =>
    (reread depth item).bind fun read => (rereadItems depth rest).map (read :: ·)

/-- `reread` on each value. -/
def rereadMembers : (depth : Nat) → List (String × Json) → Option (List (String × Json))
  | _, [] => some []
  | depth, (name, value) :: rest =>
    (reread depth value).bind fun read => (rereadMembers depth rest).map ((name, read) :: ·)

end

/-! ## Texts of items and members -/

/-- What stands before an item or a member that is not the first one. -/
def opener (first : Bool) : List Char := if first then [] else [',']

/-- The items of a list from some item on. -/
def itemsText : (first : Bool) → List Json → List Char
  | _, [] => []
  | first, item :: rest => opener first ++ (item.write.toList ++ itemsText false rest)

/-- The members of a map from some member on. -/
def membersText : (first : Bool) → List (String × Json) → List Char
  | _, [] => []
  | first, (name, value) :: rest =>
    opener first ++ ((writeText name).toList ++ ':' :: (value.write.toList ++ membersText false rest))

theorem toList_writeItems (items : List Json) : (writeItems items).toList = itemsText true items := by
  induction items with
  | nil => rfl
  | cons item rest ih =>
      cases rest with
      | nil => simp [writeItems, itemsText, opener]
      | cons next more =>
          rw [writeItems, String.toList_append, String.toList_append, ih]
          · simp [itemsText, opener]
          · simp

theorem toList_writeMembers (members : List (String × Json)) :
    (writeMembers members).toList = membersText true members := by
  induction members with
  | nil => rfl
  | cons member rest ih =>
      cases rest with
      | nil => simp [writeMembers, membersText, opener]
      | cons next more =>
          rw [writeMembers, String.toList_append, ih]
          · simp [membersText, opener]
          · simp

/-- A written list starts with its bracket. -/
theorem toList_write_arr (items : List Json) (rest : List Char) :
    (Json.arr items).write.toList ++ rest = '[' :: (itemsText true items ++ ']' :: rest) := by
  rw [write, String.toList_append, String.toList_append, toList_writeItems]
  simp

theorem length_write_arr (items : List Json) :
    (Json.arr items).write.toList.length = (itemsText true items).length + 2 := by
  rw [← List.append_nil (Json.arr items).write.toList, toList_write_arr]
  simp

/-- A written map starts with its brace. -/
theorem toList_write_obj (members : List (String × Json)) (rest : List Char) :
    (Json.obj members).write.toList ++ rest =
      '\x7b' :: (membersText true members ++ '\x7d' :: rest) := by
  rw [write, String.toList_append, String.toList_append, toList_writeMembers]
  simp

theorem length_write_obj (members : List (String × Json)) :
    (Json.obj members).write.toList.length = (membersText true members).length + 2 := by
  rw [← List.append_nil (Json.obj members).write.toList, toList_write_obj]
  simp

/-- A written text starts with its quote. -/
theorem toList_write_str (text : String) (rest : List Char) :
    (Json.str text).write.toList ++ rest =
      '"' :: (text.toList.flatMap escapeChar ++ '"' :: rest) := by
  rw [write, writeText, String.toList_ofList]
  simp

theorem length_le_length_flatMap_escapeChar (chars : List Char) :
    chars.length ≤ (chars.flatMap escapeChar).length := by
  induction chars with
  | nil => exact Nat.le_refl 0
  | cons c chars ih =>
      have one : 1 ≤ (escapeChar c).length := by
        unfold escapeChar
        repeat' split
        all_goals simp
      rw [List.flatMap_cons, List.length_append, List.length_cons]
      omega

/-- A text is shorter than what it is written as. -/
theorem length_lt_length_quoted (text : String) (rest : List Char) :
    text.toList.length < ('"' :: (text.toList.flatMap escapeChar ++ '"' :: rest)).length := by
  have escaped := length_le_length_flatMap_escapeChar text.toList
  rw [List.length_cons, List.length_append]
  omega

/-- Behind an item or a member stands a comma or the end of what holds it. -/
theorem delimited_itemsText (items : List Json) (rest : List Char) :
    Delimited (itemsText false items ++ ']' :: rest) := by
  cases items <;> simp [Delimited, itemsText, opener]

theorem delimited_membersText (members : List (String × Json)) (rest : List Char) :
    Delimited (membersText false members ++ '\x7d' :: rest) := by
  cases members <;> simp [Delimited, membersText, opener]

/-! ## How documents start -/

/-- Whether a text starts with a character that can start a document. -/
def StartsDocument (text : List Char) : Prop :=
  ∃ c rest, text = c :: rest ∧ Cursor.isSpace c = false ∧ c ≠ ']'

/-- Whether a text starts with a character that can start a document other than a list or a map. -/
def StartsScalar (text : List Char) : Prop :=
  ∃ c rest, text = c :: rest ∧ Cursor.isSpace c = false ∧ c ≠ ']' ∧ c ≠ '[' ∧ c ≠ '\x7b'

theorem StartsScalar.startsDocument {text : List Char} (starts : StartsScalar text) :
    StartsDocument text := by
  rcases starts with ⟨c, rest, shape, notSpace, notEnd, -⟩
  exact ⟨c, rest, shape, notSpace, notEnd⟩

theorem IsSigned.startsScalar {chars : List Char} (isSigned : IsSigned chars) : StartsScalar chars := by
  cases isSigned with
  | negative isNumeral => exact ⟨'-', _, rfl, by decide⟩
  | plain isNumeral =>
      cases isNumeral with
      | @mk whole ending areDigits isEnding =>
          rcases List.exists_cons_of_ne_nil areDigits.nonempty with ⟨first, more, rfl⟩
          have isDigit : first.isDigit = true := areDigits.digits first (List.mem_cons_self ..)
          refine ⟨first, more ++ ending, rfl, ?_, ?_, ?_, ?_⟩
          · simp only [Cursor.isSpace, Bool.or_eq_false_iff, decide_eq_false_iff_not]
            refine ⟨⟨⟨?_, ?_⟩, ?_⟩, ?_⟩ <;> rintro rfl <;> revert isDigit <;> decide
          all_goals
            rintro rfl
            revert isDigit
            decide

theorem startsDocument_write (document : Json) : StartsDocument document.write.toList := by
  cases document with
  | null => exact ⟨'n', ['u', 'l', 'l'], by decide⟩
  | bool value =>
      cases value with
      | true => exact ⟨'t', ['r', 'u', 'e'], by decide⟩
      | false => exact ⟨'f', ['a', 'l', 's', 'e'], by decide⟩
  | int n => exact (isSigned_int n).startsScalar.startsDocument
  | float bits => exact (isSigned_float bits).startsScalar.startsDocument
  | str text => exact ⟨'"', _, by rw [write, writeText, String.toList_ofList], by decide⟩
  | arr items =>
      exact ⟨'[', _, by rw [write, String.toList_append, String.toList_append]; rfl, by decide⟩
  | obj members =>
      exact ⟨'\x7b', _, by rw [write, String.toList_append, String.toList_append]; rfl, by decide⟩

theorem skipSpace_cons {c : Char} (notSpace : Cursor.isSpace c = false) (rest : List Char)
    (offset : Nat) : Cursor.skipSpace ⟨c :: rest, offset⟩ = ⟨c :: rest, offset⟩ := by
  simp [Cursor.skipSpace, notSpace]

/-! ## Steps -/

/-- Another item follows. -/
theorem nextItem?_opener {text : List Char} (starts : StartsDocument text) (first : Bool)
    (offset : Nat) :
    ∃ later, nextItem? first ⟨opener first ++ text, offset⟩ = .ok (true, ⟨text, later⟩) := by
  rcases starts with ⟨c, rest, rfl, notSpace, notEnd⟩
  cases first with
  | true =>
      exact ⟨offset, by simp [nextItem?, opener, skipSpace_cons notSpace, Cursor.next?]⟩
  | false =>
      have commaAhead : Cursor.isSpace ',' = false := by decide
      refine ⟨offset + ','.utf8Size, ?_⟩
      simp [nextItem?, opener, skipSpace_cons commaAhead, skipSpace_cons notSpace, Cursor.next?, notEnd]

theorem nextItem?_end (first : Bool) (rest : List Char) (offset : Nat) :
    nextItem? first ⟨']' :: rest, offset⟩ = .ok (false, ⟨rest, offset + ']'.utf8Size⟩) := by
  have endAhead : Cursor.isSpace ']' = false := by decide
  rw [nextItem?]
  simp only [skipSpace_cons endAhead, Cursor.next?]

/-- Another member follows. -/
theorem nextMember?_opener (first : Bool) (rest : List Char) (offset : Nat) :
    ∃ later, nextMember? first ⟨opener first ++ '"' :: rest, offset⟩ =
      .ok (true, ⟨'"' :: rest, later⟩) := by
  have quoteAhead : Cursor.isSpace '"' = false := by decide
  cases first with
  | true => exact ⟨offset, by simp [nextMember?, opener, skipSpace_cons quoteAhead, Cursor.next?]⟩
  | false =>
      have commaAhead : Cursor.isSpace ',' = false := by decide
      refine ⟨offset + ','.utf8Size, ?_⟩
      simp [nextMember?, opener, skipSpace_cons commaAhead, skipSpace_cons quoteAhead, Cursor.next?]

theorem nextMember?_end (first : Bool) (rest : List Char) (offset : Nat) :
    nextMember? first ⟨'\x7d' :: rest, offset⟩ = .ok (false, ⟨rest, offset + '\x7d'.utf8Size⟩) := by
  have endAhead : Cursor.isSpace '\x7d' = false := by decide
  rw [nextMember?]
  simp only [skipSpace_cons endAhead, Cursor.next?]

theorem readColon_colon (rest : List Char) (offset : Nat) :
    readColon ⟨':' :: rest, offset⟩ = .ok ⟨rest, offset + ':'.utf8Size⟩ := by
  have colonAhead : Cursor.isSpace ':' = false := by decide
  rw [readColon]
  simp only [skipSpace_cons colonAhead, Cursor.next?, if_true]

/-- Anything but a list or a map is read as a scalar. -/
theorem readShape_scalar {text : List Char} (starts : StartsScalar text) (fuel depth offset : Nat) :
    readShape (fuel + 1) depth .any ⟨text, offset⟩ = readScalar text.length ⟨text, offset⟩ := by
  rcases starts with ⟨c, rest, rfl, notSpace, -, notList, notMap⟩
  rw [readShape]
  simp only [skipSpace_cons notSpace, Cursor.next?, if_neg notList, if_neg notMap]

theorem readShape_list (fuel depth : Nat) (text : List Char) (offset : Nat) :
    readShape (fuel + 1) depth .any ⟨'[' :: text, offset⟩ =
      if depth ≤ 1 then Cursor.failAhead ⟨'[' :: text, offset⟩ .tooDeep
      else readItems fuel (depth - 1) .any true [] ⟨text, offset + '['.utf8Size⟩ := by
  have bracketAhead : Cursor.isSpace '[' = false := by decide
  rw [readShape]
  simp only [skipSpace_cons bracketAhead, Cursor.next?, if_true]

theorem readShape_map (fuel depth : Nat) (text : List Char) (offset : Nat) :
    readShape (fuel + 1) depth .any ⟨'\x7b' :: text, offset⟩ =
      if depth ≤ 1 then Cursor.failAhead ⟨'\x7b' :: text, offset⟩ .tooDeep
      else
        readMembers fuel (depth - 1) (.all (fun _ => none) .any) true []
          ⟨text, offset + '\x7b'.utf8Size⟩ := by
  have braceAhead : Cursor.isSpace '\x7b' = false := by decide
  have notList : '\x7b' ≠ '[' := by decide
  rw [readShape]
  simp only [skipSpace_cons braceAhead, Cursor.next?, if_neg notList, if_true]

/-! ## Scalars -/

theorem outcome_readWord (word rest : List Char) (offset : Nat) :
    outcome (readWord word ⟨word ++ rest, offset⟩) = some ((), rest) := by
  induction word generalizing offset with
  | nil => rfl
  | cons c word ih => simpa [readWord, Cursor.next?] using ih (offset + c.utf8Size)

/-- A value that is written as a word is read back. -/
theorem outcome_readScalar_word {value : Json} {c : Char} {word : List Char}
    (shape : value.write.toList = c :: word)
    (reads : ∀ fuel text offset, readScalar fuel ⟨c :: text, offset⟩ =
      (readWord word ⟨text, offset + c.utf8Size⟩).map fun result => (value, result.2))
    (fuel : Nat) (rest : List Char) (offset : Nat) :
    outcome (readScalar fuel ⟨value.write.toList ++ rest, offset⟩) = some (value, rest) := by
  rw [shape, List.cons_append, reads, outcome_map fun _ => value, outcome_readWord]
  rfl

/-- A written text is read back. -/
theorem outcome_readScalar_str (text : String) {fuel : Nat} (enough : text.toList.length < fuel)
    (rest : List Char) (offset : Nat) :
    outcome (readScalar fuel ⟨(Json.str text).write.toList ++ rest, offset⟩) =
      some (.str text, rest) := by
  have read : readScalar fuel ⟨'"' :: (text.toList.flatMap escapeChar ++ '"' :: rest), offset⟩ =
      (readString fuel [] ⟨text.toList.flatMap escapeChar ++ '"' :: rest,
        offset + '"'.utf8Size⟩).map fun pair => (.str pair.1, pair.2) := rfl
  rw [toList_write_str, read, outcome_map, outcome_readString fuel enough]
  simp

/-- Anything but a list or a map is read as a whole, whatever may still nest. -/
theorem outcome_readShape_scalar {document : Json} (isScalar : StartsScalar document.write.toList)
    {value? : Option Json} {rest : List Char}
    (reads : ∀ offset, outcome (readScalar (document.write.toList ++ rest).length
      ⟨document.write.toList ++ rest, offset⟩) = value?.map fun value => (value, rest))
    {fuel : Nat} (enough : 0 < fuel) (depth offset : Nat) :
    outcome (readShape fuel depth .any ⟨document.write.toList ++ rest, offset⟩) =
      value?.map fun value => (value, rest) := by
  have starts : StartsScalar (document.write.toList ++ rest) := by
    rcases isScalar with ⟨c, more, shape, isPlain⟩
    exact ⟨c, more ++ rest, by rw [shape]; rfl, isPlain⟩
  rcases fuel with _ | fuel
  · simp at enough
  · rw [readShape_scalar starts, reads offset]

/-! ## Lists and maps -/

/-- An item is read, and then the others. -/
theorem outcome_readItems_cons {shape : Shape} {item : Json} {items : List Json} {fuel depth : Nat}
    {first : Bool} {reversed : List Json} {rest : List Char} (item? : Option Json)
    (others? : Option (List Json))
    (readsItem : ∀ offset, outcome (readShape fuel depth shape
      ⟨item.write.toList ++ (itemsText false items ++ ']' :: rest), offset⟩) =
        item?.map fun read => (read, itemsText false items ++ ']' :: rest))
    (readsOthers : ∀ read offset, outcome (readItems fuel depth shape false (read :: reversed)
      ⟨itemsText false items ++ ']' :: rest, offset⟩) =
        others?.map fun others => (.arr ((read :: reversed).reverse ++ others), rest))
    (offset : Nat) :
    outcome (readItems (fuel + 1) depth shape first reversed
      ⟨itemsText first (item :: items) ++ ']' :: rest, offset⟩) =
        (item?.bind fun read => others?.map (read :: ·)).map fun all =>
          (.arr (reversed.reverse ++ all), rest) := by
  have starts : StartsDocument (item.write.toList ++ (itemsText false items ++ ']' :: rest)) := by
    rcases startsDocument_write item with ⟨c, more, shape, isPlain⟩
    exact ⟨c, more ++ (itemsText false items ++ ']' :: rest), by rw [shape]; rfl, isPlain⟩
  have text : itemsText first (item :: items) ++ ']' :: rest =
      opener first ++ (item.write.toList ++ (itemsText false items ++ ']' :: rest)) := by
    simp [itemsText]
  rcases nextItem?_opener starts first offset with ⟨later, follows⟩
  rw [readItems, text, follows]
  change outcome (settle Cursor.afterItem (readShape fuel depth shape
    ⟨item.write.toList ++ (itemsText false items ++ ']' :: rest), later⟩) >>= fun pair =>
      readItems fuel depth shape false (pair.1 :: reversed) pair.2) = _
  rw [outcome_bind ((outcome_settle ..).trans (readsItem later)) readsOthers]
  cases item? <;> cases others? <;> simp

/-- Behind the written name of a member stands its colon, and the name is received. -/
theorem readMembers_opener {name : String} {members : List (String × Json)} {value : Json}
    {rest : List Char} (fuel depth : Nat) (known : Members) (first : Bool)
    (reversed : List (String × Json)) (offset : Nat) :
    ∃ behind, readMembers (fuel + 1) depth known first reversed
        ⟨membersText first ((name, value) :: members) ++ '\x7d' :: rest, offset⟩ =
      match known.receive (reversed.map Prod.fst) name with
      | .error cause => settle Cursor.afterMember (.error (.pending cause
          ⟨':' :: (value.write.toList ++ (membersText false members ++ '\x7d' :: rest)), behind⟩))
      | .ok none => do
        let cursor ← skipDocument (← readColon
          ⟨':' :: (value.write.toList ++ (membersText false members ++ '\x7d' :: rest)), behind⟩)
        readMembers fuel depth known false reversed cursor
      | .ok (some shape) =>
        settle Cursor.afterMember (readShape fuel depth shape
          ⟨value.write.toList ++ (membersText false members ++ '\x7d' :: rest),
            behind + ':'.utf8Size⟩) >>= fun pair =>
              readMembers fuel depth known false ((name, pair.1) :: reversed) pair.2 := by
  generalize left : membersText false members ++ '\x7d' :: rest = afterValue
  have text : membersText first ((name, value) :: members) ++ '\x7d' :: rest =
      opener first ++ '"' ::
        (name.toList.flatMap escapeChar ++ '"' :: ':' :: (value.write.toList ++ afterValue)) := by
    simp [membersText, writeText, ← left]
  have enough := length_lt_length_quoted name (':' :: (value.write.toList ++ afterValue))
  rcases nextMember?_opener first
    (name.toList.flatMap escapeChar ++ '"' :: ':' :: (value.write.toList ++ afterValue)) offset
    with ⟨later, follows⟩
  rcases exists_of_outcome (outcome_readString _ enough [] (later + 1)) with ⟨behind, named⟩
  rw [List.reverse_nil, List.nil_append, String.ofList_toList] at named
  refine ⟨behind, ?_⟩
  rw [text, readMembers, bind_of_eq_ok follows]
  simp only [if_true, List.tail_cons]
  rw [bind_of_eq_ok named]
  cases known.receive (reversed.map Prod.fst) name with
  | error cause => rfl
  | ok received =>
      cases received with
      | none => rfl
      | some shape =>
          simp only
          rw [bind_of_eq_ok (readColon_colon _ behind)]

/-- A member is read, its name and then its value, and then the others. -/
theorem outcome_readMembers_cons {known : Members} {shape : Shape} {name : String} {value : Json}
    {members : List (String × Json)} {fuel depth : Nat} {first : Bool}
    {reversed : List (String × Json)} {rest : List Char} (value? : Option Json)
    (others? : Option (List (String × Json)))
    (received : known.receive (reversed.map Prod.fst) name = .ok (some shape))
    (readsValue : ∀ offset, outcome (readShape fuel depth shape
      ⟨value.write.toList ++ (membersText false members ++ '\x7d' :: rest), offset⟩) =
        value?.map fun read => (read, membersText false members ++ '\x7d' :: rest))
    (readsOthers : ∀ read offset, outcome (readMembers fuel depth known false
      ((name, read) :: reversed) ⟨membersText false members ++ '\x7d' :: rest, offset⟩) =
        others?.map fun others => (.obj (((name, read) :: reversed).reverse ++ others), rest))
    (offset : Nat) :
    outcome (readMembers (fuel + 1) depth known first reversed
      ⟨membersText first ((name, value) :: members) ++ '\x7d' :: rest, offset⟩) =
        (value?.bind fun read => others?.map ((name, read) :: ·)).map fun all =>
          (.obj (reversed.reverse ++ all), rest) := by
  rcases readMembers_opener fuel depth known first reversed offset with ⟨behind, member⟩
  rw [member, received]
  dsimp only
  rw [outcome_bind ((outcome_settle ..).trans (readsValue _)) readsOthers]
  cases value? <;> cases others? <;> simp

/-! ## Whole documents -/

theorem length_write_pos (document : Json) : 0 < document.write.toList.length := by
  rcases startsDocument_write document with ⟨c, rest, shape, -⟩
  simp [shape]

theorem pos_of_enough {document : Json} {fuel : Nat}
    (enough : 2 * document.write.toList.length ≤ fuel) : 0 < fuel := by
  have positive := length_write_pos document
  omega

theorem outcome_readShape_number {number : Json} (isSigned : IsSigned number.write.toList)
    {fuel : Nat} (enough : 0 < fuel) (depth : Nat) {rest : List Char} (offset : Nat)
    (delimited : Delimited rest) :
    outcome (readShape fuel depth .any ⟨number.write.toList ++ rest, offset⟩) =
      (rereadNumber number).map fun value => (value, rest) :=
  outcome_readShape_scalar isSigned.startsScalar
    (fun place => outcome_readScalar_number isSigned _ delimited place) enough depth offset

/-- A value that is written as a word is read back, wherever it stands. -/
theorem outcome_readShape_word {value : Json} (c : Char) (word : List Char)
    (shape : value.write.toList = c :: word)
    (isPlain : Cursor.isSpace c = false ∧ c ≠ ']' ∧ c ≠ '[' ∧ c ≠ '\x7b')
    (reads : ∀ fuel text offset, readScalar fuel ⟨c :: text, offset⟩ =
      (readWord word ⟨text, offset + c.utf8Size⟩).map fun result => (value, result.2))
    {fuel : Nat} (enough : 0 < fuel) (depth : Nat) (rest : List Char) (offset : Nat) :
    outcome (readShape fuel depth .any ⟨value.write.toList ++ rest, offset⟩) =
      (some value).map fun read => (read, rest) :=
  outcome_readShape_scalar ⟨c, word, shape, isPlain⟩
    (fun place => outcome_readScalar_word shape reads _ rest place) enough depth offset

mutual

/-- Reading the text of a document anywhere in another text gives what is read from it alone, and leaves
what stands behind it. -/
theorem outcome_readShape : (document : Json) → ∀ (fuel depth : Nat) (rest : List Char) (offset : Nat),
    2 * document.write.toList.length ≤ fuel → Delimited rest →
      outcome (readShape fuel depth .any ⟨document.write.toList ++ rest, offset⟩) =
        (reread depth document).map fun read => (read, rest)
  | .int n => by
      intro fuel depth rest offset enough delimited
      exact outcome_readShape_number (isSigned_int n) (pos_of_enough enough) depth offset delimited
  | .float bits => by
      intro fuel depth rest offset enough delimited
      exact outcome_readShape_number (isSigned_float bits) (pos_of_enough enough) depth offset delimited
  | .null => by
      intro fuel depth rest offset enough _
      exact outcome_readShape_word 'n' ['u', 'l', 'l'] (by decide) (by decide)
        (fun _ _ _ => rfl) (pos_of_enough enough) depth rest offset
  | .bool true => by
      intro fuel depth rest offset enough _
      exact outcome_readShape_word 't' ['r', 'u', 'e'] (by decide) (by decide)
        (fun _ _ _ => rfl) (pos_of_enough enough) depth rest offset
  | .bool false => by
      intro fuel depth rest offset enough _
      exact outcome_readShape_word 'f' ['a', 'l', 's', 'e'] (by decide) (by decide)
        (fun _ _ _ => rfl) (pos_of_enough enough) depth rest offset
  | .str text => by
      intro fuel depth rest offset enough _
      have shape : (Json.str text).write.toList = '"' :: (text.toList.flatMap escapeChar ++ ['"']) := by
        rw [write, writeText, String.toList_ofList]
      refine outcome_readShape_scalar ⟨'"', _, shape, by decide⟩
        (fun place => outcome_readScalar_str text ?_ rest place) (pos_of_enough enough) depth offset
      rw [toList_write_str]
      exact length_lt_length_quoted text rest
  | .arr items => by
      intro fuel depth rest offset enough delimited
      rw [length_write_arr] at enough
      rcases fuel with _ | fuel
      · simp at enough
      · rw [toList_write_arr, readShape_list, reread]
        split
        · rfl
        · rw [outcome_readItems items fuel (depth - 1) true [] rest _ (by omega), Option.map_map]
          rfl
  | .obj members => by
      intro fuel depth rest offset enough delimited
      rw [length_write_obj] at enough
      rcases fuel with _ | fuel
      · simp at enough
      · rw [toList_write_obj, readShape_map, reread]
        split
        · rfl
        · rw [outcome_readMembers members fuel (depth - 1) true [] rest _ (by omega),
            Option.map_map]
          rfl

theorem outcome_readItems : (items : List Json) → ∀ (fuel depth : Nat) (first : Bool)
    (reversed : List Json) (rest : List Char) (offset : Nat),
      2 * (itemsText first items).length + 1 ≤ fuel →
        outcome (readItems fuel depth .any first reversed
          ⟨itemsText first items ++ ']' :: rest, offset⟩) =
          (rereadItems depth items).map fun read => (.arr (reversed.reverse ++ read), rest)
  | [] => by
      intro fuel depth first reversed rest offset enough
      rcases fuel with _ | fuel
      · simp at enough
      · rw [readItems, itemsText, List.nil_append, bind_of_eq_ok (nextItem?_end first rest offset)]
        simp [rereadItems, pure, Except.pure]
  | item :: items => by
      intro fuel depth first reversed rest offset enough
      have positive := length_write_pos item
      simp only [itemsText, List.length_append] at enough
      rcases fuel with _ | fuel
      · simp at enough
      · exact outcome_readItems_cons _ _
          (fun place => outcome_readShape item fuel depth _ place (by omega)
            (delimited_itemsText items rest))
          (fun read place => outcome_readItems items fuel depth false _ rest place (by omega)) offset

theorem outcome_readMembers : (members : List (String × Json)) → ∀ (fuel depth : Nat) (first : Bool)
    (reversed : List (String × Json)) (rest : List Char) (offset : Nat),
      2 * (membersText first members).length + 1 ≤ fuel →
        outcome (readMembers fuel depth (.all (fun _ => none) .any) first reversed
          ⟨membersText first members ++ '\x7d' :: rest, offset⟩) =
          (rereadMembers depth members).map fun read => (.obj (reversed.reverse ++ read), rest)
  | [] => by
      intro fuel depth first reversed rest offset enough
      rcases fuel with _ | fuel
      · simp at enough
      · rw [readMembers, membersText, List.nil_append,
          bind_of_eq_ok (nextMember?_end first rest offset)]
        simp [rereadMembers, Members.missing?, pure, Except.pure]
  | (name, value) :: members => by
      intro fuel depth first reversed rest offset enough
      have positive := length_write_pos value
      simp only [membersText, List.length_append, List.length_cons] at enough
      rcases fuel with _ | fuel
      · simp at enough
      · exact outcome_readMembers_cons _ _ rfl
          (fun place => outcome_readShape value fuel depth _ place (by omega)
            (delimited_membersText members rest))
          (fun read place => outcome_readMembers members fuel depth false _ rest place (by omega))
          offset

end

/-- What is read from a text is what its reading gives that leaves nothing behind. -/
theorem toOption_readAs {shape : Shape} {text : String} (value? : Option Json)
    (whole : outcome (readShape (2 * text.toList.length + 2) depthLimit shape ⟨text.toList, 0⟩) =
      value?.map fun value => (value, [])) : (readAs shape text).toOption = value? := by
  cases value? with
  | none =>
      cases gives : readShape (2 * text.toList.length + 2) depthLimit shape ⟨text.toList, 0⟩ with
      | ok pair => rw [gives] at whole; cases whole
      | error fault =>
          rw [readAs]
          simp only [gives]
          cases fault <;> rfl
  | some value =>
      rcases exists_of_outcome whole with ⟨offset, gives⟩
      rw [readAs]
      simp only [gives]
      rfl

/-- What is read from the text of a document is told by its numbers and its nesting. -/
theorem toOption_readAs_write (document : Json) :
    (readAs .any document.write).toOption = reread depthLimit document := by
  have whole := outcome_readShape document (2 * document.write.toList.length + 2) depthLimit [] 0
    (by omega) delimited_nil
  rw [List.append_nil] at whole
  exact toOption_readAs _ whole

end AccessControl.Json
