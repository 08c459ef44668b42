import AccessControl.Proofs.Json.Retelling
import AccessControl.Proofs.Json.Shape

/-!
# Written documents are read against shapes

A shape that lets a document through reads it back from its own text, as long as the document is not
nested too deep and its numbers are kept.  A map with a name that is refused is not read at all.
-/

namespace AccessControl.Json

/-! ## Shapes -/

mutual

/-- Whether no record in a shape has two fields of one name. -/
def Shape.IsProper : Shape → Prop
  | .list item => item.IsProper
  | .dict _ value => value.IsProper
  | .record _ fields => (fields.map Prod.fst).Nodup ∧ AreProper fields
  | .any | .text | .word _ | .checked _ => True

/-- `Shape.IsProper` on each field. -/
def AreProper : List (String × Shape) → Prop
  | [] => True
  | (_, shape) :: rest => shape.IsProper ∧ AreProper rest

end

/-- Whether members are read one after another, none of them passed over, and nothing is missing behind
them. -/
def Members.Takes (known : Members) : (seen : List String) → List (String × Json) → Prop
  | seen, [] => known.missing? seen = none
  | seen, (name, value) :: rest =>
    (∃ shape : Shape, known.receive seen name = .ok (some shape) ∧ shape.IsProper ∧
      shape.Admits value) ∧ known.Takes (name :: seen) rest

theorem takes_all {key : String → Option DecodeError} {shape : Shape} (isProper : shape.IsProper)
    {members : List (String × Json)}
    (each : ∀ member ∈ members, key member.1 = none ∧ shape.Admits member.2) (seen : List String) :
    (Members.all key shape).Takes seen members := by
  induction members generalizing seen with
  | nil => rfl
  | cons member rest ih =>
      rcases List.forall_mem_cons.mp each with ⟨⟨accepted, admits⟩, others⟩
      exact ⟨⟨shape, by simp [Members.receive, accepted], isProper, admits⟩, ih others _⟩

/-- The fields of a record are taken in order: the induction is on the fields that are left, and those
before them are the names seen. -/
theorem takes_fields (before : List (String × Shape)) {fields : List (String × Shape)}
    {members : List (String × Json)}
    (distinct : ((before ++ fields).map Prod.fst).Nodup) (areProper : AreProper fields)
    (admits : AdmitsFields fields members) :
    (Members.fields (before ++ fields)).Takes (before.map Prod.fst).reverse members := by
  induction fields generalizing before members with
  | nil =>
      cases members with
      | cons member rest => exact admits.elim
      | nil =>
          simp only [Members.Takes, Members.missing?, List.append_nil, Option.map_eq_none_iff,
            List.find?_eq_none]
          intro field isField
          simpa using ⟨field.2, isField⟩
  | cons field fields ih =>
      cases members with
      | nil => exact admits.elim
      | cons member rest =>
          rcases field with ⟨name, shape⟩
          rcases member with ⟨other, value⟩
          rcases admits with ⟨rfl, admitsValue, admitsRest⟩
          rcases areProper with ⟨isProper, others⟩
          have notBefore : name ∉ before.map Prod.fst := by
            rw [List.map_append, List.nodup_append] at distinct
            intro isBefore
            exact distinct.2.2 name isBefore name (List.mem_cons_self ..) rfl
          have found : (before ++ (name, shape) :: fields).lookup name = some shape := by
            refine List.lookup_eq_some_iff.mpr ⟨before, fields, rfl, fun field isField => ?_⟩
            rw [bne_iff_ne]
            rintro rfl
            exact notBefore (List.mem_map_of_mem isField)
          refine ⟨⟨shape, ?_, isProper, admitsValue⟩, ?_⟩
          · have unseen : (before.map Prod.fst).reverse.contains name = false := by
              simpa using notBefore
            simp only [Members.receive, found, unseen, Bool.false_eq_true, if_false]
          · have passed : before ++ (name, shape) :: fields = (before ++ [(name, shape)]) ++ fields := by
              simp
            rw [passed] at distinct ⊢
            simpa using ih _ distinct others admitsRest

/-! ## Documents that are given back -/

variable {depth : Nat}

theorem rereadItems_of_reread {items : List Json}
    (gives : reread depth (.arr items) = some (.arr items)) :
    ¬ depth ≤ 1 ∧ rereadItems (depth - 1) items = some items := by
  rw [reread] at gives
  split at gives
  · cases gives
  · next deep => exact ⟨deep, by simpa using gives⟩

theorem rereadMembers_of_reread {members : List (String × Json)}
    (gives : reread depth (.obj members) = some (.obj members)) :
    ¬ depth ≤ 1 ∧ rereadMembers (depth - 1) members = some members := by
  rw [reread] at gives
  split at gives
  · cases gives
  · next deep => exact ⟨deep, by simpa using gives⟩

/-! ## Texts and words -/

/-- Whether the text of a document, wherever it stands, is read against a shape as that document. -/
def ReadsBack (shape : Shape) (depth : Nat) (document : Json) : Prop :=
  ∀ (fuel : Nat) (rest : List Char) (offset : Nat), 2 * document.write.toList.length < fuel →
    Delimited rest →
      outcome (readShape fuel depth shape ⟨document.write.toList ++ rest, offset⟩) =
        some (document, rest)

theorem readsBack_any {document : Json} (gives : reread depth document = some document) :
    ReadsBack .any depth document := by
  intro fuel rest offset enough delimited
  rw [outcome_readShape document fuel depth rest offset (by omega) delimited, gives]
  rfl

/-- A checked document is read as any document is, and then checked. -/
theorem readsBack_checked {check : Json → Option DecodeError} {document : Json}
    (isNormal : document.IsNormal) (accepted : check document = none)
    (gives : reread depth document = some document) : ReadsBack (.checked check) depth document := by
  intro fuel rest offset enough delimited
  rcases fuel with _ | fuel
  · simp at enough
  · rcases startsDocument_write document with ⟨c, more, text, notSpace, -⟩
    have read := outcome_readShape document fuel depth rest offset (by omega) delimited
    rw [gives] at read
    rcases exists_of_outcome read with ⟨behind, isRead⟩
    have isAhead : Cursor.skipSpace ⟨document.write.toList ++ rest, offset⟩ =
        ⟨document.write.toList ++ rest, offset⟩ := by
      rw [text]
      exact skipSpace_cons notSpace _ offset
    have ahead : Cursor.next? ⟨document.write.toList ++ rest, offset⟩ =
        some (c, ⟨more ++ rest, offset + c.utf8Size⟩) := by
      rw [text]
      rfl
    rw [readShape]
    simp only [isAhead, ahead]
    rw [bind_of_eq_ok isRead]
    simp only [show document.normal = document from isNormal, accepted, outcome_ok]

theorem readsBack_text (text : String) : ReadsBack .text depth (.str text) := by
  intro fuel rest offset enough _
  rcases fuel with _ | fuel
  · simp at enough
  · have quoteAhead : Cursor.isSpace '"' = false := by decide
    have read := outcome_readScalar_str text (length_lt_length_quoted text rest) rest offset
    rw [toList_write_str] at read ⊢
    rw [readShape]
    simp only [skipSpace_cons quoteAhead, Cursor.next?, if_true]
    exact read

/-- A word is read as a text that is one of the names. -/
theorem readsBack_word {names : List String} {name : String} (isName : name ∈ names) :
    ReadsBack (.word names) depth (.str name) := by
  intro fuel rest offset enough _
  rcases fuel with _ | fuel
  · simp at enough
  · have quoteAhead : Cursor.isSpace '"' = false := by decide
    rw [toList_write_str]
    rcases exists_of_outcome (outcome_readString _ (length_lt_length_quoted name rest) []
      (offset + '"'.utf8Size)) with ⟨behind, isRead⟩
    rw [List.reverse_nil, List.nil_append, String.ofList_toList] at isRead
    rw [readShape]
    simp only [skipSpace_cons quoteAhead, Cursor.next?, readChoice, readName]
    rw [isRead]
    simp [isName, bind, Except.bind, pure, Except.pure]

/-! ## Lists and maps -/

theorem readsBack_list {shape : Shape} {items : List Json} (deep : ¬ depth ≤ 1)
    (reads : ∀ (fuel : Nat) (rest : List Char) (offset : Nat),
      2 * (itemsText true items).length + 2 ≤ fuel →
        outcome (readItems fuel (depth - 1) shape true []
          ⟨itemsText true items ++ ']' :: rest, offset⟩) = some (.arr items, rest)) :
    ReadsBack (.list shape) depth (.arr items) := by
  intro fuel rest offset enough _
  rw [length_write_arr] at enough
  rcases fuel with _ | fuel
  · simp at enough
  · have bracketAhead : Cursor.isSpace '[' = false := by decide
    rw [toList_write_arr, readShape]
    simp only [skipSpace_cons bracketAhead, Cursor.next?, if_true, if_neg deep]
    exact reads fuel rest _ (by omega)

/-- How a shape reads the members of a map. -/
def Shape.members? : Shape → Option Members
  | .dict key value => some (.all key value)
  | .record _ fields => some (.fields fields)
  | _ => none

/-- A map is read as its members are. -/
theorem readShape_of_members? {shape : Shape} {known : Members} (isMap : shape.members? = some known)
    (deep : ¬ depth ≤ 1) (fuel : Nat) (members : List (String × Json)) (rest : List Char)
    (offset : Nat) :
    readShape (fuel + 1) depth shape ⟨(Json.obj members).write.toList ++ rest, offset⟩ =
      readMembers fuel (depth - 1) known true []
        ⟨membersText true members ++ '\x7d' :: rest, offset + '\x7b'.utf8Size⟩ := by
  have braceAhead : Cursor.isSpace '\x7b' = false := by decide
  rw [toList_write_obj, readShape]
  simp only [skipSpace_cons braceAhead, Cursor.next?]
  cases shape with
  | dict key value =>
      cases isMap
      simp only [if_true, if_neg deep]
  | record name fields =>
      cases isMap
      simp only [if_true, if_neg deep]
  | any | text | list | word | checked => cases isMap

/-! ## Whole documents -/

mutual

/-- A shape that lets a document through reads it back from its text, unless the document is not given
back at all. -/
theorem readsBack_of_admits : (document : Json) → ∀ (shape : Shape) (depth : Nat), shape.IsProper →
    shape.Admits document → reread depth document = some document → ReadsBack shape depth document
  | .null | .bool _ | .int _ | .float _ => by
      intro shape depth _ admits gives
      cases shape with
      | any => exact readsBack_any gives
      | checked check => exact readsBack_checked admits.1 admits.2 gives
      | text | list | dict | word | record => exact admits.elim
  | .str text => by
      intro shape depth _ admits gives
      cases shape with
      | any => exact readsBack_any gives
      | checked check => exact readsBack_checked admits.1 admits.2 gives
      | text => exact readsBack_text text
      | word names => exact readsBack_word admits
      | list | dict | record => exact admits.elim
  | .arr items => by
      intro shape depth isProper admits gives
      cases shape with
      | any => exact readsBack_any gives
      | checked check => exact readsBack_checked admits.1 admits.2 gives
      | list item =>
          rcases rereadItems_of_reread gives with ⟨deep, each⟩
          exact readsBack_list deep fun fuel rest offset enough =>
            outcome_readItems_of_admits items item _ isProper admits each fuel true [] rest offset enough
      | text | dict | word | record => exact admits.elim
  | .obj members => by
      intro shape depth isProper admits gives
      rcases rereadMembers_of_reread gives with ⟨deep, each⟩
      have ofMembers (known : Members) (isMap : shape.members? = some known)
          (takes : known.Takes [] members) : ReadsBack shape depth (.obj members) := by
        intro fuel rest offset enough _
        rw [length_write_obj] at enough
        rcases fuel with _ | fuel
        · simp at enough
        · rw [readShape_of_members? isMap deep]
          exact outcome_readMembers_of_takes members known _ each fuel true [] rest _ takes (by omega)
      cases shape with
      | any => exact readsBack_any gives
      | checked check => exact readsBack_checked admits.1 admits.2 gives
      | dict key value =>
          have ofValue : value.IsProper := isProper
          exact ofMembers _ rfl (takes_all ofValue admits [])
      | record name fields =>
          exact ofMembers _ rfl (takes_fields [] isProper.1 isProper.2 admits)
      | text | list | word => exact admits.elim

theorem outcome_readItems_of_admits : (items : List Json) → ∀ (shape : Shape) (depth : Nat),
    shape.IsProper → (∀ item ∈ items, shape.Admits item) → rereadItems depth items = some items →
      ∀ (fuel : Nat) (first : Bool) (reversed : List Json) (rest : List Char) (offset : Nat),
        2 * (itemsText first items).length + 2 ≤ fuel →
          outcome (readItems fuel depth shape first reversed
            ⟨itemsText first items ++ ']' :: rest, offset⟩) =
              some (.arr (reversed.reverse ++ items), rest)
  | [] => by
      intro shape depth _ _ _ fuel first reversed rest offset enough
      rcases fuel with _ | fuel
      · simp at enough
      · rw [readItems, itemsText, List.nil_append, bind_of_eq_ok (nextItem?_end first rest offset)]
        simp [pure, Except.pure]
  | item :: items => by
      intro shape depth isProper admits gives fuel first reversed rest offset enough
      rcases List.forall_mem_cons.mp admits with ⟨admitsItem, admitsRest⟩
      rcases rereadItems_cons_eq_self_iff.mp gives with ⟨givesItem, givesRest⟩
      have positive := length_write_pos item
      simp only [itemsText, List.length_append] at enough
      rcases fuel with _ | fuel
      · simp at enough
      · have readsItem (place : Nat) := readsBack_of_admits item shape depth isProper admitsItem
          givesItem fuel (itemsText false items ++ ']' :: rest) place (by omega)
          (delimited_itemsText items rest)
        have readsOthers (read : Json) (place : Nat) := outcome_readItems_of_admits items shape depth
          isProper admitsRest givesRest fuel false (read :: reversed) rest place (by omega)
        exact outcome_readItems_cons (some item) (some items) readsItem readsOthers offset

theorem outcome_readMembers_of_takes : (members : List (String × Json)) →
    ∀ (known : Members) (depth : Nat), rereadMembers depth members = some members →
      ∀ (fuel : Nat) (first : Bool) (reversed : List (String × Json)) (rest : List Char)
        (offset : Nat), known.Takes (reversed.map Prod.fst) members →
          2 * (membersText first members).length + 2 ≤ fuel →
            outcome (readMembers fuel depth known first reversed
              ⟨membersText first members ++ '\x7d' :: rest, offset⟩) =
                some (.obj (reversed.reverse ++ members), rest)
  | [] => by
      intro known depth _ fuel first reversed rest offset takes enough
      rcases fuel with _ | fuel
      · simp at enough
      · rw [readMembers, membersText, List.nil_append,
          bind_of_eq_ok (nextMember?_end first rest offset)]
        have complete : known.missing? (reversed.map Prod.fst) = none := takes
        simp [complete, pure, Except.pure]
  | (name, value) :: members => by
      intro known depth gives fuel first reversed rest offset takes enough
      rcases takes with ⟨⟨shape, received, isProper, admits⟩, takesRest⟩
      rcases rereadMembers_cons_eq_self_iff.mp gives with ⟨givesValue, givesRest⟩
      have positive := length_write_pos value
      simp only [membersText, List.length_append, List.length_cons] at enough
      rcases fuel with _ | fuel
      · simp at enough
      · have readsValue (place : Nat) := readsBack_of_admits value shape depth isProper admits
          givesValue fuel (membersText false members ++ '\x7d' :: rest) place (by omega)
          (delimited_membersText members rest)
        have readsOthers (read : Json) (place : Nat) := outcome_readMembers_of_takes members known depth
          givesRest fuel false ((name, read) :: reversed) rest place takesRest (by omega)
        exact outcome_readMembers_cons (some value) (some members) received readsValue readsOthers
          offset

end

/-- What a shape lets through is read back from its text. -/
theorem readAs_write_of_admits {shape : Shape} {document : Json} (isProper : shape.IsProper)
    (admits : shape.Admits document) (gives : reread depthLimit document = some document) :
    readAs shape document.write = .ok document := by
  have whole := readsBack_of_admits document shape depthLimit isProper admits gives
    (2 * document.write.toList.length + 2) [] 0 (by omega) delimited_nil
  rw [List.append_nil] at whole
  have found := toOption_readAs (some document) whole
  cases isRead : readAs shape document.write with
  | error fault =>
      rw [isRead] at found
      cases found
  | ok read =>
      rw [isRead] at found
      cases found
      rfl

/-! ## Names that are refused -/

/-- A map is not read if one of its names is refused: the members before it are read, and then the
reading ends. -/
theorem outcome_readMembers_of_refused {key : String → Option DecodeError} {shape : Shape}
    (isProper : shape.IsProper) {members : List (String × Json)}
    (each : ∀ member ∈ members, shape.Admits member.2)
    (gives : rereadMembers depth members = some members)
    (refused : ∃ member ∈ members, key member.1 ≠ none) {fuel : Nat} {first : Bool}
    (reversed : List (String × Json)) {rest : List Char} (offset : Nat)
    (enough : 2 * (membersText first members).length + 2 ≤ fuel) :
    outcome (readMembers fuel depth (.all key shape) first reversed
      ⟨membersText first members ++ '\x7d' :: rest, offset⟩) = none := by
  induction members generalizing fuel first reversed offset with
  | nil =>
      rcases refused with ⟨member, isMember, -⟩
      cases isMember
  | cons member members ih =>
      rcases member with ⟨name, value⟩
      rcases List.forall_mem_cons.mp each with ⟨admits, others⟩
      rcases rereadMembers_cons_eq_self_iff.mp gives with ⟨givesValue, givesRest⟩
      have positive := length_write_pos value
      simp only [membersText, List.length_append, List.length_cons] at enough
      rcases fuel with _ | fuel
      · simp at enough
      · cases accepted : key name with
        | some cause =>
            rcases readMembers_opener fuel depth (.all key shape) first reversed offset
              with ⟨behind, member⟩
            rw [member]
            simp only [Members.receive, accepted, outcome_settle, outcome_error]
        | none =>
            have received : (Members.all key shape).receive (reversed.map Prod.fst) name =
                .ok (some shape) := by
              simp only [Members.receive, accepted]
            have readsValue (place : Nat) := readsBack_of_admits value shape depth isProper admits
              givesValue fuel (membersText false members ++ '\x7d' :: rest) place (by omega)
              (delimited_membersText members rest)
            have later : ∃ member ∈ members, key member.1 ≠ none := by
              rcases refused with ⟨member, isMember, isRefused⟩
              cases List.mem_cons.mp isMember with
              | inl same => exact absurd (same ▸ accepted) isRefused
              | inr isLater => exact ⟨member, isLater, isRefused⟩
            have readsOthers (read : Json) (place : Nat) :
                outcome (readMembers fuel depth (.all key shape) false ((name, read) :: reversed)
                  ⟨membersText false members ++ '\x7d' :: rest, place⟩) = none :=
              ih others givesRest later ((name, read) :: reversed) place (by omega)
            exact outcome_readMembers_cons (some value) none received readsValue readsOthers offset

/-- A map of documents that a shape lets through is kept by its text. -/
theorem isKept_dict {key : String → Option DecodeError} {shape : Shape}
    {members : List (String × Json)} (isProper : shape.IsProper)
    (each : ∀ member ∈ members, shape.Admits member.2)
    (gives : reread depthLimit (.obj members) = some (.obj members)) :
    IsKept (.dict key shape) (.obj members) where
  admitted admits := readAs_write_of_admits isProper admits gives
  refused notAdmitted := by
    have refused : ∃ member ∈ members, key member.1 ≠ none := by
      rcases Classical.not_forall.mp notAdmitted with ⟨member, notBoth⟩
      rcases Classical.not_imp.mp notBoth with ⟨isMember, notBoth⟩
      exact ⟨member, isMember, fun accepted => notBoth ⟨accepted, each member isMember⟩⟩
    rcases rereadMembers_of_reread gives with ⟨deep, givesMembers⟩
    have whole : outcome (readShape (2 * (Json.obj members).write.toList.length + 2) depthLimit
        (.dict key shape) ⟨(Json.obj members).write.toList ++ [], 0⟩) = none := by
      rw [readShape_of_members? rfl deep]
      refine outcome_readMembers_of_refused isProper each givesMembers refused [] _ ?_
      rw [length_write_obj]
      omega
    rw [List.append_nil] at whole
    have found := toOption_readAs none whole
    cases isRead : readAs (.dict key shape) (Json.obj members).write with
    | error fault => exact ⟨fault, rfl⟩
    | ok read =>
        rw [isRead] at found
        cases found

end AccessControl.Json
