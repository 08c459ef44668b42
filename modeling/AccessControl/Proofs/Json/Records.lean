import AccessControl.Permission
import AccessControl.Proofs.Json.Form
import AccessControl.Proofs.Ordered

/-!
# Records in documents

A record is read from a map that has every name once by looking its fields up, in whatever order the
members stand.  So a record is read back from a map of its written fields as soon as each field is
read back from what was written for it.  Lists, sets and maps are read back when what they hold is.
All of this holds in either form that documents are passed on in.
-/

namespace AccessControl

variable {α β : Type}

/-! ## Fields -/

namespace Fields

variable {members : List (String × Json)}

/-- Whether the fields make up the value when they are looked up among the members, none of which
fails the check of a field. -/
structure Reads (fields : Fields α) (members : List (String × Json)) (value : α) : Prop where
  built : ∀ first, fields.build first (.named members) = .ok value
  checked : ∀ check ∈ fields.checks, ∀ document, members.lookup check.1 = some document →
    check.2 document = .ok ()

theorem Reads.map {fields : Fields α} {value : α} (reads : fields.Reads members value)
    (function : α → β) : (function <$> fields).Reads members (function value) where
  built first := build_map_eq_ok.mpr ⟨value, reads.built first, rfl⟩
  checked := reads.checked

theorem Reads.seq {function : Fields (α → β)} {argument : Fields α} {apply : α → β} {value : α}
    (reads : function.Reads members apply) (next : argument.Reads members value) :
    (function <*> argument).Reads members (apply value) where
  built first := build_seq_eq_ok.mpr ⟨apply, reads.built first, value, next.built _, rfl⟩
  checked check member := by
    rcases List.mem_append.mp member with before | last
    · exact reads.checked check before
    · exact next.checked check last

/-- A field is read from the member of its name. -/
theorem reads_field {name : String} {item : Decoder α} {unnamed unlisted : Option α}
    {document : Json} {value : α} (found : members.lookup name = some document)
    (decoded : item document = .ok value) :
    (field name item unnamed unlisted).Reads members value where
  built _ := (field_build_named found).trans decoded
  checked check member other isOther := by
    obtain rfl := List.mem_singleton.mp member
    obtain rfl := Option.some.inj (found.symm.trans isOther)
    exact congrArg (Except.map fun _ => ()) decoded

theorem checkMembers_eq_ok {checks : List (String × (Json → Except DecodeError Unit))}
    {seen : List String} (distinct : (members.map Prod.fst).Nodup)
    (unseen : ∀ member ∈ members, member.1 ∉ seen)
    (checked : ∀ member ∈ members, ∀ check, checks.lookup member.1 = some check →
      check member.2 = .ok ()) :
    checkMembers checks seen members = .ok () := by
  induction members generalizing seen with
  | nil => rfl
  | cons first rest ih =>
      obtain ⟨firstChecked, restChecked⟩ := List.forall_mem_cons.mp checked
      obtain ⟨firstUnseen, restUnseen⟩ := List.forall_mem_cons.mp unseen
      obtain ⟨firstDistinct, restDistinct⟩ := List.nodup_cons.mp distinct
      rw [checkMembers]
      cases isField : checks.lookup first.1 with
      | none => exact ih restDistinct restUnseen restChecked
      | some check =>
          have notSeen : seen.contains first.1 = false := by simpa using firstUnseen
          have restNotSeen : ∀ member ∈ rest, member.1 ∉ first.1 :: seen := by
            intro member isMember inSeen
            rcases List.mem_cons.mp inSeen with same | before
            · exact firstDistinct (List.mem_map.mpr ⟨member, isMember, same⟩)
            · exact restUnseen member isMember before
          simp only [notSeen, Bool.false_eq_true, if_false, firstChecked check isField, bind,
            Except.bind]
          exact ih restDistinct restNotSeen restChecked

theorem mem_of_lookup {name : String} {entries : List (String × α)} {value : α}
    (found : entries.lookup name = some value) : (name, value) ∈ entries := by
  obtain ⟨before, after, rfl, -⟩ := List.lookup_eq_some_iff.mp found
  simp

theorem lookup_of_mem {member : String × Json} (distinct : (members.map Prod.fst).Nodup)
    (isMember : member ∈ members) : members.lookup member.1 = some member.2 := by
  induction members with
  | nil => cases isMember
  | cons first rest ih =>
      obtain ⟨firstDistinct, restDistinct⟩ := List.nodup_cons.mp distinct
      rw [Json.lookup_cons]
      rcases List.mem_cons.mp isMember with rfl | later
      · exact if_pos rfl
      · rw [if_neg fun same => firstDistinct (List.mem_map.mpr ⟨member, later, same⟩)]
        exact ih restDistinct later

/-- A record is read from a map that has every name once. -/
theorem Reads.decoder {record : String} {fields : Fields α} {value : α}
    (reads : fields.Reads members value) (distinct : (members.map Prod.fst).Nodup) :
    fields.decoder record (.obj members) = .ok value := by
  have checked : checkMembers fields.checks [] members = .ok () :=
    checkMembers_eq_ok distinct (fun _ _ => List.not_mem_nil) fun member isMember check isField =>
      reads.checked (member.1, check) (mem_of_lookup isField) member.2
        (lookup_of_mem distinct isMember)
  simp only [Fields.decoder, checked, bind, Except.bind, reads.built]

end Fields

/-- The documents that stand where fields are read. -/
def Layout.documents : Layout → List Json
  | .named members => members.map Prod.snd
  | .listed _ _ items => items

namespace Fields

/-- A decoded record is built from what the document holds. -/
theorem exists_build_of_decoder {record : String} {fields : Fields α} {document : Json} {value : α}
    (decoded : fields.decoder record document = .ok value) :
    ∃ layout, fields.build 0 layout = .ok value ∧
      ∀ form : Json.Form, form.Has document → ∀ held ∈ layout.documents, form.Has held := by
  cases document with
  | obj members =>
      refine ⟨_, build_of_decoder decoded, fun form has held member => ?_⟩
      obtain ⟨⟨name, value⟩, isMember, rfl⟩ := List.mem_map.mp member
      exact has.of_mem isMember
  | arr items =>
      simp only [decoder, bind, Except.bind] at decoded
      split at decoded
      · cases decoded
      · next built isBuilt =>
        split at decoded
        · cases decoded
        · obtain rfl : built = value := Except.ok.inj decoded
          exact ⟨_, isBuilt, fun form has => Json.Form.has_arr_iff.mp has⟩
  | null | bool _ | int _ | float _ | str _ => cases decoded

/-- A field is decoded from what the document holds, unless it has the value for its absence. -/
theorem exists_of_field {name : String} {item : Decoder α} {unnamed unlisted : Option α} {value : α}
    {first : Nat} {layout : Layout}
    (built : (field name item unnamed unlisted).build first layout = .ok value) :
    (unnamed = some value ∨ unlisted = some value) ∨
      ∃ document ∈ layout.documents, item document = .ok value := by
  cases layout with
  | named members =>
      cases found : members.lookup name with
      | some document =>
          rw [field_build_named found] at built
          exact .inr ⟨document, List.mem_map.mpr ⟨_, mem_of_lookup found, rfl⟩, built⟩
      | none =>
          cases unnamed with
          | some default =>
              simp only [field, found] at built
              exact .inl (.inl (congrArg some (Except.ok.inj built)))
          | none =>
              simp only [field, found] at built
              cases built
  | listed record fields items =>
      cases found : items[first]? with
      | some document =>
          simp only [field, found] at built
          exact .inr ⟨document, List.mem_of_getElem? found, built⟩
      | none =>
          cases unlisted with
          | some default =>
              simp only [field, found] at built
              exact .inl (.inr (congrArg some (Except.ok.inj built)))
          | none =>
              simp only [field, found] at built
              cases built

/-- A field with a default is decoded from what the document holds, unless it has its default. -/
theorem eq_or_exists_of_withDefault {name : String} {item : Decoder α} {default value : α}
    {first : Nat} {layout : Layout}
    (built : (withDefault name item default).build first layout = .ok value) :
    value = default ∨ ∃ document ∈ layout.documents, item document = .ok value := by
  rcases exists_of_field built with (absent | absent) | held
  · exact .inl (Option.some.inj absent).symm
  · exact .inl (Option.some.inj absent).symm
  · exact .inr held

/-- A required field is decoded from what the document holds. -/
theorem exists_of_required {name : String} {item : Decoder α} {value : α} {first : Nat}
    {layout : Layout} (built : (required name item).build first layout = .ok value) :
    ∃ document ∈ layout.documents, item document = .ok value := by
  rcases exists_of_field built with (absent | absent) | held
  · cases absent
  · cases absent
  · exact held

end Fields

/-! ## Lists, sets and maps -/

namespace Decoder

theorem list_map {item : Decoder α} {encode : α → Json} {values : List α}
    (each : ∀ value ∈ values, item (encode value) = .ok value) :
    list item (.arr (values.map encode)) = .ok values := by
  rw [list]
  induction values with
  | nil => rfl
  | cons first rest ih =>
      obtain ⟨isFirst, isRest⟩ := List.forall_mem_cons.mp each
      rw [List.map_cons, List.mapM_cons, isFirst, ih isRest]
      rfl

theorem bag_toList [Ord α] [Std.TransOrd α] [Std.LawfulEqOrd α] {item : Decoder α}
    {encode : α → Json} {values : Bag α}
    (each : ∀ value ∈ values, item (encode value) = .ok value) :
    bag item (.arr (values.toList.map encode)) = .ok values := by
  rw [bag, list_map fun value member => each value (Std.ExtTreeSet.mem_toList.mp member)]
  exact congrArg Except.ok (Bag.ofList_toList values)

theorem pairs_map {κ : Type} {key : String → Except DecodeError κ} {item : Decoder α}
    {write : κ × α → String × Json} {members : List (κ × α)}
    (named : ∀ member ∈ members, key (write member).1 = .ok member.1)
    (each : ∀ member ∈ members, item (write member).2 = .ok member.2) :
    pairs key item (members.map write) = .ok members := by
  induction members with
  | nil => rfl
  | cons first rest ih =>
      obtain ⟨firstNamed, restNamed⟩ := List.forall_mem_cons.mp named
      obtain ⟨isFirst, isRest⟩ := List.forall_mem_cons.mp each
      simp only [List.map_cons, pairs, firstNamed, isFirst, ih restNamed isRest, bind, Except.bind,
        pure, Except.pure]

/-- What is read of a map whose first member has a key and a value, and of what follows it. -/
theorem pairs_cons_eq_ok {κ : Type} {key : String → Except DecodeError κ} {item : Decoder α}
    {first : String × Json} {rest : List (String × Json)} {values : List (κ × α)} :
    pairs key item (first :: rest) = .ok values ↔
      ∃ name value more, key first.1 = .ok name ∧ item first.2 = .ok value ∧
        pairs key item rest = .ok more ∧ values = (name, value) :: more := by
  simp only [pairs, bind, Except.bind]
  cases key first.1 with
  | error cause => simp
  | ok name =>
      cases item first.2 with
      | error cause => simp
      | ok value =>
          cases pairs key item rest with
          | error cause => simp
          | ok more => simp [pure, Except.pure, eq_comm]

/-- Permuted members are read as permuted values. -/
theorem pairs_perm {κ : Type} {key : String → Except DecodeError κ} {item : Decoder α}
    {members others : List (String × Json)} {values : List (κ × α)} (moved : members.Perm others)
    (read : pairs key item members = .ok values) :
    ∃ moved, pairs key item others = .ok moved ∧ moved.Perm values := by
  induction moved generalizing values with
  | nil => exact ⟨values, read, .refl values⟩
  | cons first _ ih =>
      obtain ⟨name, value, more, isName, isValue, readMore, rfl⟩ := pairs_cons_eq_ok.mp read
      obtain ⟨others, readOthers, same⟩ := ih readMore
      exact ⟨(name, value) :: others,
        pairs_cons_eq_ok.mpr ⟨name, value, others, isName, isValue, readOthers, rfl⟩, same.cons _⟩
  | swap first second rest =>
      obtain ⟨name, value, _, isName, isValue, readMore, rfl⟩ := pairs_cons_eq_ok.mp read
      obtain ⟨other, held, more, isOther, isHeld, readRest, rfl⟩ := pairs_cons_eq_ok.mp readMore
      have readSecond := pairs_cons_eq_ok.mpr ⟨name, value, more, isName, isValue, readRest, rfl⟩
      exact ⟨(other, held) :: (name, value) :: more,
        pairs_cons_eq_ok.mpr ⟨other, held, _, isOther, isHeld, readSecond, rfl⟩, .swap ..⟩
  | trans _ _ ihFirst ihSecond =>
      obtain ⟨between, readBetween, sameFirst⟩ := ihFirst read
      obtain ⟨last, readLast, sameSecond⟩ := ihSecond readBetween
      exact ⟨last, readLast, sameSecond.trans sameFirst⟩

theorem dict_ofDict {item : Decoder α} {encode : α → Json} {values : Dict String α}
    (each : ∀ (name : String) (value : α), values[name]? = some value →
      item (encode value) = .ok value) :
    dict .ok item (.ofDict encode values) = .ok values := by
  have read : pairs .ok item (values.toList.map fun member => (member.1, encode member.2)) =
      .ok values.toList := by
    refine pairs_map (fun _ _ => rfl) fun member isMember => ?_
    exact each member.1 member.2 (Std.ExtTreeMap.mem_toList_iff_getElem?_eq_some.mp isMember)
  rw [Json.ofDict, dict]
  simp only [read, Except.map, Dict.ofList_toList]

/-- A sequence is what its items are written as, if that holds of each item. -/
theorem arr_map_of_list {item : Decoder α} {encode : α → Json} {document : Json} {values : List α}
    (each : ∀ document value, item document = .ok value → encode value = document)
    (decoded : list item document = .ok values) : .arr (values.map encode) = document := by
  cases document with
  | arr items =>
      rw [list] at decoded
      refine congrArg Json.arr ?_
      induction items generalizing values with
      | nil =>
          obtain rfl : [] = values := Except.ok.inj decoded
          rfl
      | cons first rest ih =>
          simp only [List.mapM_cons, bind, Except.bind] at decoded
          split at decoded
          · cases decoded
          · next value isFirst =>
            split at decoded
            · cases decoded
            · next more isRest =>
              obtain rfl : value :: more = values := Except.ok.inj decoded
              rw [List.map_cons, each first value isFirst, ih isRest]
  | null | bool _ | int _ | float _ | str _ | obj _ => cases decoded

theorem arr_of_list_ok {document : Json} {values : List Json}
    (decoded : list .ok document = .ok values) : .arr values = document := by
  have mapped : .arr (values.map id) = document :=
    arr_map_of_list (fun _ _ isValue => (Except.ok.inj isValue).symm) decoded
  rwa [List.map_id] at mapped

/-- What a decoded map holds was decoded from a member. -/
theorem exists_of_pairs {κ : Type} {key : String → Except DecodeError κ} {item : Decoder α}
    {members : List (String × Json)} {values : List (κ × α)} {entry : κ × α}
    (decoded : pairs key item members = .ok values) (member : entry ∈ values) :
    ∃ held ∈ members, key held.1 = .ok entry.1 ∧ item held.2 = .ok entry.2 := by
  induction members generalizing values with
  | nil =>
      obtain rfl : [] = values := Except.ok.inj decoded
      cases member
  | cons first rest ih =>
      obtain ⟨name, value, more, isName, isValue, readMore, rfl⟩ := pairs_cons_eq_ok.mp decoded
      rcases List.mem_cons.mp member with rfl | later
      · exact ⟨first, List.mem_cons_self .., isName, isValue⟩
      · obtain ⟨held, isMember, isEntry⟩ := ih readMore later
        exact ⟨held, List.mem_cons_of_mem first isMember, isEntry⟩

theorem exists_of_dict {κ : Type} [Ord κ] [Std.TransOrd κ] [Std.LawfulEqOrd κ]
    {key : String → Except DecodeError κ} {item : Decoder α} {document : Json}
    {values : Dict κ α} {name : κ} {value : α} (decoded : dict key item document = .ok values)
    (found : values[name]? = some value) :
    ∃ members, document = .obj members ∧
      ∃ held ∈ members, key held.1 = .ok name ∧ item held.2 = .ok value := by
  cases document with
  | obj members =>
      simp only [dict, Except.map] at decoded
      split at decoded
      · cases decoded
      · next isPairs =>
        rw [← Except.ok.inj decoded] at found
        exact ⟨members, rfl, exists_of_pairs isPairs (Dict.mem_of_getElem?_ofList found)⟩
  | null | bool _ | int _ | float _ | str _ | arr _ => cases decoded

theorem shortname_text (name : Shortname) : shortname (.str name.text) = .ok name := by
  simp only [shortname, parsed, text, Shortname.parse_eq_ok_iff.mpr rfl, bind, Except.bind]
  rfl

theorem shortnames_ofNames (names : List Shortname) :
    list shortname (.ofNames names) = .ok names :=
  list_map fun name _ => shortname_text name

theorem texts_ofTexts (texts : List String) : list text (.ofTexts texts) = .ok texts :=
  list_map fun _ _ => rfl

end Decoder

/-! ## Words -/

/-- A vocabulary that lists all of its words, each with a spelling of its own. -/
class Vocabulary.Lawful (α : Type) [Vocabulary α] : Prop where
  mem_all : ∀ word : α, word ∈ (Vocabulary.all : List α)
  name_injective : ∀ first second : α, Vocabulary.name first = Vocabulary.name second → first = second

instance : Vocabulary.Lawful ResourceType where
  mem_all := ResourceType.mem_all
  name_injective _ _ := ResourceType.name_injective

instance : Vocabulary.Lawful Action where
  mem_all := Action.mem_all
  name_injective _ _ := Action.name_injective

instance : Vocabulary.Lawful Condition where
  mem_all word := by cases word <;> decide
  name_injective _ _ := Condition.name_injective

theorem Vocabulary.ofName?_name [Vocabulary α] [Vocabulary.Lawful α] (word : α) :
    Vocabulary.ofName? (Vocabulary.name word) = some word := by
  cases found : (Vocabulary.ofName? (Vocabulary.name word) : Option α) with
  | none =>
      have absent := List.find?_eq_none.mp found word (Lawful.mem_all word)
      simp at absent
  | some other =>
      have same : Vocabulary.name other = Vocabulary.name word := by
        simpa using List.find?_some found
      rw [Lawful.name_injective other word same]

theorem Decoder.word_name [Vocabulary α] [Vocabulary.Lawful α] (value : α) :
    word (.str (Vocabulary.name value)) = .ok value := by
  simp only [word, wordOf, Vocabulary.ofName?_name]

theorem Decoder.words_ofWords [Vocabulary α] [Vocabulary.Lawful α] [Ord α] [Std.TransOrd α]
    [Std.LawfulEqOrd α] (words : Bag α) : bag word (.ofWords words) = .ok words :=
  bag_toList fun value _ => word_name value

/-! ## Normal forms of written documents -/

namespace Json

theorem isNormal_ofNames (names : List Shortname) : (ofNames names).IsNormal :=
  isNormal_arr.mpr fun item member => by
    obtain ⟨name, -, rfl⟩ := List.mem_map.mp member
    rfl

theorem isNormal_ofTexts (texts : List String) : (ofTexts texts).IsNormal :=
  isNormal_arr.mpr fun item member => by
    obtain ⟨text, -, rfl⟩ := List.mem_map.mp member
    rfl

theorem isNormal_ofWords [Vocabulary α] [Ord α] [Std.TransOrd α] (words : Bag α) :
    (ofWords words).IsNormal :=
  isNormal_arr.mpr fun item member => by
    obtain ⟨word, -, rfl⟩ := List.mem_map.mp member
    rfl

/-- The members of a written map are in order already. -/
theorem ascending_toList (encode : α → Json) (values : Dict String α) :
    Ascending (values.toList.map fun (name, value) => (name, encode value)) :=
  List.pairwise_map.mpr Std.ExtTreeMap.ordered_keys_toList

theorem normal_ofDict {encode : α → Json} {values : Dict String α} :
    normal (ofDict encode values) = ofDict (fun value => normal (encode value)) values := by
  rw [ofDict, normal, normalMembers_eq_map, (ascending_toList encode values).map.sortMembers_eq,
    List.map_map]
  rfl

end Json

/-! ## Written records in either form -/

variable {form : Json.Form}

namespace Fields

variable {members : List (String × Json)} {name : String} {item : Decoder α}
  {unnamed unlisted : Option α} {document : Json} {value : α}

/-- A field that was written once is read from what was written for it, in the form that the record
is passed on in. -/
theorem reads_form (first : members.lookup name = some document)
    (last : members.reverse.lookup name = some document)
    (decoded : item (form.apply document) = .ok value) :
    (field name item unnamed unlisted).Reads (form.members members) value := by
  cases form with
  | written => exact reads_field first decoded
  | normal =>
      refine reads_field ?_ decoded
      rw [Json.Form.members, Json.lookup_sortMembers, Json.lookup_reverse_normalMembers, last]
      rfl

/-- A field that was written once, and in normal form, is read from what was written for it. -/
theorem reads_written (first : members.lookup name = some document)
    (last : members.reverse.lookup name = some document) (isNormal : document.IsNormal)
    (decoded : item document = .ok value) :
    (field name item unnamed unlisted).Reads (form.members members) value := by
  refine reads_form first last ?_
  rwa [Json.Form.has_of_isNormal isNormal]

/-- A record is read back from its written fields in either form. -/
theorem Reads.decoder_form {record : String} {fields : Fields α}
    (reads : fields.Reads (form.members members) value)
    (distinct : (members.map Prod.fst).Nodup) :
    fields.decoder record (form.apply (.obj members)) = .ok value := by
  rw [Json.Form.apply_obj]
  exact reads.decoder (Json.Form.nodup_members distinct)

end Fields

namespace Decoder

variable {item : Decoder α} {encode : α → Json}

theorem list_form {values : List α}
    (each : ∀ value ∈ values, item (form.apply (encode value)) = .ok value) :
    list item (form.apply (.arr (values.map encode))) = .ok values := by
  rw [Json.Form.apply_arr, List.map_map]
  exact list_map each

theorem dict_form {values : Dict String α}
    (each : ∀ (name : String) (value : α), values[name]? = some value →
      item (form.apply (encode value)) = .ok value) :
    dict .ok item (form.apply (.ofDict encode values)) = .ok values := by
  cases form with
  | written => exact dict_ofDict each
  | normal =>
      rw [Json.Form.apply, Json.normal_ofDict]
      exact dict_ofDict each

/-- A text is read back where there may be null instead. -/
theorem optional_form {spell : α → String} (each : ∀ value, item (.str (spell value)) = .ok value)
    (value : Option α) :
    optional item (form.apply (value.elim .null fun value => .str (spell value))) = .ok value := by
  cases value with
  | none => rw [Option.elim_none, Json.Form.apply_null, optional]
  | some value =>
      rw [Option.elim_some, Json.Form.apply_str, optional, each]
      · rfl
      · nofun

end Decoder

end AccessControl
