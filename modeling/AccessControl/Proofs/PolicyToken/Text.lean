import AccessControl.PolicyToken
import AccessControl.Proofs.PermissionKey

/-!
# Written tokens

A token is written as its parts with colons between them, and a text is read as a token exactly if
cutting it at the colons gives the parts of that token.  So a token whose parts hold no colon is
read back from what it is written as, but for a subject named like any owner, and a token with a colon
in some part is written as a text that is read as no token.
-/

namespace AccessControl

namespace ActiveState

theorem ofText?_eq_some_iff {value : String} {state : ActiveState} :
    ofText? value = some state ↔ state.text = value := by
  constructor
  · intro read
    unfold ofText? at read
    split at read <;> cases read <;> rfl
  · rintro rfl
    cases state <;> rfl

/-- No type is spelled like a state. -/
theorem text_ne_name (state : ActiveState) (type : ResourceType) : state.text ≠ type.name := by
  cases state <;> cases type <;> decide

end ActiveState

namespace OwnerScope

theorem ofSegment?_eq_iff {segment : Option String} {owner : OwnerScope} :
    ofSegment? segment = owner ↔ owner.segment? = segment ∧ owner ≠ .subject "*" := by
  constructor
  · rintro rfl
    unfold ofSegment?
    split
    · exact ⟨rfl, nofun⟩
    · exact ⟨rfl, nofun⟩
    · next name notAny => exact ⟨rfl, fun same => notAny (OwnerScope.subject.inj same)⟩
  · rintro ⟨rfl, notAny⟩
    cases owner with
    | unscoped => rfl
    | any => rfl
    | subject name =>
        unfold segment? ofSegment?
        split
        · next absent => cases absent
        · next any => exact absurd (congrArg subject (Option.some.inj any)) notAny
        · next other same => exact congrArg subject (Option.some.inj same).symm

/-- An owner that can be told from the other parts of a written token. -/
def IsPlain (owner : OwnerScope) : Prop :=
  ∀ name, owner = .subject name → Text.IsPlain name ∧ name ≠ "*"

theorem isPlain_subject (name : Shortname) : (subject name.text).IsPlain := by
  intro text same
  obtain rfl : name.text = text := OwnerScope.subject.inj same
  exact ⟨name.isPlain, name.text_ne_star⟩

theorem isPlain_any : any.IsPlain := nofun

theorem isPlain_unscoped : unscoped.IsPlain := nofun

theorem IsPlain.ne_star {owner : OwnerScope} (plain : owner.IsPlain) : owner ≠ .subject "*" :=
  fun same => (plain "*" same).2 rfl

/-- The written form of a plain owner is plain. -/
theorem IsPlain.segment {owner : OwnerScope} (plain : owner.IsPlain) :
    ∀ segment ∈ owner.segment?, Text.IsPlain segment := by
  intro segment written
  cases owner with
  | unscoped => cases written
  | any =>
      cases written
      decide
  | subject name =>
      obtain rfl : name = segment := Option.some.inj written
      exact (plain name rfl).1

end OwnerScope

theorem ActiveState.isPlain_text (state : ActiveState) : Text.IsPlain state.text := by
  cases state <;> decide

namespace PolicyToken

variable {token read : PolicyToken} {value : String}

/-- The parts of the written form, in order. -/
def segments (token : PolicyToken) : List String :=
  [token.key.space, token.key.subpath, token.key.type.name, token.active.text] ++
    token.owner.segment?.toList

theorem text_eq_join (token : PolicyToken) : token.text = Text.join ':' token.segments := rfl

theorem ofSegments_eq_ok_iff {space subpath type active : String} {owner : Option String} :
    ofSegments value space subpath type active owner = .ok token ↔
      token.segments = [space, subpath, type, active] ++ owner.toList ∧
        token.owner ≠ .subject "*" := by
  obtain ⟨⟨tokenSpace, tokenSubpath, tokenType⟩, tokenActive, tokenOwner⟩ := token
  have parts : segments ⟨⟨tokenSpace, tokenSubpath, tokenType⟩, tokenActive, tokenOwner⟩ =
      [space, subpath, type, active] ++ owner.toList ↔
      tokenSpace = space ∧ tokenSubpath = subpath ∧ tokenType.name = type ∧
        tokenActive.text = active ∧ tokenOwner.segment? = owner := by
    cases owner <;> cases tokenOwner <;> simp [segments, OwnerScope.segment?]
  rw [parts, ← ActiveState.ofText?_eq_some_iff, ← Vocabulary.parse_eq_ok_iff]
  unfold ofSegments
  cases ActiveState.ofText? active with
  | none => simp
  | some state =>
      cases (Vocabulary.parse type : Except Invalid ResourceType) with
      | error cause => simp [bind, Except.bind]
      | ok word =>
          simp only [bind, Except.bind, pure, Except.pure, Except.ok.injEq, PolicyToken.mk.injEq,
            PermissionKey.mk.injEq, OwnerScope.ofSegment?_eq_iff]
          grind

/-- A text is read as a token exactly if cutting it at the colons gives the token's parts. -/
theorem parse_eq_ok_iff :
    parse value = .ok token ↔
      Text.split ':' value = token.segments ∧ token.owner ≠ .subject "*" := by
  unfold parse
  split
  · next space subpath type active shape =>
    rw [ofSegments_eq_ok_iff, shape]
    simp [eq_comm]
  · next space subpath type active owner shape =>
    rw [ofSegments_eq_ok_iff, shape]
    simp [eq_comm]
  · next notFour notFive =>
    constructor
    · nofun
    · rintro ⟨shape, -⟩
      cases owner : token.owner with
      | unscoped => exact absurd (by rw [shape, segments, owner]; rfl) (notFour _ _ _ _)
      | any => exact absurd (by rw [shape, segments, owner]; rfl) (notFive _ _ _ _ _)
      | subject name => exact absurd (by rw [shape, segments, owner]; rfl) (notFive _ _ _ _ _)

/-- What is read as a token is the token's written form. -/
theorem text_of_parse (parsed : parse value = .ok token) : token.text = value := by
  rw [text_eq_join, ← (parse_eq_ok_iff.mp parsed).1, Text.join_split]

/-- The parts of a token determine it. -/
theorem segments_injective (tokenOwner : token.owner ≠ .subject "*")
    (readOwner : read.owner ≠ .subject "*") (same : token.segments = read.segments) :
    token = read := by
  obtain ⟨⟨space, subpath, type⟩, state, owner⟩ := token
  have parsed : ofSegments "" space subpath type.name state.text owner.segment? = .ok _ :=
    ofSegments_eq_ok_iff.mpr ⟨rfl, tokenOwner⟩
  have again : ofSegments "" space subpath type.name state.text owner.segment? = .ok read :=
    ofSegments_eq_ok_iff.mpr ⟨same.symm, readOwner⟩
  exact Except.ok.inj (parsed.symm.trans again)

/-! ## Reading back -/

/-- Whether the parts of a token can be told apart in its written form. -/
def IsLegible (token : PolicyToken) : Prop :=
  token.key.IsLegible ∧ ∀ name, token.owner = .subject name → ':' ∉ name.toList

/-- What the written form of a token stands for: a subject named `*` is written like any owner. -/
def asWritten (token : PolicyToken) : PolicyToken :=
  { token with owner := .ofSegment? token.owner.segment? }

theorem segments_asWritten (token : PolicyToken) : token.asWritten.segments = token.segments := by
  have sameOwner : token.asWritten.owner.segment? = token.owner.segment? :=
    (OwnerScope.ofSegment?_eq_iff.mp rfl).1
  rw [segments, segments, sameOwner]
  rfl

theorem owner_asWritten_ne (token : PolicyToken) : token.asWritten.owner ≠ .subject "*" :=
  (OwnerScope.ofSegment?_eq_iff.mp rfl).2

theorem asWritten_eq_iff : token = token.asWritten ↔ token.owner ≠ .subject "*" := by
  constructor
  · intro same
    rw [same]
    exact owner_asWritten_ne token
  · intro notStar
    exact segments_injective notStar (owner_asWritten_ne token) (segments_asWritten token).symm

/-- Cutting a written token at the colons cuts its parts one by one. -/
theorem split_text (token : PolicyToken) :
    Text.split ':' token.text =
      (Text.split ':' token.key.space ++ Text.split ':' token.key.subpath) ++
        token.key.type.name :: token.active.text ::
          token.owner.segment?.toList.flatMap (Text.split ':') := by
  rw [text_eq_join, Text.split_join (by simp [segments]), segments, List.flatMap_append]
  simp [Text.split_of_not_mem token.active.isPlain_text.1,
    Text.split_of_not_mem token.key.type.isPlain_name.1]

theorem IsLegible.split_text (legible : token.IsLegible) :
    Text.split ':' token.text = token.segments := by
  rw [text_eq_join]
  refine Text.split_join_of_not_mem (by simp [segments]) fun part isPart => ?_
  simp only [segments, List.mem_append, List.mem_cons, List.not_mem_nil, or_false,
    Option.mem_toList] at isPart
  rcases isPart with (rfl | rfl | rfl | rfl) | isOwner
  · exact legible.1.1
  · exact legible.1.2
  · exact token.key.type.isPlain_name.1
  · exact token.active.isPlain_text.1
  · cases owner : token.owner with
    | unscoped => simp [owner, OwnerScope.segment?] at isOwner
    | any =>
        obtain rfl : "*" = part := by simpa [owner, OwnerScope.segment?] using isOwner
        decide
    | subject name =>
        obtain rfl : name = part := by simpa [owner, OwnerScope.segment?] using isOwner
        exact legible.2 name owner

/-- Only a legible token is written as what is read as a token. -/
theorem isLegible_of_split_text (shape : Text.split ':' token.text = read.segments) :
    token.IsLegible := by
  rw [split_text] at shape
  have atMostFive : read.segments.length ≤ 5 := by
    cases owner : read.owner <;> simp [segments, owner, OwnerScope.segment?]
  have sameLength := congrArg List.length shape
  simp only [List.length_append, List.length_cons] at sameLength
  have spacePieces := Text.length_split_pos ':' token.key.space
  have subpathPieces := Text.length_split_pos ':' token.key.subpath
  have legibleKey : token.key.IsLegible := by
    rw [← PermissionKey.length_pieces_eq_two_iff]
    by_contra more
    -- One colon in the key moves the type to where a state has to stand; two make the text too long.
    have three : (Text.split ':' token.key.space ++ Text.split ':' token.key.subpath).length = 3 := by
      rw [List.length_append]
      omega
    have fourth : _ = read.segments[3]? := congrArg (·[3]?) shape
    rw [List.getElem?_append_right (Nat.le_of_eq three), three] at fourth
    exact ActiveState.text_ne_name _ _ (Option.some.inj fourth).symm
  refine ⟨legibleKey, fun name owner => ?_⟩
  rw [← PermissionKey.length_pieces_eq_two_iff] at legibleKey
  have ownerPieces := Text.length_split_pos ':' name
  rw [← Text.length_split_eq_one_iff]
  simp only [owner, OwnerScope.segment?, Option.toList_some, List.flatMap_cons, List.flatMap_nil,
    List.append_nil] at sameLength
  omega

/-- A written token is read exactly if it is legible, and then as what it is written like. -/
theorem parse_text_eq_ok_iff :
    parse token.text = .ok read ↔ token.IsLegible ∧ read = token.asWritten := by
  rw [parse_eq_ok_iff]
  constructor
  · rintro ⟨shape, notStar⟩
    have legible := isLegible_of_split_text shape
    refine ⟨legible, segments_injective notStar (owner_asWritten_ne token) ?_⟩
    rw [← shape, legible.split_text, segments_asWritten]
  · rintro ⟨legible, rfl⟩
    exact ⟨legible.split_text.trans (segments_asWritten token).symm, owner_asWritten_ne token⟩

/-- A token is read back exactly if it is legible and its subject is not written like any owner. -/
theorem parse_text_self_iff :
    parse token.text = .ok token ↔ token.IsLegible ∧ token.owner ≠ .subject "*" := by
  rw [parse_text_eq_ok_iff, asWritten_eq_iff]

/-- A token with a colon in some part is written as what is no token. -/
theorem exists_error_of_not_isLegible (illegible : ¬ token.IsLegible) :
    ∃ cause, parse token.text = .error cause := by
  cases parsed : parse token.text with
  | error cause => exact ⟨cause, rfl⟩
  | ok read => exact absurd (parse_text_eq_ok_iff.mp parsed).1 illegible

/-- Tokens have more parts than keys, so no token is written as what is a key. -/
theorem parse_key_text (token : PolicyToken) :
    PermissionKey.parse token.text = .error (.keySegments token.text) := by
  have atLeastFour : 4 ≤ (Text.split ':' token.text).length := by
    rw [split_text, List.length_append, List.length_append]
    have spacePieces := Text.length_split_pos ':' token.key.space
    have subpathPieces := Text.length_split_pos ':' token.key.subpath
    simp only [List.length_cons]
    omega
  unfold PermissionKey.parse
  split
  · next three =>
    rw [three] at atLeastFour
    simp at atLeastFour
  · rfl

/-- The written forms of tokens and keys are unambiguous.  What is read was written so.  A token is
read back exactly if no part of it holds a colon and its subject is not named like any owner, and a key
exactly if no part of it holds a colon.  What a colon keeps from being read back is not read at all: the
text of a token neither as a token nor as a key, the text of a key as no key. -/
theorem written_forms_unambiguous :
    ((∀ value (token : PolicyToken), parse value = .ok token → token.text = value) ∧
      (∀ token : PolicyToken,
        parse token.text = .ok token ↔ token.IsLegible ∧ token.owner ≠ .subject "*") ∧
      (∀ token : PolicyToken, ¬ token.IsLegible →
        (∃ cause, parse token.text = .error cause) ∧
          ∃ cause, PermissionKey.parse token.text = .error cause)) ∧
    (∀ value (key : PermissionKey), PermissionKey.parse value = .ok key → key.text = value) ∧
      (∀ key : PermissionKey, PermissionKey.parse key.text = .ok key ↔ key.IsLegible) ∧
      (∀ key : PermissionKey, ¬ key.IsLegible →
        ∃ cause, PermissionKey.parse key.text = .error cause) := by
  refine ⟨⟨fun _ _ => text_of_parse, fun _ => parse_text_self_iff, fun token illegible => ?_⟩,
    fun _ _ => PermissionKey.text_of_parse, fun key => ?_, fun key illegible => ?_⟩
  · exact ⟨exists_error_of_not_isLegible illegible, _, parse_key_text token⟩
  · rw [PermissionKey.parse_text_eq_ok_iff, and_iff_left rfl]
  · exact ⟨_, PermissionKey.parse_text_of_not_isLegible illegible⟩

/-- A key with a colon in its subpath, and a token under it. -/
theorem written_forms_unambiguous_shifted :
    let key : PermissionKey := ⟨"acme", "news:content", .content⟩
    let token : PolicyToken := ⟨key, .active, .unscoped⟩
    ¬ key.IsLegible ∧ ¬ token.IsLegible ∧ (∃ cause, parse token.text = .error cause) ∧
      (∃ cause, PermissionKey.parse key.text = .error cause) := by
  intro key token
  obtain ⟨⟨-, -, refused⟩, -, -, refusedKey⟩ := written_forms_unambiguous
  have illegibleKey : ¬ key.IsLegible := by decide
  have illegible : ¬ token.IsLegible := fun legible => illegibleKey legible.1
  exact ⟨illegibleKey, illegible, (refused token illegible).1, refusedKey key illegibleKey⟩

/-- A token whose parts hold no colon is read back from its written form. -/
theorem parse_text (plainSpace : Text.IsPlain token.key.space)
    (plainSubpath : ':' ∉ token.key.subpath.toList) (plainOwner : token.owner.IsPlain) :
    parse token.text = .ok token :=
  parse_text_self_iff.mpr
    ⟨⟨⟨plainSpace.1, plainSubpath⟩, fun name owner => (plainOwner name owner).1.1⟩,
      plainOwner.ne_star⟩

/-- A written token is not read as another one, unless its subject is named like any owner. -/
theorem eq_of_parse_text (notStar : token.owner ≠ .subject "*")
    (parsed : parse token.text = .ok read) : read = token :=
  (parse_text_eq_ok_iff.mp parsed).2.trans (asWritten_eq_iff.mpr notStar).symm

/-- A token without bars in its parts is written without bars. -/
theorem not_mem_bar_text (plainSpace : Text.IsPlain token.key.space)
    (plainSubpath : '|' ∉ token.key.subpath.toList) (plainOwner : token.owner.IsPlain) :
    '|' ∉ token.text.toList := by
  rw [text_eq_join]
  apply Text.not_mem_join (by decide)
  intro part isSegment
  simp only [segments, List.mem_append, List.mem_cons, List.not_mem_nil, or_false,
    Option.mem_toList] at isSegment
  rcases isSegment with (rfl | rfl | rfl | rfl) | isOwner
  · exact plainSpace.2
  · exact plainSubpath
  · exact token.key.type.isPlain_name.2
  · exact token.active.isPlain_text.2
  · exact (plainOwner.segment part isOwner).2

/-- A token whose parts can be told apart in its written form. -/
structure IsPlain (token : PolicyToken) : Prop where
  space : Text.IsPlain token.key.space
  subpath : Text.IsPlain token.key.subpath
  owner : token.owner.IsPlain

theorem IsPlain.parse_text (plain : token.IsPlain) : parse token.text = .ok token :=
  PolicyToken.parse_text plain.space plain.subpath.1 plain.owner

theorem IsPlain.split_bar (plain : token.IsPlain) : Text.split '|' token.text = [token.text] :=
  Text.split_of_not_mem (not_mem_bar_text plain.space plain.subpath.2 plain.owner)

theorem IsPlain.segment (plain : token.IsPlain) {part : String} (isSegment : part ∈ token.segments) :
    Text.IsPlain part := by
  simp only [segments, List.mem_append, List.mem_cons, List.not_mem_nil, or_false,
    Option.mem_toList] at isSegment
  rcases isSegment with (rfl | rfl | rfl | rfl) | isOwner
  · exact plain.space
  · exact plain.subpath
  · exact token.key.type.isPlain_name
  · exact token.active.isPlain_text
  · exact plain.owner.segment part isOwner

/-- Different plain tokens are written differently. -/
theorem IsPlain.text_injective {other : PolicyToken} (plain : token.IsPlain)
    (otherPlain : other.IsPlain) (same : token.text = other.text) : token = other := by
  have parsed := plain.parse_text
  rw [same, otherPlain.parse_text] at parsed
  exact (Except.ok.inj parsed).symm

end PolicyToken

end AccessControl
