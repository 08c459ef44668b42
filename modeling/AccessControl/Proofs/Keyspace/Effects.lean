import AccessControl.Keyspace.Attempt

/-!
# What commands do to the slots of a keyspace

A server that refuses no command carries every step out to its end, provided that the keys hold the
right kinds of content.  What a step does is then told by the slots alone: which value it answers, and
which slots it leaves.  Such effects are put together along the steps of a script.
-/

namespace AccessControl.Keyspace

variable {α β : Type}

/-- What a server holds under its keys. -/
abbrev Slots := Dict String Slot

/-- Whether a step, on a server that refuses nothing and holds the slots, answers the value and leaves
other slots. -/
def Does (step : Step α) (slots : Slots) (value : α) (after : Slots) : Prop :=
  ∀ keyspace : Keyspace, keyspace.refusals = ∅ → keyspace.slots = slots →
    ∃ later, step.run keyspace = (.ok value, later) ∧ later.refusals = ∅ ∧ later.slots = after

variable {slots middle after : Slots} {step : Step α} {value : α}

theorem run_bind (step : Step α) (next : α → Step β) (keyspace : Keyspace) :
    (step >>= next).run keyspace =
      match step.run keyspace with
      | (.ok value, later) => (next value).run later
      | (.error error, later) => (.error error, later) := by
  change (ExceptT.bind step next) keyspace = _
  simp only [ExceptT.bind, ExceptT.mk, bind, StateT.bind, ExceptT.bindCont, ExceptT.run]
  cases step keyspace with
  | mk answer later => cases answer <;> rfl

/-- A server that refuses nothing permits every command. -/
theorem run_permit {keyspace : Keyspace} (free : keyspace.refusals = ∅) (name : String) :
    (permit name).run keyspace = (.ok (), keyspace) := by
  have asked : (get : Step Keyspace).run keyspace = (.ok keyspace, keyspace) := rfl
  have allowed : keyspace.refusals[name]? = none := by simp [free]
  rw [permit, run_bind, asked]
  simp only [allowed]
  rfl

namespace Does

theorem pure (value : α) (slots : Slots) : Does (Pure.pure value) slots value slots := by
  intro keyspace free holds
  exact ⟨keyspace, rfl, free, holds⟩

theorem bind {next : α → Step β} {result : β} (first : Does step slots value middle)
    (second : Does (next value) middle result after) :
    Does (step >>= next) slots result after := by
  intro keyspace free holds
  obtain ⟨between, ranFirst, freeThen, holdsThen⟩ := first keyspace free holds
  obtain ⟨later, ranSecond, freeAfter, holdsAfter⟩ := second between freeThen holdsThen
  exact ⟨later, by rw [run_bind, ranFirst]; exact ranSecond, freeAfter, holdsAfter⟩

theorem permit (name : String) (slots : Slots) : Does (Keyspace.permit name) slots () slots := by
  intro keyspace free holds
  exact ⟨keyspace, run_permit free name, free, holds⟩

theorem put (key : String) (slot : Slot) (slots : Slots) :
    Does (Keyspace.put key slot) slots () (slots.insert key slot) := by
  intro keyspace free holds
  exact ⟨_, rfl, free, congrArg (·.insert key slot) holds⟩

theorem slot? (key : String) (slots : Slots) :
    Does (Keyspace.slot? key) slots slots[key]? slots := by
  intro keyspace free holds
  exact ⟨keyspace, by rw [← holds]; rfl, free, holds⟩

/-- A step whose answer does not matter. -/
theorem ignored (does : Does step slots value after) :
    Does (step >>= fun _ => Pure.pure ()) slots () after :=
  does.bind (pure () after)

/-- A step that is permitted by name does what it does then. -/
theorem permitted {name : String} (does : Does step slots value after) :
    Does (Keyspace.permit name >>= fun _ => step) slots value after :=
  (permit name slots).bind does

end Does

/-! ## Commands -/

/-- The set under a key with its expiry, empty if there is nothing; none if the key holds something
else. -/
def setIn? (slots : Slots) (key : String) : Option (Bag String × Option String) :=
  match slots[key]? with
  | none => some (∅, none)
  | some ⟨.set members, expiry⟩ => some (members, expiry)
  | some _ => none

/-- The hash under a key with its expiry, empty if there is nothing; none if the key holds something
else. -/
def hashIn? (slots : Slots) (key : String) : Option (Dict String String × Option String) :=
  match slots[key]? with
  | none => some (∅, none)
  | some ⟨.hash fields, expiry⟩ => some (fields, expiry)
  | some _ => none

/-- The text under a key, if the key holds nothing or a text. -/
def textIn? (slots : Slots) (key : String) : Option (Option String) :=
  match slots[key]? with
  | none => some none
  | some ⟨.text value, _⟩ => some (some value)
  | some _ => none

theorem getElem?_foldl_erase (keys : List String) (slots : Slots) (key : String) :
    (keys.foldl Std.ExtTreeMap.erase slots)[key]? = if key ∈ keys then none else slots[key]? := by
  induction keys generalizing slots with
  | nil => simp
  | cons first rest ih =>
      rw [List.foldl_cons, ih, Std.ExtTreeMap.getElem?_erase]
      by_cases inRest : key ∈ rest
      · simp [inRest]
      · by_cases same : first = key
        · simp [same]
        · simp [inRest, same, Ne.symm same, Std.LawfulEqCmp.compare_eq_iff_eq]

theorem setIn?_of_getElem?_eq {key : String} (same : after[key]? = slots[key]?) :
    setIn? after key = setIn? slots key := by
  rw [setIn?, setIn?, same]

theorem textIn?_of_getElem?_eq {key : String} (same : after[key]? = slots[key]?) :
    textIn? after key = textIn? slots key := by
  rw [textIn?, textIn?, same]

namespace Does

variable {key : String} {held : Bag String} {expiry : Option String}

theorem set (key value : String) (expiry : Option String) (slots : Slots) :
    Does (Keyspace.set key value expiry) slots () (slots.insert key ⟨.text value, expiry⟩) :=
  (put key ⟨.text value, expiry⟩ slots).permitted

theorem getText {found : Option String} (isText : textIn? slots key = some found) :
    Does (Keyspace.getText key) slots found slots := by
  refine permitted ((slot? key slots).bind ?_)
  cases isHeld : slots[key]? with
  | none =>
      rw [textIn?, isHeld] at isText
      exact Option.some.inj isText ▸ pure none slots
  | some slot =>
      obtain ⟨content, expiry⟩ := slot
      rw [textIn?, isHeld] at isText
      cases content with
      | text value => exact Option.some.inj isText ▸ pure (some value) slots
      | _ => cases isText

theorem setAt (isSet : setIn? slots key = some (held, expiry)) :
    Does (Keyspace.setAt key) slots (held, expiry) slots := by
  refine (slot? key slots).bind ?_
  cases isHeld : slots[key]? with
  | none =>
      rw [setIn?, isHeld] at isSet
      exact Option.some.inj isSet ▸ pure (∅, none) slots
  | some slot =>
      obtain ⟨content, ending⟩ := slot
      rw [setIn?, isHeld] at isSet
      cases content with
      | set members => exact Option.some.inj isSet ▸ pure (members, ending) slots
      | _ => cases isSet

theorem members (isSet : setIn? slots key = some (held, expiry)) :
    Does (Keyspace.members key) slots held.toList slots :=
  permitted ((setAt isSet).bind (pure held.toList slots))

theorem addMember (isSet : setIn? slots key = some (held, expiry)) (member : String) :
    ∃ added, Does (Keyspace.addMembers key [member]) slots added
      (slots.insert key ⟨.set (held.insert member), expiry⟩) :=
  ⟨_, permitted ((setAt isSet).bind ((put key _ slots).bind (pure _ _)))⟩

theorem hashAt {fields : Dict String String} (isHash : hashIn? slots key = some (fields, expiry)) :
    Does (Keyspace.hashAt key) slots (fields, expiry) slots := by
  refine (slot? key slots).bind ?_
  cases isHeld : slots[key]? with
  | none =>
      rw [hashIn?, isHeld] at isHash
      exact Option.some.inj isHash ▸ pure (∅, none) slots
  | some slot =>
      obtain ⟨content, ending⟩ := slot
      rw [hashIn?, isHeld] at isHash
      cases content with
      | hash fields => exact Option.some.inj isHash ▸ pure (fields, ending) slots
      | _ => cases isHash

theorem getField {fields : Dict String String} (isHash : hashIn? slots key = some (fields, expiry))
    (field : String) : Does (Keyspace.getField key field) slots fields[field]? slots :=
  permitted ((hashAt isHash).bind (pure fields[field]? slots))

theorem putFields {fields : Dict String String} (isHash : hashIn? slots key = some (fields, expiry))
    (new : List (String × String)) :
    ∃ added, Does (Keyspace.putFields key new) slots added (slots.insert key
      ⟨.hash (new.foldl (fun hash field => hash.insert field.1 field.2) fields), expiry⟩) :=
  ⟨_, permitted ((hashAt isHash).bind ((put key _ slots).bind (pure _ _)))⟩

theorem expire {slot : Slot} (present : slots[key]? = some slot) (seconds : String) :
    Does (Keyspace.expire key seconds) slots true
      (slots.insert key { slot with expiry := some seconds }) := by
  refine permitted ((slot? key slots).bind ?_)
  rw [present]
  exact (put key _ slots).bind (pure true _)

theorem delete (keys : List String) (slots : Slots) :
    ∃ deleted, Does (Keyspace.delete keys) slots deleted (keys.foldl Std.ExtTreeMap.erase slots) := by
  refine ⟨slots.size - (keys.foldl Std.ExtTreeMap.erase slots).size, permitted ?_⟩
  intro keyspace free holds
  subst holds
  exact ⟨{ keyspace with slots := keys.foldl Std.ExtTreeMap.erase keyspace.slots }, rfl, free, rfl⟩

end Does

/-! ## Scripts -/

theorem run_tryCatch (step : Step α) (handler : ReplyError → Step α) (keyspace : Keyspace) :
    (tryCatch step handler : Step α).run keyspace =
      match step.run keyspace with
      | (.ok value, later) => (.ok value, later)
      | (.error error, later) => (handler error).run later := by
  change (ExceptT.tryCatch step handler) keyspace = _
  simp only [ExceptT.tryCatch, ExceptT.mk, bind, StateT.bind, ExceptT.run]
  cases step keyspace with
  | mk answer later => cases answer <;> rfl

theorem run_runScript {keyspace : Keyspace} (free : keyspace.refusals = ∅) (script : Script)
    (keys arguments : List String) :
    (runScript script keys arguments).run keyspace =
      if script ∈ keyspace.scripts then (script.body keys arguments).run keyspace
      else (.error noScript, keyspace) := by
  rw [runScript, run_bind, run_permit free]
  change (if script ∈ keyspace.scripts then script.body keys arguments else throw noScript).run
    keyspace = _
  split <;> rfl

/-- The server with a script that it was given. -/
def taught (script : Script) (keyspace : Keyspace) : Keyspace :=
  { keyspace with scripts := script :: keyspace.scripts }

theorem run_loadScript {keyspace : Keyspace} (free : keyspace.refusals = ∅) (script : Script) :
    (loadScript script).run keyspace = (.ok (), taught script keyspace) := by
  rw [loadScript, run_bind, run_permit free]
  rfl

namespace Does

/-- A script that the server does not know is given to it first. -/
theorem invoke {script : Script} {keys arguments : List String} {result : Nat}
    (does : Does (script.body keys arguments) slots result after) :
    Does (Keyspace.invoke script keys arguments) slots result after := by
  intro keyspace free holds
  by_cases given : script ∈ keyspace.scripts
  · obtain ⟨later, ran, freeThen, holdsThen⟩ := does keyspace free holds
    refine ⟨later, ?_, freeThen, holdsThen⟩
    rw [Keyspace.invoke, run_tryCatch, run_runScript free, if_pos given, ran]
  · have freeTaught : (taught script keyspace).refusals = ∅ := free
    have isKnown : script ∈ (taught script keyspace).scripts := List.mem_cons_self ..
    obtain ⟨later, ran, freeThen, holdsThen⟩ := does (taught script keyspace) free holds
    refine ⟨later, ?_, freeThen, holdsThen⟩
    rw [Keyspace.invoke, run_tryCatch, run_runScript free, if_neg given]
    simp only [if_pos]
    rw [run_bind, run_loadScript free]
    simp only [run_runScript freeTaught, if_pos isKnown, ran]

/-- An attempt on a server that is up succeeds with what the step does. -/
theorem attempt (does : Does step slots value after) (errand : KeyspaceErrand) {keyspace : Keyspace}
    (free : keyspace.refusals = ∅) (holds : keyspace.slots = slots) :
    ∃ later, Keyspace.attempt true errand step keyspace = (.ok value, later) ∧
      later.refusals = ∅ ∧ later.slots = after := by
  obtain ⟨later, ran, freeThen, holdsThen⟩ := does keyspace free holds
  exact ⟨later, by simp only [Keyspace.attempt, if_true, ran], freeThen, holdsThen⟩

end Does

end AccessControl.Keyspace
