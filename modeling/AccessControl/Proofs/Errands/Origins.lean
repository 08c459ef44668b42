import AccessControl.Proofs.Errands.Conduct
import AccessControl.Proofs.Reload.Overtaking
import Mathlib.Data.List.Pairwise

/-!
# Where snapshots and grants come from

However errands are interleaved, every snapshot that a node works with is the empty one or was published
by a reload, and its revision tells it from all others.  Grants that are cached under a revision were
resolved from the snapshot of that revision and from a record that was found before.  What was published
and found stays so, and what an errand knows is of this kind, so it stays true while others go on.
-/

namespace AccessControl

open Cluster

namespace Act

/-- The revision that an act draws for a new snapshot, if it draws one. -/
def revision? : Act → Option Uuid
  | ⟨_, _, .edition, edition⟩ => some edition.revision
  | _ => none

/-- The documents that an act was listed. -/
def listed : Act → List Json
  | ⟨_, _, .call (.loadActiveEntries ..), .ok entries⟩ => entries.map ListedEntry.document
  | _ => []

/-- Whether an act publishes a snapshot, which is read back from the published document. -/
def Issues (act : Act) (snapshot : Snapshot) : Prop :=
  snapshot.IsReadable ∧ act.Publishes snapshot.document

/-- Whether an act finds a record. -/
def Finds (act : Act) (locator : Locator) (user : User) : Prop :=
  act.made? = some ⟨.findUser locator, .ok (some user)⟩

theorem Issues.eq {act : Act} {one other : Snapshot} (issues : act.Issues one)
    (issuesOther : act.Issues other) : one = other := by
  obtain ⟨readable, publishes⟩ := issues
  obtain ⟨readableOther, publishesOther⟩ := issuesOther
  have same : one.document = other.document := by
    have calls := publishes.request_eq.symm.trans publishesOther.request_eq
    simpa using calls
  exact Except.ok.inj (readable.decoder_document.symm.trans (same ▸ readableOther.decoder_document))

end Act

namespace Errand

/-! ## Origins -/

/-- Whether all revisions that the acts drew are distinct, and none is that of the empty snapshot. -/
def Distinct (acts : List Act) : Prop := (Uuid.nil :: acts.filterMap Act.revision?).Nodup

/-- Whether a document is that of a snapshot which one of the acts published. -/
def IsPublished (acts : List Act) (document : Json) : Prop :=
  ∃ snapshot, snapshot.document = document ∧ ∃ act ∈ acts, act.Issues snapshot

/-- Whether a snapshot is the empty one, or one of the acts published it. -/
def IsIssued (acts : List Act) (snapshot : Snapshot) : Prop :=
  snapshot = .empty ∨ ∃ act ∈ acts, act.Issues snapshot

/-- Whether a node with the settings has found the record of a user. -/
def IsFound (settings : Nat → Settings) (acts : List Act) (node : Nat) (name : String) (user : User) :
    Prop :=
  ∃ act ∈ acts, act.node = node ∧ act.Finds (Principal.locator (settings node) name) user

/-- Whether grants of a user are those under a snapshot, by a record that a node has found and by the
node's default role. -/
def IsResolved (settings : Nat → Settings) (acts : List Act) (snapshot : Snapshot) (name : String)
    (grants : Grants) : Prop :=
  ∃ node user, IsFound settings acts node name user ∧
    grants = Resolution.grants snapshot user (settings node).defaultRole

/-- Whether grants of a user were resolved from a snapshot of the revision. -/
def IsGenuine (settings : Nat → Settings) (acts : List Act) (revision : Uuid) (name : String)
    (grants : Grants) : Prop :=
  ∃ snapshot, IsIssued acts snapshot ∧ snapshot.revision = revision ∧
    IsResolved settings acts snapshot name grants

/-- Whether a task has read the current snapshot of its node once, and this is what it read. -/
def HasRead (acts : List Act) (task node : Nat) (snapshot : Snapshot) : Prop :=
  ⟨task, node, .current, snapshot⟩ ∈ acts ∧
    ∀ act ∈ acts, act.task = task → act.request = .current → act = ⟨task, node, .current, snapshot⟩

variable {settings : Nat → Settings} {acts : List Act} {act : Act} {task node shelf cache : Nat}
  {snapshot : Snapshot} {name : String} {user : User} {grants : Grants} {revision : Uuid}
  {document : Json} {cluster : Cluster} {request : Request}

theorem IsPublished.cons (published : IsPublished acts document) (act : Act) :
    IsPublished (act :: acts) document := by
  obtain ⟨snapshot, same, issuing, acted, issues⟩ := published
  exact ⟨snapshot, same, issuing, List.mem_cons_of_mem _ acted, issues⟩

theorem IsIssued.cons (issued : IsIssued acts snapshot) (act : Act) :
    IsIssued (act :: acts) snapshot := by
  rcases issued with isEmpty | ⟨issuing, acted, issues⟩
  · exact .inl isEmpty
  · exact .inr ⟨issuing, List.mem_cons_of_mem _ acted, issues⟩

theorem IsFound.cons (found : IsFound settings acts node name user) (act : Act) :
    IsFound settings (act :: acts) node name user := by
  obtain ⟨finding, acted, finds⟩ := found
  exact ⟨finding, List.mem_cons_of_mem _ acted, finds⟩

theorem IsGenuine.cons (genuine : IsGenuine settings acts revision name grants) (act : Act) :
    IsGenuine settings (act :: acts) revision name grants := by
  obtain ⟨snapshot, issued, isRevision, node, user, found, same⟩ := genuine
  exact ⟨snapshot, issued.cons act, isRevision, node, user, found.cons act, same⟩

theorem HasRead.cons (read : HasRead acts task node snapshot)
    (other : act.task = task → act.request ≠ .current) :
    HasRead (act :: acts) task node snapshot := by
  refine ⟨List.mem_cons_of_mem _ read.1, List.forall_mem_cons.mpr ⟨fun own reads => ?_, read.2⟩⟩
  exact absurd reads (other own)

/-- What is read from a published document was published. -/
theorem IsPublished.isIssued (published : IsPublished acts document)
    (decoded : Snapshot.decoder document = .ok snapshot) : IsIssued acts snapshot := by
  obtain ⟨written, rfl, act, acted, issues⟩ := published
  rw [issues.1.decoder_document] at decoded
  obtain rfl := Except.ok.inj decoded
  exact .inr ⟨act, acted, issues⟩

/-! ## Revisions -/

theorem Distinct.of_cons (distinct : Distinct (act :: acts)) : Distinct acts := by
  refine List.Nodup.sublist (List.Sublist.cons_cons _ ?_) distinct
  exact List.Sublist.filterMap _ (List.sublist_cons_self _ _)

/-- A revision is drawn by one act at most. -/
theorem Distinct.eq_of_revision? {one other : Act} (distinct : Distinct acts) (isOne : one ∈ acts)
    (isOther : other ∈ acts) (drawn : one.revision? = some revision)
    (drawnOther : other.revision? = some revision) : one = other := by
  by_contra differs
  have apart := List.pairwise_filterMap.mp (List.nodup_cons.mp distinct).2
  have symmetric : Std.Symm fun one other : Act =>
      ∀ first, one.revision? = some first → ∀ second, other.revision? = some second →
        first ≠ second :=
    ⟨fun _ _ apart first isFirst second isSecond => (apart second isSecond first isFirst).symm⟩
  exact apart.forall isOne isOther differs revision drawn revision drawnOther rfl

/-- What the acts tell of revisions: whoever publishes a snapshot has drawn its revision, and snapshots
of one revision are the same. -/
structure Recorded (acts : List Act) : Prop where
  drawn : ∀ act ∈ acts, ∀ snapshot, act.Issues snapshot →
    ∃ drawing ∈ acts, drawing.task = act.task ∧ drawing.revision? = some snapshot.revision
  unique : ∀ one ∈ acts, ∀ other ∈ acts, ∀ snapshot found, one.Issues snapshot → other.Issues found →
    snapshot.revision = found.revision → snapshot = found

/-- What a task of a node knows by its phase. -/
def Knows (settings : Nat → Settings) (acts : List Act) (task node : Nat) : Phase → Prop
  | .idle => ∀ act ∈ acts, act.task = task → act.request ≠ .current
  | .reads snapshot => IsIssued acts snapshot ∧ HasRead acts task node snapshot
  | .knows snapshot name user cached =>
    (IsIssued acts snapshot ∧ HasRead acts task node snapshot) ∧
      IsFound settings acts node name user ∧
      ∀ grants, cached = some grants → IsGenuine settings acts snapshot.revision name grants
  | .drew edition =>
    (∃ act ∈ acts, act.task = task ∧ act.revision? = some edition.revision) ∧
      ∀ act ∈ acts, act.task = task → ∀ snapshot, act.Issues snapshot →
        snapshot.revision ≠ edition.revision
  | .holds document => IsPublished acts document

/-- What a task knows stays true, unless it reads or publishes itself. -/
theorem Knows.cons {phase : Phase} (knows : Knows settings acts task node phase)
    (other : act.task = task → act.request ≠ .current ∧ ∀ snapshot, ¬ act.Issues snapshot) :
    Knows settings (act :: acts) task node phase := by
  cases phase with
  | idle => exact List.forall_mem_cons.mpr ⟨fun own => (other own).1, knows⟩
  | reads snapshot => exact ⟨knows.1.cons act, knows.2.cons fun own => (other own).1⟩
  | knows snapshot name user cached =>
      obtain ⟨⟨issued, read⟩, found, genuine⟩ := knows
      refine ⟨⟨issued.cons act, read.cons fun own => (other own).1⟩, found.cons act, ?_⟩
      exact fun grants isCached => (genuine grants isCached).cons act
  | drew edition =>
      obtain ⟨⟨drawing, acted, drawn⟩, unpublished⟩ := knows
      refine ⟨⟨drawing, List.mem_cons_of_mem _ acted, drawn⟩, ?_⟩
      refine List.forall_mem_cons.mpr ⟨fun own snapshot issues => ?_, unpublished⟩
      exact absurd issues ((other own).2 snapshot)
  | holds document => exact IsPublished.cons knows act

/-- Publishing under a drawn revision tells of no other snapshot of the revision. -/
theorem Recorded.cons {phase : Phase} (recorded : Recorded acts)
    (distinct : Distinct (act :: acts)) (knows : Knows settings acts act.task act.node phase)
    (allowed : phase.Allows (settings act.node) act.request) : Recorded (act :: acts) := by
  -- what the act publishes has a revision that the task drew, and that nobody published before
  have fresh (snapshot : Snapshot) (issues : act.Issues snapshot) :
      (∃ drawing ∈ acts, drawing.task = act.task ∧ drawing.revision? = some snapshot.revision) ∧
        ∀ issuing ∈ acts, ∀ found, issuing.Issues found → found.revision ≠ snapshot.revision := by
    rw [issues.2.request_eq] at allowed
    obtain ⟨-, edition, written, rfl, sameDocument, isRevision, readable⟩ := allowed
    have same : snapshot = written := Except.ok.inj
      (issues.1.decoder_document.symm.trans (sameDocument ▸ readable.decoder_document))
    obtain ⟨⟨drawing, isDrawing, own, drawn⟩, unpublished⟩ := knows
    rw [same, isRevision]
    refine ⟨⟨drawing, isDrawing, own, drawn⟩, fun issuing acted found issuesFound isSame => ?_⟩
    obtain ⟨before, isBefore, byIssuer, drawnBefore⟩ :=
      recorded.drawn issuing acted found issuesFound
    rw [isSame] at drawnBefore
    obtain rfl := distinct.of_cons.eq_of_revision? isDrawing isBefore drawn drawnBefore
    exact unpublished issuing acted (byIssuer.symm.trans own) found issuesFound isSame
  constructor
  · refine List.forall_mem_cons.mpr ⟨fun snapshot issues => ?_, fun earlier acted snapshot issues => ?_⟩
    · obtain ⟨drawing, isDrawing, drawn⟩ := (fresh snapshot issues).1
      exact ⟨drawing, List.mem_cons_of_mem _ isDrawing, drawn⟩
    · obtain ⟨drawing, isDrawing, drawn⟩ := recorded.drawn earlier acted snapshot issues
      exact ⟨drawing, List.mem_cons_of_mem _ isDrawing, drawn⟩
  · intro one isOne other isOther snapshot found issues issuesFound same
    rcases List.mem_cons.mp isOne with rfl | isEarlier
    · rcases List.mem_cons.mp isOther with rfl | isOtherEarlier
      · exact issues.eq issuesFound
      · exact absurd same.symm ((fresh snapshot issues).2 other isOtherEarlier found issuesFound)
    · rcases List.mem_cons.mp isOther with rfl | isOtherEarlier
      · exact absurd same ((fresh found issuesFound).2 one isEarlier snapshot issues)
      · exact recorded.unique one isEarlier other isOtherEarlier snapshot found issues issuesFound
          same

end Errand

end AccessControl
