import AccessControl.Proofs.Cluster.SameContents

/-!
# How adopting goes

A node that adopts fetches the published document and reads it.  It installs what it read, unless that
is what it works with already or older, and otherwise changes nothing.
-/

namespace AccessControl

namespace Cluster

variable {node : Nat} {before : Cluster}

/-- What comes of adopting what is published. -/
inductive Adopts (node : Nat) (before : Cluster) : Except ServiceError Bool → Cluster → Prop where
  | failed {after : Cluster} {error : ServiceError} (same : SameContents before after) :
      Adopts node before (.error error) after
  | unpublished {after : Cluster}
      (fetched : (call node (.fetchSnapshot Snapshot.publishedName) before).1 = .ok none)
      (same : SameContents before after) : Adopts node before (.ok false) after
  | declined {after : Cluster} {document : Json} {snapshot : Snapshot}
      (fetched : (call node (.fetchSnapshot Snapshot.publishedName) before).1 = .ok (some document))
      (decoded : Snapshot.decoder document = .ok snapshot)
      (notNewer : snapshot.revision = (before.snapshots node).revision ∨
        snapshot.generation < (before.snapshots node).generation)
      (same : SameContents before after) : Adopts node before (.ok false) after
  | installed {after : Cluster} {document : Json} {snapshot : Snapshot}
      (fetched : (call node (.fetchSnapshot Snapshot.publishedName) before).1 = .ok (some document))
      (decoded : Snapshot.decoder document = .ok snapshot)
      (documents : ∀ number medium documents, before.Holds number medium documents →
        after.Holds number medium documents)
      (snapshots : after.snapshots = replace before.snapshots node snapshot) :
      Adopts node before (.ok true) after

theorem adopts_adopt (node : Nat) (before : Cluster) :
    Adopts node before (operate node adopt before).1 (operate node adopt before).2 := by
  have fetching : SameContents before
      (call node (.fetchSnapshot Snapshot.publishedName) before).2 :=
    sameContents_call (Made.changesNothing_of_reads ⟨nofun, nofun, nofun⟩)
  rw [adopt, operate_bind, operate_call]
  cases fetched : call node (.fetchSnapshot Snapshot.publishedName) before with
  | mk answer middle =>
      rw [fetched] at fetching
      have answered := congrArg Prod.fst fetched
      cases answer with
      | error error => exact .failed fetching
      | ok published =>
          cases published with
          | none => exact .unpublished answered fetching
          | some document =>
              cases decoded : Snapshot.decoder document with
              | error cause =>
                  simp only [decoded, operate_throw]
                  exact .failed fetching
              | ok snapshot =>
                  have same (events : List Event) :
                      SameContents before (step node .unlock ((step node .lock middle).2.told events)).2 :=
                    ((fetching.trans sameContents_lock).trans (sameContents_told events)).trans
                      sameContents_unlock
                  have current : ((step node .lock middle).2.nodes node).snapshot =
                      before.snapshots node :=
                    congrFun (fetching.trans sameContents_lock).snapshots node
                  simp only [decoded, operate_exclusively, operate_bind_of_ok operate_current, current]
                  split
                  · next isCurrent => exact .declined answered decoded (.inl isCurrent) (same [])
                  · split
                    · next older => exact .declined answered decoded (.inr older) (same [_])
                    · refine .installed answered decoded (fun number medium documents held => ?_) ?_
                      · refine (fetching.documents number medium documents held).congr
                          (Continues.wiring ?_) rfl (fun _ => rfl) rfl
                        exact ((continues_step ..).trans (continues_operate ..)).trans
                          (continues_step ..)
                      · change (step node .unlock (step node (.install snapshot)
                          ((step node .lock middle).2.told [_])).2).2.snapshots = _
                        rw [snapshots_unlock, snapshots_install]
                        exact congrArg (replace · node snapshot)
                          (fetching.trans sameContents_lock).snapshots

/-- Adopting succeeds if the published document can be fetched and read. -/
theorem exists_adopt_of_fetch {published : Option Json}
    (fetched : (call node (.fetchSnapshot Snapshot.publishedName) before).1 = .ok published)
    (decodes : ∀ document, published = some document →
      ∃ snapshot, Snapshot.decoder document = .ok snapshot) :
    ∃ answer after, operate node adopt before = (.ok answer, after) := by
  rw [adopt, operate_bind, operate_call]
  cases called : call node (.fetchSnapshot Snapshot.publishedName) before with
  | mk answer middle =>
      rw [called] at fetched
      cases fetched
      cases published with
      | none => exact ⟨_, _, rfl⟩
      | some document =>
          rcases decodes document rfl with ⟨snapshot, decoded⟩
          simp only [decoded, operate_exclusively, operate_bind_of_ok operate_current]
          split
          · exact ⟨_, _, rfl⟩
          · split <;> exact ⟨_, _, rfl⟩

/-- A node that has adopted a snapshot works with what was read from the published document. -/
theorem exists_of_adopt {after : Cluster} (adopted : operate node adopt before = (.ok true, after)) :
    ∃ document,
      (call node (.fetchSnapshot Snapshot.publishedName) before).1 = .ok (some document) ∧
        Snapshot.decoder document = .ok (after.snapshots node) := by
  have adopts := adopts_adopt node before
  rw [adopted] at adopts
  cases adopts with
  | installed fetched decoded documents snapshots =>
      refine ⟨_, fetched, ?_⟩
      rw [snapshots, replace_same, decoded]

end Cluster

end AccessControl
