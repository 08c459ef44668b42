import AccessControl.Proofs.Cluster.Operation

/-!
# Looking principals up

A node looks up the record of whoever asks.  Without a cache it then resolves the grants from its own
snapshot; with one it takes them from there if they are cached under the snapshot's revision.
-/

namespace AccessControl

namespace Principal

variable {node : Nat} {cluster after : Cluster} {settings : Settings} {name : String} {user : User}

@[simp] theorem operate_resolve {snapshot : Snapshot} :
    Cluster.operate node (resolve settings snapshot user) cluster =
      (.ok (Resolution.grants snapshot user settings.defaultRole),
        cluster.told (Resolution.warnings snapshot user settings.defaultRole)) := by
  rw [resolve, Cluster.operate_bind_of_ok (Cluster.operate_notes _), Cluster.operate_pure]

theorem operate_load_error {error : ServiceError}
    (found : Cluster.call node (.findUser (locator settings name)) cluster = (.error error, after)) :
    Cluster.operate node (load settings name) cluster = (.error error, after) := by
  rw [load, Cluster.operate_bind_of_ok Cluster.operate_current, Cluster.operate_bind,
    Cluster.operate_call, found]

theorem operate_load_unknown
    (found : Cluster.call node (.findUser (locator settings name)) cluster = (.ok none, after)) :
    Cluster.operate node (load settings name) cluster = (.ok unknown, after) := by
  rw [load, Cluster.operate_bind_of_ok Cluster.operate_current, Cluster.operate_bind,
    Cluster.operate_call, found]
  exact Cluster.operate_pure unknown

theorem operate_load_uncached (uncached : settings.cacheSeconds = 0)
    (found : Cluster.call node (.findUser (locator settings name)) cluster =
      (.ok (some user), after)) :
    Cluster.operate node (load settings name) cluster =
      (.ok ⟨some user, Resolution.grants (cluster.nodes node).snapshot user settings.defaultRole⟩,
        after.told (Resolution.warnings (cluster.nodes node).snapshot user settings.defaultRole)) := by
  rw [load, Cluster.operate_bind_of_ok Cluster.operate_current, Cluster.operate_bind,
    Cluster.operate_call, found]
  simp only [uncached, if_true]
  rw [Cluster.operate_bind_of_ok operate_resolve, Cluster.operate_pure]

/-- Without a cache, whoever is loaded is unknown or has the grants under the node's snapshot. -/
theorem exists_of_load {principal : Principal} (uncached : settings.cacheSeconds = 0)
    (loaded : (Cluster.operate node (load settings name) cluster).1 = .ok principal) :
    principal = unknown ∨
      ∃ user, (Cluster.call node (.findUser (locator settings name)) cluster).1 = .ok (some user) ∧
        principal = ⟨some user,
          Resolution.grants (cluster.nodes node).snapshot user settings.defaultRole⟩ := by
  cases found : Cluster.call node (.findUser (locator settings name)) cluster with
  | mk answer after =>
      cases answer with
      | error error =>
          rw [operate_load_error found] at loaded
          cases loaded
      | ok record =>
          cases record with
          | none =>
              rw [operate_load_unknown found] at loaded
              exact .inl (Except.ok.inj loaded).symm
          | some user =>
              rw [operate_load_uncached uncached found] at loaded
              exact .inr ⟨user, rfl, (Except.ok.inj loaded).symm⟩

end Principal

end AccessControl
