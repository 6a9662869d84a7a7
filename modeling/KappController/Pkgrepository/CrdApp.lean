/-
  KappController.Pkgrepository.CrdApp — the PackageRepository adapter's hooks:
  `blockDeletion`, `unblockDeletion` and `updateStatus`.

  Each hook is a read-modify-write against the API server (`readModifyWrite`):
  `Get` the latest object, change it, `Update` (or `UpdateStatus`) it.  The
  server checks versions, so an accepted write replaces EXACTLY the object read:
  a hook never loses another client's write (§2, §3).  `blockDeletion` first
  consults the cached model the adapter was built with, and makes no call at
  all when that model already holds the finalizer; when the cache is stale the
  hook reports success while the stored object still lacks it (§5).  `updateStatus` runs
  `updateStatusOnce` at most five times, until one succeeds (§6), so a run of
  conflicting writes by other clients ends it with the last conflict (§7).
  Under every interleaving a call ends in one of four ways, read off the store
  at its two calls (`RmwEnd`, §8); only the one that writes returns nil, so a
  failed hook, or a failed `updateStatus` after all its attempts, has written
  NOTHING.

  The finalizer names, `containsString` and `removeString` are declared outside
  the sources: the names are parameters, the helpers follow the spec.

  Main results:
    * `updatePackageRepository_ok` — an accepted update edits the object read.
    * `blockDeletion_ok_cases`, `unblockDeletion_ok` — what a successful hook
      leaves in the store, under every interleaving.
    * `blockDeletion_trusts_cached_model` — a stale cache lets `blockDeletion`
      succeed without the finalizer.
    * `updateStatus_sequential` — with no other client writing, the first
      attempt succeeds.
    * `updateStatus_conflicts` — spec §8's retry: success after up to four
      conflicts, the server's conflict error after five.
    * `finalizer_hooks_ends`, `updateStatus_end` — every end of each hook, and
      of the whole retry loop, under every interleaving: at most one write, and
      none on failure.
-/
import Mathlib.Logic.Function.Iterate
import KappController.Apis.PackageRepository

namespace KappController.Pkgrepository

open KappController.Go

variable {Spec : Type}

/-! ## §1. The code. -/

/-- `CRDApp`, with its cached model `pkgrModel`: the informer's snapshot of the
    PackageRepository when the adapter was built. -/
structure CRDApp (Spec : Type) where
  pkgrModel : PackageRepository Spec

/-- Modelled from the spec: `containsString`, whether `s` is among `slice`. -/
def containsString (slice : List String) (s : String) : Bool :=
  slice.any (· == s)

/-- Modelled from the spec: `removeString`, `slice` without any item equal to
    `s`, the others kept in order. -/
def removeString (slice : List String) (s : String) : List String :=
  slice.filter (· != s)

section Hooks

variable (deleteFinalizerName deletePrevFinalizerName : String)

/-- The read-modify-write of `updatePackageRepository` and `updateStatusOnce`:
    `Get` the latest object, apply `change`, send it with `write`.  A failed
    `Get` is wrapped as `fmt.Errorf(getPrefix + "%s", err)`; `writeError` makes
    the error a failed write returns. -/
def readModifyWrite (getPrefix : String)
    (write : PackageRepository Spec → ClientM Spec (Except StatusError (PackageRepository Spec)))
    (writeError : StatusError → GoError) (a : CRDApp Spec)
    (change : PackageRepository Spec → PackageRepository Spec) : ClientM Spec (Option GoError) := do
  match ← clientGet a.pkgrModel.key with
  | .error err => return some ⟨getPrefix ++ err.error⟩
  | .ok existingRepo =>
    match ← write (change existingRepo) with
    | .error err => return some (writeError err)
    | .ok _ => return none

/-- `updatePackageRepository`: `Get`, apply `updateFunc`, `Update`; either
    failure is wrapped as `fmt.Errorf("Updating PackageRepository: %s", err)`. -/
def updatePackageRepository (a : CRDApp Spec)
    (updateFunc : PackageRepository Spec → PackageRepository Spec) :
    ClientM Spec (Option GoError) :=
  readModifyWrite "Updating PackageRepository: " clientUpdate
    (fun err => ⟨"Updating PackageRepository: " ++ err.error⟩) a updateFunc

/-- `blockDeletion`. -/
def blockDeletion (a : CRDApp Spec) : ClientM Spec (Option GoError) :=
  if containsString a.pkgrModel.objectMeta.finalizers deleteFinalizerName then pure none
  else updatePackageRepository a fun app =>
    if !containsString app.objectMeta.finalizers deleteFinalizerName then
      { app with objectMeta := { app.objectMeta with
          finalizers := app.objectMeta.finalizers ++ [deleteFinalizerName] } }
    else app

/-- `unblockDeletion`: removes the finalizer, then the one older versions added. -/
def unblockDeletion (a : CRDApp Spec) : ClientM Spec (Option GoError) :=
  updatePackageRepository a fun app =>
    let app := { app with objectMeta := { app.objectMeta with
      finalizers := removeString app.objectMeta.finalizers deleteFinalizerName } }
    { app with objectMeta := { app.objectMeta with
      finalizers := removeString app.objectMeta.finalizers deletePrevFinalizerName } }

end Hooks

/-- The `PackageRepositoryStatus` literal of `updateStatusOnce`: the engine's
    status fields. -/
def packageRepositoryStatus (appStatus : AppStatus) : PackageRepositoryStatus where
  fetch := appStatus.fetch
  template := appStatus.template
  deploy := appStatus.deploy
  genericStatus := appStatus.toGenericStatus
  consecutiveReconcileSuccesses := appStatus.consecutiveReconcileSuccesses
  consecutiveReconcileFailures := appStatus.consecutiveReconcileFailures

/-- `updateStatusOnce`, with `appStatus` the engine's `a.app.Status()`: `Get`,
    copy the status fields, `UpdateStatus`.  A failed `Get` is wrapped as
    `fmt.Errorf("Fetching PackageRepository: %s", err)`; a failed `UpdateStatus`
    is returned as it is. -/
def updateStatusOnce (a : CRDApp Spec) (appStatus : AppStatus) : ClientM Spec (Option GoError) :=
  readModifyWrite "Fetching PackageRepository: " clientUpdateStatus (fun err => ⟨err.error⟩) a
    fun existingRepo => { existingRepo with status := packageRepositoryStatus appStatus }

/-- The `for i := 0; i < 5; i++` loop of `updateStatus`, with `n` attempts left
    and `lastErr` the last attempt's error. -/
def updateStatusLoop (a : CRDApp Spec) (appStatus : AppStatus) :
    Nat → Option GoError → ClientM Spec (Option GoError)
  | 0, lastErr => return lastErr
  | n + 1, _ => do
    let lastErr ← updateStatusOnce a appStatus
    match lastErr with
    | none => return none
    | some _ => updateStatusLoop a appStatus n lastErr

/-- `updateStatus`; `desc` is only logged. -/
def updateStatus (a : CRDApp Spec) (appStatus : AppStatus) (_desc : String) :
    ClientM Spec (Option GoError) :=
  updateStatusLoop a appStatus 5 none

/-! ## §2. An accepted update edits the object read. -/

/-- A read-modify-write succeeds only when its `Get` finds an object `p` and the
    server accepts the write of `change p`; the cluster is left as that write
    leaves it. -/
theorem readModifyWrite_eq_none {getPrefix : String}
    {write : PackageRepository Spec → ClientM Spec (Except StatusError (PackageRepository Spec))}
    {writeError : StatusError → GoError} {a : CRDApp Spec}
    {change : PackageRepository Spec → PackageRepository Spec} {c : Cluster Spec}
    (h : ((readModifyWrite getPrefix write writeError a change).run c).1 = none) :
    ∃ p r, c.arrive.get a.pkgrModel.key = .ok p ∧
      (write (change p)).run c.arrive =
        (.ok r, ((readModifyWrite getPrefix write writeError a change).run c).2) := by
  cases hg : c.arrive.get a.pkgrModel.key with
  | error e =>
    simp only [readModifyWrite, clientGet, StateT.run, bind, StateT.bind, hg] at h
    cases h
  | ok p =>
    simp only [readModifyWrite, clientGet, StateT.run, bind, StateT.bind, hg] at h ⊢
    generalize hu : write (change p) c.arrive = u at h
    obtain ⟨r | r, c'⟩ := u
    · cases h
    · exact ⟨p, r, rfl, hu⟩

/-- With no other client's write due, a read-modify-write of a stored object `p`
    ends as the write of `change p` does. -/
theorem readModifyWrite_sequential {getPrefix : String}
    {write : PackageRepository Spec → ClientM Spec (Except StatusError (PackageRepository Spec))}
    {writeError : StatusError → GoError} {a : CRDApp Spec}
    {change : PackageRepository Spec → PackageRepository Spec} {c c' : Cluster Spec}
    {p r : PackageRepository Spec} (hc : c.interleaving = []) (hp : c.store a.pkgrModel.key = some p)
    (hw : (write (change p)).run c = (.ok r, c')) :
    (readModifyWrite getPrefix write writeError a change).run c = (none, c') := by
  simp only [readModifyWrite, clientGet, StateT.run, bind, StateT.bind,
    Cluster.arrive_of_interleaving_nil hc, Cluster.get, hp]
  rw [show write (change p) c = (.ok r, c') from hw]
  rfl

/-- An update that changes the finalizer list only. -/
def editFinalizers (g : List String → List String) (r : PackageRepository Spec) :
    PackageRepository Spec :=
  { r with objectMeta := { r.objectMeta with finalizers := g r.objectMeta.finalizers } }

@[simp] theorem key_editFinalizers (g : List String → List String) (r : PackageRepository Spec) :
    (editFinalizers g r).key = r.key := rfl

@[simp] theorem finalizers_editFinalizers (g : List String → List String)
    (r : PackageRepository Spec) :
    (editFinalizers g r).objectMeta.finalizers = g r.objectMeta.finalizers := rfl

/-- An accepted update of the finalizers edits the object its `Get` read, which
    no other client changed before the `Update`, and writes nothing else. -/
theorem updatePackageRepository_ok {a : CRDApp Spec} {g : List String → List String}
    {c : Cluster Spec} (h : ((updatePackageRepository a (editFinalizers g)).run c).1 = none) :
    ∃ p, c.arrive.store a.pkgrModel.key = some p ∧ c.arrive.arrive.store a.pkgrModel.key = some p ∧
      ((updatePackageRepository a (editFinalizers g)).run c).2 =
        c.arrive.arrive.write (editFinalizers g p) := by
  obtain ⟨p, r, hg, hu⟩ := readModifyWrite_eq_none h
  rw [Cluster.get_eq_ok] at hg
  have hkey : (editFinalizers g p).key = a.pkgrModel.key := c.arrive.keyed _ p hg
  have hsince : c.arrive.arrive.Since (editFinalizers g p).key p := by
    rw [hkey]
    exact (Cluster.since_of_store hg).arrive
  obtain ⟨hstore, hc⟩ := Cluster.update_ok hsince rfl hu
  exact ⟨p, hg, hkey ▸ hstore, hc⟩

/-- With no other client's write due, an update of the finalizers of a stored
    object is accepted. -/
theorem updatePackageRepository_sequential {a : CRDApp Spec} {g : List String → List String}
    {c : Cluster Spec} {p : PackageRepository Spec} (hc : c.interleaving = [])
    (hp : c.store a.pkgrModel.key = some p) :
    (updatePackageRepository a (editFinalizers g)).run c = (none, c.write (editFinalizers g p)) := by
  have hkey : (editFinalizers g p).key = a.pkgrModel.key := c.keyed _ p hp
  refine readModifyWrite_sequential hc hp (r := (editFinalizers g p).withVersion (c.revision + 1)) ?_
  simp only [clientUpdate, StateT.run, Cluster.arrive_of_interleaving_nil hc, Cluster.update, Cluster.checkedWrite, hkey, hp]
  exact if_pos rfl

/-! ## §3. The finalizer hooks. -/

/-- The finalizer list `blockDeletion` writes: the finalizer appended unless
    present. -/
def addFinalizer (d : String) (finalizers : List String) : List String :=
  if !containsString finalizers d then finalizers ++ [d] else finalizers

/-- The finalizer list stored at `k`, if an object is stored there. -/
def finalizersAt (c : Cluster Spec) (k : Key) : Option (List String) :=
  (c.store k).map (·.objectMeta.finalizers)

@[simp] theorem containsString_iff (slice : List String) (s : String) :
    containsString slice s = true ↔ s ∈ slice := by
  simp [containsString]

@[simp] theorem containsString_eq_false_iff (slice : List String) (s : String) :
    containsString slice s = false ↔ s ∉ slice := by
  rw [← Bool.not_eq_true, containsString_iff]

theorem mem_addFinalizer (d : String) (l : List String) : d ∈ addFinalizer d l := by
  unfold addFinalizer
  split <;> simp_all

theorem addFinalizer_of_mem {d : String} {l : List String} (h : d ∈ l) : addFinalizer d l = l := by
  simp [addFinalizer, h]

/-- `unblockDeletion`'s two removals: every occurrence of either name dropped,
    every other finalizer kept, in order and multiplicity. -/
theorem removeString_removeString (l : List String) (d dp : String) :
    removeString (removeString l d) dp = l.filter fun f => f != d && f != dp := by
  simp [removeString, List.filter_filter, Bool.and_comm]

/-- The removals keep a list that holds neither name. -/
theorem removeString_of_not_mem {d dp : String} {l : List String} (hd : d ∉ l) (hdp : dp ∉ l) :
    removeString (removeString l d) dp = l := by
  rw [removeString_removeString, List.filter_eq_self]
  intro f hf
  simp only [Bool.and_eq_true, bne_iff_ne, ne_eq]
  exact ⟨fun h => hd (h ▸ hf), fun h => hdp (h ▸ hf)⟩

/-- The removals undo `addFinalizer` on a list that held neither name. -/
theorem removeString_addFinalizer {d dp : String} {l : List String} (hd : d ∉ l) (hdp : dp ∉ l) :
    removeString (removeString (addFinalizer d l) d) dp = l := by
  rw [addFinalizer, if_pos (by simpa using hd), removeString_removeString, List.filter_append,
    ← removeString_removeString, removeString_of_not_mem hd hdp]
  simp

theorem blockDeletion_eq (d : String) (a : CRDApp Spec) :
    blockDeletion d a = if containsString a.pkgrModel.objectMeta.finalizers d then pure none
      else updatePackageRepository a (editFinalizers (addFinalizer d)) := by
  unfold blockDeletion
  refine congrArg (ite _ _) (congrArg (updatePackageRepository a) (funext fun app => ?_))
  unfold editFinalizers addFinalizer
  split <;> rfl

theorem unblockDeletion_eq (d dp : String) (a : CRDApp Spec) :
    unblockDeletion d dp a =
      updatePackageRepository a (editFinalizers fun l => removeString (removeString l d) dp) := rfl

/-- `unblockDeletion` keeps the finalizers that are neither name. -/
theorem unblockDeletion_eq_filter (d dp : String) (a : CRDApp Spec) :
    unblockDeletion d dp a =
      updatePackageRepository a (editFinalizers (List.filter fun f => f != d && f != dp)) := by
  rw [unblockDeletion_eq]
  exact congrArg _ (congrArg _ (funext fun l => removeString_removeString l d dp))

/-- What a successful `blockDeletion` leaves, under every interleaving: nothing
    read or written when the cached model holds the finalizer; otherwise the
    object its `Get` read, unchanged until the `Update`, with the finalizer
    appended unless it was there. -/
theorem blockDeletion_ok_cases {d : String} {a : CRDApp Spec} {c : Cluster Spec}
    (h : ((blockDeletion d a).run c).1 = none) :
    (d ∈ a.pkgrModel.objectMeta.finalizers ∧ (blockDeletion d a).run c = (none, c)) ∨
      ∃ p, c.arrive.store a.pkgrModel.key = some p ∧ c.arrive.arrive.store a.pkgrModel.key = some p ∧
        ((blockDeletion d a).run c).2 = c.arrive.arrive.write (editFinalizers (addFinalizer d) p) := by
  rw [blockDeletion_eq] at h ⊢
  by_cases hm : containsString a.pkgrModel.objectMeta.finalizers d
  · rw [if_pos hm]
    exact .inl ⟨(containsString_iff _ _).mp hm, rfl⟩
  · rw [if_neg hm] at h ⊢
    exact .inr (updatePackageRepository_ok h)

/-- A successful `blockDeletion` stores the finalizer only when the cached model
    lacks it; when the cached model lists it, nothing is read or written. -/
theorem blockDeletion_ok {d : String} {a : CRDApp Spec} {c : Cluster Spec}
    (h : ((blockDeletion d a).run c).1 = none) :
    (d ∈ a.pkgrModel.objectMeta.finalizers ∧ ((blockDeletion d a).run c).2 = c) ∨
      ∃ p, ((blockDeletion d a).run c).2.store a.pkgrModel.key = some p ∧
        d ∈ p.objectMeta.finalizers := by
  rcases blockDeletion_ok_cases h with ⟨hm, hrun⟩ | ⟨p, -, hp, hc⟩
  · exact .inl ⟨hm, by rw [hrun]⟩
  · have hkey : (editFinalizers (addFinalizer d) p).key = a.pkgrModel.key :=
      c.arrive.arrive.keyed _ p hp
    refine .inr ⟨_, by rw [hc, ← hkey, Cluster.write_store_key], ?_⟩
    exact mem_addFinalizer d p.objectMeta.finalizers

/-- What a successful `unblockDeletion` leaves, under every interleaving: the
    object its `Get` read, unchanged until the `Update`, with both names removed. -/
theorem unblockDeletion_ok {d dp : String} {a : CRDApp Spec} {c : Cluster Spec}
    (h : ((unblockDeletion d dp a).run c).1 = none) :
    ∃ p, c.arrive.store a.pkgrModel.key = some p ∧ c.arrive.arrive.store a.pkgrModel.key = some p ∧
      ((unblockDeletion d dp a).run c).2 =
        c.arrive.arrive.write (editFinalizers (List.filter fun f => f != d && f != dp) p) := by
  rw [unblockDeletion_eq_filter] at h ⊢
  exact updatePackageRepository_ok h

/-! ## §4. Calls in a row. -/

section Sequential

variable {d : String} {a : CRDApp Spec} {c : Cluster Spec} {p : PackageRepository Spec}

/-- With no other client's write due, `blockDeletion` on a stored object
    succeeds: it writes nothing when the cached model lists the finalizer, and
    otherwise adds it unless present. -/
theorem blockDeletion_sequential (hc : c.interleaving = []) (hp : c.store a.pkgrModel.key = some p) :
    (blockDeletion d a).run c = (none, if containsString a.pkgrModel.objectMeta.finalizers d then c
      else c.write (editFinalizers (addFinalizer d) p)) := by
  rw [blockDeletion_eq]
  split
  · rfl
  · exact updatePackageRepository_sequential hc hp

/-- The object as a sequential write of an edit of `p` leaves it at `p`'s key. -/
theorem write_editFinalizers_store (g : List String → List String)
    (hp : c.store a.pkgrModel.key = some p) :
    (c.write (editFinalizers g p)).store a.pkgrModel.key =
      some ((editFinalizers g p).withVersion (c.revision + 1)) := by
  rw [← c.keyed _ p hp, ← key_editFinalizers g p, Cluster.write_store_key]

/-- Two `blockDeletion` calls in a row, with no other client's write between
    them, leave the finalizer list one call leaves. -/
theorem blockDeletion_twice (hc : c.interleaving = []) (hp : c.store a.pkgrModel.key = some p) :
    ((blockDeletion d a).run c).1 = none ∧
      ((blockDeletion d a).run ((blockDeletion d a).run c).2).1 = none ∧
      finalizersAt ((blockDeletion d a).run ((blockDeletion d a).run c).2).2 a.pkgrModel.key =
        finalizersAt ((blockDeletion d a).run c).2 a.pkgrModel.key := by
  by_cases hm : containsString a.pkgrModel.objectMeta.finalizers d
  · simp only [blockDeletion_sequential hc hp, if_pos hm, and_self]
  · have hc₁ : (c.write (editFinalizers (addFinalizer d) p)).interleaving = [] := hc
    have hp₁ := write_editFinalizers_store (addFinalizer d) hp
    simp only [blockDeletion_sequential hc hp, if_neg hm, blockDeletion_sequential hc₁ hp₁,
      finalizersAt, write_editFinalizers_store _ hp₁, hp₁, Option.map_some', true_and]
    exact congrArg some (addFinalizer_of_mem (mem_addFinalizer _ _))

/-- `unblockDeletion` after `blockDeletion`, with no other client's write
    between them, restores a finalizer list that held neither name. -/
theorem unblockDeletion_after_blockDeletion {dp : String} (hc : c.interleaving = [])
    (hp : c.store a.pkgrModel.key = some p) (hd : d ∉ p.objectMeta.finalizers)
    (hdp : dp ∉ p.objectMeta.finalizers) :
    ((blockDeletion d a).run c).1 = none ∧
      ((unblockDeletion d dp a).run ((blockDeletion d a).run c).2).1 = none ∧
      finalizersAt ((unblockDeletion d dp a).run ((blockDeletion d a).run c).2).2 a.pkgrModel.key =
        some p.objectMeta.finalizers := by
  rw [unblockDeletion_eq]
  by_cases hm : containsString a.pkgrModel.objectMeta.finalizers d
  · simp only [blockDeletion_sequential hc hp, if_pos hm, updatePackageRepository_sequential hc hp,
      finalizersAt, write_editFinalizers_store _ hp, Option.map_some', true_and]
    exact congrArg some (removeString_of_not_mem hd hdp)
  · have hc₁ : (c.write (editFinalizers (addFinalizer d) p)).interleaving = [] := hc
    have hp₁ := write_editFinalizers_store (addFinalizer d) hp
    simp only [blockDeletion_sequential hc hp, if_neg hm, updatePackageRepository_sequential hc₁ hp₁,
      finalizersAt, write_editFinalizers_store _ hp₁, Option.map_some', true_and]
    exact congrArg some (removeString_addFinalizer hd hdp)

end Sequential

/-- The finalizer hooks' laws: what a successful `unblockDeletion` or
    `blockDeletion` leaves under every interleaving (the object read, with only
    its finalizer list edited; or, for `blockDeletion` on a cached model that
    lists the finalizer, the cluster untouched), and what calls in a row leave. -/
theorem finalizer_hooks_laws (d dp : String) (a : CRDApp Spec) :
    (∀ c : Cluster Spec, ((unblockDeletion d dp a).run c).1 = none →
      ∃ p, c.arrive.store a.pkgrModel.key = some p ∧ c.arrive.arrive.store a.pkgrModel.key = some p ∧
        ((unblockDeletion d dp a).run c).2 =
          c.arrive.arrive.write (editFinalizers (List.filter fun f => f != d && f != dp) p)) ∧
    (∀ c : Cluster Spec, ((blockDeletion d a).run c).1 = none →
      (d ∈ a.pkgrModel.objectMeta.finalizers ∧ ((blockDeletion d a).run c).2 = c) ∨
      ∃ p, c.arrive.store a.pkgrModel.key = some p ∧ c.arrive.arrive.store a.pkgrModel.key = some p ∧
        ((blockDeletion d a).run c).2 = c.arrive.arrive.write (editFinalizers (addFinalizer d) p)) ∧
    (∀ (c : Cluster Spec) p, c.interleaving = [] → c.store a.pkgrModel.key = some p →
      ((blockDeletion d a).run c).1 = none ∧
      ((blockDeletion d a).run ((blockDeletion d a).run c).2).1 = none ∧
      finalizersAt ((blockDeletion d a).run ((blockDeletion d a).run c).2).2 a.pkgrModel.key =
        finalizersAt ((blockDeletion d a).run c).2 a.pkgrModel.key) ∧
    (∀ (c : Cluster Spec) p, c.interleaving = [] → c.store a.pkgrModel.key = some p →
      d ∉ p.objectMeta.finalizers → dp ∉ p.objectMeta.finalizers →
      ((blockDeletion d a).run c).1 = none ∧
      ((unblockDeletion d dp a).run ((blockDeletion d a).run c).2).1 = none ∧
      finalizersAt ((unblockDeletion d dp a).run ((blockDeletion d a).run c).2).2 a.pkgrModel.key =
        some p.objectMeta.finalizers) :=
  ⟨fun _ h => unblockDeletion_ok h,
   fun _ h => (blockDeletion_ok_cases h).imp (fun h => ⟨h.1, by rw [h.2]⟩) id,
   fun _ _ hc hp => blockDeletion_twice hc hp,
   fun _ _ hc hp hd hdp => unblockDeletion_after_blockDeletion hc hp hd hdp⟩

/-! ## §5. A stale cached model. -/

/-- A PackageRepository `default/repo` with the given finalizers, at version 1. -/
def exampleRepo (finalizers : List String) : PackageRepository Unit :=
  ⟨⟨"repo", "default", finalizers, 1⟩, (), ⟨none, none, none, ⟨[], ""⟩, 0, 0⟩⟩

/-- A cluster at revision 1 storing `exampleRepo finalizers` alone, with no other
    client writing. -/
def exampleCluster (finalizers : List String) : Cluster Unit where
  store k := if k = ("default", "repo") then some (exampleRepo finalizers) else none
  revision := 1
  interleaving := []
  keyed k r h := by
    dsimp only at h
    split at h <;> cases h
    exact (‹k = _›).symm
  versioned k r h := by
    dsimp only at h
    split at h <;> cases h
    exact Nat.le_refl 1

/-- An adapter built from a snapshot that already lists the finalizer. -/
def staleApp : CRDApp Unit := ⟨exampleRepo ["delete"]⟩

/-- An adapter built from the stored object. -/
def freshApp : CRDApp Unit := ⟨exampleRepo []⟩

/-- `exampleCluster ["delete"]` after another client's `Update` removed the
    finalizer: the object is stored at version 2. -/
def finalizerRemovedCluster : Cluster Unit :=
  (exampleCluster ["delete"]).write (exampleRepo [])

/-- The adapter was built from version 1, which lists the finalizer; another
    client has since removed it: `blockDeletion` returns nil, and the stored
    object still lacks it. -/
theorem blockDeletion_trusts_cached_model :
    ((blockDeletion "delete" staleApp).run finalizerRemovedCluster).1 = none ∧
      finalizersAt ((blockDeletion "delete" staleApp).run finalizerRemovedCluster).2
        staleApp.pkgrModel.key = some [] :=
  ⟨rfl, rfl⟩

theorem blockDeletion_ok_on_fresh_model :
    ((blockDeletion "delete" freshApp).run (exampleCluster [])).1 = none ∧
      (("delete" ∈ freshApp.pkgrModel.objectMeta.finalizers ∧
          ((blockDeletion "delete" freshApp).run (exampleCluster [])).2 = exampleCluster []) ∨
        ∃ p, ((blockDeletion "delete" freshApp).run (exampleCluster [])).2.store freshApp.pkgrModel.key =
            some p ∧ "delete" ∈ p.objectMeta.finalizers) :=
  ⟨rfl, blockDeletion_ok (d := "delete") (a := freshApp) (c := exampleCluster []) rfl⟩

/-! ## §6. `updateStatus`. -/

/-- A successful `updateStatusOnce` writes the engine's status over the object
    its `Get` read, which no other client changed before the write; the rest
    of that object, finalizers included, is kept. -/
theorem updateStatusOnce_ok {a : CRDApp Spec} {appStatus : AppStatus} {c : Cluster Spec}
    (h : ((updateStatusOnce a appStatus).run c).1 = none) :
    ∃ p, c.arrive.store a.pkgrModel.key = some p ∧ c.arrive.arrive.store a.pkgrModel.key = some p ∧
      ((updateStatusOnce a appStatus).run c).2 =
        c.arrive.arrive.write { p with status := packageRepositoryStatus appStatus } := by
  obtain ⟨p, r, hg, hu⟩ := readModifyWrite_eq_none h
  rw [Cluster.get_eq_ok] at hg
  have hkey : p.key = a.pkgrModel.key := c.arrive.keyed _ p hg
  have hsince : c.arrive.arrive.Since { p with status := packageRepositoryStatus appStatus }.key p := by
    show c.arrive.arrive.Since p.key p
    rw [hkey]
    exact (Cluster.since_of_store hg).arrive
  obtain ⟨hstore, hc⟩ := Cluster.updateStatus_ok hsince rfl hu
  exact ⟨p, hg, hkey ▸ hstore, hc⟩

/-- An engine status: reconciling, no stage run yet. -/
def reconcilingStatus : AppStatus :=
  { conditions := [⟨reconciling, conditionTrue⟩], friendlyDescription := "Reconciling",
    fetch := none, template := none, deploy := none,
    consecutiveReconcileSuccesses := 0, consecutiveReconcileFailures := 0 }

/-- The status write on the stored object. -/
theorem updateStatusOnce_ok_on_fresh_model :
    ((updateStatusOnce freshApp reconcilingStatus).run (exampleCluster [])).1 = none ∧
      ∃ p, (exampleCluster []).arrive.store freshApp.pkgrModel.key = some p ∧
        (exampleCluster []).arrive.arrive.store freshApp.pkgrModel.key = some p ∧
        ((updateStatusOnce freshApp reconcilingStatus).run (exampleCluster [])).2 =
          (exampleCluster []).arrive.arrive.write
            { p with status := packageRepositoryStatus reconcilingStatus } :=
  ⟨rfl, updateStatusOnce_ok (a := freshApp) (c := exampleCluster []) rfl⟩

/-- One turn of the loop: a successful attempt ends it... -/
theorem updateStatusLoop_succ_none {a : CRDApp Spec} {appStatus : AppStatus} {n : Nat}
    {lastErr : Option GoError} {c c' : Cluster Spec}
    (hr : (updateStatusOnce a appStatus).run c = (none, c')) :
    (updateStatusLoop a appStatus (n + 1) lastErr).run c = (none, c') := by
  simp only [updateStatusLoop, StateT.run, bind, StateT.bind] at hr ⊢
  rw [hr]
  rfl

/-- ... a failed one hands its error to the rest of the loop. -/
theorem updateStatusLoop_succ_some {a : CRDApp Spec} {appStatus : AppStatus} {n : Nat}
    {lastErr : Option GoError} {e : GoError} {c c' : Cluster Spec}
    (hr : (updateStatusOnce a appStatus).run c = (some e, c')) :
    (updateStatusLoop a appStatus (n + 1) lastErr).run c =
      (updateStatusLoop a appStatus n (some e)).run c' := by
  simp only [updateStatusLoop, StateT.run, bind, StateT.bind] at hr ⊢
  rw [hr]

/-- With no other client's write due, `updateStatus` on a stored object succeeds
    at its first attempt, writing the engine's status over that object. -/
theorem updateStatus_sequential (a : CRDApp Spec) (appStatus : AppStatus) (desc : String)
    {c : Cluster Spec} {p : PackageRepository Spec} (hc : c.interleaving = [])
    (hp : c.store a.pkgrModel.key = some p) :
    (updateStatus a appStatus desc).run c =
      (none, c.write { p with status := packageRepositoryStatus appStatus }) := by
  have hkey : ({ p with status := packageRepositoryStatus appStatus }).key = a.pkgrModel.key :=
    c.keyed _ p hp
  refine updateStatusLoop_succ_none (n := 4) (readModifyWrite_sequential hc hp
    (r := ({ p with status := packageRepositoryStatus appStatus }).withVersion (c.revision + 1)) ?_)
  simp only [clientUpdateStatus, StateT.run, Cluster.arrive_of_interleaving_nil hc,
    Cluster.updateStatus, Cluster.checkedWrite, hkey, hp]
  exact if_pos trivial

/-- The first attempt's success on the stored object. -/
theorem updateStatus_sequential_on_fresh_model :
    (exampleCluster []).interleaving = [] ∧
      (exampleCluster []).store freshApp.pkgrModel.key = some (exampleRepo []) ∧
      (updateStatus freshApp reconcilingStatus "").run (exampleCluster []) =
        (none, (exampleCluster []).write
          { exampleRepo [] with status := packageRepositoryStatus reconcilingStatus }) :=
  ⟨rfl, rfl, updateStatus_sequential freshApp reconcilingStatus "" rfl rfl⟩

/-! ## §7. Conflicts. -/

/-- Another client's write lands between an attempt's `Get` and its write: the
    object the write meets has another version than the one read. -/
def Conflicts (k : Key) (c : Cluster Spec) : Prop :=
  ∃ p q, c.arrive.store k = some p ∧ c.arrive.arrive.store k = some q ∧
    q.objectMeta.resourceVersion ≠ p.objectMeta.resourceVersion

/-- Each of the first `n` attempts from `c` meets a conflict. -/
def ConflictRun (k : Key) : Nat → Cluster Spec → Prop
  | 0, _ => True
  | n + 1, c => Conflicts k c ∧ ConflictRun k n c.arrive.arrive

/-- The cluster `n` attempts later, had the adapter written nothing: each
    attempt's two calls let the writes due land. -/
def afterAttempts : Nat → Cluster Spec → Cluster Spec
  | 0, c => c
  | n + 1, c => afterAttempts n c.arrive.arrive

/-- What an attempt that met a conflict returns: the server's text, unwrapped. -/
def conflictError (a : CRDApp Spec) : GoError :=
  ⟨(StatusError.mk .conflict a.pkgrModel.key.2).error⟩

example : conflictError freshApp =
    ⟨"Operation cannot be fulfilled on packagerepositories.packaging.carvel.dev \"repo\": " ++
      "the object has been modified; please apply your changes to the latest version and try again"⟩ :=
  rfl

/-- An attempt that meets a conflict returns the conflict error and writes nothing. -/
theorem updateStatusOnce_conflict {a : CRDApp Spec} {appStatus : AppStatus} {c : Cluster Spec}
    (hk : Conflicts a.pkgrModel.key c) :
    (updateStatusOnce a appStatus).run c = (some (conflictError a), c.arrive.arrive) := by
  obtain ⟨p, q, hp, hq, hv⟩ := hk
  have hkey : ({ p with status := packageRepositoryStatus appStatus }).key = a.pkgrModel.key :=
    c.arrive.keyed _ p hp
  simp only [updateStatusOnce, readModifyWrite, clientGet, clientUpdateStatus, StateT.run, bind,
    StateT.bind, Cluster.get, hp, Cluster.updateStatus, Cluster.checkedWrite, hkey, hq,
    if_neg (Ne.symm hv)]
  rw [conflictError, ← hkey]
  rfl

/-- A run of conflicts as long as the loop exhausts it. -/
theorem updateStatusLoop_conflictRun (a : CRDApp Spec) (appStatus : AppStatus) :
    ∀ (n : Nat) (lastErr : Option GoError) (c : Cluster Spec),
      ConflictRun a.pkgrModel.key (n + 1) c →
        (updateStatusLoop a appStatus (n + 1) lastErr).run c =
          (some (conflictError a), afterAttempts (n + 1) c)
  | 0, _, _, ⟨hk, _⟩ => by rw [updateStatusLoop_succ_some (updateStatusOnce_conflict hk)]; rfl
  | n + 1, _, _, ⟨hk, hrun⟩ => by
    rw [updateStatusLoop_succ_some (updateStatusOnce_conflict hk)]
    exact updateStatusLoop_conflictRun a appStatus n _ _ hrun

/-- Conflicts, then an attempt within the bound that succeeds: the loop returns
    nil, with the cluster as that attempt left it. -/
theorem updateStatusLoop_after_conflicts (a : CRDApp Spec) (appStatus : AppStatus) {c' : Cluster Spec} :
    ∀ (m n : Nat) (lastErr : Option GoError) (c : Cluster Spec), m < n →
      ConflictRun a.pkgrModel.key m c →
      (updateStatusOnce a appStatus).run (afterAttempts m c) = (none, c') →
        (updateStatusLoop a appStatus n lastErr).run c = (none, c')
  | 0, _ + 1, _, _, _, _, hs => updateStatusLoop_succ_none hs
  | m + 1, n + 1, _, _, hmn, ⟨hk, hrun⟩, hs => by
    rw [updateStatusLoop_succ_some (updateStatusOnce_conflict hk)]
    exact updateStatusLoop_after_conflicts a appStatus m n _ _ (by omega) hrun hs

/-- Spec §8's retry on conflicts, under every interleaving: after up to four
    conflicts, an attempt that succeeds makes `updateStatus` return nil; five
    conflicts make it return the last one's error, the server's conflict text
    as it is, with nothing written. -/
theorem updateStatus_conflicts (a : CRDApp Spec) (appStatus : AppStatus) (desc : String)
    (c : Cluster Spec) :
    (ConflictRun a.pkgrModel.key 5 c →
      (updateStatus a appStatus desc).run c = (some (conflictError a), afterAttempts 5 c)) ∧
    (∀ m c', m < 5 → ConflictRun a.pkgrModel.key m c →
      (updateStatusOnce a appStatus).run (afterAttempts m c) = (none, c') →
        (updateStatus a appStatus desc).run c = (none, c')) :=
  ⟨updateStatusLoop_conflictRun a appStatus 4 none c,
   fun m _ hm hrun hs => updateStatusLoop_after_conflicts a appStatus m 5 none c hm hrun hs⟩

/-- `exampleCluster []` where, for the first `n` attempts, another client puts
    the object back between the attempt's `Get` and its write. -/
def contendedCluster (n : Nat) : Cluster Unit :=
  { exampleCluster [] with interleaving := (List.replicate n [[], [.put (exampleRepo [])]]).flatten }

/-- Five contended attempts end in the conflict error; four, then a quiet one,
    in success. -/
theorem updateStatus_conflicts_on_contendedCluster :
    ConflictRun freshApp.pkgrModel.key 5 (contendedCluster 5) ∧
      (updateStatus freshApp reconcilingStatus "").run (contendedCluster 5) =
        (some (conflictError freshApp), afterAttempts 5 (contendedCluster 5)) ∧
    ConflictRun freshApp.pkgrModel.key 4 (contendedCluster 4) ∧
      (updateStatus freshApp reconcilingStatus "").run (contendedCluster 4) =
        (none, ((updateStatusOnce freshApp reconcilingStatus).run
          (afterAttempts 4 (contendedCluster 4))).2) := by
  have h5 : ConflictRun freshApp.pkgrModel.key 5 (contendedCluster 5) :=
    ⟨⟨_, _, rfl, rfl, by decide⟩, ⟨_, _, rfl, rfl, by decide⟩, ⟨_, _, rfl, rfl, by decide⟩,
      ⟨_, _, rfl, rfl, by decide⟩, ⟨_, _, rfl, rfl, by decide⟩, trivial⟩
  have h4 : ConflictRun freshApp.pkgrModel.key 4 (contendedCluster 4) :=
    ⟨⟨_, _, rfl, rfl, by decide⟩, ⟨_, _, rfl, rfl, by decide⟩, ⟨_, _, rfl, rfl, by decide⟩,
      ⟨_, _, rfl, rfl, by decide⟩, trivial⟩
  exact ⟨h5, (updateStatus_conflicts freshApp reconcilingStatus "" _).1 h5, h4,
    (updateStatus_conflicts freshApp reconcilingStatus "" _).2 4 _ (by decide) h4 rfl⟩

/-! ## §8. Every end of a call, under every interleaving. -/

/-- How a read-modify-write of the object at `k`, from `c`, can end, read off
    the store at its two calls; `written p` is what it writes over the object
    `p` its `Get` read.  Only `wrote` changes the store: every other end leaves
    the cluster as the other clients' writes made it. -/
inductive RmwEnd (getPrefix : String) (writeError : StatusError → GoError) (k : Key)
    (written : PackageRepository Spec → PackageRepository Spec) (c : Cluster Spec) :
    Option GoError × Cluster Spec → Prop
  /-- The `Get` finds nothing. -/
  | getNotFound : c.arrive.store k = none →
      RmwEnd getPrefix writeError k written c
        (some ⟨getPrefix ++ (StatusError.mk .notFound k.2).error⟩, c.arrive)
  /-- The write meets the object read, and replaces it. -/
  | wrote {p : PackageRepository Spec} : c.arrive.store k = some p →
      c.arrive.arrive.store k = some p →
      RmwEnd getPrefix writeError k written c (none, c.arrive.arrive.write (written p))
  /-- The object is deleted between the calls. -/
  | writeNotFound {p : PackageRepository Spec} : c.arrive.store k = some p →
      c.arrive.arrive.store k = none →
      RmwEnd getPrefix writeError k written c (some (writeError ⟨.notFound, k.2⟩), c.arrive.arrive)
  /-- Another version is stored between the calls. -/
  | writeConflict {p q : PackageRepository Spec} : c.arrive.store k = some p →
      c.arrive.arrive.store k = some q →
      q.objectMeta.resourceVersion ≠ p.objectMeta.resourceVersion →
      RmwEnd getPrefix writeError k written c (some (writeError ⟨.conflict, k.2⟩), c.arrive.arrive)

/-- The step lemma: a read-modify-write through a checked write, of a change
    that keeps the object's key and version, ends in one of the four ways. -/
theorem readModifyWrite_end {getPrefix : String}
    {write : PackageRepository Spec → ClientM Spec (Except StatusError (PackageRepository Spec))}
    {writeError : StatusError → GoError} {a : CRDApp Spec}
    {change : PackageRepository Spec → PackageRepository Spec}
    {merge : PackageRepository Spec → PackageRepository Spec → PackageRepository Spec}
    (hw : ∀ obj c, (write obj).run c = c.arrive.checkedWrite merge obj)
    (hkey : ∀ p, (change p).key = p.key)
    (hv : ∀ p, (change p).objectMeta.resourceVersion = p.objectMeta.resourceVersion)
    (c : Cluster Spec) :
    RmwEnd getPrefix writeError a.pkgrModel.key (fun p => merge p (change p)) c
      ((readModifyWrite getPrefix write writeError a change).run c) := by
  cases hp : c.arrive.store a.pkgrModel.key with
  | none =>
    simp only [readModifyWrite, clientGet, StateT.run, bind, StateT.bind, Cluster.get, hp]
    exact .getNotFound hp
  | some p =>
    have hk : (change p).key = a.pkgrModel.key := (hkey p).trans (c.arrive.keyed _ p hp)
    have hname : (change p).objectMeta.name = a.pkgrModel.key.2 := congrArg Prod.snd hk
    simp only [readModifyWrite, clientGet, StateT.run, bind, StateT.bind, Cluster.get, hp]
    rw [show write (change p) c.arrive = _ from hw _ _, Cluster.checkedWrite, hk]
    cases hq : c.arrive.arrive.store a.pkgrModel.key with
    | none =>
      simp only [hname]
      exact .writeNotFound hp hq
    | some q =>
      by_cases hqv : q.objectMeta.resourceVersion = p.objectMeta.resourceVersion
      · obtain rfl := ((Cluster.since_of_store hp).arrive).eq hq hqv
        simp only [hv, if_true]
        exact .wrote hp hq
      · simp only [hv, if_neg (Ne.symm hqv), hname]
        exact .writeConflict hp hq hqv

/-- An end that returns an error wrote nothing: the cluster is `c` after the
    other clients' writes due before one or two calls. -/
theorem RmwEnd.arrive_of_some {getPrefix : String} {writeError : StatusError → GoError} {k : Key}
    {written : PackageRepository Spec → PackageRepository Spec} {c c' : Cluster Spec} {e : GoError}
    (h : RmwEnd getPrefix writeError k written c (some e, c')) :
    ∃ j ≤ 2, c' = Cluster.arrive^[j] c := by
  cases h with
  | getNotFound => exact ⟨1, by omega, rfl⟩
  | writeNotFound => exact ⟨2, le_refl 2, rfl⟩
  | writeConflict => exact ⟨2, le_refl 2, rfl⟩

/-- Every end of `updatePackageRepository` with a finalizer edit. -/
theorem updatePackageRepository_end (a : CRDApp Spec) (g : List String → List String)
    (c : Cluster Spec) :
    RmwEnd "Updating PackageRepository: " (fun err => ⟨"Updating PackageRepository: " ++ err.error⟩)
      a.pkgrModel.key (editFinalizers g) c ((updatePackageRepository a (editFinalizers g)).run c) :=
  @readModifyWrite_end _ _ _ _ a (editFinalizers g) (fun cur obj => { obj with status := cur.status })
    (fun _ _ => rfl) (fun _ => rfl) (fun _ => rfl) c

/-- The finalizer hooks under every interleaving, failures included.
    `unblockDeletion` ends as a read-modify-write of the finalizer list with
    both names removed; `blockDeletion` makes no call when the cached model lists
    the finalizer, and otherwise ends as one appending it.  So a failed hook
    writes NOTHING, and its error is `"Updating PackageRepository: "` followed
    by the server's NotFound or Conflict text. -/
theorem finalizer_hooks_ends (d dp : String) (a : CRDApp Spec) (c : Cluster Spec) :
    RmwEnd "Updating PackageRepository: " (fun err => ⟨"Updating PackageRepository: " ++ err.error⟩)
      a.pkgrModel.key (editFinalizers fun l => l.filter fun f => f != d && f != dp) c
      ((unblockDeletion d dp a).run c) ∧
    if d ∈ a.pkgrModel.objectMeta.finalizers then (blockDeletion d a).run c = (none, c)
    else RmwEnd "Updating PackageRepository: " (fun err => ⟨"Updating PackageRepository: " ++ err.error⟩)
      a.pkgrModel.key (editFinalizers (addFinalizer d)) c ((blockDeletion d a).run c) := by
  refine ⟨by rw [unblockDeletion_eq_filter]; exact updatePackageRepository_end a _ c, ?_⟩
  rw [blockDeletion_eq]
  by_cases hm : d ∈ a.pkgrModel.objectMeta.finalizers
  · simp only [if_pos hm, if_pos ((containsString_iff _ _).mpr hm)]
    rfl
  · simp only [if_neg hm, if_neg (mt (containsString_iff _ _).mp hm)]
    exact updatePackageRepository_end a _ c

/-- Every end of one attempt of `updateStatus`. -/
theorem updateStatusOnce_end (a : CRDApp Spec) (appStatus : AppStatus) (c : Cluster Spec) :
    RmwEnd "Fetching PackageRepository: " (fun err => ⟨err.error⟩) a.pkgrModel.key
      (fun p => { p with status := packageRepositoryStatus appStatus }) c
      ((updateStatusOnce a appStatus).run c) :=
  @readModifyWrite_end _ _ _ _ a (fun p => { p with status := packageRepositoryStatus appStatus })
    (fun cur obj => { cur with status := obj.status }) (fun _ _ => rfl) (fun _ => rfl) (fun _ => rfl) c

/-- The run lemma of the loop: it ends as ONE attempt does, from the cluster
    its earlier attempts left; those failed, each after one or two calls, and
    wrote nothing. -/
theorem updateStatusLoop_end (a : CRDApp Spec) (appStatus : AppStatus) :
    ∀ (n : Nat) (lastErr : Option GoError) (c : Cluster Spec), ∃ m ≤ 2 * n,
      RmwEnd "Fetching PackageRepository: " (fun err => ⟨err.error⟩) a.pkgrModel.key
        (fun p => { p with status := packageRepositoryStatus appStatus }) (Cluster.arrive^[m] c)
        ((updateStatusLoop a appStatus (n + 1) lastErr).run c)
  | n, lastErr, c => by
    have hend := updateStatusOnce_end a appStatus c
    rcases hr : (updateStatusOnce a appStatus).run c with ⟨_ | e, c'⟩ <;> rw [hr] at hend
    · rw [updateStatusLoop_succ_none hr]
      exact ⟨0, Nat.zero_le _, hend⟩
    · rw [updateStatusLoop_succ_some hr]
      cases n with
      | zero => exact ⟨0, le_refl 0, hend⟩
      | succ n =>
        obtain ⟨j, hj, rfl⟩ := hend.arrive_of_some
        obtain ⟨m, hm, h⟩ := updateStatusLoop_end a appStatus n (some e) (Cluster.arrive^[j] c)
        exact ⟨m + j, by omega, by rwa [Function.iterate_add_apply]⟩

/-- `updateStatus` under every interleaving: it ends as ONE attempt's
    read-modify-write does, started after at most eight calls that wrote
    nothing.  So it writes at most once, and only when it returns nil: the
    engine's status over the object its last `Get` read, which no other client
    changed before the write.  On failure it returns the last attempt's error:
    `"Fetching PackageRepository: "` and the NotFound text when that `Get`
    failed, the server's NotFound or Conflict text unwrapped when the
    `UpdateStatus` did. -/
theorem updateStatus_end (a : CRDApp Spec) (appStatus : AppStatus) (desc : String)
    (c : Cluster Spec) :
    ∃ m ≤ 8, RmwEnd "Fetching PackageRepository: " (fun err => ⟨err.error⟩) a.pkgrModel.key
      (fun p => { p with status := packageRepositoryStatus appStatus }) (Cluster.arrive^[m] c)
      ((updateStatus a appStatus desc).run c) :=
  updateStatusLoop_end a appStatus 4 none c

end KappController.Pkgrepository
