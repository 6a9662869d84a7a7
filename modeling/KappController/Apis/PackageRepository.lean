/-
  KappController.Apis.PackageRepository — the PackageRepository resource and the
  API server the adapter reads it from and writes it back to.

  Neither the `packaging/v1alpha1` types nor the generated client are among
  the sources.  Following spec §5 and §6, the server keeps each
  PackageRepository under its namespace and name, stamps every write with the
  next revision of the store (the object's `resourceVersion`), and refuses an
  `Update` or `UpdateStatus` whose object carries another version than the
  stored one: optimistic concurrency.  `Update` writes metadata and spec and
  keeps the stored status; `UpdateStatus` writes the status and keeps the rest.

  Other clients write too.  A cluster carries the writes of other clients that
  land before each of the adapter's calls, so a theorem over every cluster is a
  theorem over EVERY interleaving of the adapter's calls with theirs.  The
  cluster record carries the two facts the server maintains: each object is
  stored under its own key, and no stored version is ahead of the revision.

  The server is SIMPLIFIED in one respect: it has no deletion-pending state (no
  `deletionTimestamp`).  A `delete` removes the object at once, finalizers or
  not, and an `Update` that empties the finalizers of an object being deleted
  leaves it stored.  What the finalizer hooks WRITE is modelled; what the
  server then does with the finalizers is not.

  Main results:
    * `Cluster.Since.arrive` — once an object has been read, every later state
      of its key is that object or one written after it, with a later version.
    * `Cluster.update_ok`, `Cluster.updateStatus_ok` — a write the server
      accepts replaces exactly the object the client read.
    * `Cluster.checkedWrite_eq_error` — a write it refuses changes nothing.
-/
import Mathlib.Logic.Function.Basic
import KappController.Apis.AppStatus
import KappController.Go.Fmt

namespace KappController

open KappController.Go

/-! ## §1. The resource. -/

/-- Modelled from the spec: the `metav1.ObjectMeta` fields the adapter reads or
    the server maintains. -/
structure ObjectMeta where
  name : String
  «namespace» : String
  finalizers : List String
  resourceVersion : Nat
  deriving DecidableEq, Repr

/-- Modelled from the spec: `PackageRepositoryStatus`, the engine's status
    fields as the adapter copies them. -/
structure PackageRepositoryStatus where
  fetch : Option StageStatus
  template : Option StageStatus
  deploy : Option DeployStatus
  genericStatus : GenericStatus
  consecutiveReconcileSuccesses : Int
  consecutiveReconcileFailures : Int
  deriving DecidableEq, Repr

/-- Modelled from the spec: a PackageRepository.  Nothing modelled reads its
    spec; the adapter carries it through as it is, so its type is a parameter. -/
structure PackageRepository (Spec : Type) where
  objectMeta : ObjectMeta
  spec : Spec
  status : PackageRepositoryStatus
  deriving DecidableEq, Repr

/-- Where the server keeps an object: its namespace and name. -/
abbrev Key := String × String

variable {Spec : Type}

namespace PackageRepository

/-- The object's key. -/
def key (r : PackageRepository Spec) : Key := (r.objectMeta.«namespace», r.objectMeta.name)

/-- The object as the server stores it at version `v`. -/
def withVersion (r : PackageRepository Spec) (v : Nat) : PackageRepository Spec :=
  { r with objectMeta := { r.objectMeta with resourceVersion := v } }

@[simp] theorem key_withVersion (r : PackageRepository Spec) (v : Nat) :
    (r.withVersion v).key = r.key := rfl

@[simp] theorem resourceVersion_withVersion (r : PackageRepository Spec) (v : Nat) :
    (r.withVersion v).objectMeta.resourceVersion = v := rfl

end PackageRepository

/-! ## §2. API errors. -/

/-- Modelled from the spec: why the server refused a call. -/
inductive StatusReason
  | notFound
  | conflict
  deriving DecidableEq, Repr

/-- An `apierrors.StatusError` about the named PackageRepository. -/
structure StatusError where
  reason : StatusReason
  name : String
  deriving DecidableEq, Repr

/-- `err.Error()`: apimachinery's texts for the two reasons. -/
def StatusError.error : StatusError → String
  | ⟨.notFound, name⟩ => "packagerepositories.packaging.carvel.dev \"" ++ name ++ "\" not found"
  | ⟨.conflict, name⟩ =>
    "Operation cannot be fulfilled on packagerepositories.packaging.carvel.dev \"" ++ name ++
      "\": the object has been modified; please apply your changes to the latest version and try again"

/-! ## §3. The cluster. -/

/-- Another client's write: an object put in place unconditionally, or a
    deletion. -/
inductive Write (Spec : Type)
  | put (repo : PackageRepository Spec)
  | delete (key : Key)

/-- The API server's store of PackageRepositories, its revision, and the writes
    of other clients that land before each of the adapter's next calls. -/
structure Cluster (Spec : Type) where
  store : Key → Option (PackageRepository Spec)
  revision : Nat
  interleaving : List (List (Write Spec))
  keyed : ∀ k r, store k = some r → r.key = k
  versioned : ∀ k r, store k = some r → r.objectMeta.resourceVersion ≤ revision

namespace Cluster

/-- The server's write of `r`: stamped with the next revision and stored under
    its key. -/
def write (c : Cluster Spec) (r : PackageRepository Spec) : Cluster Spec where
  store := Function.update c.store r.key (some (r.withVersion (c.revision + 1)))
  revision := c.revision + 1
  interleaving := c.interleaving
  keyed k q h := by
    by_cases hk : k = r.key
    · subst hk
      simp only [Function.update_same, Option.some.injEq] at h
      rw [← h, PackageRepository.key_withVersion]
    · rw [Function.update_noteq hk] at h
      exact c.keyed k q h
  versioned k q h := by
    by_cases hk : k = r.key
    · subst hk
      simp only [Function.update_same, Option.some.injEq] at h
      rw [← h, PackageRepository.resourceVersion_withVersion]
    · rw [Function.update_noteq hk] at h
      exact Nat.le_succ_of_le (c.versioned k q h)

@[simp] theorem write_store (c : Cluster Spec) (r : PackageRepository Spec) :
    (c.write r).store = Function.update c.store r.key (some (r.withVersion (c.revision + 1))) := rfl

@[simp] theorem write_revision (c : Cluster Spec) (r : PackageRepository Spec) :
    (c.write r).revision = c.revision + 1 := rfl

@[simp] theorem write_interleaving (c : Cluster Spec) (r : PackageRepository Spec) :
    (c.write r).interleaving = c.interleaving := rfl

@[simp] theorem write_store_key (c : Cluster Spec) (r : PackageRepository Spec) :
    (c.write r).store r.key = some (r.withVersion (c.revision + 1)) :=
  Function.update_same _ _ _

/-- The server's deletion of the object at `k`: removed at once, whatever its
    finalizers (no deletion-pending state). -/
def delete (c : Cluster Spec) (k : Key) : Cluster Spec where
  store := Function.update c.store k none
  revision := c.revision + 1
  interleaving := c.interleaving
  keyed k' q h := by
    by_cases hk : k' = k
    · subst hk
      simp at h
    · rw [Function.update_noteq hk] at h
      exact c.keyed k' q h
  versioned k' q h := by
    by_cases hk : k' = k
    · subst hk
      simp at h
    · rw [Function.update_noteq hk] at h
      exact Nat.le_succ_of_le (c.versioned k' q h)

@[simp] theorem delete_store (c : Cluster Spec) (k : Key) :
    (c.delete k).store = Function.update c.store k none := rfl

/-- Another client's write, as the server carries it out. -/
def applyWrite (c : Cluster Spec) : Write Spec → Cluster Spec
  | .put r => c.write r
  | .delete k => c.delete k

/-- The other clients' writes due before the adapter's next call land. -/
def arrive (c : Cluster Spec) : Cluster Spec :=
  match c.interleaving with
  | [] => c
  | ws :: rest => { ws.foldl applyWrite c with interleaving := rest }

/-- `Get`: the object at `k`, or NotFound. -/
def get (c : Cluster Spec) (k : Key) : Except StatusError (PackageRepository Spec) :=
  match c.store k with
  | none => .error ⟨.notFound, k.2⟩
  | some r => .ok r

@[simp] theorem get_eq_ok {c : Cluster Spec} {k : Key} {p : PackageRepository Spec} :
    c.get k = .ok p ↔ c.store k = some p := by
  unfold get
  split <;> simp_all

/-- A `Get` fails only when nothing is stored at `k`, and then with NotFound. -/
theorem get_eq_error {c : Cluster Spec} {k : Key} {err : StatusError} :
    c.get k = .error err ↔ c.store k = none ∧ err = ⟨.notFound, k.2⟩ := by
  unfold get
  cases c.store k <;> simp [eq_comm]

/-- With no other client's write due, a call finds the cluster as it is. -/
theorem arrive_of_interleaving_nil {c : Cluster Spec} (h : c.interleaving = []) : c.arrive = c := by
  unfold arrive
  rw [h]

/-- A write checked against the stored version, as `Update` and `UpdateStatus`
    make it: refused unless the object's version is the stored one; otherwise
    `merge cur obj`, of the stored object `cur` and the object sent, is written. -/
def checkedWrite (c : Cluster Spec)
    (merge : PackageRepository Spec → PackageRepository Spec → PackageRepository Spec)
    (obj : PackageRepository Spec) : Except StatusError (PackageRepository Spec) × Cluster Spec :=
  match c.store obj.key with
  | none => (.error ⟨.notFound, obj.objectMeta.name⟩, c)
  | some cur =>
    if obj.objectMeta.resourceVersion = cur.objectMeta.resourceVersion then
      (.ok ((merge cur obj).withVersion (c.revision + 1)), c.write (merge cur obj))
    else (.error ⟨.conflict, obj.objectMeta.name⟩, c)

/-- `Update`: writes metadata and spec, keeps the stored status. -/
def update (c : Cluster Spec) (obj : PackageRepository Spec) :
    Except StatusError (PackageRepository Spec) × Cluster Spec :=
  c.checkedWrite (fun cur obj => { obj with status := cur.status }) obj

/-- `UpdateStatus`: writes the status, keeps the rest. -/
def updateStatus (c : Cluster Spec) (obj : PackageRepository Spec) :
    Except StatusError (PackageRepository Spec) × Cluster Spec :=
  c.checkedWrite (fun cur obj => { cur with status := obj.status }) obj

/-! ## §4. A version names one object. -/

/-- What a read at `k` can find once `p` has been read there: `p` itself, or an
    object written since, with a later version. -/
def Since (c : Cluster Spec) (k : Key) (p : PackageRepository Spec) : Prop :=
  p.objectMeta.resourceVersion ≤ c.revision ∧
    ∀ q, c.store k = some q → q = p ∨ p.objectMeta.resourceVersion < q.objectMeta.resourceVersion

variable {c : Cluster Spec} {k : Key} {p q : PackageRepository Spec}

theorem since_of_store (h : c.store k = some p) : c.Since k p :=
  ⟨c.versioned k p h, fun _ hq => .inl (Option.some.inj (hq.symm.trans h))⟩

theorem Since.write (h : c.Since k p) (r : PackageRepository Spec) : (c.write r).Since k p := by
  refine ⟨Nat.le_succ_of_le h.1, fun q hq => ?_⟩
  by_cases hk : k = r.key
  · subst hk
    simp only [write_store, Function.update_same, Option.some.injEq] at hq
    subst hq
    exact .inr (Nat.lt_succ_of_le h.1)
  · exact h.2 q (by rwa [write_store, Function.update_noteq hk] at hq)

theorem Since.delete (h : c.Since k p) (k' : Key) : (c.delete k').Since k p := by
  refine ⟨Nat.le_succ_of_le h.1, fun q hq => ?_⟩
  by_cases hk : k = k'
  · subst hk
    simp at hq
  · exact h.2 q (by rwa [delete_store, Function.update_noteq hk] at hq)

theorem Since.applyWrites : ∀ (ws : List (Write Spec)) {c : Cluster Spec}, c.Since k p →
    (ws.foldl applyWrite c).Since k p
  | [], _, h => h
  | .put r :: ws, _, h => Since.applyWrites ws (h.write r)
  | .delete k' :: ws, _, h => Since.applyWrites ws (h.delete k')

/-- The run lemma: other clients' writes never bring back an old version. -/
theorem Since.arrive (h : c.Since k p) : c.arrive.Since k p := by
  unfold Cluster.arrive
  split
  · exact h
  · exact Since.applyWrites _ h

/-- A version names one object: what is found later at the same version is the
    object read. -/
theorem Since.eq (h : c.Since k p) (hq : c.store k = some q)
    (hv : q.objectMeta.resourceVersion = p.objectMeta.resourceVersion) : q = p :=
  (h.2 q hq).resolve_right (by omega)

/-! ## §5. Accepted writes. -/

/-- A checked write the server accepts, of an object edited from `p` without
    its version changed, merges into `p` itself. -/
theorem checkedWrite_ok
    {merge : PackageRepository Spec → PackageRepository Spec → PackageRepository Spec}
    {obj r : PackageRepository Spec} {c' : Cluster Spec} (h : c.Since obj.key p)
    (hv : obj.objectMeta.resourceVersion = p.objectMeta.resourceVersion)
    (hu : c.checkedWrite merge obj = (.ok r, c')) :
    c.store obj.key = some p ∧ c' = c.write (merge p obj) := by
  unfold Cluster.checkedWrite at hu
  split at hu
  · cases hu
  · rename_i cur hcur
    split at hu
    · cases hu
      obtain rfl := h.eq hcur (by omega)
      exact ⟨hcur, rfl⟩
    · cases hu

/-- An `Update` the server accepts, of an object edited from `p` without its
    version changed, replaces `p` itself. -/
theorem update_ok {obj r : PackageRepository Spec} {c' : Cluster Spec} (h : c.Since obj.key p)
    (hv : obj.objectMeta.resourceVersion = p.objectMeta.resourceVersion)
    (hu : c.update obj = (.ok r, c')) :
    c.store obj.key = some p ∧ c' = c.write { obj with status := p.status } :=
  checkedWrite_ok h hv hu

/-- An `UpdateStatus` the server accepts, of an object edited from `p` without
    its version changed, writes its status over `p` itself. -/
theorem updateStatus_ok {obj r : PackageRepository Spec} {c' : Cluster Spec} (h : c.Since obj.key p)
    (hv : obj.objectMeta.resourceVersion = p.objectMeta.resourceVersion)
    (hu : c.updateStatus obj = (.ok r, c')) :
    c.store obj.key = some p ∧ c' = c.write { p with status := obj.status } :=
  checkedWrite_ok h hv hu

/-! ## §6. Refused writes. -/

/-- A refused checked write changes NOTHING.  It is refused as NotFound when
    nothing is stored at the object's key, and as a Conflict when another
    version is stored; either error names the object sent. -/
theorem checkedWrite_eq_error
    {merge : PackageRepository Spec → PackageRepository Spec → PackageRepository Spec}
    {obj : PackageRepository Spec} {err : StatusError} {c' : Cluster Spec}
    (h : c.checkedWrite merge obj = (.error err, c')) :
    c' = c ∧ ((c.store obj.key = none ∧ err = ⟨.notFound, obj.objectMeta.name⟩) ∨
      ∃ cur, c.store obj.key = some cur ∧
        obj.objectMeta.resourceVersion ≠ cur.objectMeta.resourceVersion ∧
        err = ⟨.conflict, obj.objectMeta.name⟩) := by
  unfold checkedWrite at h
  split at h
  · cases h
    exact ⟨rfl, .inl ⟨‹_›, rfl⟩⟩
  · split at h
    · cases h
    · cases h
      exact ⟨rfl, .inr ⟨_, ‹_›, ‹_›, rfl⟩⟩

end Cluster

/-- The adapter's calls to the server, each after the writes due before it. -/
abbrev ClientM (Spec : Type) := StateM (Cluster Spec)

/-- `PackageRepositories(ns).Get(ctx, name, ...)`. -/
def clientGet (k : Key) : ClientM Spec (Except StatusError (PackageRepository Spec)) :=
  fun c => (c.arrive.get k, c.arrive)

/-- `PackageRepositories(ns).Update(ctx, obj, ...)`. -/
def clientUpdate (obj : PackageRepository Spec) :
    ClientM Spec (Except StatusError (PackageRepository Spec)) :=
  fun c => c.arrive.update obj

/-- `PackageRepositories(ns).UpdateStatus(ctx, obj, ...)`. -/
def clientUpdateStatus (obj : PackageRepository Spec) :
    ClientM Spec (Except StatusError (PackageRepository Spec)) :=
  fun c => c.arrive.updateStatus obj

end KappController
