/-
  KappController.Apis.AppStatus — the App status the tailer reads and the
  PackageRepository adapter persists.

  The `kappctrl/v1alpha1` type declarations are not among the sources; the
  records below follow spec §3 and carry exactly the fields the modelled code
  reads or copies.  Left out: `ObservedGeneration`, `UsefulErrorMessage`, a
  condition's `Reason` and `Message`, Deploy's `KappDeployStatus` (nothing
  modelled reads them).

  A `metav1.Time` is the instant it holds.  The tailer compares instants with
  `After`/`Equal` in some checks and whole seconds with `Unix()` in others, so
  the model keeps nanoseconds and rounds down for `unix`.
-/
import Mathlib.Data.List.Basic

namespace KappController

/-! ## §1. Timestamps. -/

/-- A `metav1.Time`: nanoseconds from the Unix epoch. -/
structure Time where
  nanos : Int
  deriving DecidableEq, Repr

namespace Time

/-- `t.Unix()`: the whole second, rounded down. -/
def unix (t : Time) : Int := t.nanos / 1000000000

/-- `t.After(u)`. -/
def after (t u : Time) : Bool := decide (u.nanos < t.nanos)

/-- `t.Equal(&u)`: the same instant. -/
def equal (t u : Time) : Bool := decide (t.nanos = u.nanos)

/-- A later instant never falls in an earlier second. -/
theorem unix_le_unix {t u : Time} (h : t.nanos ≤ u.nanos) : t.unix ≤ u.unix :=
  Int.ediv_le_ediv (by decide) h

@[simp] theorem equal_self (t : Time) : t.equal t = true := decide_eq_true rfl

end Time

/-! ## §2. Stage statuses. -/

/-- Modelled from the spec: a stage's `StageStatus`, the record of the Fetch and
    Template stages. -/
structure StageStatus where
  exitCode : Int
  startedAt : Time
  updatedAt : Time
  stdout : String
  stderr : String
  deriving DecidableEq, Repr

/-- Modelled from the spec: the Deploy stage's record, a `StageStatus` with
    `Finished` and `Error`. -/
structure DeployStatus extends StageStatus where
  finished : Bool
  error : String
  deriving DecidableEq, Repr

/-! ## §3. Conditions and the App status. -/

/-- Modelled from the spec: a status condition, its `Type` and `Status`. -/
structure Condition where
  type : String
  status : String
  deriving DecidableEq, Repr

/-- The condition type `Reconciling` (spec §3). -/
def reconciling : String := "Reconciling"

/-- The condition type `ReconcileSucceeded`, the one `hasReconciled` looks for. -/
def reconcileSucceeded : String := "ReconcileSucceeded"

/-- The condition type `ReconcileFailed`. -/
def reconcileFailed : String := "ReconcileFailed"

/-- The condition type `Deleting`. -/
def deleting : String := "Deleting"

/-- The condition type `DeleteFailed`. -/
def deleteFailed : String := "DeleteFailed"

/-- `corev1.ConditionTrue`. -/
def conditionTrue : String := "True"

/-- Modelled from the spec: `GenericStatus`. -/
structure GenericStatus where
  conditions : List Condition
  friendlyDescription : String
  deriving DecidableEq, Repr

/-- Modelled from the spec: `AppStatus`; a nil stage pointer is `none`. -/
structure AppStatus extends GenericStatus where
  fetch : Option StageStatus
  template : Option StageStatus
  deploy : Option DeployStatus
  consecutiveReconcileSuccesses : Int
  consecutiveReconcileFailures : Int
  deriving DecidableEq, Repr

/-- Stage statuses filled in pipeline order: a Template status only once there
    is a Fetch status, a Deploy status only once there is a Template status. -/
def PipelineOrdered (s : AppStatus) : Prop :=
  (s.template.isSome → s.fetch.isSome) ∧ (s.deploy.isSome → s.template.isSome)

instance : DecidablePred PipelineOrdered := fun _ => inferInstanceAs (Decidable (_ ∧ _))

end KappController
