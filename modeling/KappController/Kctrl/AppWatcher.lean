/-
  KappController.Kctrl.AppWatcher — the status tailer of `kctrl`, as the code
  runs it (`cli/pkg/kctrl/cmd/app/app-watcher.go`).

  Two printers read the App status.  `printTillCurrent` takes ONE snapshot and
  walks Fetch → Template → Deploy, printing a line per stage until it reaches a
  stage that failed or is still running.  `printUpdate` takes a PAIR of
  snapshots (an informer update) and prints what changed; on a failure or a
  reconciled App it calls `stopWatch`, which closes `stopperChan` and so ends
  `TailAppStatus`.

  Go effects become a state-and-panic monad `WatchM`: the lines handed to
  `printLogLine` (each shown with its block, `LogLine.printedBlock`), whether
  `stopperChan` is closed, and a panic for a field read through a nil stage
  pointer or a second `close`.  `WaitForCacheSync` races the informer: its
  schedule (`tailAppStatusSync`) is a parameter, as the events are, and so is
  the App the informer's first List returns.  Of client-go the model assumes
  that no handler runs once `stopperChan` is closed (`watchUpdates`).
  `statusString` and `metricString` make the status cells of `PrintInfo`'s
  table; the first panics on an App with no conditions.
-/
import KappController.Apis.AppStatus
import KappController.Go.Fmt
import KappController.Kctrl.MessageBlock

namespace KappController.Kctrl

open KappController.Go

/-! ## §1. The tailer's effects. -/

/-- Why a tailer goroutine panics. -/
inductive GoPanic where
  /-- A field read through a nil stage pointer. -/
  | nilPointerDereference
  /-- `close` of the already closed `stopperChan`. -/
  | closeOfClosedChannel
  deriving DecidableEq, Repr

/-- The arguments of one `printLogLine` call. -/
structure LogLine where
  message : String
  messageBlock : String
  errorBlock : Bool
  startTime : Option Time
  deriving DecidableEq, Repr

/-- The tailer's state: the lines printed so far, and whether `stopperChan` is closed. -/
structure AppWatcher where
  printed : List LogLine
  stopperClosed : Bool
  deriving DecidableEq, Repr

/-- A tailer computation: it may panic, and it prints and closes `stopperChan` as it goes. -/
abbrev WatchM := ExceptT GoPanic (StateM AppWatcher)

/-- `printLogLine`: one more line for the user. -/
def printLogLine (message messageBlock : String) (errorBlock : Bool) (startTime : Option Time) :
    WatchM Unit :=
  modify fun o => { o with printed := o.printed ++ [⟨message, messageBlock, errorBlock, startTime⟩] }

/-- The block `printLogLine` prints under its line,
    `PrintBlock(indentMessageBlock(messageBlock, errorBlock))`, when the block is
    not empty.  (The line itself, a clock time and an age, is not modelled.) -/
def LogLine.printedBlock (noColor : Bool) (l : LogLine) : String :=
  if l.messageBlock.length > 0 then indentMessageBlock noColor l.messageBlock l.errorBlock else ""

/-- `stopWatch`: `close(o.stopperChan)`, which panics on a closed channel. -/
def stopWatch : WatchM Unit := do
  if (← get).stopperClosed then throw .closeOfClosedChannel
  modify fun o => { o with stopperClosed := true }

/-- Reading through a stage pointer: a nil pointer panics. -/
def deref {α : Type} : Option α → WatchM α
  | some a => pure a
  | none => throw .nilPointerDereference

/-- The stage `printTillCurrent` stopped at; `empty` is Go's `""`, returned after
    every stage present was printed.  (The `AppStage` declaration is not among the
    sources; these are the values the code uses.) -/
inductive AppStage where
  | empty
  | fetchStage
  | templateStage
  | deployStage
  | reconciled
  deriving DecidableEq, Repr

/-- `hasReconciled`: a `ReconcileSucceeded` condition with status true. -/
def hasReconciled (status : AppStatus) : Bool :=
  status.conditions.any fun condition =>
    condition.type == reconcileSucceeded && condition.status == conditionTrue

/-! ## §2. `printTillCurrent`: one snapshot. -/

/-- `printTillCurrent`.  Template's checks read `status.Fetch.StartedAt` before it
    prints anything, so the dereference stands first in its block. -/
def printTillCurrent (status : AppStatus) : WatchM (AppStage × Option GoError) := do
  if let some fetch := status.fetch then
    if fetch.exitCode ≠ 0 ∧ fetch.startedAt.unix ≤ fetch.updatedAt.unix then
      printLogLine "Fetch failed" fetch.stderr true none
      return (.fetchStage, some (errorf fetch.stderr))
    if fetch.startedAt.after fetch.updatedAt then
      printLogLine "Fetch started" "" false (some fetch.startedAt)
      return (.fetchStage, none)
    printLogLine "Fetch succeeded" fetch.stdout false (some fetch.updatedAt)
  if let some template := status.template then
    let fetch ← deref status.fetch
    if template.exitCode ≠ 0 ∧ fetch.startedAt.unix < template.updatedAt.unix then
      printLogLine "Template failed" template.stderr true none
      return (.templateStage, some (errorf template.stderr))
    if fetch.startedAt.after template.updatedAt then
      printLogLine "Template started" "" false none
      return (.templateStage, none)
    printLogLine "Template succeeded" "" false (some template.updatedAt)
  if let some deploy := status.deploy then
    if deploy.exitCode ≠ 0 ∧ deploy.startedAt.unix < deploy.updatedAt.unix then
      printLogLine "Deploy failed" deploy.stderr true none
      return (.deployStage, some (errorf deploy.error))
    if hasReconciled status then
      printLogLine "Deploy succeeded" deploy.stdout false (some deploy.updatedAt)
      return (.reconciled, none)
    printLogLine "Deploy started" deploy.stdout false (some deploy.startedAt)
  return (.empty, none)

/-! ## §3. `printUpdate`: a pair of snapshots. -/

/-- The Fetch block of `printUpdate`.  `oldStatus.fetch.all p` is Go's
    `oldStatus.Fetch == nil || p(oldStatus.Fetch)`. -/
def printUpdateFetch (oldStatus status : AppStatus) : WatchM Unit := do
  if let some fetch := status.fetch then
    if oldStatus.fetch.all fun old =>
        !old.startedAt.equal fetch.startedAt && decide (fetch.updatedAt.unix ≤ fetch.startedAt.unix) then
      printLogLine "Fetch started" "" false none
    if oldStatus.fetch.all fun old => !old.updatedAt.equal fetch.updatedAt then
      if fetch.exitCode ≠ 0 ∧ fetch.startedAt.unix ≤ fetch.updatedAt.unix then
        printLogLine "Fetch failed" (← deref status.template).stderr true none
        stopWatch
      printLogLine "Fetch succeeded" fetch.stdout false none

/-- The Template block of `printUpdate`. -/
def printUpdateTemplate (oldStatus status : AppStatus) : WatchM Unit := do
  if let some template := status.template then
    if oldStatus.template.all fun old => !old.updatedAt.equal template.updatedAt then
      if template.exitCode ≠ 0 then
        printLogLine "Template failed" template.stderr true none
        stopWatch
      printLogLine "Template succeeded" "" false none

/-- The Deploy block of `printUpdate`. -/
def printUpdateDeploy (oldStatus status : AppStatus) : WatchM Unit := do
  if let some deploy := status.deploy then
    if oldStatus.deploy.all fun old => !old.startedAt.equal deploy.startedAt then
      printLogLine "Deploy started" "" false none
    if oldStatus.deploy.all fun old => !old.updatedAt.equal deploy.updatedAt then
      if (← deref status.template).exitCode ≠ 0 ∧ deploy.finished then
        printLogLine "Deploy failed" deploy.stderr true none
        stopWatch
      printLogLine "Deploy progressing" deploy.stdout false none

/-- `printUpdate`: its Fetch, Template and Deploy blocks, then the reconciled check. -/
def printUpdate (oldStatus status : AppStatus) : WatchM Unit := do
  printUpdateFetch oldStatus status
  printUpdateTemplate oldStatus status
  printUpdateDeploy oldStatus status
  if hasReconciled status then
    printLogLine "App reconciled" "" false none
    stopWatch

/-! ## §4. `TailAppStatus`. -/

/-- The informer's update events once the tailer watches: each runs
    `udpateEventhandler`, i.e. `printUpdate` on the previous and the new status.
    ASSUMED of client-go: once `stopperChan` is closed no event handler runs.
    Its `processorListener` can still run a notification it had already
    dequeued, which would call `stopWatch` a second time; that schedule is not
    modelled. -/
def watchUpdates (oldStatus : AppStatus) : List AppStatus → WatchM Unit
  | [] => pure ()
  | status :: rest => do
    if (← get).stopperClosed then return
    printUpdate oldStatus status
    watchUpdates status rest

/-- Where `TailAppStatus` is once the update events have been handled. -/
inductive Tail where
  /-- It returned this error (`none`: nil). -/
  | returned (err : Option GoError)
  /-- It still waits on `<-o.stopperChan`. -/
  | blocked
  deriving DecidableEq, Repr

/-- `TailAppStatus` on an App with status `app`, fed the update events `updates`.
    The informer's first List gives `listed`, the App as the server has it then
    (not the caller's `app`): an Add event, which the handler ignores, so
    `listed` is the old status of the FIRST update.  The informer's cache is
    taken to sync before the first event. -/
def tailAppStatus (app listed : AppStatus) (updates : List AppStatus) : WatchM Tail := do
  let (lastStage, err) ← printTillCurrent app
  if let some err := err then return .returned (some err)
  if lastStage = .reconciled then return .returned none
  modify fun o => { o with stopperClosed := false }
  watchUpdates listed updates
  if (← get).stopperClosed then return .returned none
  return .blocked

/-- Library model: `cache.WaitForCacheSync(o.stopperChan, informer.HasSynced)`.
    It polls until the informer's cache has synced, and gives up, returning
    false, once `stopperChan` is closed.  When both hold, which one the poll
    sees first is the schedule's: `syncFirst`. -/
def waitForCacheSync (syncFirst : Bool) : WatchM Bool :=
  if syncFirst then pure true else do return !(← get).stopperClosed

/-- `TailAppStatus` with its `WaitForCacheSync` branch, under the schedule where the
    informer handles the update events `beforeSync` while `WaitForCacheSync`
    polls, and `afterSync` once it has returned. -/
def tailAppStatusSync (app listed : AppStatus) (beforeSync afterSync : List AppStatus)
    (syncFirst : Bool) : WatchM Tail := do
  let (lastStage, err) ← printTillCurrent app
  if let some err := err then return .returned (some err)
  if lastStage = .reconciled then return .returned none
  modify fun o => { o with stopperClosed := false }
  watchUpdates listed beforeSync
  if !(← waitForCacheSync syncFirst) then
    return .returned (some (errorf "Timed out waiting for caches to sync"))
  watchUpdates (beforeSync.getLast?.getD listed) afterSync
  if (← get).stopperClosed then return .returned none
  return .blocked

/-! ## §5. The cells of `PrintInfo`. -/

/-- `statusString`: a text for the FIRST condition's type, read as
    `status.Conditions[0]`, so an App with no conditions makes the index panic
    (`none`); an unknown type shows the friendly description. -/
def statusString (noColor : Bool) (status : AppStatus) : Option String :=
  match status.conditions with
  | [] => none
  | condition :: _ => some <|
    if condition.type = reconciling then "Reconciling"
    else if condition.type = reconcileSucceeded then greenString noColor "Reconcile succeeded"
    else if condition.type = reconcileFailed then redString noColor "Reconcile failed"
    else if condition.type = deleting then "Deleting"
    else if condition.type = deleteFailed then redString noColor "Deletion failed"
    else status.friendlyDescription

theorem statusString_eq_none_iff (noColor : Bool) (status : AppStatus) :
    statusString noColor status = none ↔ status.conditions = [] := by
  unfold statusString
  split <;> simp_all

/-- `metricString`: the failure streak, else the success streak, as `%d`
    prints them. -/
def metricString (status : AppStatus) : String :=
  if status.consecutiveReconcileFailures ≠ 0 then
    toString status.consecutiveReconcileFailures ++ " consecutive failures"
  else if status.consecutiveReconcileSuccesses ≠ 0 then
    toString status.consecutiveReconcileSuccesses ++ " consecutive successes"
  else "0 consecutive failures | 0 consecutive successes"

end KappController.Kctrl
