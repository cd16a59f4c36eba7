import ZigbeeBridge.Bridge.Error
import ZigbeeBridge.Bridge.Resolution
import ZigbeeBridge.Bridge.Settings
import ZigbeeBridge.Bus.Report
import ZigbeeBridge.Gateway.Client

/-!
A refresh: lights, groups and, if asked for, sensors are listed and reported one by one in the
order of the gateway. A listing that fails ends the refresh; whether a single entity does is a
matter of policy.
-/
namespace ZigbeeBridge.Bridge

open Bus Dialogue Gateway

structure Report where
  lights : Nat
  groups : Nat
  sensors : Nat
  failed : Nat
  deriving DecidableEq, Repr

namespace Report

def empty : Report := ⟨0, 0, 0, 0⟩

def published (report : Report) : Nat := report.lights + report.groups + report.sensors

def addLight (report : Report) : Report := { report with lights := report.lights + 1 }

def addGroup (report : Report) : Report := { report with groups := report.groups + 1 }

def addSensor (report : Report) : Report := { report with sensors := report.sensors + 1 }

def addFailure (report : Report) : Report := { report with failed := report.failed + 1 }

end Report

structure RefreshPlan where
  sensors : Bool
  spacingMs : Nat
  policy : ItemFailure
  deriving DecidableEq, Repr

/-- What came of a refresh so far; the first fetch does not wait. -/
structure Progress where
  report : Report
  fetched : Bool
  deriving DecidableEq, Repr

def Progress.start : Progress := ⟨.empty, false⟩

/-- A call of the client as a part of an operation of the bridge. -/
def calling {α : Type} (call : Attempt Gateway.Error α) : Attempt Error α :=
  ExceptT.adapt Error.ofGateway call

/-- Publishes what was fetched, or does with a failure what the policy says. -/
def conclude (policy : ItemFailure) (count : Report → Report) (report : Report) :
    Except Error (Option Event) → Dialogue (Except Error Report)
  | .ok (some event) => .publish event (.done (.ok (count report)))
  | .ok none => .done (.ok report)
  | .error e =>
    match policy with
    | .abort => .done (.error e)
    | .isolate => .done (.ok report.addFailure)

/-- An entity that takes a fetch of its own. -/
def fetchItem (plan : RefreshPlan) (count : Report → Report)
    (fetch : Attempt Error (Option Event)) (progress : Progress) : Attempt Error Progress := do
  if progress.fetched then pausing plan.spacingMs
  let result ← liftM fetch.run
  let report ← ExceptT.mk (conclude plan.policy count progress.report result)
  pure ⟨report, true⟩

def lightEvent (client : Client) (summary : Summary) : Attempt Error (Option Event) := do
  pure (some (ofLight (← calling (client.getLight summary.id))))

def groupEvent (client : Client) (summary : Summary) : Attempt Error (Option Event) := do
  pure (some (ofGroup (← calling (client.getGroup summary.id))))

def sensorEvent (client : Client) (info : SensorInfo) : Attempt Error (Option Event) := do
  pure ((← calling (client.getSensor info.id)).map ofSensor)

def refreshLights (client : Client) (plan : RefreshPlan) (progress : Progress) :
    Attempt Error Progress := do
  let lights ← calling client.listLights
  lights.foldlM (fun p light => fetchItem plan Report.addLight (lightEvent client light) p) progress

def refreshGroups (client : Client) (plan : RefreshPlan) (progress : Progress) :
    Attempt Error Progress := do
  let groups ← calling client.listGroups
  groups.foldlM (fun p group => fetchItem plan Report.addGroup (groupEvent client group) p) progress

def refreshSensor (client : Client) (plan : RefreshPlan) (progress : Progress)
    (info : SensorInfo) : Attempt Error Progress :=
  match Resolution.of info with
  | .skip => pure progress
  | .fromListing => do
    let report ← ExceptT.mk (conclude plan.policy Report.addSensor progress.report
      (.ok ((Sensor.ofInfo? info).map ofSensor)))
    pure { progress with report }
  | .fetch _ => fetchItem plan Report.addSensor (sensorEvent client info) progress

def refreshSensors (client : Client) (plan : RefreshPlan) (progress : Progress) :
    Attempt Error Progress := do
  let infos ← calling client.listSensors
  infos.foldlM (refreshSensor client plan) progress

def refreshAll (client : Client) (plan : RefreshPlan) : Attempt Error Report := do
  let progress ← refreshLights client plan .start
  let progress ← refreshGroups client plan progress
  let progress ← if plan.sensors then refreshSensors client plan progress else pure progress
  pure progress.report

/-- Fetches one light and publishes it. -/
def reportLight (client : Client) (id : String) : Attempt Error Unit := do
  let light ← calling (client.getLight id)
  publishing (ofLight light)

end ZigbeeBridge.Bridge
