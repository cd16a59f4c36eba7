import ZigbeeBridge.Proofs.Bridge.Keeps
import ZigbeeBridge.Proofs.Bridge.Operation
import ZigbeeBridge.Proofs.Push.Line

/-!
A bridge with all that goes on in it at once. The operations that open and close push connections
go on in steps, one operation at a time; each connection has a reader and a listener that take their
turns whenever they like; and in between anything else may be done to the bridge.
-/
namespace ZigbeeBridge.Bridge

open Bus Dialogue Gateway Push

/-- The operations that open and close push connections. -/
inductive Lifecycle where
  | connect
  | reconnect
  | disconnect
  | shutDown
  deriving DecidableEq, Repr

def Lifecycle.act : Lifecycle → Act
  | connect => .connect
  | reconnect => .reconnect
  | disconnect => .disconnect
  | shutDown => .shutDown

def Lifecycle.isConnect : Lifecycle → Bool
  | connect | reconnect => true
  | disconnect | shutDown => false

/-- How far an operation has come. -/
inductive Stage where
  | idle
  /-- It has cancelled the connection and waits until the listener has stopped. -/
  | stopping (call : Lifecycle) (awaited : Option Nat)
  | probing
  | opening
  deriving DecidableEq, Repr

structure Tasks where
  moment : Moment
  /-- The push connections that were ever opened, in order. -/
  lines : List Line
  /-- The connection that the bridge has the handle of. -/
  held : Option Nat
  stage : Stage
  /-- The operations so far, with the one that goes on. -/
  calls : List Lifecycle
  /-- What was published, with the connection that it came over, if any. -/
  news : List (Option Nat × Event)
  deriving Repr

inductive Step where
  | call (call : Lifecycle)
  | proceed
  | see (i : Nat) (sight : Sight)
  | hear (i : Nat)
  | act (act : Act)
  deriving DecidableEq, Repr

/-- What a listener does about what it gets. -/
def Moment.heed (m : Moment) : Hearing → Moment
  | .notice (.message message) => m.publish (flatten message)
  | .notice (.closed _ _ _) | .hungUp => m.closePush
  | .notice .opened | .lagged _ | .nothing => m

theorem Moment.state_heed (m : Moment) (hearing : Hearing) :
    (m.heed hearing).state = if hearing.closes then m.closePush.state else m.state := by
  cases hearing with
  | nothing | lagged missed | hungUp => rfl
  | notice notice => cases notice <;> rfl

namespace Tasks

def start (settings : Settings) : Tasks := ⟨.start settings, [], none, .idle, [], []⟩

def connects (t : Tasks) : Nat := t.calls.countP Lifecycle.isConnect

/-- The latest connect that has got beyond the end of the connection before. -/
def latest (t : Tasks) : Nat :=
  match t.stage with
  | .stopping call _ => if call.isConnect then t.connects - 1 else t.connects
  | _ => t.connects

/-- The only connection that may still be at work. -/
def current (t : Tasks) : Option Nat :=
  match t.stage with
  | .idle => t.held
  | .stopping _ awaited => awaited
  | .probing | .opening => none

/-- Another moment, with a note of what was published before it. -/
def goOn (t : Tasks) (source : Option Nat) (m : Moment) : Tasks :=
  { t with
    moment := m
    news := t.news ++ (m.trace.events.drop t.moment.trace.events.length).map (source, ·) }

def withLine (t : Tasks) (i : Nat) (f : Line → Line) : Tasks :=
  { t with lines := t.lines.modify i f }

def cancelHeld (t : Tasks) : Tasks :=
  match t.held with
  | some i => t.withLine i Line.cancel
  | none => t

/-- An operation begins, if none goes on: the connection is cancelled and its handle given up. -/
def begin (t : Tasks) (call : Lifecycle) : Tasks :=
  match t.stage with
  | .idle =>
    { t.cancelHeld with held := none, stage := .stopping call t.held, calls := t.calls ++ [call] }
  | _ => t

def hasStopped (t : Tasks) (awaited : Option Nat) : Bool :=
  match awaited.bind (t.lines[·]?) with
  | some line => !line.listening
  | none => true

/-- What an operation does once the connection before is at its end. -/
def stopped (t : Tasks) : Lifecycle → Tasks
  | .connect | .reconnect =>
    { t with moment := t.moment.withHealth .connecting, stage := .probing }
  | .disconnect => { t with moment := t.moment.withHealth .disconnected, stage := .idle }
  | .shutDown =>
    let m := t.moment.withHealth .disconnected
    { t with
      moment := { m with state := { m.state with queue := [], shutDown := true } }
      lines := t.lines.map Line.cancel
      stage := .idle }

/-- Opens a connection where the settings want one; after a shutdown it is cancelled from the
start. -/
def openLine (t : Tasks) : Tasks :=
  let s := t.moment.state
  match s.settings.pushEnabled, s.session.pushTarget s.settings with
  | true, .ok url =>
    { t with
      moment := { t.moment with state := { s with push := some url } }
      lines := t.lines ++ [Line.start t.connects s.shutDown]
      held := some t.lines.length
      stage := .idle }
  | _, _ => { t with stage := .idle }

def proceed (gateway : Behaviour) (t : Tasks) : Tasks :=
  match t.stage with
  | .idle => t
  | .stopping call awaited => if t.hasStopped awaited then t.stopped call else t
  | .probing =>
    { t.goOn none (Operation.enact gateway Operation.probe t.moment).2 with stage := .opening }
  | .opening => t.openLine

def next (t : Tasks) (i : Nat) : Hearing := ((t.lines[i]?).map Line.next).getD .nothing

def step (gateway : Behaviour) (t : Tasks) : Step → Tasks
  | .call call => t.begin call
  | .proceed => t.proceed gateway
  | .see i sight => t.withLine i (·.see sight)
  | .hear i => (t.withLine i Line.hear).goOn (some i) (t.moment.heed (t.next i))
  | .act act => if act.isLifecycle then t else t.goOn none (act.step gateway t.moment)

def run (gateway : Behaviour) (t : Tasks) (steps : List Step) : Tasks :=
  steps.foldl (step gateway) t

def reached (gateway : Behaviour) (settings : Settings) (steps : List Step) : Tasks :=
  (start settings).run gateway steps

def cameOver (t : Tasks) (i : Nat) : List Event :=
  t.news.filterMap fun item => if item.1 = some i then some item.2 else none

def behind (t : Tasks) (i : Nat) : Nat := ((t.lines[i]?).map Line.behind).getD 0

/-- What else is done to the bridge does nothing to the connections. -/
theorem step_act (gateway : Behaviour) (t : Tasks) (act : Act) :
    t.step gateway (.act act) =
      if act.isLifecycle then t else t.goOn none (act.step gateway t.moment) := rfl

/-! What a turn does to the connections. -/

variable {t : Tasks}

theorem lines_withLine (t : Tasks) (i : Nat) (f : Line → Line) (j : Nat) :
    (t.withLine i f).lines[j]? = (t.lines[j]?).map fun line => if i = j then f line else line :=
  List.getElem?_modify f i t.lines j

theorem line_of_withLine {i j : Nat} {f : Line → Line} {line' : Line}
    (hline' : (t.withLine i f).lines[j]? = some line') :
    ∃ line, t.lines[j]? = some line ∧ (i = j ∧ line' = f line ∨ i ≠ j ∧ line' = line) := by
  rw [lines_withLine] at hline'
  obtain ⟨line, hline, hf⟩ := Option.map_eq_some_iff.mp hline'
  refine ⟨line, hline, ?_⟩
  split at hf
  · rename_i hij
    exact Or.inl ⟨hij, hf.symm⟩
  · rename_i hij
    exact Or.inr ⟨hij, hf.symm⟩

theorem line_withLine {i : Nat} {line : Line} (hline : t.lines[i]? = some line)
    (f : Line → Line) : (t.withLine i f).lines[i]? = some (f line) := by
  rw [lines_withLine, hline]
  simp

theorem listening_of_hasStopped {i : Nat} {line : Line} (hstopped : t.hasStopped (some i) = true)
    (hline : t.lines[i]? = some line) : line.listening = false := by
  unfold hasStopped at hstopped
  rw [Option.bind_some, hline] at hstopped
  simpa using hstopped

/-! What a turn publishes. -/

theorem drop_events {m m' : Moment} {published : List Event}
    (hevents : m'.trace.events = m.trace.events ++ published) :
    m'.trace.events.drop m.trace.events.length = published := by
  rw [hevents, List.drop_left]

theorem cameOver_goOn (source : Option Nat) {m : Moment} {published : List Event}
    (hevents : m.trace.events = t.moment.trace.events ++ published) (i : Nat) :
    (t.goOn source m).cameOver i = t.cameOver i ++ if source = some i then published else [] := by
  unfold cameOver goOn
  dsimp only
  rw [drop_events hevents, List.filterMap_append, List.filterMap_map]
  congr 1
  change published.filterMap (fun event => if source = some i then some event else none) = _
  by_cases hsource : source = some i
  · simp [hsource]
  · simp [hsource]

theorem cameOver_goOn_none {m : Moment} {published : List Event}
    (hevents : m.trace.events = t.moment.trace.events ++ published) (i : Nat) :
    (t.goOn none m).cameOver i = t.cameOver i := by
  rw [cameOver_goOn none hevents, if_neg (by simp), List.append_nil]

theorem news_goOn (source : Option Nat) {m : Moment} {published : List Event}
    (hnews : t.news.map Prod.snd = t.moment.trace.events)
    (hevents : m.trace.events = t.moment.trace.events ++ published) :
    (t.goOn source m).news.map Prod.snd = m.trace.events := by
  unfold goOn
  dsimp only
  rw [drop_events hevents, List.map_append, hnews, hevents, List.map_map]
  simp [Function.comp_def]

theorem events_heed (m : Moment) (hearing : Hearing) :
    (m.heed hearing).trace.events = m.trace.events ++ hearing.event?.toList := by
  have hclose := m.trace_closePush
  cases hearing with
  | nothing | lagged missed => exact (List.append_nil _).symm
  | hungUp =>
    change m.closePush.trace.events = _
    rw [hclose]
    exact (List.append_nil _).symm
  | notice notice =>
    cases notice with
    | opened => exact (List.append_nil _).symm
    | message message => rfl
    | closed code reason remote =>
      change m.closePush.trace.events = _
      rw [hclose]
      exact (List.append_nil _).symm

end Tasks

end ZigbeeBridge.Bridge
