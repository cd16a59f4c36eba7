import ZigbeeBridge.Proofs.Bridge.Act
import ZigbeeBridge.Proofs.Bridge.Operation

/-!
What operations leave alone: the parts of a bridge that they do not write, and what was published
before them.
-/
namespace ZigbeeBridge.Bridge

open Bus Dialogue Gateway

namespace Operation

variable {α β γ : Type}

/-- However the gateway answers, the operation leaves alone what the view shows. -/
def Keeps (view : State → γ) (operation : Operation α) : Prop :=
  ∀ gateway m, view (enact gateway operation m).2.state = view m.state

/-- The view shows nothing of the session, the health and the queue. -/
structure Blind (view : State → γ) : Prop where
  session : ∀ s session, view { s with session } = view s
  health : ∀ s health, view { s with health } = view s
  queue : ∀ s queue, view { s with queue } = view s

section Parts

variable {view : State → γ}

theorem keeps_pure (a : α) : Keeps view (pure a) := fun _ _ => rfl

theorem keeps_bind {operation : Operation α} {f : α → Operation β}
    (hoperation : Keeps view operation) (hf : ∀ a, Keeps view (f a)) :
    Keeps view (operation >>= f) := by
  intro gateway m
  rw [enact_bind, hf, hoperation]

theorem keeps_map {operation : Operation α} (f : α → β) (hoperation : Keeps view operation) :
    Keeps view (f <$> operation) := by
  intro gateway m
  rw [enact_map]
  exact hoperation gateway m

theorem keeps_get : Keeps view (get : Operation State) := fun _ _ => rfl

theorem keeps_modify {f : State → State} (hf : ∀ s, view (f s) = view s) :
    Keeps view (modify f : Operation PUnit) := fun _ m => hf m.state

theorem keeps_liftM (d : Dialogue α) : Keeps view (liftM d : Operation α) := by
  intro gateway m
  rw [enact_liftM]

end Parts

namespace Blind

variable {view : State → γ} (hblind : Blind view)

include hblind

theorem keeps_withClient (attempt : Client → Attempt Error α) :
    Keeps view (withClient attempt) := by
  intro gateway m
  obtain ⟨session, hstate⟩ := state_withClient gateway m attempt
  rw [hstate, hblind.session]

theorem keeps_setHealth (health : Health) : Keeps view (setHealth health) :=
  keeps_modify fun s => hblind.health s health

theorem keeps_setSession (session : Session) : Keeps view (setSession session) :=
  keeps_modify fun s => hblind.session s session

theorem keeps_heed (result : Except Error α) : Keeps view (heed result) := by
  cases result with
  | ok a => exact keeps_pure _
  | error e => exact keeps_bind (hblind.keeps_setHealth _) fun _ => keeps_pure _

theorem keeps_probe : Keeps view probe := by
  unfold probe
  refine keeps_bind (hblind.keeps_withClient _) fun result => ?_
  cases result with
  | ok about =>
    refine keeps_bind (keeps_modify fun s => hblind.session s _) fun _ => ?_
    exact keeps_bind (hblind.keeps_setHealth _) fun _ => keeps_bind keeps_get fun _ => keeps_pure _
  | error e =>
    exact keeps_bind (hblind.keeps_setHealth _) fun _ => keeps_bind keeps_get fun _ => keeps_pure _

theorem keeps_execute (command : Command) : Keeps view (execute command) := by
  unfold execute
  refine keeps_bind (hblind.keeps_withClient _) fun result => ?_
  refine keeps_bind (hblind.keeps_heed result) fun result => ?_
  cases result with
  | ok event => exact keeps_liftM _
  | error e => exact keeps_pure _

theorem keeps_handleEvent (event : Event) : Keeps view (handleEvent event) := by
  unfold handleEvent
  split
  · exact keeps_pure _
  · cases Command.ofEvent? event with
    | none => exact keeps_pure _
    | some command => exact keeps_bind (hblind.keeps_execute command) fun _ => keeps_pure _

theorem keeps_reportAll (sensors : Bool) : Keeps view (reportAll sensors) := by
  unfold reportAll refresh
  refine keeps_bind ?_ fun result => hblind.keeps_heed result
  exact keeps_bind keeps_get fun _ => hblind.keeps_withClient _

theorem keeps_heartbeat : Keeps view heartbeat := by
  unfold heartbeat
  refine keeps_bind keeps_get fun s => ?_
  cases s.session.tick with
  | mk due session =>
    refine keeps_bind (hblind.keeps_setSession session) fun _ => ?_
    cases due with
    | false => exact keeps_pure _
    | true =>
      have hrefresh (health : Health) : Keeps view (if health = .connected then do
          let _ ← reportAll false
          pure true
        else pure true) := by
        split
        · exact keeps_bind (hblind.keeps_reportAll false) fun _ => keeps_pure _
        · exact keeps_pure _
      refine keeps_bind keeps_get fun s => ?_
      dsimp only
      split
      · exact keeps_bind (keeps_pure _) hrefresh
      · exact keeps_bind hblind.keeps_probe hrefresh

theorem keeps_reportOne (id : String) : Keeps view (reportOne id) := by
  unfold reportOne
  refine keeps_bind (hblind.keeps_withClient _) fun result => ?_
  exact keeps_bind (hblind.keeps_heed result) fun _ => keeps_pure _

theorem keeps_discovered (model serial location : String) :
    Keeps view (discovered model serial location) := by
  unfold discovered
  refine keeps_bind keeps_get fun s => ?_
  dsimp only
  split
  · exact keeps_pure _
  · exact keeps_bind (hblind.keeps_setSession _) fun _ => keeps_pure _

theorem keeps_handle (message : Message) : Keeps view (handle message) := by
  cases message with
  | event event => exact hblind.keeps_handleEvent event
  | reportItems => exact keeps_bind (hblind.keeps_reportAll true) fun _ => keeps_pure _
  | heartbeat => exact hblind.keeps_heartbeat
  | reportLight id => exact keeps_bind (hblind.keeps_reportOne id) fun _ => keeps_pure _
  | discovered model serial location => exact hblind.keeps_discovered model serial location

theorem keeps_handleAll (messages : List Message) : Keeps view (handleAll messages) := by
  induction messages with
  | nil => exact keeps_pure _
  | cons message rest ih => exact keeps_bind (hblind.keeps_handle message) fun _ => ih

theorem keeps_dispatch : Keeps view dispatch := by
  unfold dispatch
  refine keeps_bind keeps_get fun s => ?_
  exact keeps_bind (keeps_modify fun s => hblind.queue s []) fun _ =>
    hblind.keeps_handleAll s.queue

theorem keeps_submit (message : Message) : Keeps view (submit message) := by
  unfold submit
  refine keeps_bind keeps_get fun s => ?_
  split
  · exact keeps_pure _
  · exact keeps_bind (keeps_modify fun s => hblind.queue s _) fun _ => keeps_pure _

end Blind

/-- An operation takes back nothing that was published before it. -/
theorem events_enact (gateway : Behaviour) (operation : Operation α) (m : Moment) :
    ∃ published,
      (enact gateway operation m).2.trace.events = m.trace.events ++ published := by
  obtain ⟨published, hevents, -⟩ := run_hearing gateway m.trace (operation.run m.state) []
  exact ⟨published, hevents⟩

end Operation

theorem events_act (gateway : Behaviour) (act : Act) (m : Moment) :
    ∃ published, (act.step gateway m).trace.events = m.trace.events ++ published :=
  Operation.events_enact gateway act.operation m

/-- Whether an act has to do with the push connection or puts an end to the bridge's work. -/
def Act.isLifecycle : Act → Bool
  | connect | reconnect | disconnect | shutDown | pushReceived _ | pushEnded => true
  | _ => false

open Operation

/-- All other acts write the session, the health and the queue alone. -/
theorem keeps_act {γ : Type} {view : State → γ} (hblind : Blind view) (act : Act)
    (hact : act.isLifecycle = false) : Keeps view act.operation := by
  cases act with
  | connect | reconnect | disconnect | shutDown | pushReceived | pushEnded => cases hact
  | probe => exact keeps_map _ hblind.keeps_probe
  | handle message => exact keeps_map _ (hblind.keeps_handle message)
  | execute command => exact keeps_map _ (hblind.keeps_execute command)
  | reportAll sensors => exact keeps_map _ (hblind.keeps_reportAll sensors)
  | setAddress address => exact keeps_map _ (keeps_modify fun s => hblind.session s _)
  | setRefreshInterval interval => exact keeps_map _ (keeps_modify fun s => hblind.session s _)
  | submit message => exact keeps_map _ (hblind.keeps_submit message)
  | dispatch => exact keeps_map _ hblind.keeps_dispatch

/-- No operation writes the settings. -/
theorem blind_settings : Blind State.settings where
  session := fun _ _ => rfl
  health := fun _ _ => rfl
  queue := fun _ _ => rfl

theorem keeps_settings_pushEnded : Keeps State.settings pushEnded := by
  intro gateway m
  rw [enact_pushEnded]
  exact m.settings_closePush

theorem keeps_settings_startPush : Keeps State.settings startPush := by
  intro gateway m
  rw [enact_startPush]
  dsimp only
  split
  · cases m.state.session.pushTarget m.state.settings with
    | error e => rfl
    | ok url =>
      dsimp only
      split
      · exact Moment.settings_closePush _
      · rfl
  · rfl

theorem keeps_settings (act : Act) : Keeps State.settings act.operation := by
  have hdisconnect : Keeps State.settings disconnect :=
    keeps_bind keeps_settings_pushEnded fun _ => blind_settings.keeps_setHealth _
  cases act with
  | connect | reconnect =>
    refine keeps_map _ (keeps_bind keeps_settings_pushEnded fun _ => ?_)
    refine keeps_bind (blind_settings.keeps_setHealth _) fun _ => ?_
    refine keeps_bind blind_settings.keeps_probe fun _ => ?_
    exact keeps_bind keeps_settings_startPush fun _ => keeps_pure _
  | disconnect => exact keeps_map _ hdisconnect
  | shutDown => exact keeps_map _ (keeps_bind hdisconnect fun _ => keeps_modify fun _ => rfl)
  | pushReceived text =>
    refine keeps_map _ (keeps_bind keeps_get fun s => ?_)
    split
    · cases Push.parse text with
      | ok message => exact keeps_liftM _
      | error e => exact keeps_pure _
    · exact keeps_pure _
  | pushEnded => exact keeps_map _ keeps_settings_pushEnded
  | _ => exact keeps_act blind_settings _ rfl

theorem settings_run (gateway : Behaviour) (acts : List Act) (m : Moment) :
    (m.run gateway acts).state.settings = m.state.settings := by
  induction acts generalizing m with
  | nil => rfl
  | cons act acts ih => exact (ih _).trans (keeps_settings act gateway m)

end ZigbeeBridge.Bridge
