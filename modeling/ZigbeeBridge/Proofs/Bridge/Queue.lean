import ZigbeeBridge.Proofs.Bridge.Effect

/-!
The queue. Apart from the acts that fill it, work it off or drop it, nothing looks at what waits in
the queue, and what waits was put there by a call for it.
-/
namespace ZigbeeBridge.Bridge

open Bus Dialogue Gateway

theorem Moment.withQueue_queue (m : Moment) : m.withQueue m.state.queue = m := rfl

theorem Moment.closePush_withQueue (m : Moment) (queue : List Message) :
    (m.withQueue queue).closePush = m.closePush.withQueue queue := by
  unfold closePush withQueue
  dsimp only
  split
  · rfl
  · rfl

namespace Operation

variable {α β : Type}

/-- Whatever waits in the queue, the operation does the same, and leaves the queue alone. -/
def Indifferent (operation : Operation α) : Prop :=
  ∀ gateway m queue, enact gateway operation (m.withQueue queue) =
    ((enact gateway operation m).1, (enact gateway operation m).2.withQueue queue)

section Parts

theorem indifferent_pure (a : α) : Indifferent (pure a) := fun _ _ _ => rfl

theorem indifferent_bind {operation : Operation α} {f : α → Operation β}
    (hoperation : Indifferent operation) (hf : ∀ a, Indifferent (f a)) :
    Indifferent (operation >>= f) := by
  intro gateway m queue
  rw [enact_bind, enact_bind, hoperation, hf]

theorem indifferent_map {operation : Operation α} (f : α → β)
    (hoperation : Indifferent operation) : Indifferent (f <$> operation) := by
  intro gateway m queue
  rw [enact_map, enact_map, hoperation]

/-- What is read of the state is no part of the queue. -/
theorem indifferent_get_bind {f : State → Operation α} (hf : ∀ s, Indifferent (f s))
    (hsame : ∀ s queue, f { s with queue } = f s) : Indifferent (get >>= f) := by
  intro gateway m queue
  rw [enact_get_bind, enact_get_bind, ← hf]
  exact congrArg (fun operation => enact gateway operation (m.withQueue queue))
    (hsame m.state queue)

theorem indifferent_modify {f : State → State}
    (hf : ∀ s queue, f { s with queue } = { f s with queue }) :
    Indifferent (modify f : Operation PUnit) := by
  intro gateway m queue
  rw [enact_modify, enact_modify]
  unfold Moment.withQueue
  dsimp only
  rw [hf]

theorem indifferent_liftM (d : Dialogue α) : Indifferent (liftM d : Operation α) := by
  intro gateway m queue
  rw [enact_liftM, enact_liftM]
  rfl

theorem indifferent_withClient (attempt : Client → Attempt Error α) :
    Indifferent (withClient attempt) := by
  intro gateway m queue
  rw [enact_withClient, enact_withClient]
  unfold Moment.withQueue
  dsimp only
  cases m.state.session.connectClient with
  | error e => rfl
  | ok found => rfl

end Parts

theorem indifferent_setHealth (health : Health) : Indifferent (setHealth health) :=
  indifferent_modify fun _ _ => rfl

theorem indifferent_setSession (session : Session) : Indifferent (setSession session) :=
  indifferent_modify fun _ _ => rfl

theorem indifferent_heed (result : Except Error α) : Indifferent (heed result) := by
  cases result with
  | ok a => exact indifferent_pure _
  | error e => exact indifferent_bind (indifferent_setHealth _) fun _ => indifferent_pure _

theorem indifferent_probe : Indifferent probe := by
  have hhealth : Indifferent (do pure (← get).health : Operation Health) :=
    indifferent_get_bind (fun _ => indifferent_pure _) fun _ _ => rfl
  unfold probe
  refine indifferent_bind (indifferent_withClient _) fun result => ?_
  cases result with
  | ok about =>
    refine indifferent_bind (indifferent_modify fun _ _ => rfl) fun _ => ?_
    exact indifferent_bind (indifferent_setHealth _) fun _ => hhealth
  | error e => exact indifferent_bind (indifferent_setHealth _) fun _ => hhealth

theorem indifferent_setAddress (address : String) : Indifferent (setAddress address) := by
  intro gateway m queue
  rw [enact_setAddress, enact_setAddress]
  unfold Moment.withQueue Moment.withSession
  dsimp only

theorem indifferent_pushEnded : Indifferent pushEnded := by
  intro gateway m queue
  rw [enact_pushEnded, enact_pushEnded, Moment.closePush_withQueue]

theorem indifferent_pushReceived (text : String) : Indifferent (pushReceived text) := by
  unfold pushReceived
  refine indifferent_get_bind (fun s => ?_) fun _ _ => rfl
  split
  · cases Push.parse text with
    | ok message => exact indifferent_liftM _
    | error e => exact indifferent_pure _
  · exact indifferent_pure _

theorem indifferent_startPush : Indifferent startPush := by
  intro gateway m queue
  rw [enact_startPush, enact_startPush]
  unfold Moment.withQueue
  dsimp only
  cases m.state.settings.pushEnabled with
  | false => rfl
  | true =>
    rw [if_pos rfl, if_pos rfl]
    cases m.state.session.pushTarget m.state.settings with
    | error e => rfl
    | ok url =>
      dsimp only
      cases m.state.shutDown with
      | false => rfl
      | true => rfl

theorem indifferent_connect : Indifferent connect := by
  refine indifferent_bind indifferent_pushEnded fun _ => ?_
  refine indifferent_bind (indifferent_setHealth _) fun _ => ?_
  refine indifferent_bind indifferent_probe fun _ => ?_
  exact indifferent_bind indifferent_startPush fun _ => indifferent_pure _

theorem indifferent_disconnect : Indifferent disconnect :=
  indifferent_bind indifferent_pushEnded fun _ => indifferent_setHealth _

theorem indifferent_execute (command : Command) : Indifferent (execute command) := by
  unfold execute
  refine indifferent_bind (indifferent_withClient _) fun result => ?_
  refine indifferent_bind (indifferent_heed result) fun result => ?_
  cases result with
  | ok event => exact indifferent_liftM _
  | error e => exact indifferent_pure _

theorem indifferent_handleEvent (event : Event) : Indifferent (handleEvent event) := by
  unfold handleEvent
  split
  · exact indifferent_pure _
  · cases Command.ofEvent? event with
    | none => exact indifferent_pure _
    | some command =>
      exact indifferent_bind (indifferent_execute command) fun _ => indifferent_pure _

theorem indifferent_reportAll (sensors : Bool) : Indifferent (reportAll sensors) := by
  unfold reportAll refresh
  refine indifferent_bind ?_ fun result => indifferent_heed result
  exact indifferent_get_bind (fun _ => indifferent_withClient _) fun _ _ => rfl

theorem indifferent_heartbeat : Indifferent heartbeat := by
  unfold heartbeat
  refine indifferent_get_bind (fun s => ?_) fun _ _ => rfl
  refine indifferent_bind (indifferent_setSession _) fun _ => ?_
  split
  · exact indifferent_pure _
  · have hrefresh : ∀ health : Health, Indifferent (do
        if health = .connected then let _ ← reportAll false
        pure true) := by
      intro health
      split
      · exact indifferent_bind (indifferent_reportAll false) fun _ => indifferent_pure _
      · exact indifferent_pure _
    refine indifferent_get_bind (fun s => ?_) fun _ _ => rfl
    split
    · exact indifferent_bind (indifferent_pure _) hrefresh
    · exact indifferent_bind indifferent_probe hrefresh

theorem indifferent_reportOne (id : String) : Indifferent (reportOne id) := by
  unfold reportOne
  refine indifferent_bind (indifferent_withClient _) fun result => ?_
  exact indifferent_bind (indifferent_heed result) fun _ => indifferent_pure _

theorem indifferent_discovered (model serial location : String) :
    Indifferent (discovered model serial location) := by
  unfold discovered
  refine indifferent_get_bind (fun s => ?_) fun _ _ => rfl
  dsimp only
  split
  · exact indifferent_pure _
  · exact indifferent_bind (indifferent_setSession _) fun _ => indifferent_pure _

theorem indifferent_handle (message : Message) : Indifferent (handle message) := by
  cases message with
  | event event => exact indifferent_handleEvent event
  | reportItems => exact indifferent_bind (indifferent_reportAll true) fun _ => indifferent_pure _
  | heartbeat => exact indifferent_heartbeat
  | reportLight id => exact indifferent_bind (indifferent_reportOne id) fun _ => indifferent_pure _
  | discovered model serial location => exact indifferent_discovered model serial location

theorem indifferent_handleAll (messages : List Message) : Indifferent (handleAll messages) := by
  induction messages with
  | nil => exact indifferent_pure _
  | cons message rest ih => exact indifferent_bind (indifferent_handle message) fun _ => ih

end Operation

open Operation

/-- Whether an act has to do with the queue. -/
def Act.queues : Act → Bool
  | shutDown | submit _ | dispatch => true
  | _ => false

theorem indifferent_act (act : Act) (hact : act.queues = false) : Indifferent act.operation := by
  cases act with
  | shutDown | submit | dispatch => cases hact
  | connect | reconnect => exact indifferent_map _ indifferent_connect
  | probe => exact indifferent_map _ indifferent_probe
  | disconnect => exact indifferent_map _ indifferent_disconnect
  | handle message => exact indifferent_map _ (indifferent_handle message)
  | execute command => exact indifferent_map _ (indifferent_execute command)
  | reportAll sensors => exact indifferent_map _ (indifferent_reportAll sensors)
  | setAddress address => exact indifferent_map _ (indifferent_setAddress address)
  | setRefreshInterval interval => exact indifferent_map _ (indifferent_modify fun _ _ => rfl)
  | pushReceived text => exact indifferent_map _ (indifferent_pushReceived text)
  | pushEnded => exact indifferent_map _ indifferent_pushEnded

section Waiting

variable (gateway : Behaviour)

/-- An operation that does not care for the queue leaves it as it is. -/
theorem queue_of_indifferent {α : Type} {operation : Operation α} (hsame : Indifferent operation)
    (m : Moment) : (enact gateway operation m).2.state.queue = m.state.queue := by
  have hqueue := hsame gateway m m.state.queue
  rw [m.withQueue_queue] at hqueue
  rw [hqueue]
  rfl

/-- What an act leaves in the queue. -/
theorem queue_step (act : Act) (m : Moment) :
    (act.step gateway m).state.queue =
      match act with
      | .shutDown | .dispatch => []
      | .submit message =>
        if m.state.shutDown then m.state.queue else m.state.queue ++ [message]
      | _ => m.state.queue := by
  unfold Act.step
  cases act with
  | shutDown =>
    unfold Act.operation
    rw [enact_map, enact_shutDown]
  | dispatch =>
    unfold Act.operation
    rw [enact_map, enact_dispatch]
    exact queue_of_indifferent gateway (indifferent_handleAll _) _
  | submit message =>
    unfold Act.operation
    rw [enact_map, enact_submit]
    split
    · rfl
    · rfl
  | _ => exact queue_of_indifferent gateway (indifferent_act _ rfl) m

theorem submitted_of_queue (act : Act) (m : Moment) :
    ∀ message ∈ (act.step gateway m).state.queue,
      message ∈ m.state.queue ∨ act = .submit message := by
  intro message hmem
  rw [queue_step] at hmem
  cases act with
  | shutDown | dispatch => cases hmem
  | submit submitted =>
    dsimp only at hmem
    split at hmem
    · exact Or.inl hmem
    · rcases List.mem_append.mp hmem with hbefore | hlast
      · exact Or.inl hbefore
      · rw [List.mem_singleton.mp hlast]
        exact Or.inr rfl
  | _ => exact Or.inl hmem

/-- An operation of a run is one of its acts, or a message is handled that waited before the run or
was put into the queue by one of its acts. -/
theorem act_of_operations (acts : List Act) (m : Moment) :
    ∀ part ∈ operations gateway m acts, part.2 ∈ acts ∨ ∃ message, part.2 = .handle message ∧
      (message ∈ m.state.queue ∨ .submit message ∈ acts) := by
  induction acts generalizing m with
  | nil => simp [operations, turns]
  | cons act acts ih =>
    intro part hpart
    rcases List.mem_append.mp hpart with hfirst | hrest
    · unfold Act.operations at hfirst
      split at hfirst
      · have hmem := act_of_turns gateway _ _ part hfirst
        obtain ⟨message, hqueued, hmessage⟩ := List.mem_map.mp hmem
        exact Or.inr ⟨message, hmessage.symm, Or.inl hqueued⟩
      · rw [List.mem_singleton.mp hfirst]
        exact Or.inl List.mem_cons_self
    · rcases ih (act.step gateway m) part hrest with hmem | ⟨message, hmessage, hqueued | hmem⟩
      · exact Or.inl (List.mem_cons_of_mem _ hmem)
      · refine Or.inr ⟨message, hmessage, ?_⟩
        rcases submitted_of_queue gateway act m message hqueued with hbefore | rfl
        · exact Or.inl hbefore
        · exact Or.inr List.mem_cons_self
      · exact Or.inr ⟨message, hmessage, Or.inr (List.mem_cons_of_mem _ hmem)⟩

end Waiting

end ZigbeeBridge.Bridge
