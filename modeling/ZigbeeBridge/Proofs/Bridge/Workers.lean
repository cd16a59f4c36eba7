import ZigbeeBridge.Proofs.Bridge.Barred
import ZigbeeBridge.Proofs.Bridge.Effect

/-!
The tasks in the background: the dispatcher, which handles what waits in the queue, and those that
submit heartbeats. They are told to stop by a shutdown, which returns when all that were at work have
ended. From then on nothing goes on in the background any more, whatever is done to the bridge.
-/
namespace ZigbeeBridge.Bridge

open Bus Dialogue Gateway Push Operation

/-- What the dispatcher is at. -/
inductive Dispatcher where
  | absent
  | waiting
  | handling (message : Message)
  | ended
  deriving DecidableEq, Repr

/-- It is started once, by whoever needs it first. -/
def Dispatcher.start : Dispatcher → Dispatcher
  | absent => waiting
  | dispatcher => dispatcher

/-- How far a shutdown has come with the workers. -/
inductive Closing where
  | running
  /-- They are told to stop. It waits for the dispatcher, if there was one then, and for as many
  heartbeat tasks as there were. -/
  | waiting (dispatcher : Bool) (hearts : Nat)
  | returned
  deriving DecidableEq, Repr

/-- A bridge with its workers. A worker is known to the shutdown as soon as it runs. -/
structure Crew where
  tasks : Tasks
  dispatcher : Dispatcher
  /-- The heartbeat tasks in the order in which they were started, and whether each still runs. -/
  hearts : List Bool
  closing : Closing
  /-- What the dispatcher has begun to handle, in order. -/
  taken : List Message
  /-- How many heartbeats the tasks have submitted. -/
  beats : Nat
  deriving Repr

namespace Crew

open Tasks (sampleSettings welcoming)

/-- One turn of somebody. -/
inductive Turn where
  | task (step : Step)
  | startHeartbeat
  | dispatcher
  | heart (i : Nat)
  /-- The shutdown looks whether the workers have ended. -/
  | join
  deriving DecidableEq, Repr

def start (settings : Settings) : Crew := ⟨.start settings, .absent, [], .running, [], 0⟩

abbrev moment (c : Crew) : Moment := c.tasks.moment

def isDown (c : Crew) : Bool := c.moment.state.shutDown

/-- The dispatcher is started for a message, but not after a shutdown. -/
def submit (gateway : Behaviour) (c : Crew) (message : Message) : Crew :=
  { c with
    tasks := c.tasks.step gateway (.act (.submit message))
    dispatcher := if c.isDown then c.dispatcher else c.dispatcher.start }

/-- The turn of an operation or a connection. A connect sees to it that there is a dispatcher before
it probes, and at its turn a shutdown tells the workers to stop. -/
def follow (c : Crew) (tasks : Tasks) : Crew :=
  { c with
    tasks
    dispatcher := if tasks.stage = .probing then c.dispatcher.start else c.dispatcher
    closing :=
      if tasks.moment.state.shutDown && !c.isDown then
        .waiting (c.dispatcher != .absent) c.hearts.length
      else c.closing }

/-- The dispatcher looks first whether it is to stop. -/
def dispatch (gateway : Behaviour) (c : Crew) : Crew :=
  match c.dispatcher with
  | .absent | .ended => c
  | .waiting =>
    if c.isDown then { c with dispatcher := .ended }
    else
      match c.moment.state.queue with
      | [] => c
      | message :: rest =>
        { c with
          tasks := c.tasks.goOn none (c.moment.withQueue rest)
          dispatcher := .handling message
          taken := c.taken ++ [message] }
  | .handling message =>
    { c with tasks := c.tasks.step gateway (.act (.handle message)), dispatcher := .waiting }

/-- So does a heartbeat task. -/
def beat (gateway : Behaviour) (c : Crew) (i : Nat) : Crew :=
  match c.hearts[i]? with
  | some true =>
    if c.isDown then { c with hearts := c.hearts.set i false }
    else { c.submit gateway .heartbeat with beats := c.beats + 1 }
  | _ => c

def haveEnded (c : Crew) (dispatcher : Bool) (hearts : Nat) : Bool :=
  (!dispatcher || c.dispatcher == .ended) && !(c.hearts.take hearts).contains true

def join (c : Crew) : Crew :=
  match c.closing with
  | .waiting dispatcher hearts =>
    if c.haveEnded dispatcher hearts then { c with closing := .returned } else c
  | _ => c

/-- The queue is worked off by the dispatcher alone. -/
def step (gateway : Behaviour) (c : Crew) : Turn → Crew
  | .task (.act .dispatch) => c
  | .task (.act (.submit message)) => c.submit gateway message
  | .task step => c.follow (c.tasks.step gateway step)
  | .startHeartbeat => { c with hearts := c.hearts ++ [true] }
  | .dispatcher => c.dispatch gateway
  | .heart i => c.beat gateway i
  | .join => c.join

def run (gateway : Behaviour) (c : Crew) (turns : List Turn) : Crew :=
  turns.foldl (step gateway) c

def reached (gateway : Behaviour) (settings : Settings) (turns : List Turn) : Crew :=
  (start settings).run gateway turns

variable {c c' : Crew} (gateway : Behaviour)

inductive Does (c : Crew) : Tasks → Prop
  | nothing : Does c c.tasks
  | step (step : Step) : Does c (c.tasks.step gateway step)
  | takes (rest : List Message) : Does c (c.tasks.goOn none (c.moment.withQueue rest))

theorem does_step (turn : Turn) : c.Does gateway (c.step gateway turn).tasks := by
  have hstep : ∀ step, c.Does gateway (c.tasks.step gateway step) := .step
  cases turn with
  | task step =>
    have hdoes := hstep step
    cases step with
    | act act => cases act <;> first | exact hdoes | exact .nothing
    | call call | proceed | see i sight | hear i => exact hdoes
  | startHeartbeat => exact .nothing
  | dispatcher =>
    change c.Does gateway (c.dispatch gateway).tasks
    unfold dispatch
    split
    · exact .nothing
    · exact .nothing
    · split
      · exact .nothing
      · split
        · exact .nothing
        · exact .takes _
    · rename_i message _
      exact hstep (.act (.handle message))
  | heart i =>
    change c.Does gateway (c.beat gateway i).tasks
    unfold beat
    split
    · split
      · exact .nothing
      · exact hstep (.act (.submit .heartbeat))
    · exact .nothing
  | join =>
    change c.Does gateway c.join.tasks
    unfold join
    split
    · split
      · exact .nothing
      · exact .nothing
    · exact .nothing

theorem takes_events (c : Crew) (rest : List Message) :
    (c.moment.withQueue rest).trace.events = c.moment.trace.events ++ [] :=
  (List.append_nil _).symm

theorem isDown_step (turn : Turn) (hdown : c.isDown = true) :
    (c.step gateway turn).isDown = true := by
  have hdoes := c.does_step gateway turn
  unfold isDown moment at hdown ⊢
  generalize (c.step gateway turn).tasks = t at hdoes
  cases hdoes with
  | nothing => exact hdown
  | step step => exact Tasks.shutDown_step_of_down gateway step hdown
  | takes rest => exact hdown

theorem start_eq_handling {dispatcher : Dispatcher} {message : Message}
    (hhandling : dispatcher.start = .handling message) : dispatcher = .handling message := by
  cases dispatcher with
  | absent => cases hhandling
  | waiting | handling | ended => exact hhandling

/-- After a shutdown the workers begin nothing any more. -/
structure Rests (c c' : Crew) : Prop where
  taken : c'.taken = c.taken
  beats : c'.beats = c.beats
  handling : ∀ message, c'.dispatcher = .handling message → c.dispatcher = .handling message

theorem rests_refl (c : Crew) : c.Rests c := ⟨rfl, rfl, fun _ h => h⟩

theorem rests_submit (c : Crew) (message : Message) (hdown : c.isDown = true) :
    c.Rests (c.submit gateway message) := by
  refine ⟨rfl, rfl, fun message' hhandling => ?_⟩
  unfold submit at hhandling
  rwa [if_pos hdown] at hhandling

theorem rests_follow (c : Crew) (t : Tasks) : c.Rests (c.follow t) := by
  refine ⟨rfl, rfl, fun message hhandling => ?_⟩
  unfold follow at hhandling
  dsimp only at hhandling
  split at hhandling
  · exact start_eq_handling hhandling
  · exact hhandling

theorem rests_dispatch (c : Crew) (hdown : c.isDown = true) : c.Rests (c.dispatch gateway) := by
  unfold dispatch
  split
  · exact c.rests_refl
  · exact c.rests_refl
  · rw [if_pos hdown]
    exact ⟨rfl, rfl, fun message hhandling => by cases hhandling⟩
  · exact ⟨rfl, rfl, fun message hhandling => by cases hhandling⟩

theorem rests_beat (c : Crew) (i : Nat) (hdown : c.isDown = true) :
    c.Rests (c.beat gateway i) := by
  unfold beat
  split
  · rw [if_pos hdown]
    exact ⟨rfl, rfl, fun _ h => h⟩
  · exact c.rests_refl

theorem rests_step (turn : Turn) (hdown : c.isDown = true) : c.Rests (c.step gateway turn) := by
  cases turn with
  | task step =>
    cases step with
    | act act =>
      cases act with
      | dispatch => exact c.rests_refl
      | submit message => exact c.rests_submit gateway message hdown
      | _ => exact c.rests_follow _
    | call call | proceed | see i sight | hear i => exact c.rests_follow _
  | startHeartbeat => exact ⟨rfl, rfl, fun _ h => h⟩
  | dispatcher => exact c.rests_dispatch gateway hdown
  | heart i => exact c.rests_beat gateway i hdown
  | join =>
    change c.Rests c.join
    unfold join
    split
    · split
      · exact ⟨rfl, rfl, fun _ h => h⟩
      · exact c.rests_refl
    · exact c.rests_refl

/-- What a turn can do to the shutdown of the workers. -/
inductive Closes (c c' : Crew) : Prop
  | stays (hsame : c'.closing = c.closing)
  | tells (hrests : c.Rests c') (hdown : c'.isDown = true)
      (hwaiting : c'.closing = .waiting (c.dispatcher != .absent) c.hearts.length)
  | returns {dispatcher : Bool} {hearts : Nat} (hwaiting : c.closing = .waiting dispatcher hearts)
      (hended : c.haveEnded dispatcher hearts = true)
      (hreturns : c' = { c with closing := .returned })

theorem closes_follow (c : Crew) (t : Tasks) : c.Closes (c.follow t) := by
  by_cases hshuts : (t.moment.state.shutDown && !c.isDown) = true
  · have hdown := (Bool.and_eq_true _ _ ▸ hshuts).1
    exact .tells (c.rests_follow t) hdown (if_pos hshuts)
  · exact .stays (if_neg hshuts)

theorem closing_dispatch (c : Crew) : (c.dispatch gateway).closing = c.closing := by
  unfold dispatch
  split
  · rfl
  · rfl
  · split
    · rfl
    · split
      · rfl
      · rfl
  · rfl

theorem closing_beat (c : Crew) (i : Nat) : (c.beat gateway i).closing = c.closing := by
  unfold beat
  split
  · split
    · rfl
    · rfl
  · rfl

theorem closes_join (c : Crew) : c.Closes c.join := by
  unfold join
  split
  · rename_i dispatcher hearts hwaiting
    split
    · rename_i hended
      exact .returns hwaiting hended rfl
    · exact .stays rfl
  · exact .stays rfl

theorem closes_step (turn : Turn) : c.Closes (c.step gateway turn) := by
  cases turn with
  | task step =>
    cases step with
    | act act =>
      cases act with
      | dispatch | submit message => exact .stays rfl
      | _ => exact c.closes_follow _
    | call call | proceed | see i sight | hear i => exact c.closes_follow _
  | startHeartbeat => exact .stays rfl
  | dispatcher => exact .stays (c.closing_dispatch gateway)
  | heart i => exact .stays (c.closing_beat gateway i)
  | join => exact c.closes_join

/-- While a shutdown waits, the dispatcher handles something only if it is waited for; once it has
returned, the dispatcher handles nothing. -/
def Stopping (c : Crew) : Prop :=
  match c.closing with
  | .running => True
  | .waiting dispatcher _ =>
    c.isDown = true ∧ ∀ message, c.dispatcher = .handling message → dispatcher = true
  | .returned => c.isDown = true ∧ ∀ message, c.dispatcher ≠ .handling message

theorem Stopping.step (hstopping : c.Stopping) (turn : Turn) :
    (c.step gateway turn).Stopping := by
  have hcloses := c.closes_step gateway turn
  unfold Stopping at hstopping ⊢
  -- Whom the shutdown waits for is settled when they are told to stop: nobody begins after that.
  cases hcloses with
  | stays hsame =>
    rw [hsame]
    split
    · trivial
    · rename_i dispatcher hearts hwaiting
      rw [hwaiting] at hstopping
      obtain ⟨hdown, hawaited⟩ := hstopping
      have hrests := c.rests_step gateway turn hdown
      exact ⟨c.isDown_step gateway turn hdown, fun message hhandling =>
        hawaited message (hrests.handling message hhandling)⟩
    · rename_i hreturned
      rw [hreturned] at hstopping
      obtain ⟨hdown, hrested⟩ := hstopping
      have hrests := c.rests_step gateway turn hdown
      exact ⟨c.isDown_step gateway turn hdown, fun message hhandling =>
        hrested message (hrests.handling message hhandling)⟩
  | tells hrests hdown hwaiting =>
    rw [hwaiting]
    refine ⟨hdown, fun message hhandling => ?_⟩
    rw [hrests.handling message hhandling]
    rfl
  | returns hwaiting hended hreturns =>
    rw [hwaiting] at hstopping
    obtain ⟨hdown, hawaited⟩ := hstopping
    rw [hreturns]
    refine ⟨hdown, fun message hhandling => ?_⟩
    have hthere := hawaited message hhandling
    unfold haveEnded at hended
    rw [hthere, show c.dispatcher = .handling message from hhandling] at hended
    cases hended

/-- A bridge and its workers are in order. -/
structure Sound (c : Crew) : Prop where
  tasks : c.tasks.Sound
  current : c.moment.state.session.Current
  barred : c.isDown = true → c.tasks.Barred
  stopping : c.Stopping

theorem sound_start (settings : Settings) : (start settings).Sound where
  tasks := Tasks.sound_start settings
  current := Session.current_start settings
  barred := by
    intro hdown
    cases hdown
  stopping := trivial

theorem Sound.step (hsound : c.Sound) (turn : Turn) : (c.step gateway turn).Sound := by
  have hdoes := c.does_step gateway turn
  have hstopping := hsound.stopping.step gateway turn
  suffices h : ∀ t, c.Does gateway t →
      t.Sound ∧ t.moment.state.session.Current ∧ (t.moment.state.shutDown = true → t.Barred) by
    obtain ⟨htasks, hcurrent, hbarred⟩ := h _ hdoes
    exact ⟨htasks, hcurrent, hbarred, hstopping⟩
  intro t hdoes
  cases hdoes with
  | nothing => exact ⟨hsound.tasks, hsound.current, hsound.barred⟩
  | step step =>
    exact ⟨hsound.tasks.step gateway step, Tasks.current_step gateway step hsound.current,
      hsound.tasks.barred_step gateway step hsound.barred⟩
  | takes rest =>
    exact ⟨hsound.tasks.goOn none rfl rfl (c.takes_events rest), hsound.current, hsound.barred⟩

theorem Sound.run (hsound : c.Sound) (turns : List Turn) : (c.run gateway turns).Sound := by
  induction turns generalizing c with
  | nil => exact hsound
  | cons turn turns ih => exact ih (hsound.step gateway turn)

/-! After a shutdown has had its turn. -/

/-- Between the two the bridge is down, and its workers and connections begin nothing. -/
structure Quiet (c c' : Crew) : Prop where
  down : c'.isDown = true
  rests : c.Rests c'
  cameOver : ∀ i, c'.tasks.cameOver i = c.tasks.cameOver i

theorem quiet_of_isDown (hdown : c.isDown = true) : c.Quiet c :=
  ⟨hdown, c.rests_refl, fun _ => rfl⟩

theorem Rests.trans {c'' : Crew} (hrests : c.Rests c') (hrests' : c'.Rests c'') : c.Rests c'' where
  taken := hrests'.taken.trans hrests.taken
  beats := hrests'.beats.trans hrests.beats
  handling := fun message hhandling => hrests.handling message (hrests'.handling message hhandling)

theorem Quiet.step (hquiet : c.Quiet c') (hsound : c'.Sound) (turn : Turn) :
    c.Quiet (c'.step gateway turn) := by
  refine ⟨c'.isDown_step gateway turn hquiet.down,
    hquiet.rests.trans (c'.rests_step gateway turn hquiet.down), fun i => ?_⟩
  rw [← hquiet.cameOver i]
  have hdoes := c'.does_step gateway turn
  generalize (c'.step gateway turn).tasks = t at hdoes
  cases hdoes with
  | nothing => rfl
  | step step =>
    exact hsound.tasks.cameOver_step_of_barred (hsound.barred hquiet.down) gateway step i
  | takes rest => exact Tasks.cameOver_goOn_none (c'.takes_events rest) i

theorem Quiet.run (hquiet : c.Quiet c') (hsound : c'.Sound) (turns : List Turn) :
    c.Quiet (c'.run gateway turns) := by
  induction turns generalizing c' with
  | nil => exact hquiet
  | cons turn turns ih =>
    exact ih (hquiet.step gateway hsound turn) (hsound.step gateway turn)

theorem tasks_run (steps : List Step) (hsteps : ∀ step ∈ steps, ∀ act, step ≠ .act act) :
    (c.run gateway (steps.map .task)).tasks = c.tasks.run gateway steps := by
  induction steps generalizing c with
  | nil => rfl
  | cons step steps ih =>
    have hfirst : (c.step gateway (.task step)).tasks = c.tasks.step gateway step := by
      cases step with
      | act act => exact absurd rfl (hsteps _ (List.mem_cons_self ..) act)
      | call call | proceed | see i sight | hear i => rfl
    have hrest := ih (c := c.step gateway (.task step)) fun step' hstep' =>
      hsteps step' (List.mem_cons_of_mem _ hstep')
    rw [hfirst] at hrest
    exact hrest

theorem ne_act_of_sequence (t : Tasks) (call : Lifecycle) :
    ∀ step ∈ t.sequence call, ∀ act, step ≠ .act act := by
  intro step hstep act hact
  subst hact
  unfold Tasks.sequence Tasks.hangUp at hstep
  cases hheld : t.held <;> simp [hheld] at hstep

/-- What there is no more from the turn of a shutdown on. -/
structure Final (c c' : Crew) : Prop where
  /-- A message is refused, and nothing comes of it. -/
  submit : ∀ message, enact gateway (Operation.submit message) c'.moment =
    (.error .shutDown, c'.moment)
  taken : c'.taken = c.taken
  /-- The dispatcher at most ends what it is at, and the shutdown does not return before. -/
  handling : ∀ message, c'.dispatcher = .handling message →
    c.dispatcher = .handling message ∧ c'.closing ≠ .returned
  beats : c'.beats = c.beats
  isOpen : ∀ (i : Nat) (line : Line), c'.tasks.lines[i]? = some line → line.isOpen = false
  cameOver : ∀ i, c'.tasks.cameOver i = c.tasks.cameOver i
  /-- What a connect makes ends as soon as it has its turns, and leaves the bridge disconnected. -/
  ends : ∀ (i : Nat) (line : Line) (sight : Sight), c'.tasks.lines[i]? = some line →
    line.listening = true →
      (c'.run gateway [.task (.see i sight), .task (.hear i)]).moment.state.health = .disconnected
  /-- So does a connect as a whole. -/
  connect : c'.moment.state.settings.pushEnabled = true → c'.tasks.stage = .idle →
    ∀ call : Lifecycle, call.isConnect = true →
      (c'.run gateway ((c'.tasks.sequence call).map .task)).moment.state.health = .disconnected

theorem Quiet.ends (hquiet : c.Quiet c') (hsound : c'.Sound) {i : Nat} {line : Line}
    (sight : Sight) (hline : c'.tasks.lines[i]? = some line) (hlistening : line.listening = true) :
    (c'.run gateway [.task (.see i sight), .task (.hear i)]).moment.state.health =
      .disconnected := by
  have hbarred := hsound.barred hquiet.down i line hline hlistening
  have hcloses := hbarred.closes (hsound.tasks.tidy.line i line hline) hlistening sight
  have hseen := Tasks.line_withLine hline (·.see sight)
  have hheard := Tasks.line_withLine hseen Line.hear
  have hlistening' : (line.see sight).listening = true :=
    (line.turn_see sight).kept.2.2.2.trans hlistening
  have hstops := (hsound.tasks.see i sight).state_of_stops gateway (.hear i) hseen hlistening' hheard
    (by rw [Line.listening_hear, hcloses]; exact Bool.and_false _)
  exact congrArg State.health hstops

theorem Quiet.connect (hquiet : c.Quiet c') (hsound : c'.Sound)
    (hpush : c'.moment.state.settings.pushEnabled = true) (hidle : c'.tasks.stage = .idle)
    {call : Lifecycle} (hconnect : call.isConnect = true) :
    (c'.run gateway ((c'.tasks.sequence call).map .task)).moment.state.health =
      .disconnected := by
  unfold moment
  rw [tasks_run gateway _ (ne_act_of_sequence c'.tasks call),
    hsound.tasks.run_sequence_of_barred (hsound.barred hquiet.down) gateway hidle call]
  have hwhole := health_connect_of_shutDown gateway hsound.current hquiet.down hpush
  unfold Act.step Act.operation Lifecycle.act
  cases call with
  | connect | reconnect =>
    dsimp only
    rwa [enact_map]
  | disconnect | shutDown => cases hconnect

/-- A shutdown is final. From its turn on, whatever is done to the bridge, its workers and its
connections: no message is queued, none is taken from the queue, and none is handled by the
dispatcher once the shutdown has returned; no heartbeat is submitted, no push connection is open and
nothing comes over one; and a connect leaves the bridge disconnected if it is to have a push
connection, whatever the probe is answered. -/
theorem final_reached (settings : Settings) (turns later : List Turn)
    (hdown : (reached gateway settings turns).isDown = true) :
    (reached gateway settings turns).Final gateway
      ((reached gateway settings turns).run gateway later) := by
  have hsound : (reached gateway settings turns).Sound := (sound_start settings).run gateway turns
  have hquiet := (quiet_of_isDown hdown).run gateway hsound later
  have hsound' := hsound.run gateway later
  refine ⟨fun message => ?_, hquiet.rests.taken, fun message hhandling => ⟨?_, ?_⟩,
    hquiet.rests.beats, fun i line hline => ?_, hquiet.cameOver,
    fun i line sight hline hlistening => ?_, fun hpush hidle call hconnect => ?_⟩
  · rw [enact_submit]
    exact if_pos hquiet.down
  · exact hquiet.rests.handling message hhandling
  · intro hreturned
    have hstopping := hsound'.stopping
    unfold Stopping at hstopping
    rw [hreturned] at hstopping
    exact hstopping.2 message hhandling
  · exact hsound'.tasks.isOpen_eq_false (hsound'.barred hquiet.down) hline
  · exact hquiet.ends gateway hsound' sight hline hlistening
  · exact hquiet.connect gateway hsound' hpush hidle hconnect

/-- Turns of a bridge that is connected, is told to report and sends a heartbeat before it is shut
down. The report is taken from the queue in time, and the heartbeat is not. -/
def sampleTurns : List Turn :=
  [.task (.call .connect), .task .proceed, .task .proceed, .task .proceed,
    .task (.see 0 .opened), .task (.hear 0), .startHeartbeat, .task (.act (.submit .reportItems)),
    .heart 0, .dispatcher, .task (.call .shutDown), .task (.see 0 .opened), .task (.hear 0),
    .task .proceed, .join, .dispatcher, .dispatcher, .join, .heart 0, .join]

/-- A connect and a submit that come too late, with turns for whoever could still do something. -/
def lateTurns : List Turn :=
  [.task (.act (.submit .heartbeat)), .startHeartbeat, .heart 1, .dispatcher,
    .task (.call .connect), .task .proceed, .task .proceed, .task .proceed]

theorem final_reached_sample :
    (reached welcoming sampleSettings sampleTurns).isDown = true ∧
      (reached welcoming sampleSettings sampleTurns).closing = .returned ∧
      (reached welcoming sampleSettings sampleTurns).taken = [.reportItems] ∧
      (reached welcoming sampleSettings sampleTurns).beats = 1 ∧
      ((reached welcoming sampleSettings sampleTurns).run welcoming lateTurns).tasks.lines.map
        Line.listening = [false, true] ∧
      (reached welcoming sampleSettings sampleTurns).Final welcoming
        ((reached welcoming sampleSettings sampleTurns).run welcoming lateTurns) := by
  have hdown : (reached welcoming sampleSettings sampleTurns).isDown = true := by
    decide +kernel
  exact ⟨hdown, by decide +kernel, by decide +kernel, by decide +kernel, by decide +kernel,
    final_reached welcoming sampleSettings sampleTurns lateTurns hdown⟩

end Crew

end ZigbeeBridge.Bridge
