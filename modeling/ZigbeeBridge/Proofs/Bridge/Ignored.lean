import ZigbeeBridge.Proofs.Bridge.Command
import ZigbeeBridge.Proofs.Bridge.Queue

/-!
Messages that do not count. Events that are no commands and announcements of other gateways change
nothing, so a run is the same without them, and nobody but the gateways that the bridge was told of
is asked for anything.
-/
namespace ZigbeeBridge.Bridge

open Bus Gateway Operation
open Dialogue (Attempt Behaviour Trace)

/-- The messages that a bridge of this identity ignores. -/
inductive Ignored (identity : String) : Message → Prop where
  | inbound (event : Event) (hin : event.direction = .inbound) : Ignored identity (.event event)
  | sensor (event : Event) (hlight : event.kind ≠ .light) (hgroup : event.kind ≠ .group) :
      Ignored identity (.event event)
  | nameless (event : Event) (hid : event.id? = none ∨ event.id? = some "") :
      Ignored identity (.event event)
  | wordless (event : Event) (hon : event.text? Attribute.command ≠ some "On")
      (hoff : event.text? Attribute.command ≠ some "Off") : Ignored identity (.event event)
  | otherMake (model serial location : String) (hmodel : ¬modelStart <+: model.toList) :
      Ignored identity (.discovered model serial location)
  | otherSerial (model serial location : String) (hserial : serial ≠ identity) :
      Ignored identity (.discovered model serial location)
  | noIdentity (model serial location : String) (hidentity : identity = "") :
      Ignored identity (.discovered model serial location)

def Message.isCommand : Message → Bool
  | .event e => isOurs e
  | _ => false

section Messages

variable {identity : String} {event : Event} {message : Message}

theorem ofEvent?_of_ignored (hignored : Ignored identity (.event event)) :
    isOurs event = false ∨ Command.ofEvent? event = none := by
  cases hignored with
  | inbound _ hin => exact Or.inl (by simp [isOurs, hin])
  | sensor _ hlight hgroup =>
    have htarget : Command.target? event.kind = none := by
      unfold Command.target?
      split
      · exact absurd ‹_› hlight
      · exact absurd ‹_› hgroup
      · rfl
    exact Or.inl (by simp [isOurs, htarget])
  | nameless _ hid =>
    right
    unfold Command.ofEvent?
    split
    · rfl
    · cases Command.target? event.kind with
      | none => rfl
      | some target =>
        rcases hid with hid | hid
        · rw [hid]
          rfl
        · rw [hid]
          rfl
  | wordless _ hon hoff =>
    right
    have hchange : Command.change? event = none := by
      unfold Command.change?
      split
      · exact absurd ‹_› hoff
      · exact absurd ‹_› hon
      · rfl
    unfold Command.ofEvent?
    rw [hchange]
    split
    · rfl
    · cases Command.target? event.kind with
      | none => rfl
      | some target =>
        cases event.id?.filter (· ≠ "") with
        | none => rfl
        | some id => rfl

theorem recognizes_iff (s : Session) (model serial : String) :
    s.recognizes model serial = true ↔
      modelStart <+: model.toList ∧ s.identity ≠ "" ∧ serial = s.identity := by
  unfold Session.recognizes
  rw [Bool.and_eq_true, Bool.and_eq_true, List.isPrefixOf_iff_prefix, bne_iff_ne, beq_iff_eq,
    and_assoc, @eq_comm _ serial]

theorem recognizes_of_ignored {s : Session} {model serial location : String}
    (hignored : Ignored s.identity (.discovered model serial location)) :
    s.recognizes model serial = false := by
  refine Bool.eq_false_iff.mpr fun hknown => ?_
  obtain ⟨hmake, hidentity, hserial⟩ := (recognizes_iff s model serial).mp hknown
  cases hignored with
  | otherMake _ _ _ hmodel => exact hmodel hmake
  | otherSerial _ _ _ hother => exact hother hserial
  | noIdentity _ _ _ hnone => exact hidentity hnone

/-- An ignored message changes nothing at all. -/
theorem handle_ignored (gateway : Behaviour) (m : Moment)
    (hignored : Ignored m.state.session.identity message) :
    enact gateway (handle message) m = (message.isCommand, m) := by
  rw [enact_handle]
  cases message with
  | event event =>
    dsimp only [Message.isCommand]
    rw [enact_handleEvent]
    rcases ofEvent?_of_ignored hignored with hforeign | hnone
    · rw [hforeign]
      rfl
    · rw [hnone]
      cases isOurs event with
      | true => rfl
      | false => rfl
  | discovered model serial location =>
    dsimp only
    rw [enact_announced, recognizes_of_ignored hignored]
    rfl
  | reportItems | heartbeat | reportLight => cases hignored

end Messages

/-- What an act answers, asks for, publishes and leaves of the health. -/
structure Observation where
  reply : Reply
  requests : List Request
  events : List Event
  health : Health

section Runs

variable (gateway : Behaviour)

def observe (turn : Moment × Act) : Observation where
  reply := (enact gateway turn.2.operation turn.1).1
  requests := asked gateway turn
  events := (turn.2.step gateway turn.1).trace.events.drop turn.1.trace.events.length
  health := (turn.2.step gateway turn.1).state.health

def observations (m : Moment) (acts : List Act) : List Observation :=
  (turns gateway m acts).map (observe gateway)

/-- One queue is the other one without some messages that are ignored. -/
inductive Thinned (identity : String) : List Message → List Message → Prop
  | nil : Thinned identity [] []
  | keep (message : Message) {queue queue' : List Message}
      (hrest : Thinned identity queue queue') :
      Thinned identity (message :: queue) (message :: queue')
  | drop {message : Message} {queue queue' : List Message} (hignored : Ignored identity message)
      (hrest : Thinned identity queue queue') : Thinned identity (message :: queue) queue'

variable {identity : String} {queue queue' : List Message}

theorem Thinned.append_keep (hthinned : Thinned identity queue queue') (message : Message) :
    Thinned identity (queue ++ [message]) (queue' ++ [message]) := by
  induction hthinned with
  | nil => exact .keep message .nil
  | keep first _ ih => exact .keep first ih
  | drop hignored _ ih => exact .drop hignored ih

theorem Thinned.append_drop (hthinned : Thinned identity queue queue') {message : Message}
    (hignored : Ignored identity message) : Thinned identity (queue ++ [message]) queue' := by
  induction hthinned with
  | nil => exact .drop hignored .nil
  | keep first _ ih => exact .keep first ih
  | drop hfirst _ ih => exact .drop hfirst ih

theorem identity_step (act : Act) (m : Moment) :
    (act.step gateway m).state.session.identity = m.state.session.identity :=
  identity_path (path_act gateway act m)

theorem handleAll_thinned (hthinned : Thinned identity queue queue') (m : Moment)
    (hidentity : m.state.session.identity = identity) :
    enact gateway (handleAll queue) m = enact gateway (handleAll queue') m := by
  induction hthinned generalizing m with
  | nil => rfl
  | keep message _ ih =>
    rw [enact_handleAll_cons, enact_handleAll_cons]
    have hkept := identity_step gateway (.handle message) m
    unfold Act.step Act.operation at hkept
    rw [enact_map] at hkept
    exact ih _ (hkept.trans hidentity)
  | drop hignored _ ih =>
    rw [enact_handleAll_cons, handle_ignored gateway m (hidentity ▸ hignored)]
    exact ih m hidentity

/-- The moments differ in nothing but that in the second some messages do not wait that are
ignored. -/
structure Twins (identity : String) (m m' : Moment) : Prop where
  same : m' = m.withQueue m'.state.queue
  queue : Thinned identity m.state.queue m'.state.queue
  identity : m.state.session.identity = identity

variable {m m' : Moment}

theorem twins_withQueue {queue : List Message} (hqueue : Thinned identity m.state.queue queue)
    (hidentity : m.state.session.identity = identity) : Twins identity m (m.withQueue queue) :=
  ⟨rfl, hqueue, hidentity⟩

theorem Twins.enact_act (htwins : Twins identity m m') (act : Act) :
    ∃ queue, enact gateway act.operation m' =
        ((enact gateway act.operation m).1, (enact gateway act.operation m).2.withQueue queue) ∧
      Thinned identity (enact gateway act.operation m).2.state.queue queue := by
  obtain ⟨hsame, hqueue, hidentity⟩ := htwins
  generalize m'.state.queue = queue at hsame hqueue
  subst hsame
  -- Only the acts that have to do with the queue can tell the two apart.
  cases hact : act.queues with
  | false =>
    refine ⟨queue, indifferent_act act hact gateway m queue, ?_⟩
    rw [queue_of_indifferent gateway (indifferent_act act hact)]
    exact hqueue
  | true =>
    cases act with
    | shutDown =>
      unfold Act.operation
      rw [enact_map, enact_map, enact_shutDown, enact_shutDown, Moment.closePush_withQueue]
      exact ⟨[], rfl, .nil⟩
    | submit message =>
      unfold Act.operation
      rw [enact_map, enact_map, enact_submit, enact_submit]
      cases hshut : m.state.shutDown with
      | true =>
        have hshut' : (m.withQueue queue).state.shutDown = true := hshut
        rw [if_pos hshut', if_pos rfl]
        exact ⟨queue, rfl, hqueue⟩
      | false =>
        have hshut' : (m.withQueue queue).state.shutDown = false := hshut
        rw [hshut', if_neg Bool.false_ne_true, if_neg Bool.false_ne_true]
        exact ⟨queue ++ [message], rfl, hqueue.append_keep message⟩
    | dispatch =>
      unfold Act.operation
      rw [enact_map, enact_map, enact_dispatch, enact_dispatch]
      have hall := handleAll_thinned gateway hqueue (m.withQueue []) hidentity
      have hempty : (enact gateway (handleAll m.state.queue) (m.withQueue [])).2.state.queue = [] :=
        queue_of_indifferent gateway (indifferent_handleAll m.state.queue) (m.withQueue [])
      change ∃ queue', (_, (enact gateway (handleAll queue) (m.withQueue [])).2) =
        (_, (enact gateway (handleAll m.state.queue) (m.withQueue [])).2.withQueue queue') ∧
        Thinned identity (enact gateway (handleAll m.state.queue) (m.withQueue [])).2.state.queue
          queue'
      rw [← hall]
      generalize (enact gateway (handleAll m.state.queue) (m.withQueue [])).2 = after at hempty
      have hself := after.withQueue_queue
      rw [hempty] at hself
      rw [hempty]
      exact ⟨[], by rw [hself], .nil⟩
    | _ => cases hact

theorem Twins.step (htwins : Twins identity m m') (act : Act) :
    observe gateway (m', act) = observe gateway (m, act) ∧
      Twins identity (act.step gateway m) (act.step gateway m') := by
  obtain ⟨queue, hresult, hthinned⟩ := htwins.enact_act gateway act
  have hidentity := (identity_step gateway act m).trans htwins.identity
  unfold observe asked Act.step
  dsimp only
  rw [hresult, htwins.same]
  exact ⟨rfl, twins_withQueue hthinned hidentity⟩

variable {gateway}

theorem Twins.step_dropped (htwins : Twins identity m m') {message : Message} {act : Act}
    (hignored : Ignored identity message) (hact : act = .handle message ∨ act = .submit message) :
    Twins identity (act.step gateway m) m' := by
  obtain ⟨hsame, hqueue, hidentity⟩ := htwins
  unfold Act.step Act.operation
  rcases hact with rfl | rfl
  · dsimp only
    rw [enact_map, handle_ignored gateway m (hidentity ▸ hignored)]
    exact ⟨hsame, hqueue, hidentity⟩
  · dsimp only
    rw [enact_map, enact_submit]
    split
    · exact ⟨hsame, hqueue, hidentity⟩
    · exact ⟨hsame, hqueue.append_drop hignored, hidentity⟩

end Runs

abbrev Selection := List (Act × Bool)

namespace Selection

variable (selection : Selection)

def all : List Act := selection.map Prod.fst

def kept : List Act := (selection.filter Prod.snd).map Prod.fst

def seen (observations : List Observation) : List Observation :=
  ((observations.zip selection).filter fun pair => pair.2.2).map Prod.fst

/-- Only messages are dropped, handled or put into the queue, that are ignored. -/
def DropsIgnored (identity : String) : Prop :=
  ∀ act, (act, false) ∈ selection →
    ∃ message, Ignored identity message ∧ (act = .handle message ∨ act = .submit message)

variable {selection} (gateway : Behaviour) {identity : String} {m m' : Moment}

/-- The acts that are kept look the same without the others. -/
theorem twins_run (htwins : Twins identity m m') (hdrops : selection.DropsIgnored identity) :
    observations gateway m' selection.kept =
        selection.seen (observations gateway m selection.all) ∧
      Twins identity (m.run gateway selection.all) (m'.run gateway selection.kept) := by
  induction selection generalizing m m' with
  | nil => exact ⟨rfl, htwins⟩
  | cons first selection ih =>
    obtain ⟨act, keep⟩ := first
    have hrest : DropsIgnored selection identity := fun act hmem =>
      hdrops act (List.mem_cons_of_mem _ hmem)
    cases keep with
    | true =>
      obtain ⟨hobserved, hstep⟩ := htwins.step gateway act
      obtain ⟨hseen, hrun⟩ := ih hstep hrest
      refine ⟨?_, hrun⟩
      have hfirst (m : Moment) (acts : List Act) : observations gateway m (act :: acts) =
          observe gateway (m, act) :: observations gateway (act.step gateway m) acts := rfl
      change observations gateway m' (act :: kept selection) =
        seen ((act, true) :: selection) (observations gateway m (act :: all selection))
      rw [hfirst, hfirst, hobserved, hseen]
      rfl
    | false =>
      obtain ⟨message, hignored, hact⟩ := hdrops act List.mem_cons_self
      exact ih (htwins.step_dropped hignored hact) hrest

end Selection

section Addresses

/-- The addresses that a bridge is told of in a run: by its settings, by a call for it, or by an
announcement of its own gateway. -/
inductive Named (settings : Settings) (acts : List Act) : String → Prop where
  | configured : Named settings acts settings.address
  | set (address : String) (hset : .setAddress address ∈ acts) : Named settings acts address
  | announced (model serial location : String)
      (hact : .handle (.discovered model serial location) ∈ acts ∨
        .submit (.discovered model serial location) ∈ acts)
      (hmodel : modelStart <+: model.toList) (hidentity : settings.identity ≠ "")
      (hserial : serial = settings.identity) : Named settings acts (reduceLocation location)

variable {settings : Settings} {acts : List Act} {gateway : Behaviour} {m m' : Moment}
  {parts : List (Moment × Act)}

theorem named_path (hpath : Path gateway m parts m')
    (hidentity : m.state.session.identity = settings.identity)
    (hparts : ∀ part ∈ parts, part.2 ∈ acts ∨
      ∃ message, part.2 = .handle message ∧ .submit message ∈ acts)
    (hstart : ∃ address, Named settings acts address ∧
      m.state.session.address = normalizeAddress address) :
    ∀ part ∈ parts, ∃ address, Named settings acts address ∧
      part.1.state.session.address = normalizeAddress address := by
  induction hpath with
  | nil m => simp
  | requeue queue _ ih => exact ih hidentity hparts hstart
  | @cons m m' act rest hact _ ih =>
    have hkept := (identity_step gateway act m).trans hidentity
    obtain ⟨client, hsession⟩ := alike_step gateway m act hact
    have hnext : ∃ address, Named settings acts address ∧
        (act.step gateway m).state.session.address = normalizeAddress address := by
      rw [hsession]
      change ∃ address, Named settings acts address ∧
        (act.effect m.state.session).address = normalizeAddress address
      rcases address_effect m.state.session act with
        hsame | ⟨address, rfl, hnew⟩ | ⟨model, serial, location, rfl, hknown, hnew⟩
      · rw [hsame]
        exact hstart
      · refine ⟨address, .set address ?_, hnew⟩
        rcases hparts _ List.mem_cons_self with hmem | ⟨message, hmessage, -⟩
        · exact hmem
        · cases hmessage
      · rw [recognizes_iff, hidentity] at hknown
        obtain ⟨hmodel, hidentity', hserial⟩ := hknown
        refine ⟨reduceLocation location,
          .announced model serial location ?_ hmodel hidentity' hserial, hnew⟩
        rcases hparts _ List.mem_cons_self with hmem | ⟨message, hmessage, hmem⟩
        · exact Or.inl hmem
        · cases hmessage
          exact Or.inr hmem
    intro part hpart
    rcases List.mem_cons.mp hpart with rfl | hmem
    · exact hstart
    · exact ih hkept (fun part hmem => hparts part (List.mem_cons_of_mem _ hmem)) hnext part hmem

theorem baseUrl_normalizeAddress (address : String) :
    baseUrl (normalizeAddress address) = baseUrl address := by
  unfold baseUrl
  rw [normalizeAddress_normalizeAddress]

/-- The requests of a run go to gateways that the bridge was told of. -/
theorem requests_named (gateway : Behaviour) (settings : Settings) (acts : List Act) :
    ∀ request ∈ (Moment.reached gateway settings acts).trace.requests,
      ∃ address, Named settings acts address ∧ Addressed address settings.token request := by
  have hworked : Worked gateway (.start settings) (Moment.reached gateway settings acts)
      (operations gateway (.start settings) acts) :=
    worked_run acts (Session.current_start settings)
  have hparts : ∀ part ∈ operations gateway (.start settings) acts, part.2 ∈ acts ∨
      ∃ message, part.2 = .handle message ∧ .submit message ∈ acts := by
    intro part hpart
    rcases act_of_operations gateway acts _ part hpart with
      hmem | ⟨message, hmessage, hqueued | hmem⟩
    · exact Or.inl hmem
    · cases hqueued
    · exact Or.inr ⟨message, hmessage, hmem⟩
  have hnamed := named_path (path_run gateway acts (.start settings)) rfl hparts
    ⟨settings.address, .configured, rfl⟩
  intro request hrequest
  rw [hworked.requests] at hrequest
  rcases List.mem_append.mp hrequest with hnone | hmade
  · cases hnone
  · obtain ⟨part, hpart, hasked⟩ := List.mem_flatMap.mp hmade
    obtain ⟨hcurrent, htoken, hact⟩ := hworked.parts part hpart
    obtain ⟨made, hmade, haddressed⟩ := (attended_step gateway hcurrent part.2 hact).requests
    obtain ⟨address, hname, haddress⟩ := hnamed part hpart
    unfold asked at hasked
    rw [hmade, List.drop_left] at hasked
    obtain ⟨base, hbase, hown⟩ := haddressed request hasked
    refine ⟨address, hname, base, ?_, ?_⟩
    · rw [haddress, baseUrl_normalizeAddress] at hbase
      exact hbase
    · have hsame : part.1.state.session.token = settings.token := htoken
      rw [← hsame]
      exact hown

end Addresses

section Results

variable (gateway : Behaviour) (settings : Settings) (selection : Selection)

/-- Without the acts that are not kept a run is the same, but that fewer messages may wait at its
end. -/
structure Invisible : Prop where
  seen : observations gateway (.start settings) selection.kept =
    selection.seen (observations gateway (.start settings) selection.all)
  final : Moment.reached gateway settings selection.kept =
    (Moment.reached gateway settings selection.all).withQueue
      (Moment.reached gateway settings selection.kept).state.queue
  queue : Thinned settings.identity
    (Moment.reached gateway settings selection.all).state.queue
    (Moment.reached gateway settings selection.kept).state.queue

/-- A run in which messages are ignored is the same without them. To handle one changes nothing,
and it counts as consumed if it is a command by its kind. So whoever is asked for anything is at an
address that the settings, a call for it or the bridge's own gateway has named. -/
theorem ignored_invisible (hdrops : selection.DropsIgnored settings.identity) :
    Invisible gateway settings selection ∧
      (∀ m message, Ignored m.state.session.identity message →
        enact gateway (handle message) m = (message.isCommand, m)) ∧
      ∀ acts, ∀ request ∈ (Moment.reached gateway settings acts).trace.requests,
        ∃ address, Named settings acts address ∧ Addressed address settings.token request := by
  have htwins : Twins settings.identity (Moment.start settings) (Moment.start settings) :=
    ⟨rfl, .nil, rfl⟩
  obtain ⟨hseen, hrun⟩ := Selection.twins_run gateway htwins hdrops
  exact ⟨⟨hseen, hrun.same, hrun.queue⟩, fun m message => handle_ignored gateway m,
    requests_named gateway settings⟩

def crowd : Selection :=
  [(.submit (.discovered "deCONZ bridge" "00212E" "http://evil/x"), false), (.probe, true),
    (.submit .reportItems, true),
    (.handle (.event ((Event.inbound .light "1").set Attribute.command (.text "On"))), false),
    (.handle (.event sampleEvent), true), (.dispatch, true)]

theorem ignored_invisible_crowd :
    crowd.DropsIgnored sampleMoment.state.settings.identity ∧
      Invisible obliging sampleMoment.state.settings crowd := by
  have hdrops : crowd.DropsIgnored sampleMoment.state.settings.identity := by
    intro act hmem
    simp only [crowd, List.mem_cons, Prod.mk.injEq, Bool.false_eq_true, and_false, and_true,
      List.not_mem_nil, or_false, false_or] at hmem
    rcases hmem with rfl | rfl
    · exact ⟨_, .noIdentity _ _ _ rfl, Or.inr rfl⟩
    · exact ⟨_, .inbound _ rfl, Or.inl rfl⟩
  exact ⟨hdrops, (ignored_invisible obliging sampleMoment.state.settings crowd hdrops).1⟩

end Results

end ZigbeeBridge.Bridge
