import ZigbeeBridge.Proofs.Bridge.Metadata

/-!
What asking leaves behind. Of the state it is the client that was built for it, if there was none
yet, and of the bus nothing, but for a refresh, which has published what it was told until then.
-/
namespace ZigbeeBridge.Bridge

open Bus Data Gateway Operation
open Dialogue (Attempt Behaviour Trace)

theorem Moment.state_closePush (m : Moment) (health : Health) :
    (m.closePush.withHealth health).state = { m.state with health, push := none } := by
  unfold closePush
  split
  · rfl
  · rename_i hnone
    rw [← Option.not_isSome_iff_eq_none.mp hnone]
    rfl

namespace Session

/-- The session may have built the client that it did not need before; nothing else is different. -/
def Built (s s' : Session) : Prop :=
  s' = s ∨ s.client = none ∧ ∃ base, baseUrl s.address = .ok base ∧
    s' = { s with client := some ⟨base, s.token⟩ }

variable {s s' s'' : Session}

theorem Built.refl (s : Session) : s.Built s := Or.inl rfl

theorem Built.trans (hfirst : s.Built s') (hnext : s'.Built s'') : s.Built s'' := by
  rcases hfirst with rfl | ⟨hnone, base, hbase, rfl⟩
  · exact hnext
  · rcases hnext with rfl | ⟨hnone', -⟩
    · exact Or.inr ⟨hnone, base, hbase, rfl⟩
    · cases hnone'

theorem built_connectClient {client : Client} (hclient : s.connectClient = .ok (client, s')) :
    s.Built s' := by
  unfold connectClient at hclient
  split at hclient
  · cases hclient
    exact .refl s
  · rename_i hnone
    obtain ⟨base, hbase, hdone⟩ := bind_eq_ok hclient
    cases hdone
    exact Or.inr ⟨hnone, base, hbase, rfl⟩

theorem Built.address (hbuilt : s.Built s') : s'.address = s.address := by
  rcases hbuilt with rfl | ⟨-, base, -, rfl⟩
  · rfl
  · rfl

theorem Built.about (hbuilt : s.Built s') : s'.about = s.about := by
  rcases hbuilt with rfl | ⟨-, base, -, rfl⟩
  · rfl
  · rfl

theorem Built.informed (hbuilt : s.Built s') (about? : Option About) :
    (s.informed about?).Built (s'.informed about?) := by
  rcases hbuilt with rfl | ⟨hnone, base, hbase, rfl⟩
  · exact .refl _
  · exact Or.inr ⟨hnone, base, hbase, rfl⟩

end Session

section Attempts

variable {α β : Type}

/-- However the gateway answers, the attempt publishes nothing. -/
def Silent (attempt : Attempt Error α) : Prop :=
  ∀ gateway t, (Attempt.outcome gateway attempt t).2.events = t.events

theorem silent_calling (client : Client) (call : Call) :
    Silent (calling (call.attempt client)) := by
  intro gateway t
  rw [outcome_told]

theorem silent_map (f : α → β) {attempt : Attempt Error α} (hattempt : Silent attempt) :
    Silent (f <$> attempt) := by
  intro gateway t
  rw [Attempt.outcome_map]
  exact hattempt gateway t

theorem silent_bind {attempt : Attempt Error α} {next : α → Attempt Error β}
    (hattempt : Silent attempt) (hnext : ∀ a, Silent (next a)) : Silent (attempt >>= next) := by
  intro gateway t
  have hfirst := hattempt gateway t
  rw [Attempt.outcome_bind]
  cases houtcome : Attempt.outcome gateway attempt t with
  | mk result t' =>
    rw [houtcome] at hfirst
    cases result with
    | error e => exact hfirst
    | ok a => exact (hnext a gateway t').trans hfirst

/-- A command publishes nothing by itself, wherever it fails. -/
theorem silent_executeCommand (client : Client) (command : Command) :
    Silent (executeCommand client command) := by
  obtain ⟨target, id, change⟩ := command
  cases target with
  | light =>
    exact silent_bind (silent_calling client (.setLight id change)) fun _ =>
      silent_map ofLight (silent_calling client (.light id))
  | group =>
    exact silent_bind (silent_calling client (.setGroup id change)) fun _ =>
      silent_map ofGroup (silent_calling client (.group id))

theorem events_reportLight (gateway : Behaviour) (client : Client) (id : String) (t : Trace)
    (e : Error) (hfails : (Attempt.outcome gateway (reportLight client id) t).1 = .error e) :
    (Attempt.outcome gateway (reportLight client id) t).2.events = t.events := by
  have hsilent : Silent (calling (client.getLight id)) := silent_calling client (.light id)
  have hasked := hsilent gateway t
  unfold reportLight at hfails ⊢
  rw [Attempt.outcome_bind] at hfails ⊢
  cases houtcome : Attempt.outcome gateway (calling (client.getLight id)) t with
  | mk result t' =>
    rw [houtcome] at hfails hasked
    cases result with
    | error e' => exact hasked
    | ok light => cases hfails

/-- A refresh is cut short by a stop that fails: what the stops before it brought is published, and
nothing else is. -/
def CutShort (gateway : Behaviour) (t t' : Trace) (e : Error) : Prop :=
  ∃ client before last flaw, t'.requests = t.requests ++ requestsAt client (before ++ [last]) ∧
    t'.events = t.events ++ published gateway client t.requests before ∧
    last.outcome gateway client (t.requests ++ requestsAt client before) = .error flaw ∧
    e = .ofGateway flaw

theorem cutShort_refreshAll (gateway : Behaviour) (client : Client) (plan : RefreshPlan)
    (t : Trace) (e : Error)
    (hfails : (Attempt.outcome gateway (refreshAll client plan) t).1 = .error e) :
    CutShort gateway t (Attempt.outcome gateway (refreshAll client plan) t).2 e := by
  rw [outcome_refreshAll] at hfails ⊢
  dsimp only at hfails ⊢
  obtain ⟨before, last, flaw, hvisited, hflaw, hcause, -⟩ := last_of_error gateway client
    plan.policy _ _ t.requests e hfails
  have hquiet : last.event? gateway client (t.requests ++ requestsAt client before) = none := by
    unfold Stop.event?
    rw [hflaw]
    rfl
  refine ⟨client, before, last, flaw, ?_, ?_, hflaw, hcause⟩
  · rw [hvisited]
    rfl
  · rw [hvisited]
    show t.events ++ published gateway client t.requests (before ++ [last]) = _
    rw [published_append, published_cons, hquiet]
    simp [published, visits]

end Attempts

namespace Moment

/-- Of the state nothing but the session and the health is another. -/
def Beside (m m' : Moment) : Prop :=
  ∃ session health, m'.state = { m.state with session, health }

theorem Beside.trans {m m' m'' : Moment} (hfirst : m.Beside m') (hnext : m'.Beside m'') :
    m.Beside m'' := by
  obtain ⟨session, health, hfirst⟩ := hfirst
  obtain ⟨session', health', hnext⟩ := hnext
  exact ⟨session', health', by rw [hnext, hfirst]⟩

theorem beside_withSession (m : Moment) (session : Session) : m.Beside (m.withSession session) :=
  ⟨session, m.state.health, rfl⟩

theorem beside_withHealth (m : Moment) (health : Health) : m.Beside (m.withHealth health) :=
  ⟨m.state.session, health, rfl⟩

theorem Beside.push {m m' : Moment} (h : m.Beside m') : m'.state.push = m.state.push := by
  obtain ⟨session, health, hstate⟩ := h
  rw [hstate]

/-- Once the health is bad the state is told by the session alone. -/
theorem Beside.state {m m' : Moment} (h : m.Beside m') :
    (m'.withHealth .disconnected).state = { m.state with
      session := m'.state.session, health := .disconnected, push := m'.state.push } := by
  obtain ⟨session, health, hstate⟩ := h
  show { m'.state with health := .disconnected } = _
  rw [hstate]

end Moment

section Asking

variable {α : Type} (gateway : Behaviour) (m : Moment)

/-- Asking leaves nothing of the state behind but the client that was built for it. -/
structure Asked (m m' : Moment) : Prop where
  built : m.state.session.Built m'.state.session
  beside : m.Beside m'
  health : m'.state.health = m.state.health

theorem asked_withClient (attempt : Client → Attempt Error α) :
    Asked m (enact gateway (withClient attempt) m).2 := by
  rw [enact_withClient]
  cases hclient : m.state.session.connectClient with
  | error e => exact ⟨.refl _, m.beside_withHealth m.state.health, rfl⟩
  | ok found =>
    exact ⟨Session.built_connectClient hclient, m.beside_withSession found.2, rfl⟩

theorem asked_refresh (sensors : Bool) : Asked m (enact gateway (refresh sensors) m).2 := by
  rw [enact_refresh]
  exact asked_withClient gateway m _

/-- Without a client nothing is asked; otherwise the attempt is made. -/
theorem trace_withClient (attempt : Client → Attempt Error α) :
    (enact gateway (withClient attempt) m).2.trace = m.trace ∨
      ∃ client, (enact gateway (withClient attempt) m).1 =
          (Attempt.outcome gateway (attempt client) m.trace).1 ∧
        (enact gateway (withClient attempt) m).2.trace =
          (Attempt.outcome gateway (attempt client) m.trace).2 := by
  rw [enact_withClient]
  cases m.state.session.connectClient with
  | error e => exact Or.inl rfl
  | ok found => exact Or.inr ⟨found.1, rfl, rfl⟩

theorem events_askAbout : (enact gateway askAbout m).2.trace.events = m.trace.events := by
  rcases trace_withClient gateway m fun client => calling client.getAbout with
    hsame | ⟨client, -, hsame⟩
  · exact congrArg Trace.events hsame
  · have hsilent : Silent (calling client.getAbout) := silent_calling client .about
    exact (congrArg Trace.events hsame).trans (hsilent gateway m.trace)

theorem requests_askAbout :
    m.trace.requests <+: (enact gateway askAbout m).2.trace.requests := by
  rw [enact_askAbout]
  cases m.state.session.connectClient with
  | error e => exact List.prefix_rfl
  | ok found => exact List.prefix_append _ _

theorem events_askCommand (command : Command) :
    (enact gateway (askCommand command) m).2.trace.events = m.trace.events := by
  rcases trace_withClient gateway m fun client => executeCommand client command with
    hsame | ⟨client, -, hsame⟩
  · exact congrArg Trace.events hsame
  · exact (congrArg Trace.events hsame).trans (silent_executeCommand client command gateway m.trace)

theorem events_askLight (id : String) (e : Error)
    (hfails : (enact gateway (askLight id) m).1 = .error e) :
    (enact gateway (askLight id) m).2.trace.events = m.trace.events := by
  rcases trace_withClient gateway m fun client => reportLight client id with
    hsame | ⟨client, hresult, hsame⟩
  · exact congrArg Trace.events hsame
  · have herror := hresult.symm.trans hfails
    exact (congrArg Trace.events hsame).trans (events_reportLight gateway client id m.trace e herror)

theorem cutShort_refresh (sensors : Bool) (e : Error)
    (hfails : (enact gateway (refresh sensors) m).1 = .error e) :
    (enact gateway (refresh sensors) m).2.trace.events = m.trace.events ∨
      CutShort gateway m.trace (enact gateway (refresh sensors) m).2.trace e := by
  rw [enact_refresh] at hfails ⊢
  rcases trace_withClient gateway m fun client => refreshAll client
    ⟨sensors, m.state.settings.spacingMs, m.state.settings.itemFailure⟩ with
    hsame | ⟨client, hresult, hsame⟩
  · exact Or.inl (congrArg Trace.events hsame)
  · rw [hsame]
    exact Or.inr (cutShort_refreshAll gateway client _ m.trace e (hresult.symm.trans hfails))

end Asking

end ZigbeeBridge.Bridge
