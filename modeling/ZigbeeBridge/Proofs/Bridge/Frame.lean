import ZigbeeBridge.Proofs.Bridge.Metadata

/-!
What an operation changes of a session. Each part has its own few operations that change it, and
what is known of the gateway changes to nothing but what it was decoded to.
-/
namespace ZigbeeBridge.Bridge

open Bus Gateway Operation
open Dialogue (Behaviour Trace)

section Answers

variable (gateway : Behaviour)

/-- Asked at the moment what it is, the gateway tells it: its answer is a success, and so is the
decoding of it. -/
def ConfigAnswer (m : Moment) (about : About) : Prop :=
  ∃ base request body v, baseUrl m.state.session.address = .ok base ∧
    Call.about.request ⟨base, m.state.session.token⟩ = .ok request ∧
      Accepted (gateway m.trace.requests request) body v ∧
        Call.about.decode body v = .ok about

theorem told_eq_ok_iff (client : Client) (asked : List Request) (call : Call)
    (result : call.Result) :
    told gateway client asked call = .ok result ↔
      ∃ request body v, call.request client = .ok request ∧
        Accepted (gateway asked request) body v ∧ call.decode body v = .ok result := by
  unfold told
  cases hrequest : call.request client with
  | error e =>
    constructor
    · intro h
      cases h
    · rintro ⟨request, body, v, hsame, -⟩
      cases hsame
  | ok request =>
    constructor
    · intro h
      obtain ⟨body, v, haccepted, hdecode⟩ := (accept_eq_ok_iff _ _ _).mp h
      exact ⟨request, body, v, rfl, haccepted, hdecode⟩
    · rintro ⟨request', body, v, hsame, haccepted, hdecode⟩
      cases hsame
      exact (accept_eq_ok_iff _ _ _).mpr ⟨body, v, haccepted, hdecode⟩

theorem toldAt_eq_some_iff (m : Moment) (about : About) :
    toldAt gateway m.state.session.address m.state.session.token m.trace.requests = some about ↔
      ConfigAnswer gateway m about := by
  unfold toldAt ConfigAnswer
  cases hbase : baseUrl m.state.session.address with
  | error e =>
    constructor
    · intro h
      cases h
    · rintro ⟨base, request, body, v, hsame, -⟩
      cases hsame
  | ok base =>
    dsimp only
    rw [Data.toOption_eq_some_iff]
    refine (told_eq_ok_iff gateway ⟨base, m.state.session.token⟩ _ .about about).trans ?_
    constructor
    · rintro ⟨request, body, v, hrest⟩
      exact ⟨base, request, body, v, rfl, hrest⟩
    · rintro ⟨base', request, body, v, hsame, hrest⟩
      cases hsame
      exact ⟨request, body, v, hrest⟩

end Answers

section Frames

variable (gateway : Behaviour)

/-- What an operation changes of a session, and what it never does. -/
structure Framed (m : Moment) (act : Act) : Prop where
  token : (act.step gateway m).state.session.token = m.state.session.token
  identity : (act.step gateway m).state.session.identity = m.state.session.identity
  /-- The session moves when it is told to, or when its own gateway is announced elsewhere. -/
  address : (act.step gateway m).state.session.address ≠ m.state.session.address →
    (∃ address, act = .setAddress address ∧
      (act.step gateway m).state.session.address = normalizeAddress address) ∨
    ∃ model serial location, act = .handle (.discovered model serial location) ∧
      m.state.session.recognizes model serial = true ∧
      (act.step gateway m).state.session.address = normalizeAddress (reduceLocation location)
  /-- What is known of the gateway changes when it is asked and answers. -/
  about : (act.step gateway m).state.session.about ≠ m.state.session.about →
    act.asksAbout m = true ∧ ∃ about, ConfigAnswer gateway m about ∧
      (act.step gateway m).state.session.about = some about
  /-- An answer is always kept. -/
  answered : act.asksAbout m = true → ∀ about, ConfigAnswer gateway m about →
    (act.step gateway m).state.session.about = some about
  interval : (act.step gateway m).state.session.refreshInterval ≠
      m.state.session.refreshInterval →
    act = .setRefreshInterval (act.step gateway m).state.session.refreshInterval
  counter : (act.step gateway m).state.session.refreshCounter ≠ m.state.session.refreshCounter →
    (act = .handle .heartbeat ∧ (act.step gateway m).state.session.refreshCounter =
      m.state.session.tick.2.refreshCounter) ∨
    ∃ interval, act = .setRefreshInterval interval ∧
      (act.step gateway m).state.session.refreshCounter = increment interval

theorem interval_effect (s : Session) (act : Act)
    (h : (act.effect s).refreshInterval ≠ s.refreshInterval) :
    act = .setRefreshInterval (act.effect s).refreshInterval := by
  by_cases hbeat : act = .handle .heartbeat
  · subst hbeat
    obtain ⟨counter, hcount⟩ := s.exists_tick
    rw [Act.effect, hcount] at h
    exact absurd rfl h
  · by_contra hset
    have hother : ∀ interval, act ≠ .setRefreshInterval interval := by
      rintro interval rfl
      exact hset rfl
    exact h (counter_effect s act hbeat hother).2

theorem refreshCounter_effect (s : Session) (act : Act)
    (h : (act.effect s).refreshCounter ≠ s.refreshCounter) :
    (act = .handle .heartbeat ∧ (act.effect s).refreshCounter = s.tick.2.refreshCounter) ∨
    ∃ interval, act = .setRefreshInterval interval ∧
      (act.effect s).refreshCounter = increment interval := by
  by_cases hbeat : act = .handle .heartbeat
  · subst hbeat
    exact Or.inl ⟨rfl, rfl⟩
  · by_contra hnone
    have hother : ∀ interval, act ≠ .setRefreshInterval interval := by
      rintro interval rfl
      exact hnone (Or.inr ⟨interval, rfl, rfl⟩)
    exact h (counter_effect s act hbeat hother).1

/-- Every operation keeps to the frame, at every session whose client belongs to it. -/
theorem framed_step {m : Moment} (hcurrent : m.state.session.Current) (act : Act)
    (hact : act ≠ .dispatch) : Framed gateway m act := by
  obtain ⟨client, hsession⟩ := alike_step gateway m act hact
  obtain ⟨address, interval, counter, client', heffect⟩ := act.exists_effect m.state.session
  have habout : (act.step gateway m).state.session.about =
      (if act.asksAbout m then learned gateway m else none).or m.state.session.about := by
    rw [hsession, heffect]
    rfl
  rw [learned_of_current gateway hcurrent] at habout
  refine ⟨?_, ?_, ?_, ?_, ?_, ?_, ?_⟩
  · rw [hsession, heffect]
    rfl
  · rw [hsession, heffect]
    rfl
  · rw [hsession]
    exact (address_effect m.state.session act).resolve_left
  · intro hchanged
    cases hasks : act.asksAbout m with
    | false =>
      rw [habout, hasks] at hchanged
      exact absurd rfl hchanged
    | true =>
      rw [hasks, if_pos rfl] at habout
      cases htold : toldAt gateway m.state.session.address m.state.session.token
          m.trace.requests with
      | none =>
        rw [habout, htold] at hchanged
        exact absurd rfl hchanged
      | some about =>
        rw [htold] at habout
        exact ⟨rfl, about, (toldAt_eq_some_iff gateway m about).mp htold, habout⟩
  · intro hasks about hanswer
    rw [habout, if_pos hasks, (toldAt_eq_some_iff gateway m about).mpr hanswer]
    rfl
  · rw [hsession]
    exact interval_effect m.state.session act
  · rw [hsession]
    exact refreshCounter_effect m.state.session act

end Frames

end ZigbeeBridge.Bridge
