import ZigbeeBridge.Proofs.Bridge.Command
import ZigbeeBridge.Proofs.Bridge.Queue

/-!
How often a refresh is due. Of the heartbeats between two changes of the interval every so many-th
one is due, whatever happens in between. One that is not due does nothing but count; one that is
due sees to the health and then goes round the lights and groups once.
-/
namespace ZigbeeBridge.Bridge

open Bus Gateway Operation
open Dialogue (Attempt Behaviour Trace)

section Cadences

/-- A beat is due after a lead, and then again after every `n` beats that are not. -/
inductive Cadence (n : Nat) : Nat → List Bool → Prop
  | nil (lead : Nat) : Cadence n lead []
  | due {rest : List Bool} (hrest : Cadence n n rest) : Cadence n 0 (true :: rest)
  | wait {lead : Nat} {rest : List Bool} (hrest : Cadence n lead rest) :
      Cadence n (lead + 1) (false :: rest)

variable {n lead : Nat} {beats before window between after : List Bool}

theorem Cadence.drop (hcadence : Cadence n lead (before ++ after)) (hlead : lead ≤ n) :
    ∃ lead', lead' ≤ n ∧ Cadence n lead' after := by
  induction before generalizing lead with
  | nil => exact ⟨lead, hlead, hcadence⟩
  | cons beat before ih =>
    cases hcadence with
    | due hrest => exact ih hrest le_rfl
    | wait hrest => exact ih hrest (by omega)

theorem Cadence.take (hcadence : Cadence n lead (window ++ after)) : Cadence n lead window := by
  induction window generalizing lead with
  | nil => exact .nil lead
  | cons beat window ih =>
    cases hcadence with
    | due hrest => exact .due (ih hrest)
    | wait hrest => exact .wait (ih hrest)

theorem Cadence.count_eq_zero (hcadence : Cadence n lead window)
    (hlength : window.length ≤ lead) : window.count true = 0 := by
  induction hcadence with
  | nil lead => rfl
  | due hrest => simp at hlength
  | wait hrest ih =>
    rw [List.count_cons_of_ne Bool.false_ne_true]
    exact ih (by simpa using hlength)

/-- In what goes beyond the lead by `n` beats at most, one beat is due. -/
theorem Cadence.count_eq_one (hcadence : Cadence n lead window) (hlead : lead < window.length)
    (hlength : window.length ≤ lead + n + 1) : window.count true = 1 := by
  induction hcadence with
  | nil lead => simp at hlead
  | due hrest =>
    rw [List.count_cons_self, hrest.count_eq_zero (by simpa using hlength)]
  | wait hrest ih =>
    rw [List.count_cons_of_ne Bool.false_ne_true]
    refine ih (by simpa using hlead) ?_
    rw [List.length_cons] at hlength
    omega

theorem Cadence.first (hcadence : Cadence n lead beats) :
    ∀ i due, i ≤ lead → beats[i]? = some due → due = decide (i = lead) := by
  induction hcadence with
  | nil lead => simp
  | due hrest =>
    intro i due hi hbeat
    obtain rfl : i = 0 := by omega
    cases hbeat
    rfl
  | wait hrest ih =>
    intro i due hi hbeat
    cases i with
    | zero =>
      cases hbeat
      rfl
    | succ i =>
      rw [ih i due (by omega) hbeat]
      simp

theorem Cadence.eq_replicate (hcadence : Cadence n lead (between ++ true :: after))
    (hnone : true ∉ between) : between = List.replicate lead false := by
  induction between generalizing lead with
  | nil =>
    cases hcadence
    rfl
  | cons beat between ih =>
    cases hcadence with
    | due hrest => simp at hnone
    | wait hrest =>
      rw [ih hrest (by simpa using hnone)]
      rfl

/-- What the answers to heartbeats look like: the first one that is due comes after the lead, among
any `n + 1` in a row one is due, and between one that is due and the next there are `n` that are
not. -/
structure Throttled (n lead : Nat) (beats : List Bool) : Prop where
  first : ∀ i due, i ≤ lead → beats[i]? = some due → due = decide (i = lead)
  window : ∀ before window after, beats = before ++ (window ++ after) →
    window.length = n + 1 → window.count true = 1
  apart : ∀ before between after, beats = before ++ true :: (between ++ true :: after) →
    true ∉ between → between = List.replicate n false

theorem Cadence.throttled (hcadence : Cadence n lead beats) (hlead : lead ≤ n) :
    Throttled n lead beats where
  first := hcadence.first
  window := by
    intro before window after hbeats hlength
    subst hbeats
    obtain ⟨lead', hlead', hrest⟩ := hcadence.drop hlead
    exact hrest.take.count_eq_one (by omega) (by omega)
  apart := by
    intro before between after hbeats hnone
    subst hbeats
    obtain ⟨lead', -, hrest⟩ := hcadence.drop hlead
    cases hrest with
    | due hrest => exact hrest.eq_replicate hnone

end Cadences

theorem toNat_increment {n : UInt32} (hn : n ≠ 0xFFFFFFFF) :
    (increment n).toNat = n.toNat + 1 := by
  have hmax : n.toNat ≠ 4294967295 := fun h => hn (UInt32.toNat_inj.mp h)
  have hlt := n.toNat_lt
  unfold increment
  rw [if_neg hn, UInt32.toNat_add]
  change (n.toNat + 1) % 4294967296 = _
  omega

namespace Session

variable (s : Session)

theorem connectClient_withCounter (counter : UInt32) :
    (s.withCounter counter).connectClient =
      s.connectClient.map fun found => (found.1, found.2.withCounter counter) := by
  obtain ⟨address, token, identity, about, interval, count, client?⟩ := s
  cases client? with
  | some client => rfl
  | none =>
    unfold connectClient withCounter
    dsimp only
    cases baseUrl address with
    | error e => rfl
    | ok base => rfl

/-- A heartbeat is due when the count has come to the interval. -/
theorem tick_cases (hinterval : s.refreshInterval < 0xFFFFFFFF) :
    (s.refreshInterval.toNat ≤ s.refreshCounter.toNat ∧ s.tick = (true, s.withCounter 0)) ∨
    (s.refreshCounter.toNat < s.refreshInterval.toNat ∧
      (increment s.refreshCounter).toNat = s.refreshCounter.toNat + 1 ∧
      s.tick = (false, s.withCounter (increment s.refreshCounter))) := by
  have hbound : s.refreshInterval.toNat < 4294967295 := UInt32.lt_iff_toNat_lt.mp hinterval
  unfold tick
  dsimp only
  by_cases hmax : s.refreshCounter = 0xFFFFFFFF
  · have hdue : increment s.refreshCounter > s.refreshInterval := by
      rw [hmax]
      exact hinterval
    rw [if_pos hdue, hmax]
    exact Or.inl ⟨Nat.le_of_lt hbound, rfl⟩
  · have hnext := toNat_increment hmax
    by_cases hdue : increment s.refreshCounter > s.refreshInterval
    · have hlt := UInt32.lt_iff_toNat_lt.mp hdue
      rw [if_pos hdue]
      exact Or.inl ⟨by omega, rfl⟩
    · have hle : ¬s.refreshInterval.toNat < (increment s.refreshCounter).toNat :=
        fun h => hdue (UInt32.lt_iff_toNat_lt.mpr h)
      rw [if_neg hdue]
      exact Or.inr ⟨by omega, hnext, rfl⟩

end Session

section Beats

variable (gateway : Behaviour)

def gone (m : Moment) : Moment :=
  if m.state.health = .connected then (enact gateway (reportAll false) m).2
  else
    match enact gateway probe m with
    | (.connected, m') => (enact gateway (reportAll false) m').2
    | (_, m') => m'

/-- A heartbeat answers whether it is due. It leaves the round behind when it is, and else the count
alone. -/
theorem enact_beat (m : Moment) :
    enact gateway (handle .heartbeat) m =
      (m.state.session.tick.1,
        if m.state.session.tick.1 then gone gateway (m.withSession m.state.session.tick.2)
        else m.withSession m.state.session.tick.2) := by
  rw [enact_handle]
  dsimp only
  rw [enact_heartbeat]
  unfold gone
  cases m.state.session.tick with
  | mk due session =>
    cases due with
    | false => rfl
    | true =>
      dsimp only
      rw [if_pos rfl, Moment.health_withSession]
      split
      · rfl
      · cases enact gateway probe (m.withSession session) with
        | mk health m' => cases health <;> rfl

def beats (parts : List (Moment × Act)) : List Bool :=
  parts.filterMap fun part =>
    if part.2 = .handle .heartbeat then some (enact gateway (handle .heartbeat) part.1).1 else none

theorem counter_step (m : Moment) (act : Act) (hact : act ≠ .dispatch) :
    (act.step gateway m).state.session.refreshCounter =
        (act.effect m.state.session).refreshCounter ∧
      (act.step gateway m).state.session.refreshInterval =
        (act.effect m.state.session).refreshInterval := by
  obtain ⟨client, hsession⟩ := alike_step gateway m act hact
  rw [hsession]
  exact ⟨rfl, rfl⟩

variable {gateway} {m m' : Moment} {parts : List (Moment × Act)}

theorem cadence_path {n : UInt32} (hpath : Path gateway m parts m') (hn : n < 0xFFFFFFFF)
    (hinterval : m.state.session.refreshInterval = n)
    (hparts : ∀ part ∈ parts, ∀ interval, part.2 ≠ .setRefreshInterval interval) :
    Cadence n.toNat (n.toNat - m.state.session.refreshCounter.toNat) (beats gateway parts) := by
  induction hpath with
  | nil m => exact .nil _
  | requeue queue _ ih => exact ih hinterval hparts
  | @cons m m' act rest hact _ ih =>
    obtain ⟨hcounter, hkept⟩ := counter_step gateway m act hact
    have hlater : ∀ part ∈ rest, ∀ interval, part.2 ≠ .setRefreshInterval interval :=
      fun part hmem => hparts part (List.mem_cons_of_mem _ hmem)
    by_cases hbeat : act = .handle .heartbeat
    · subst hbeat
      have hbeats : beats gateway ((m, .handle .heartbeat) :: rest) =
          m.state.session.tick.1 :: beats gateway rest := by
        rw [← congrArg Prod.fst (enact_beat gateway m)]
        rfl
      rw [hbeats]
      rw [Act.effect] at hcounter hkept
      -- The lead is what the count lacks of the interval, and a due heartbeat sets it to all of it.
      rcases m.state.session.tick_cases (hinterval ▸ hn) with ⟨hdue, htick⟩ | ⟨hearly, hnext, htick⟩
      · rw [htick] at hcounter hkept ⊢
        have hrest := ih (hkept.trans hinterval) hlater
        rw [hcounter] at hrest
        rw [hinterval] at hdue
        rw [Nat.sub_eq_zero_of_le hdue]
        exact .due hrest
      · rw [htick] at hcounter hkept ⊢
        have hrest := ih (hkept.trans hinterval) hlater
        rw [hcounter] at hrest
        unfold Session.withCounter at hrest
        dsimp only at hrest
        rw [hnext] at hrest
        rw [hinterval] at hearly
        have hlead : n.toNat - m.state.session.refreshCounter.toNat =
            n.toNat - (m.state.session.refreshCounter.toNat + 1) + 1 := by omega
        rw [hlead]
        exact .wait hrest
    · have hbeats : beats gateway ((m, act) :: rest) = beats gateway rest := by
        unfold beats
        rw [List.filterMap_cons, if_neg hbeat]
      obtain ⟨hsame, hsame'⟩ := counter_effect m.state.session act hbeat
        (hparts (m, act) List.mem_cons_self)
      have hrest := ih (hkept.trans (hsame'.trans hinterval)) hlater
      rw [hcounter, hsame] at hrest
      rw [hbeats]
      exact hrest

theorem counter_path (hpath : Path gateway m parts m')
    (hbeats : ∀ part ∈ parts, part.2 ≠ .handle .heartbeat)
    (hparts : ∀ part ∈ parts, ∀ interval, part.2 ≠ .setRefreshInterval interval) :
    m'.state.session.refreshCounter = m.state.session.refreshCounter ∧
      m'.state.session.refreshInterval = m.state.session.refreshInterval := by
  induction hpath with
  | nil m => exact ⟨rfl, rfl⟩
  | requeue queue _ ih => exact ih hbeats hparts
  | @cons m m' act rest hact _ ih =>
    obtain ⟨hcounter, hinterval⟩ := counter_step gateway m act hact
    obtain ⟨hsame, hsame'⟩ := counter_effect m.state.session act
      (hbeats (m, act) List.mem_cons_self) (hparts (m, act) List.mem_cons_self)
    obtain ⟨hrest, hrest'⟩ := ih (fun part hmem => hbeats part (List.mem_cons_of_mem _ hmem))
      fun part hmem => hparts part (List.mem_cons_of_mem _ hmem)
    exact ⟨hrest.trans (hcounter.trans hsame), hrest'.trans (hinterval.trans hsame')⟩

theorem quiet_operations (acts : List Act) (m : Moment)
    (hacts : ∀ act ∈ acts, ∀ interval, act ≠ .setRefreshInterval interval) :
    ∀ part ∈ operations gateway m acts, ∀ interval, part.2 ≠ .setRefreshInterval interval := by
  intro part hpart interval hset
  rcases act_of_operations gateway acts m part hpart with hmem | ⟨message, hmessage, -⟩
  · exact hacts _ hmem interval hset
  · rw [hmessage] at hset
    cases hset

def Act.counts (m : Moment) : Act → Prop
  | handle .heartbeat | setRefreshInterval _ => True
  | dispatch => .heartbeat ∈ m.state.queue
  | _ => False

theorem counter_of_not_counts (act : Act) (hquiet : ¬act.counts m) :
    (act.step gateway m).state.session.refreshCounter = m.state.session.refreshCounter ∧
      (act.step gateway m).state.session.refreshInterval = m.state.session.refreshInterval := by
  refine counter_path (path_act gateway act m) ?_ ?_
  · intro part hpart hbeat
    unfold Act.operations at hpart
    split at hpart
    · rename_i hdispatch
      have hmem := act_of_turns gateway _ _ part hpart
      rw [hbeat] at hmem
      obtain ⟨message, hqueued, hmessage⟩ := List.mem_map.mp hmem
      cases hmessage
      change act = .dispatch at hdispatch
      subst hdispatch
      exact hquiet hqueued
    · rw [List.mem_singleton.mp hpart] at hbeat
      change act = _ at hbeat
      subst hbeat
      exact hquiet trivial
  · intro part hpart interval hset
    unfold Act.operations at hpart
    split at hpart
    · have hmem := act_of_turns gateway _ _ part hpart
      rw [hset] at hmem
      simp at hmem
    · rw [List.mem_singleton.mp hpart] at hset
      change act = _ at hset
      subst hset
      exact hquiet trivial

end Beats

section Rounds

variable (gateway : Behaviour)

/-- The way round the lights and groups, without the sensors. -/
def cycle (client : Client) (policy : ItemFailure) (t : Trace) : Walk :=
  walk gateway client policy (itinerary gateway client (phases false) t.requests) .empty t.requests

def Walk.health (w : Walk) : Health :=
  match w.result with
  | .ok _ => .connected
  | .error _ => .disconnected

/-- The trace once the gateway was asked what it is. -/
def probed (client : Client) (t : Trace) : Trace :=
  ⟨t.requests ++ requestOf client .about, t.events⟩

/-- What a heartbeat that is due can come to: what has passed after it, and the health. In good
health there is one cycle; otherwise the gateway is asked what it is, once, and there is a cycle
only if it answers. -/
inductive Round (m : Moment) : Trace → Health → Prop where
  | noClient (e : Error) (hclient : m.state.session.connectClient = .error e) :
      Round m m.trace .disconnected
  | well (client : Client) (session : Session) (w : Walk)
      (hclient : m.state.session.connectClient = .ok (client, session))
      (hgood : m.state.health = .connected)
      (hcycle : w = cycle gateway client m.state.settings.itemFailure m.trace) :
      Round m (past gateway client m.trace w.visited) w.health
  | unanswered (client : Client) (session : Session) (e : Gateway.Error)
      (hclient : m.state.session.connectClient = .ok (client, session))
      (hbad : m.state.health ≠ .connected)
      (htold : toldAbout gateway client m.trace.requests = .error e) :
      Round m (probed client m.trace) .disconnected
  | recovered (client : Client) (session : Session) (about : About) (w : Walk)
      (hclient : m.state.session.connectClient = .ok (client, session))
      (hbad : m.state.health ≠ .connected)
      (htold : toldAbout gateway client m.trace.requests = .ok about)
      (hcycle : w = cycle gateway client m.state.settings.itemFailure (probed client m.trace)) :
      Round m (past gateway client (probed client m.trace) w.visited) w.health

theorem enact_cycle (m : Moment) (client : Client) (session : Session) (w : Walk)
    (hclient : m.state.session.connectClient = .ok (client, session))
    (hgood : m.state.health = .connected)
    (hcycle : w = cycle gateway client m.state.settings.itemFailure m.trace) :
    enact gateway (reportAll false) m =
      (w.result, ⟨{ m.state with session, health := w.health },
        past gateway client m.trace w.visited⟩) := by
  have houtcome : Attempt.outcome gateway (refreshAll client
      ⟨false, m.state.settings.spacingMs, m.state.settings.itemFailure⟩) m.trace =
        (w.result, past gateway client m.trace w.visited) := by
    rw [outcome_refreshAll, hcycle]
    rfl
  have hstate : { m.state with session } = { m.state with session, health := .connected } := by
    rw [← hgood]
  rw [enact_reportAll, enact_refresh, enact_withClient, hclient]
  dsimp only
  rw [houtcome]
  unfold Walk.health
  cases w.result with
  | ok report =>
    dsimp only
    rw [hstate]
  | error e => rfl

theorem enact_probe_of_client (m : Moment) (client : Client) (session : Session)
    (hclient : m.state.session.connectClient = .ok (client, session)) :
    enact gateway probe m =
      match toldAbout gateway client m.trace.requests with
      | .ok about =>
        (.connected,
          ⟨{ m.state with session := session.informed (some about), health := .connected },
            probed client m.trace⟩)
      | .error _ =>
        (.disconnected,
          ⟨{ m.state with session, health := .disconnected }, probed client m.trace⟩) := by
  rw [enact_probe, enact_askAbout, hclient]
  dsimp only
  cases toldAbout gateway client m.trace.requests with
  | ok about => rfl
  | error e => rfl

theorem Round.of_counted {m : Moment} {counter : UInt32} {t : Trace} {health : Health}
    (hround : Round gateway (m.withSession (m.state.session.withCounter counter)) t health) :
    Round gateway m t health := by
  have hclient {found : Except Error (Client × Session)}
      (hfound : (m.state.session.withCounter counter).connectClient = found) :
      m.state.session.connectClient = found.map fun found =>
        (found.1, found.2.withCounter m.state.session.refreshCounter) := by
    rw [← hfound]
    exact (m.state.session.withCounter counter).connectClient_withCounter _
  cases hround with
  | noClient e hfound => exact .noClient e (hclient hfound)
  | well client session w hfound hgood hcycle =>
    exact .well client _ w (hclient hfound) hgood hcycle
  | unanswered client session e hfound hbad htold =>
    exact .unanswered client _ e (hclient hfound) hbad htold
  | recovered client session about w hfound hbad htold hcycle =>
    exact .recovered client _ about w (hclient hfound) hbad htold hcycle

theorem round_gone (m : Moment) :
    Round gateway m (gone gateway m).trace (gone gateway m).state.health := by
  unfold gone
  cases hclient : m.state.session.connectClient with
  | error e =>
    split
    · rw [enact_reportAll, enact_refresh, enact_withClient, hclient]
      exact .noClient e hclient
    · rw [enact_probe, enact_askAbout, hclient]
      exact .noClient e hclient
  | ok found =>
    obtain ⟨client, session⟩ := found
    by_cases hgood : m.state.health = .connected
    · obtain ⟨w, hcycle⟩ : ∃ w, w = cycle gateway client m.state.settings.itemFailure m.trace :=
        ⟨_, rfl⟩
      rw [if_pos hgood, enact_cycle gateway m client session w hclient hgood hcycle]
      exact .well client session w hclient hgood hcycle
    · rw [if_neg hgood, enact_probe_of_client gateway m client session hclient]
      cases htold : toldAbout gateway client m.trace.requests with
      | error e => exact .unanswered client session e hclient hgood htold
      | ok about =>
        have hkept : (session.informed (some about)).connectClient =
            .ok (client, session.informed (some about)) := by
          rw [session_of_connectClient _ _ _ hclient]
          rfl
        obtain ⟨w, hcycle⟩ : ∃ w, w = cycle gateway client m.state.settings.itemFailure
          (probed client m.trace) := ⟨_, rfl⟩
        dsimp only
        rw [enact_cycle gateway
          ⟨{ m.state with session := session.informed (some about), health := .connected },
            probed client m.trace⟩ client _ w hkept rfl hcycle]
        exact .recovered client session about w hclient hgood htold hcycle

/-- A heartbeat that is due starts the count anew and goes its round. -/
theorem round_of_due (m : Moment) (hdue : (enact gateway (handle .heartbeat) m).1 = true) :
    Round gateway m (enact gateway (handle .heartbeat) m).2.trace
        (enact gateway (handle .heartbeat) m).2.state.health ∧
      (enact gateway (handle .heartbeat) m).2.state.session.refreshCounter = 0 := by
  rw [enact_beat] at hdue
  dsimp only at hdue
  have htick : m.state.session.tick.2 = m.state.session.withCounter 0 := by
    unfold Session.tick at hdue ⊢
    dsimp only at hdue ⊢
    split at hdue
    · rename_i h
      rw [if_pos h]
      rfl
    · cases hdue
  refine ⟨?_, ?_⟩
  · rw [enact_beat, if_pos hdue, htick]
    exact (round_gone gateway _).of_counted
  · have hcounter := (counter_step gateway m (.handle .heartbeat) (by simp)).1
    rw [Act.effect, htick] at hcounter
    unfold Act.step Act.operation at hcounter
    rw [enact_map] at hcounter
    exact hcounter

theorem enact_early (m : Moment) (hearly : (enact gateway (handle .heartbeat) m).1 = false) :
    (enact gateway (handle .heartbeat) m).2 =
      m.withSession (m.state.session.withCounter (increment m.state.session.refreshCounter)) := by
  rw [enact_beat] at hearly ⊢
  dsimp only at hearly ⊢
  rw [hearly, if_neg Bool.false_ne_true]
  unfold Session.tick at hearly ⊢
  dsimp only at hearly ⊢
  split at hearly
  · cases hearly
  · rename_i h
    rw [if_neg h]
    rfl

end Rounds

section Results

variable (gateway : Behaviour) (settings : Settings) (n : UInt32)

/-- What becomes of the heartbeats at an interval, whatever is done in between and whatever the
gateway answers. -/
structure Throttling : Prop where
  created : ∀ acts : List Act, settings.refreshInterval = n →
    (∀ act ∈ acts, ∀ interval, act ≠ .setRefreshInterval interval) →
      Throttled n.toNat n.toNat (beats gateway (operations gateway (.start settings) acts))
  set : ∀ (m : Moment) (acts : List Act),
    (∀ act ∈ acts, ∀ interval, act ≠ .setRefreshInterval interval) →
      Throttled n.toNat 0
        (beats gateway (operations gateway ((Act.setRefreshInterval n).step gateway m) acts))
  others : ∀ (m : Moment) (act : Act), ¬act.counts m →
    (act.step gateway m).state.session.refreshCounter = m.state.session.refreshCounter ∧
      (act.step gateway m).state.session.refreshInterval = m.state.session.refreshInterval
  early : ∀ m, (enact gateway (handle .heartbeat) m).1 = false →
    (enact gateway (handle .heartbeat) m).2 =
      m.withSession (m.state.session.withCounter (increment m.state.session.refreshCounter))
  due : ∀ m, (enact gateway (handle .heartbeat) m).1 = true →
    Round gateway m (enact gateway (handle .heartbeat) m).2.trace
        (enact gateway (handle .heartbeat) m).2.state.health ∧
      (enact gateway (handle .heartbeat) m).2.state.session.refreshCounter = 0

/-- Of the heartbeats of a run, from the first one on or since the interval was set, every so
many-th is due. A new bridge waits for the interval to pass, and one whose interval is set does not.
Nothing but heartbeats and the setting of the interval has to do with the count. -/
theorem heartbeats_throttled (hn : n < 0xFFFFFFFF) : Throttling gateway settings n where
  created := by
    intro acts hinterval hacts
    have hcadence := cadence_path (path_run gateway acts (Moment.start settings)) hn hinterval
      (quiet_operations acts _ hacts)
    exact hcadence.throttled le_rfl
  set := by
    intro m acts hacts
    have hpath := path_run gateway acts ((Act.setRefreshInterval n).step gateway m)
    have hcadence := cadence_path hpath hn rfl (quiet_operations acts _ hacts)
    have hready : n.toNat - (increment n).toNat = 0 := by
      have hmax : n ≠ 0xFFFFFFFF := by
        rintro rfl
        exact absurd hn (by decide)
      rw [toNat_increment hmax]
      omega
    change Cadence n.toNat (n.toNat - (increment n).toNat) _ at hcadence
    rw [hready] at hcadence
    exact hcadence.throttled (Nat.zero_le _)
  others := fun m act hquiet => counter_of_not_counts act hquiet
  early := enact_early gateway
  due := round_of_due gateway

def sixBeats : List Act :=
  [.handle .heartbeat, .handle .heartbeat, .probe, .handle .heartbeat, .handle .heartbeat,
    .handle .reportItems, .handle .heartbeat, .handle .heartbeat]

theorem heartbeats_throttled_six :
    (5 : UInt32) < 0xFFFFFFFF ∧ Throttling obliging sampleMoment.state.settings 5 ∧
      Throttled 5 5 (beats obliging (operations obliging (.start sampleMoment.state.settings)
        sixBeats)) ∧
      beats obliging (operations obliging (.start sampleMoment.state.settings) sixBeats) =
        [false, false, false, false, false, true] := by
  have hthrottling := heartbeats_throttled obliging sampleMoment.state.settings 5 (by decide)
  refine ⟨by decide, hthrottling, hthrottling.created sixBeats rfl ?_, by decide +kernel⟩
  simp [sixBeats]

end Results

end ZigbeeBridge.Bridge
