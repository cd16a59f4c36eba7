import ZigbeeBridge.Proofs.Bridge.Frame
import ZigbeeBridge.Proofs.Bridge.Throttle

/-!
The first heartbeat after the interval is set. It is due, whatever is done in between, for every
interval but the greatest one: no count exceeds that, and so no heartbeat is due any more.
-/
namespace ZigbeeBridge.Bridge

open Bus Gateway Operation
open Dialogue (Behaviour)

namespace Session

/-- The interval, and a count that goes beyond it where a count can. -/
structure Primed (s : Session) (n : UInt32) : Prop where
  interval : s.refreshInterval = n
  counter : s.refreshCounter = increment n

variable {s : Session} {n : UInt32}

theorem primed_setInterval (s : Session) (n : UInt32) : (s.setInterval n).Primed n := ⟨rfl, rfl⟩

/-- No count is greater than the greatest interval. -/
theorem tick_of_greatest (hinterval : s.refreshInterval = 0xFFFFFFFF) : s.tick.1 = false := by
  have hbound : ¬increment s.refreshCounter > 0xFFFFFFFF := by
    have hlt := (increment s.refreshCounter).toNat_lt
    rw [gt_iff_lt, UInt32.lt_iff_toNat_lt]
    change ¬4294967295 < _
    omega
  unfold tick
  dsimp only
  rw [hinterval, if_neg hbound]

theorem Primed.tick_iff (hprimed : s.Primed n) : s.tick.1 = true ↔ n ≠ 0xFFFFFFFF := by
  constructor
  · rintro hdue rfl
    rw [tick_of_greatest hprimed.interval] at hdue
    cases hdue
  · intro hn
    have hnext := toNat_increment hn
    have hlt : s.refreshInterval < 0xFFFFFFFF := by
      have hmax : n.toNat ≠ 4294967295 := fun h => hn (UInt32.toNat_inj.mp h)
      have hbound := n.toNat_lt
      rw [hprimed.interval, UInt32.lt_iff_toNat_lt]
      change _ < 4294967295
      omega
    rcases s.tick_cases hlt with ⟨-, htick⟩ | ⟨hearly, -⟩
    · rw [htick]
    · rw [hprimed.interval, hprimed.counter] at hearly
      omega

end Session

section Intervals

def Act.intervalAfter (n : UInt32) : Act → UInt32
  | setRefreshInterval interval => interval
  | _ => n

theorem Act.intervalAfter_of_ne (n : UInt32) {act : Act}
    (hact : ∀ interval, act ≠ .setRefreshInterval interval) : act.intervalAfter n = n := by
  unfold intervalAfter
  split
  · exact absurd rfl (hact _)
  · rfl

/-- The interval that was set last, or else the one before. -/
def lastInterval (n : UInt32) (parts : List (Moment × Act)) : UInt32 :=
  parts.foldl (fun n part => part.2.intervalAfter n) n

theorem lastInterval_of_quiet {n : UInt32} {parts : List (Moment × Act)}
    (hparts : ∀ part ∈ parts, ∀ interval, part.2 ≠ .setRefreshInterval interval) :
    lastInterval n parts = n := by
  induction parts with
  | nil => rfl
  | cons part rest ih =>
    unfold lastInterval
    rw [List.foldl_cons, part.2.intervalAfter_of_ne n (hparts part List.mem_cons_self)]
    exact ih fun part hmem => hparts part (List.mem_cons_of_mem _ hmem)

variable {gateway : Behaviour} {m m' : Moment} {parts : List (Moment × Act)} {n : UInt32}

theorem Session.Primed.effect {s : Session} (hprimed : s.Primed n) {act : Act}
    (hbeat : act ≠ .handle .heartbeat) : (act.effect s).Primed (act.intervalAfter n) := by
  by_cases hset : ∃ interval, act = .setRefreshInterval interval
  · obtain ⟨interval, rfl⟩ := hset
    exact s.primed_setInterval interval
  · have hother : ∀ interval, act ≠ .setRefreshInterval interval :=
      fun interval h => hset ⟨interval, h⟩
    obtain ⟨hcounter, hinterval⟩ := counter_effect s act hbeat hother
    rw [act.intervalAfter_of_ne n hother]
    exact ⟨hinterval.trans hprimed.interval, hcounter.trans hprimed.counter⟩

theorem primed_step (gateway : Behaviour) (hprimed : m.state.session.Primed n) {act : Act}
    (hact : act ≠ .dispatch) (hbeat : act ≠ .handle .heartbeat) :
    (act.step gateway m).state.session.Primed (act.intervalAfter n) := by
  obtain ⟨hcounter, hinterval⟩ := counter_step gateway m act hact
  have heffect := hprimed.effect hbeat
  exact ⟨hinterval.trans heffect.interval, hcounter.trans heffect.counter⟩

/-- As long as no heartbeat is handled, the next one stays as it was prepared. -/
theorem primed_path (hpath : Path gateway m parts m') (hprimed : m.state.session.Primed n)
    (hparts : ∀ part ∈ parts, part.2 ≠ .handle .heartbeat) :
    m'.state.session.Primed (lastInterval n parts) := by
  induction hpath generalizing n with
  | nil m => exact hprimed
  | requeue queue _ ih => exact ih hprimed hparts
  | cons hact _ ih =>
    have hnext := primed_step gateway hprimed hact (hparts _ List.mem_cons_self)
    exact ih hnext fun part hmem => hparts part (List.mem_cons_of_mem _ hmem)

theorem interval_path (hpath : Path gateway m parts m')
    (hparts : ∀ part ∈ parts, ∀ interval, part.2 ≠ .setRefreshInterval interval) :
    m'.state.session.refreshInterval = m.state.session.refreshInterval := by
  induction hpath with
  | nil m => rfl
  | requeue queue _ ih => exact ih hparts
  | @cons m m' act rest hact _ ih =>
    have hkept : (act.step gateway m).state.session.refreshInterval =
        m.state.session.refreshInterval := by
      rw [(counter_step gateway m act hact).2]
      by_contra hchanged
      exact hparts _ List.mem_cons_self _ (interval_effect m.state.session act hchanged)
    exact (ih fun part hmem => hparts part (List.mem_cons_of_mem _ hmem)).trans hkept

theorem path_before {before after : List (Moment × Act)} {part : Moment × Act}
    (hpath : Path gateway m (before ++ part :: after) m') : Path gateway m before part.1 := by
  generalize hparts : before ++ part :: after = parts at hpath
  induction hpath generalizing before with
  | nil m => simp at hparts
  | requeue queue _ ih => exact .requeue queue (ih hparts)
  | cons hact _ ih =>
    cases before with
    | nil =>
      obtain ⟨rfl, -⟩ := List.cons.inj hparts
      exact .nil _
    | cons first before =>
      obtain ⟨rfl, hrest⟩ := List.cons.inj hparts
      exact .cons hact (ih hrest)

theorem beats_of_greatest (hpath : Path gateway m parts m')
    (hinterval : m.state.session.refreshInterval = 0xFFFFFFFF)
    (hparts : ∀ part ∈ parts, ∀ interval, part.2 ≠ .setRefreshInterval interval) :
    true ∉ beats gateway parts := by
  intro hmem
  obtain ⟨part, hpart, hbeat⟩ := List.mem_filterMap.mp hmem
  obtain ⟨before, after, rfl⟩ := List.append_of_mem hpart
  have hsame := interval_path (path_before hpath) fun part hmem =>
    hparts part (List.mem_append_left _ hmem)
  have hearly := Session.tick_of_greatest (hsame.trans hinterval)
  split at hbeat
  · rw [enact_beat, Option.some.injEq] at hbeat
    rw [hearly] at hbeat
    cases hbeat
  · cases hbeat

end Intervals

section Results

variable (gateway : Behaviour)

/-- What the first heartbeat after the interval was set last comes to. -/
structure NextBeat (n : UInt32) (m : Moment) : Prop where
  shown : m.state.status.refreshInterval = n
  due_iff : (enact gateway (handle .heartbeat) m).1 = true ↔ n ≠ 0xFFFFFFFF
  /-- One that is due sees to the health, and then goes round the lights and groups. -/
  round : n ≠ 0xFFFFFFFF →
    Round gateway m (enact gateway (handle .heartbeat) m).2.trace
        (enact gateway (handle .heartbeat) m).2.state.health ∧
      (enact gateway (handle .heartbeat) m).2.state.session.refreshCounter = 0

theorem Session.Primed.nextBeat {n : UInt32} {m : Moment} (hprimed : m.state.session.Primed n) :
    NextBeat gateway n m := by
  have hdue : (enact gateway (handle .heartbeat) m).1 = true ↔ n ≠ 0xFFFFFFFF := by
    rw [enact_beat]
    exact hprimed.tick_iff
  exact ⟨hprimed.interval, hdue, fun hn => round_of_due gateway m (hdue.mpr hn)⟩

/-- What setting an interval means for whatever is done next. -/
structure Priming (n : UInt32) : Prop where
  shown : ∀ (m : Moment) (acts : List Act),
    (∀ part ∈ operations gateway ((Act.setRefreshInterval n).step gateway m) acts,
      part.2 ≠ .handle .heartbeat) →
    (((Act.setRefreshInterval n).step gateway m).run gateway acts).state.status.refreshInterval =
      lastInterval n (operations gateway ((Act.setRefreshInterval n).step gateway m) acts)
  next : ∀ (m : Moment) (acts : List Act) before beat after,
    operations gateway ((Act.setRefreshInterval n).step gateway m) acts =
      before ++ (beat, .handle .heartbeat) :: after →
    (∀ part ∈ before, part.2 ≠ .handle .heartbeat) →
      NextBeat gateway (lastInterval n before) beat
  never : n = 0xFFFFFFFF → ∀ (m : Moment) (acts : List Act),
    (∀ act ∈ acts, ∀ interval, act ≠ .setRefreshInterval interval) →
      true ∉ beats gateway (operations gateway ((Act.setRefreshInterval n).step gateway m) acts)

/-- Once the interval is set, the next heartbeat is due, whatever is done in between, if any count
exceeds the interval; at the greatest interval no heartbeat is due any more. -/
theorem primed_next (n : UInt32) : Priming gateway n where
  shown := by
    intro m acts hquiet
    have hpath := path_run gateway acts ((Act.setRefreshInterval n).step gateway m)
    exact (primed_path hpath (m.state.session.primed_setInterval n) hquiet).interval
  next := by
    intro m acts before beat after hparts hquiet
    have hpath := path_run gateway acts ((Act.setRefreshInterval n).step gateway m)
    rw [hparts] at hpath
    have hprimed := primed_path (path_before hpath) (m.state.session.primed_setInterval n) hquiet
    exact hprimed.nextBeat gateway
  never := by
    rintro rfl m acts hacts
    have hpath := path_run gateway acts ((Act.setRefreshInterval 0xFFFFFFFF).step gateway m)
    exact beats_of_greatest hpath rfl (quiet_operations acts _ hacts)

def movedBeat : List Act := [.setAddress "gw2", .submit .heartbeat, .probe, .dispatch]

theorem primed_next_queued :
    ∃ before beat,
      operations obliging ((Act.setRefreshInterval 0xFFFFFFFE).step obliging sampleMoment)
          movedBeat = before ++ [(beat, .handle .heartbeat)] ∧
        (∀ part ∈ before, part.2 ≠ .handle .heartbeat) ∧
        beat.state.status.refreshInterval = 0xFFFFFFFE ∧
        (enact obliging (handle .heartbeat) beat).1 = true := by
  have hparts : operations obliging ((Act.setRefreshInterval 0xFFFFFFFE).step obliging sampleMoment)
      movedBeat = [_, _, _] ++ [(_, .handle .heartbeat)] := rfl
  have hnext := (primed_next obliging 0xFFFFFFFE).next sampleMoment movedBeat _ _ _ hparts
    (by simp)
  rw [lastInterval_of_quiet (by simp)] at hnext
  exact ⟨_, _, hparts, by simp, hnext.shown, hnext.due_iff.mpr (by decide)⟩

theorem not_due_greatest :
    let m := (Act.setRefreshInterval 0xFFFFFFFF).step obliging sampleMoment
    m.state.status.refreshInterval = 0xFFFFFFFF ∧
      (enact obliging (handle .heartbeat) m).1 = false ∧
      (enact obliging (handle .heartbeat) m).2.trace = .empty := by
  decide +kernel

end Results

end ZigbeeBridge.Bridge
