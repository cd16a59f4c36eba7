import ZigbeeBridge.Proofs.Bridge.Lines

/-!
An operation whose turns follow one another, with nothing in between but what it waits for, is the
operation as a whole.
-/
namespace ZigbeeBridge.Bridge

open Bus Dialogue Gateway Push Operation

theorem Moment.heed_of_closes (m : Moment) {hearing : Hearing} (hcloses : hearing.closes = true) :
    m.heed hearing = m.closePush := by
  cases hearing with
  | nothing | lagged missed => cases hcloses
  | hungUp => rfl
  | notice notice =>
    cases notice with
    | closed code reason remote => rfl
    | opened | message message => cases hcloses

theorem Moment.closePush_of_none (m : Moment) (hnone : m.state.push = none) : m.closePush = m := by
  unfold closePush
  rw [hnone]
  rfl

namespace Tasks

variable {t : Tasks}

/-- The turns in which a connection that is cancelled comes to its end. -/
def hangUp : Option Nat → List Step
  | some i => [.see i .opened, .hear i]
  | none => []

/-- The turns of an operation, with those of the connection that it ends and of the one that it
opens. -/
def sequence (t : Tasks) (call : Lifecycle) : List Step :=
  .call call :: (hangUp t.held ++
    [.proceed, .proceed, .proceed, .see t.lines.length .opened, .hear t.lines.length])

theorem run_hangUp_kept (gateway : Behaviour) (t : Tasks) (i? : Option Nat) :
    (t.run gateway (hangUp i?)).stage = t.stage ∧
      (t.run gateway (hangUp i?)).lines.length = t.lines.length := by
  cases i? with
  | none => exact ⟨rfl, rfl⟩
  | some i =>
    refine ⟨rfl, ?_⟩
    change ((t.lines.modify i _).modify i _).length = _
    rw [List.length_modify, List.length_modify]

theorem moment_hangUp (gateway : Behaviour) {i : Nat} {line : Line}
    (hline : t.lines[i]? = some line) :
    (t.run gateway (hangUp (some i))).moment = t.moment.heed (line.see .opened).next ∧
      (t.run gateway (hangUp (some i))).lines[i]? = some (line.see .opened).hear := by
  have hseen := line_withLine hline (·.see .opened)
  have hnext := next_eq hseen
  refine ⟨?_, line_withLine hseen Line.hear⟩
  change (t.withLine i (·.see .opened)).moment.heed ((t.withLine i (·.see .opened)).next i) = _
  rw [hnext]
  rfl

/-- There is no push connection once the listener of the only one has stopped. -/
theorem Sound.push_eq_none_of_stopped (hsound : t.Sound) {i : Nat} {line : Line}
    (hcurrent : t.current = some i) (hline : t.lines[i]? = some line)
    (hstopped : line.listening = false) : t.moment.state.push = none := by
  apply hsound.push_eq_none
  intro j line' hline'
  cases hother : line'.listening with
  | false => rfl
  | true =>
    have hj := hsound.tidy.current j line' hline' hother
    rw [hcurrent] at hj
    cases hj
    rw [hline] at hline'
    cases hline'
    rw [hstopped] at hother
    cases hother

/-- The connection that an operation has cancelled comes to its end, and with it the push
connection of the bridge. -/
theorem Sound.run_hangUp (hsound : t.Sound) (gateway : Behaviour) {call : Lifecycle}
    {awaited : Option Nat} (hstage : t.stage = .stopping call awaited)
    (hcloses : ∀ (i : Nat) (line : Line), awaited = some i → t.lines[i]? = some line →
      line.listening = true → (line.see .opened).next.closes = true) :
    (t.run gateway (hangUp awaited)).moment = t.moment.closePush ∧
      (t.run gateway (hangUp awaited)).hasStopped awaited = true := by
  have hcurrent : t.current = awaited := by
    unfold current
    rw [hstage]
  cases awaited with
  | none =>
    have hpush := hsound.push_eq_none (hsound.tidy.quiet hcurrent)
    exact ⟨(t.moment.closePush_of_none hpush).symm, rfl⟩
  | some i =>
    have hlast := hsound.tidy.last i hcurrent
    obtain ⟨line, hline⟩ : ∃ line, t.lines[i]? = some line :=
      ⟨_, List.getElem?_eq_getElem (by omega)⟩
    obtain ⟨hmoment, hheard⟩ := moment_hangUp gateway hline
    have hstops : ∀ hstopped : (line.see .opened).hear.listening = false,
        (t.run gateway (hangUp (some i))).hasStopped (some i) = true := by
      intro hstopped
      unfold hasStopped
      rw [Option.bind_some, hheard]
      change (!(line.see .opened).hear.listening) = true
      rw [hstopped]
      rfl
    obtain ⟨-, -, -, hkept⟩ := (line.turn_see .opened).kept
    cases hlistening : line.listening with
    | false =>
      have hpush := hsound.push_eq_none_of_stopped hcurrent hline hlistening
      rw [hlistening] at hkept
      have hnext : (line.see .opened).next = .nothing := by
        unfold Line.next
        rw [hkept]
        rfl
      refine ⟨?_, hstops ?_⟩
      · rw [hmoment, hnext, t.moment.closePush_of_none hpush]
        rfl
      · rw [Line.listening_hear, hkept]
        rfl
    | true =>
      have hends := hcloses i line rfl hline hlistening
      refine ⟨?_, hstops ?_⟩
      · rw [hmoment, t.moment.heed_of_closes hends]
      · rw [Line.listening_hear, hends]
        exact Bool.and_false _

theorem moment_of_none (gateway : Behaviour) {i : Nat} (hnone : t.lines[i]? = none) :
    (t.run gateway [.see i .opened, .hear i]).moment = t.moment := by
  have hnext : (t.withLine i (·.see .opened)).next i = .nothing := by
    apply next_of_none
    rw [lines_withLine, hnone]
    rfl
  change t.moment.heed ((t.withLine i (·.see .opened)).next i) = t.moment
  rw [hnext]
  rfl

theorem moment_openLine (gateway : Behaviour) (t : Tasks) :
    (t.openLine.run gateway [.see t.lines.length .opened, .hear t.lines.length]).moment =
      (enact gateway startPush t.moment).2 := by
  have hnone : (({ t with stage := .idle } : Tasks).run gateway
      [.see t.lines.length .opened, .hear t.lines.length]).moment = t.moment :=
    moment_of_none gateway (List.getElem?_eq_none (Nat.le_refl t.lines.length))
  rw [enact_startPush]
  unfold openLine
  dsimp only
  cases t.moment.state.settings.pushEnabled with
  | false => exact hnone
  | true =>
    cases t.moment.state.session.pushTarget t.moment.state.settings with
    | error e => exact hnone
    | ok url =>
      have hnew : (t.lines ++ [Line.start t.connects t.moment.state.shutDown])[t.lines.length]? =
          some (Line.start t.connects t.moment.state.shutDown) := List.getElem?_concat_length
      refine (moment_hangUp gateway hnew).1.trans ?_
      cases t.moment.state.shutDown with
      | false => rfl
      | true => rfl

theorem behind_begin (hidle : t.stage = .idle) (call : Lifecycle) (i : Nat) :
    (t.begin call).behind i = t.behind i := by
  rw [begin_of_idle hidle]
  change t.cancelHeld.behind i = _
  unfold cancelHeld
  split
  · unfold behind
    rw [lines_withLine]
    cases t.lines[i]? with
    | none => rfl
    | some line =>
      simp only [Option.map_some, Option.getD_some]
      split <;> rfl
  · rfl

theorem moment_begin (call : Lifecycle) : (t.begin call).moment = t.moment := by
  by_cases hidle : t.stage = .idle
  · rw [begin_of_idle hidle]
    exact t.cancelHeld_kept.1
  · rw [begin_of_busy hidle]

theorem length_begin (hidle : t.stage = .idle) (call : Lifecycle) :
    (t.begin call).lines.length = t.lines.length := by
  rw [begin_of_idle hidle]
  change t.cancelHeld.lines.length = _
  unfold cancelHeld
  split
  · exact List.length_modify _ _ _
  · rfl

theorem proceed_of_stopped (gateway : Behaviour) {call : Lifecycle} {awaited : Option Nat}
    (hstage : t.stage = .stopping call awaited) (hstopped : t.hasStopped awaited = true) :
    t.proceed gateway = t.stopped call := by
  unfold proceed
  rw [hstage]
  dsimp only
  rw [if_pos hstopped]

theorem moment_stopped (gateway : Behaviour) (t : Tasks) (call : Lifecycle) :
    ((t.stopped call).run gateway
      [.proceed, .proceed, .see t.lines.length .opened, .hear t.lines.length]).moment =
      match call with
      | .connect | .reconnect =>
        (enact gateway startPush (enact gateway probe (t.moment.withHealth .connecting)).2).2
      | .disconnect => t.moment.withHealth .disconnected
      | .shutDown =>
        { t.moment.withHealth .disconnected with
          state := { (t.moment.withHealth .disconnected).state with
            queue := [], shutDown := true } } := by
  cases call with
  | connect | reconnect => exact moment_openLine gateway _
  | disconnect => exact moment_of_none gateway (List.getElem?_eq_none (Nat.le_refl _))
  | shutDown =>
    refine moment_of_none gateway (List.getElem?_eq_none ?_)
    exact Nat.le_of_eq (List.length_map _)

/-- Taken in sequence, the turns of an operation come to the operation as a whole, if the listener
of the connection of before hears next that it is closed. -/
theorem Sound.run_sequence_of_closes (hsound : t.Sound) (gateway : Behaviour)
    (hidle : t.stage = .idle) (call : Lifecycle)
    (hcloses : ∀ (i : Nat) (line : Line), t.held = some i →
      (t.begin call).lines[i]? = some line → line.listening = true →
        (line.see .opened).next.closes = true) :
    (t.run gateway (t.sequence call)).moment = call.act.step gateway t.moment := by
  have hstage : (t.begin call).stage = .stopping call t.held := by
    rw [begin_of_idle hidle]
  have hmoment := moment_begin (t := t) call
  obtain ⟨hclosed, hstopped⟩ := (hsound.begin call).run_hangUp gateway hstage hcloses
  obtain ⟨hstage', hlength⟩ := run_hangUp_kept gateway (t.begin call) t.held
  rw [hstage] at hstage'
  rw [length_begin hidle] at hlength
  have hrun : t.run gateway (t.sequence call) =
      (((t.begin call).run gateway (hangUp t.held)).proceed gateway).run gateway
        [.proceed, .proceed, .see t.lines.length .opened, .hear t.lines.length] :=
    List.foldl_append
  rw [hrun, proceed_of_stopped gateway hstage' hstopped, ← hlength, moment_stopped, hclosed,
    hmoment]
  unfold Act.step Lifecycle.act Act.operation
  cases call with
  | connect | reconnect =>
    simp only [enact_map, enact_connect]
  | disconnect =>
    simp only [enact_map, enact_disconnect]
  | shutDown =>
    simp only [enact_map, enact_shutDown]

/-- So it is where that listener has heard all there was until then. -/
theorem Sound.run_sequence (hsound : t.Sound) (gateway : Behaviour) (hidle : t.stage = .idle)
    (hcalm : ∀ i, t.held = some i → t.behind i = 0) (call : Lifecycle) :
    (t.run gateway (t.sequence call)).moment = call.act.step gateway t.moment := by
  refine hsound.run_sequence_of_closes gateway hidle call fun i line hheld hline hlistening => ?_
  have hbegun := (hsound.begin call).tidy
  have hstage : (t.begin call).stage = .stopping call (some i) := by
    rw [begin_of_idle hidle, ← hheld]
  have hbehind := (behind_begin hidle call i).trans (hcalm i hheld)
  unfold behind at hbehind
  rw [hline] at hbehind
  have hcancelled := hbegun.cancelled call i line hstage hline
  exact (hbegun.line i line hline).closes_of_cancelled hlistening hbehind hcancelled .opened

end Tasks

end ZigbeeBridge.Bridge
