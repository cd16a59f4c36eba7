import ZigbeeBridge.Proofs.Bridge.Address
import ZigbeeBridge.Proofs.Bridge.Delivery
import ZigbeeBridge.Proofs.Bridge.Failure
import ZigbeeBridge.Proofs.Bridge.Sequence
import ZigbeeBridge.Proofs.Bridge.Session

/-!
Push connections after a shutdown. Whatever connect makes one, it is cancelled before it can open:
it brings nothing but its own end, and that leaves the bridge disconnected.
-/
namespace ZigbeeBridge.Push

/-- The connection was not open at any time. -/
def Reading.isUnopened : Reading → Bool
  | opening => true
  | reading _ => false
  | ended (.opened _ _) => false
  | ended _ => true

/-- What such a connection has told, if anything, is that it is closed. -/
theorem Reading.isClosed_of_isUnopened {reading : Reading} (hunopened : reading.isUnopened = true) :
    reading.notices.length ≤ 1 ∧ ∀ notice ∈ reading.notices, notice.isClosed = true := by
  cases reading with
  | opening => exact ⟨Nat.zero_le 1, by simp [notices]⟩
  | reading frames => cases hunopened
  | ended attempt =>
    cases attempt with
    | opened frames ending => cases hunopened
    | cancelled | failed reason =>
      refine ⟨Nat.le_refl 1, fun notice hnotice => ?_⟩
      rw [List.mem_singleton.mp hnotice]
      rfl

theorem Notice.event?_of_isClosed {notice : Notice} (hclosed : notice.isClosed = true) :
    notice.event? = none := by
  cases notice with
  | opened | message message => cases hclosed
  | closed code reason remote => rfl

namespace Line

def isOpen (line : Line) : Bool :=
  match line.reading with
  | .reading _ => true
  | _ => false

/-- Cancelled before it could open. -/
structure Barred (line : Line) : Prop where
  cancelled : line.cancelled = true
  unopened : line.reading.isUnopened = true

variable {line : Line}

theorem barred_start (connect : Nat) : (start connect true).Barred := ⟨rfl, rfl⟩

theorem Barred.cancel (hbarred : line.Barred) : line.cancel.Barred := ⟨rfl, hbarred.unopened⟩

theorem Barred.see (hbarred : line.Barred) (sight : Sight) : (line.see sight).Barred := by
  obtain ⟨hcancelled, hunopened⟩ := hbarred
  obtain ⟨connect, cancelled, reading, told, heard, listening⟩ := line
  cases hcancelled
  cases reading with
  | opening => cases sight <;> exact ⟨rfl, rfl⟩
  | reading frames => cases hunopened
  | ended attempt => exact ⟨rfl, hunopened⟩

theorem Barred.hear (hbarred : line.Barred) : line.hear.Barred := by
  obtain ⟨-, hcancelled, hreading, -⟩ := line.hear_kept
  refine ⟨?_, ?_⟩
  · rw [hcancelled]
    exact hbarred.cancelled
  · rw [hreading]
    exact hbarred.unopened

theorem Barred.isOpen_eq_false (hbarred : line.Barred) : line.isOpen = false := by
  have hunopened := hbarred.unopened
  unfold isOpen
  cases hreading : line.reading with
  | opening | ended attempt => rfl
  | reading frames =>
    rw [hreading] at hunopened
    cases hunopened

theorem isOpen_of_not_isAlive (hended : line.isAlive = false) : line.isOpen = false := by
  unfold isAlive at hended
  unfold isOpen
  cases hreading : line.reading with
  | opening | ended attempt => rfl
  | reading frames =>
    rw [hreading] at hended
    cases hended

theorem Barred.event?_next (hbarred : line.Barred) (hsound : line.Sound) :
    line.next.event? = none := by
  have hhears := line.hears_next
  generalize line.next = hearing at hhears
  cases hhears with
  | stopped | lagged | waits | hungUp => rfl
  | notice notice _ _ htold =>
    rw [hsound.told] at htold
    have hclosed := (Reading.isClosed_of_isUnopened hbarred.unopened).2 notice
      (List.mem_of_getElem? htold)
    exact Notice.event?_of_isClosed hclosed

theorem Barred.closes (hbarred : line.Barred) (hsound : line.Sound)
    (hlistening : line.listening = true) (sight : Sight) :
    (line.see sight).next.closes = true := by
  have hseen := hbarred.see sight
  have hsound' := hsound.turn (line.turn_see sight)
  obtain ⟨-, -, -, hkept⟩ := (line.turn_see sight).kept
  rw [hlistening] at hkept
  have hlt := hsound'.waiting hkept (see_of_cancelled hbarred.cancelled sight)
  obtain ⟨hshort, hclosed⟩ := Reading.isClosed_of_isUnopened hseen.unopened
  rw [← hsound'.told] at hshort hclosed
  have hpace : (line.see sight).behind ≤ capacity := by
    have hcapacity : 1 ≤ capacity := by decide
    unfold behind
    omega
  have hhears := (line.see sight).hears_next
  obtain ⟨notice, hnext⟩ := next_of_behind hkept hpace hlt
  rw [hnext] at hhears ⊢
  cases hhears with
  | notice _ _ _ htold => exact hclosed notice (List.mem_of_getElem? htold)

end Line

end ZigbeeBridge.Push

namespace ZigbeeBridge.Bridge

open Bus Dialogue Gateway Push Operation

section Connects

variable (gateway : Behaviour) {m : Moment}

/-- Who is not disconnected by a probe has an address to ask at. -/
theorem baseUrl_of_probe (hcurrent : m.state.session.Current)
    (hanswered : (enact gateway probe m).2.state.health ≠ .disconnected) :
    ∃ base, baseUrl m.state.session.address = .ok base := by
  cases hclient : m.state.session.connectClient with
  | ok found => exact ⟨found.1.base, (hcurrent.connectClient hclient).1⟩
  | error e =>
    refine absurd ?_ hanswered
    rw [enact_probe, askAbout, enact_withClient, hclient]
    rfl

/-- A push connection that is made after a shutdown ends at once. -/
theorem health_startPush_of_shutDown (hdown : m.state.shutDown = true)
    (hpush : m.state.settings.pushEnabled = true) {url : Url}
    (htarget : m.state.session.pushTarget m.state.settings = .ok url) :
    (enact gateway startPush m).2.state.health = .disconnected := by
  rw [enact_startPush, htarget, hdown, if_pos hpush]
  rfl

/-- A connect after a shutdown ends disconnected, whatever its probe is answered. -/
theorem health_connect_of_shutDown (hcurrent : m.state.session.Current)
    (hdown : m.state.shutDown = true) (hpush : m.state.settings.pushEnabled = true) :
    (enact gateway connect m).2.state.health = .disconnected := by
  have hstart : m.Stays (m.closePush.withHealth .connecting) := by
    have hclosed := Moment.stays_closePush hcurrent
    exact hclosed.trans (Moment.stays_withHealth hclosed.current .connecting)
  have haddress := (stays_probe gateway hstart.current).address.trans hstart.address
  have hsettings := blind_settings.keeps_probe gateway (m.closePush.withHealth .connecting)
  have hdown' := Tasks.blind_shutDown.keeps_probe gateway (m.closePush.withHealth .connecting)
  have hasked := baseUrl_of_probe gateway hstart.current
  rw [enact_connect]
  dsimp only
  generalize (enact gateway probe (m.closePush.withHealth .connecting)).2 = probed at *
  replace hsettings := hsettings.trans m.settings_closePush
  -- A probe that found nobody has disconnected the bridge; behind any other there is a push.
  by_cases hhealth : probed.state.health = .disconnected
  · rw [startPush_of_disconnected gateway probed hhealth]
    exact hhealth
  · obtain ⟨base, hbase⟩ := hasked hhealth
    rw [hstart.address] at hbase
    obtain ⟨url, hurl⟩ := pushUrl_of_baseUrl hbase
      ((m.state.settings.pushPort.or (probed.state.session.about.bind (·.pushPort))).getD
        Session.usualPushPort)
    have htarget : probed.state.session.pushTarget probed.state.settings = .ok url := by
      unfold Session.pushTarget
      rw [haddress, hbase, hsettings]
      exact hurl
    refine health_startPush_of_shutDown gateway ?_ (by rw [hsettings]; exact hpush) htarget
    exact (hdown'.trans m.shutDown_closePush).trans hdown

end Connects

namespace Tasks

/-- Whatever is still listened to is barred. -/
def Barred (t : Tasks) : Prop :=
  ∀ (i : Nat) (line : Line), t.lines[i]? = some line → line.listening = true → line.Barred

variable {t : Tasks}

theorem barred_of_quiet
    (hquiet : ∀ (i : Nat) (line : Line), t.lines[i]? = some line → line.listening = false) :
    t.Barred := by
  intro i line hline hlistening
  rw [hquiet i line hline] at hlistening
  cases hlistening

theorem Barred.withLine (hbarred : t.Barred) (i : Nat) (f : Line → Line)
    (hf : ∀ line : Line, line.Barred → (f line).Barred)
    (hlistening : ∀ line : Line, (f line).listening = true → line.listening = true) :
    (t.withLine i f).Barred := by
  intro j line' hline' hlistens
  obtain ⟨line, hline, hnew⟩ := line_of_withLine hline'
  rcases hnew with ⟨-, rfl⟩ | ⟨-, rfl⟩
  · exact hf line (hbarred j line hline (hlistening line hlistens))
  · exact hbarred j line' hline hlistens

theorem Barred.begin (hbarred : t.Barred) (call : Lifecycle) : (t.begin call).Barred := by
  by_cases hidle : t.stage = .idle
  · rw [begin_of_idle hidle]
    change t.cancelHeld.Barred
    unfold cancelHeld
    split
    · exact hbarred.withLine _ Line.cancel (fun _ h => h.cancel) fun _ h => h
    · exact hbarred
  · rw [begin_of_busy hidle]
    exact hbarred

theorem Barred.openLine (hbarred : t.Barred) (hdown : t.moment.state.shutDown = true) :
    t.openLine.Barred := by
  rcases t.openLine_eq with hopen | ⟨url, hopen⟩
  · rw [hopen]
    exact hbarred
  · rw [hopen, hdown]
    intro i line hline hlistening
    rcases line_of_concat hline with hold | ⟨-, rfl⟩
    · exact hbarred i line hold hlistening
    · exact Line.barred_start _

inductive Moves (gateway : Behaviour) (m : Moment) : Moment → Prop
  | stays : Moves gateway m m
  | health (health : Health) : Moves gateway m (m.withHealth health)
  | probes : Moves gateway m (enact gateway probe m).2
  | opens (url : Url) : Moves gateway m { m with state := { m.state with push := some url } }
  | heeds (hearing : Hearing) : Moves gateway m (m.heed hearing)
  | acts (act : Act) (hact : act.isLifecycle = false) : Moves gateway m (act.step gateway m)

theorem moves_step (gateway : Behaviour) (step : Step) :
    Moves gateway t.moment (t.step gateway step).moment ∨
      ∃ awaited, t.stage = .stopping .shutDown awaited ∧ t.hasStopped awaited = true ∧
        t.step gateway step = t.stopped .shutDown := by
  cases step with
  | call call =>
    refine Or.inl ?_
    change Moves gateway t.moment (t.begin call).moment
    rw [moment_begin]
    exact .stays
  | proceed =>
    change Moves gateway t.moment (t.proceed gateway).moment ∨ ∃ _, _ ∧ _ ∧ t.proceed gateway = _
    unfold proceed
    split
    · exact Or.inl .stays
    · rename_i call awaited hstage
      split
      · rename_i hstopped
        cases call with
        | connect | reconnect | disconnect => exact Or.inl (.health _)
        | shutDown => exact Or.inr ⟨awaited, hstage, hstopped, rfl⟩
      · exact Or.inl .stays
    · exact Or.inl .probes
    · rcases t.openLine_eq with hopen | ⟨url, hopen⟩
      · rw [hopen]
        exact Or.inl .stays
      · rw [hopen]
        exact Or.inl (.opens url)
  | see i sight => exact Or.inl .stays
  | hear i => exact Or.inl (.heeds _)
  | act act =>
    rw [step_act]
    split
    · exact Or.inl .stays
    · rename_i hact
      exact Or.inl (.acts act (by simpa using hact))

theorem shutDown_step (gateway : Behaviour) (step : Step) :
    (t.step gateway step).moment.state.shutDown = t.moment.state.shutDown ∨
      ∃ awaited, t.stage = .stopping .shutDown awaited ∧ t.hasStopped awaited = true ∧
        t.step gateway step = t.stopped .shutDown := by
  refine (moves_step gateway step).imp_left fun hmoves => ?_
  generalize (t.step gateway step).moment = m at hmoves
  cases hmoves with
  | stays | health health | opens url => rfl
  | probes => exact blind_shutDown.keeps_probe gateway t.moment
  | heeds hearing =>
    rw [Moment.state_heed]
    split
    · exact t.moment.shutDown_closePush
    · rfl
  | acts act hact => exact keeps_act blind_shutDown act hact gateway t.moment

theorem current_step (gateway : Behaviour) (step : Step)
    (hcurrent : t.moment.state.session.Current) :
    (t.step gateway step).moment.state.session.Current := by
  rcases t.moves_step gateway step with hmoves | ⟨awaited, -, -, hstep⟩
  · generalize (t.step gateway step).moment = m at hmoves
    cases hmoves with
    | stays | health health | opens url => exact hcurrent
    | probes => exact (stays_probe gateway hcurrent).current
    | heeds hearing =>
      rw [Moment.state_heed]
      split
      · rwa [t.moment.session_closePush]
      · exact hcurrent
    | acts act =>
      have hworked : Worked gateway t.moment (act.step gateway t.moment) _ := worked_act hcurrent act
      exact hworked.current
  · rw [hstep]
    exact hcurrent

theorem shutDown_step_of_down (gateway : Behaviour) (step : Step)
    (hdown : t.moment.state.shutDown = true) :
    (t.step gateway step).moment.state.shutDown = true := by
  rcases t.shutDown_step gateway step with hsame | ⟨awaited, -, -, hstep⟩
  · rwa [hsame]
  · rw [hstep]
    rfl

theorem Sound.barred_stopped (hsound : t.Sound) {awaited : Option Nat}
    (hstage : t.stage = .stopping .shutDown awaited) (hstopped : t.hasStopped awaited = true) :
    (t.stopped .shutDown).Barred := by
  have hheld : t.held = none := hsound.tidy.held (by rw [hstage]; exact Stage.noConfusion)
  exact barred_of_quiet ((hsound.tidy.stopped hstage hstopped).quiet hheld)

theorem Sound.barred_turn (hsound : t.Sound) (gateway : Behaviour) (step : Step)
    (hdown : t.moment.state.shutDown = true) (hbarred : t.Barred) :
    (t.step gateway step).Barred := by
  cases step with
  | call call => exact hbarred.begin call
  | proceed =>
    change (t.proceed gateway).Barred
    unfold Tasks.proceed
    split
    · exact hbarred
    · rename_i call awaited hstage
      split
      · rename_i hstopped
        cases call with
        | connect | reconnect | disconnect => exact hbarred
        | shutDown => exact hsound.barred_stopped hstage hstopped
      · exact hbarred
    · exact hbarred
    · exact hbarred.openLine hdown
  | see i sight =>
    refine hbarred.withLine i (·.see sight) (fun line h => h.see sight) fun line hlistening => ?_
    rwa [← (line.turn_see sight).kept.2.2.2]
  | hear i =>
    refine hbarred.withLine i Line.hear (fun line h => h.hear) fun line hlistening => ?_
    rw [line.listening_hear, Bool.and_eq_true] at hlistening
    exact hlistening.1
  | act act =>
    rw [step_act]
    split
    · exact hbarred
    · exact hbarred

theorem Sound.barred_step (hsound : t.Sound) (gateway : Behaviour) (step : Step)
    (hbarred : t.moment.state.shutDown = true → t.Barred)
    (hdown : (t.step gateway step).moment.state.shutDown = true) :
    (t.step gateway step).Barred := by
  rcases t.shutDown_step gateway step with hsame | ⟨awaited, hstage, hstopped, hstep⟩
  · rw [hsame] at hdown
    exact hsound.barred_turn gateway step hdown (hbarred hdown)
  · rw [hstep]
    exact hsound.barred_stopped hstage hstopped

/-- No connection is open where whatever is listened to is barred. -/
theorem Sound.isOpen_eq_false (hsound : t.Sound) (hbarred : t.Barred) {i : Nat} {line : Line}
    (hline : t.lines[i]? = some line) : line.isOpen = false := by
  cases halive : line.isAlive with
  | false => exact Line.isOpen_of_not_isAlive halive
  | true =>
    have hlistening := hsound.tidy.listening_of_isAlive hline halive
    exact (hbarred i line hline hlistening).isOpen_eq_false

theorem Sound.cameOver_step_of_barred (hsound : t.Sound) (hbarred : t.Barred)
    (gateway : Behaviour) (step : Step) (i : Nat) :
    (t.step gateway step).cameOver i = t.cameOver i := by
  cases step with
  | call call => exact cameOver_begin call i
  | proceed => exact (t.cameOver_proceed gateway i).1
  | see j sight => rfl
  | hear j =>
    have hsilent : (t.next i).event? = none := by
      cases hline : t.lines[i]? with
      | none => rw [next_of_none hline]; rfl
      | some line =>
        rw [next_eq hline]
        cases hlistening : line.listening with
        | true =>
          exact (hbarred i line hline hlistening).event?_next (hsound.tidy.line i line hline)
        | false =>
          unfold Line.next
          rw [hlistening]
          rfl
    rw [cameOver_hear, hsilent]
    split
    · exact List.append_nil _
    · exact List.append_nil _
  | act act =>
    rw [step_act]
    split
    · rfl
    · obtain ⟨published, hevents⟩ := events_act gateway act t.moment
      exact cameOver_goOn_none hevents i

/-- The turns of an operation come to the operation as a whole also where the connection of before
was barred. -/
theorem Sound.run_sequence_of_barred (hsound : t.Sound) (hbarred : t.Barred)
    (gateway : Behaviour) (hidle : t.stage = .idle) (call : Lifecycle) :
    (t.run gateway (t.sequence call)).moment = call.act.step gateway t.moment := by
  refine hsound.run_sequence_of_closes gateway hidle call fun i line _ hline hlistening => ?_
  have hbegun := hsound.begin call
  exact ((hbarred.begin call) i line hline hlistening).closes (hbegun.tidy.line i line hline)
    hlistening .opened

end Tasks

end ZigbeeBridge.Bridge
