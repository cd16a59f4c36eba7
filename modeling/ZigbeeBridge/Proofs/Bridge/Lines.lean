import ZigbeeBridge.Proofs.Bridge.Tasks

/-!
Which push connections are at work: never more than one, and the one that the latest connect opened.
None is left by a disconnect or a shutdown, and none opens after a shutdown.
-/
namespace ZigbeeBridge.Bridge

open Bus Dialogue Gateway Push

namespace Tasks

/-- What the stage says about the operations so far and the handle. -/
def Calling (t : Tasks) : Prop :=
  match t.stage with
  | .idle => ∀ call, t.calls.getLast? = some call → call.isConnect = false → t.held = none
  | .stopping call _ => t.calls.getLast? = some call
  | .probing | .opening => ∃ call, t.calls.getLast? = some call ∧ call.isConnect = true

/-- The connections are as they ought to be. -/
structure Tidy (t : Tasks) : Prop where
  line : ∀ (i : Nat) (line : Line), t.lines[i]? = some line → line.Sound
  current : ∀ (i : Nat) (line : Line), t.lines[i]? = some line → line.listening = true →
    t.current = some i
  last : ∀ i, t.current = some i → i + 1 = t.lines.length
  latest : ∀ (i : Nat) (line : Line), t.current = some i → t.lines[i]? = some line →
    line.connect = t.latest
  cancelled : ∀ (call : Lifecycle) (i : Nat) (line : Line), t.stage = .stopping call (some i) →
    t.lines[i]? = some line → line.cancelled = true
  held : t.stage ≠ .idle → t.held = none
  calling : t.Calling
  down : t.moment.state.shutDown = true → ∀ (i : Nat) (line : Line), t.lines[i]? = some line →
    line.isAlive = true → line.cancelled = true ∧ line.reading = .opening

/-- The bridge agrees with its connections. -/
structure Sound (t : Tasks) : Prop where
  tidy : t.Tidy
  push : t.moment.state.push.isSome = true ↔
    ∃ (i : Nat) (line : Line), t.lines[i]? = some line ∧ line.listening = true
  news : t.news.map Prod.snd = t.moment.trace.events

variable {t : Tasks}

theorem tidy_start (settings : Settings) : (start settings).Tidy where
  line := by
    intro i line hline
    cases hline
  current := by
    intro i line hline
    cases hline
  last := by
    intro i hcurrent
    cases hcurrent
  latest := by
    intro i line hcurrent
    cases hcurrent
  cancelled := by
    intro call i line hstage
    cases hstage
  held := fun _ => rfl
  calling := by
    intro call hcall
    cases hcall
  down := by
    intro _ i line hline
    cases hline

/-- A line that follows takes the place of the one before it. -/
theorem Tidy.withLine (htidy : t.Tidy) (i : Nat) (f : Line → Line)
    (hf : ∀ line : Line, line.Sound → line.Follows (f line)) : (t.withLine i f).Tidy := by
  have hfollows : ∀ (j : Nat) (line' : Line), (t.withLine i f).lines[j]? = some line' →
      ∃ line : Line, t.lines[j]? = some line ∧ line.Follows line' := by
    intro j line' hline'
    obtain ⟨line, hline, hnew⟩ := line_of_withLine hline'
    have hsound := htidy.line j line hline
    rcases hnew with ⟨-, rfl⟩ | ⟨-, rfl⟩
    · exact ⟨line, hline, hf line hsound⟩
    · exact ⟨line', hline, hsound.follows_refl⟩
  refine ⟨?_, ?_, ?_, ?_, ?_, htidy.held, htidy.calling, ?_⟩
  · intro j line' hline'
    obtain ⟨line, -, hnew⟩ := hfollows j line' hline'
    exact hnew.sound
  · intro j line' hline' hlistening
    obtain ⟨line, hline, hnew⟩ := hfollows j line' hline'
    exact htidy.current j line hline (hnew.listening hlistening)
  · intro j hcurrent
    have hlength : (t.withLine i f).lines.length = t.lines.length := List.length_modify f t.lines i
    rw [hlength]
    exact htidy.last j hcurrent
  · intro j line' hcurrent hline'
    obtain ⟨line, hline, hnew⟩ := hfollows j line' hline'
    rw [hnew.connect]
    exact htidy.latest j line hcurrent hline
  · intro call j line' hstage hline'
    obtain ⟨line, hline, hnew⟩ := hfollows j line' hline'
    exact hnew.cancelled (htidy.cancelled call j line hstage hline)
  · intro hdown j line' hline' halive
    obtain ⟨line, hline, hnew⟩ := hfollows j line' hline'
    obtain ⟨hcancelled, hopening⟩ := htidy.down hdown j line hline (hnew.alive halive)
    exact ⟨hnew.cancelled hcancelled, hnew.opening hcancelled hopening halive⟩

theorem Tidy.goOn (htidy : t.Tidy) (source : Option Nat) {m : Moment}
    (hdown : m.state.shutDown = t.moment.state.shutDown) : (t.goOn source m).Tidy where
  line := htidy.line
  current := htidy.current
  last := htidy.last
  latest := htidy.latest
  cancelled := htidy.cancelled
  held := htidy.held
  calling := htidy.calling
  down := by
    intro h
    exact htidy.down (hdown.symm.trans h)

theorem Tidy.cancelHeld (htidy : t.Tidy) : t.cancelHeld.Tidy := by
  unfold Tasks.cancelHeld
  cases t.held with
  | none => exact htidy
  | some i => exact htidy.withLine i Line.cancel fun _ hsound => hsound.follows_cancel

/-- To cancel the connection leaves everything else as it is. -/
theorem cancelHeld_kept (t : Tasks) : t.cancelHeld.moment = t.moment ∧
    t.cancelHeld.held = t.held ∧ t.cancelHeld.stage = t.stage ∧ t.cancelHeld.calls = t.calls ∧
      t.cancelHeld.news = t.news := by
  unfold cancelHeld
  split
  · exact ⟨rfl, rfl, rfl, rfl, rfl⟩
  · exact ⟨rfl, rfl, rfl, rfl, rfl⟩

theorem begin_of_idle (hidle : t.stage = .idle) (call : Lifecycle) :
    t.begin call =
      { t.cancelHeld with
        held := none, stage := .stopping call t.held, calls := t.calls ++ [call] } := by
  unfold begin
  rw [hidle]

theorem begin_of_busy (hbusy : t.stage ≠ .idle) (call : Lifecycle) : t.begin call = t := by
  unfold begin
  split
  · rename_i hidle
    exact absurd hidle hbusy
  · rfl

theorem latest_of_idle (hidle : t.stage = .idle) : t.latest = t.connects := by
  unfold latest
  rw [hidle]

theorem current_of_idle (hidle : t.stage = .idle) : t.current = t.held := by
  unfold current
  rw [hidle]

/-- A connect that has only begun is not the latest one yet. -/
theorem latest_begin (hidle : t.stage = .idle) (call : Lifecycle) :
    (t.begin call).latest = t.connects := by
  rw [begin_of_idle hidle]
  unfold latest connects
  dsimp only
  rw [List.countP_append, List.countP_singleton]
  cases call.isConnect with
  | true => exact Nat.add_sub_cancel _ 1
  | false => exact Nat.add_zero _

theorem Tidy.begin (htidy : t.Tidy) (call : Lifecycle) : (t.begin call).Tidy := by
  by_cases hidle : t.stage = .idle
  · have hlatest := latest_begin hidle call
    have hcancelled := htidy.cancelHeld
    obtain ⟨hmoment, hheld, hstage, hcalls, -⟩ := t.cancelHeld_kept
    have hidle' := hstage.trans hidle
    have hcurrent : t.cancelHeld.current = t.held := (current_of_idle hidle').trans hheld
    rw [begin_of_idle hidle] at hlatest ⊢
    refine ⟨hcancelled.line, ?_, ?_, ?_, ?_, fun _ => rfl, List.getLast?_concat, ?_⟩
    · intro i line hline hlistening
      rw [← hcancelled.current i line hline hlistening, hcurrent]
      rfl
    · intro i hi
      exact hcancelled.last i (hcurrent.trans hi)
    · intro i line hi hline
      rw [hlatest, hcancelled.latest i line (hcurrent.trans hi) hline, latest_of_idle hidle']
      unfold connects
      rw [hcalls]
    · intro call' i line hstopping hline
      have hi : t.held = some i := (Stage.stopping.inj hstopping).2
      unfold Tasks.cancelHeld at hline
      rw [hi] at hline
      obtain ⟨old, -, hnew⟩ := line_of_withLine hline
      rcases hnew with ⟨-, rfl⟩ | ⟨hother, -⟩
      · rfl
      · exact absurd rfl hother
    · exact hcancelled.down
  · rw [begin_of_busy hidle]
    exact htidy

/-- Where no listener is left, the connections are in order whatever the stage that comes next. -/
theorem tidy_of_quiet (hline : ∀ (i : Nat) (line : Line), t.lines[i]? = some line → line.Sound)
    (hquiet : ∀ (i : Nat) (line : Line), t.lines[i]? = some line → line.listening = false)
    (hheld : t.held = none) (hcurrent : t.current = none) (hcalling : t.Calling) : t.Tidy where
  line := hline
  current := by
    intro i line hi hlistening
    rw [hquiet i line hi] at hlistening
    cases hlistening
  last := by
    intro i hi
    rw [hcurrent] at hi
    cases hi
  latest := by
    intro i line hi
    rw [hcurrent] at hi
    cases hi
  cancelled := by
    intro call i line hstage
    unfold current at hcurrent
    rw [hstage] at hcurrent
    cases hcurrent
  held := fun _ => hheld
  calling := hcalling
  down := by
    intro _ i line hi halive
    unfold Line.isAlive at halive
    rw [((hline i line hi).stopped (hquiet i line hi)).1] at halive
    cases halive

/-- Without a current connection there is no listener. -/
theorem Tidy.quiet (htidy : t.Tidy) (hcurrent : t.current = none) (i : Nat) (line : Line)
    (hline : t.lines[i]? = some line) : line.listening = false := by
  cases hlistening : line.listening with
  | false => rfl
  | true =>
    have hi := htidy.current i line hline hlistening
    rw [hcurrent] at hi
    cases hi

/-- Once the listener that was waited for has stopped, none is left. -/
theorem Tidy.quiet_of_hasStopped (htidy : t.Tidy) {call : Lifecycle} {awaited : Option Nat}
    (hstage : t.stage = .stopping call awaited) (hstopped : t.hasStopped awaited = true)
    (i : Nat) (line : Line) (hline : t.lines[i]? = some line) : line.listening = false := by
  have hcurrent : t.current = awaited := by
    unfold Tasks.current
    rw [hstage]
  cases hlistening : line.listening with
  | false => rfl
  | true =>
    have hi := hcurrent.symm.trans (htidy.current i line hline hlistening)
    rw [hi] at hstopped
    rw [← hlistening]
    exact listening_of_hasStopped hstopped hline

theorem Tidy.stopped (htidy : t.Tidy) {call : Lifecycle} {awaited : Option Nat}
    (hstage : t.stage = .stopping call awaited) (hstopped : t.hasStopped awaited = true) :
    (t.stopped call).Tidy := by
  have hquiet := htidy.quiet_of_hasStopped hstage hstopped
  have hheld : t.held = none := htidy.held (by rw [hstage]; exact Stage.noConfusion)
  have hcall : t.calls.getLast? = some call := by
    have hcalling := htidy.calling
    unfold Calling at hcalling
    rwa [hstage] at hcalling
  cases call with
  | connect | reconnect =>
    exact tidy_of_quiet htidy.line hquiet hheld rfl ⟨_, hcall, rfl⟩
  | disconnect => exact tidy_of_quiet htidy.line hquiet hheld hheld fun _ _ _ => hheld
  | shutDown =>
    have hlines : (t.stopped .shutDown).lines = t.lines.map Line.cancel := rfl
    refine tidy_of_quiet ?_ ?_ hheld hheld fun _ _ _ => hheld
    · intro i line hline
      rw [hlines, List.getElem?_map] at hline
      obtain ⟨old, hold, rfl⟩ := Option.map_eq_some_iff.mp hline
      exact (htidy.line i old hold).cancel
    · intro i line hline
      rw [hlines, List.getElem?_map] at hline
      obtain ⟨old, hold, rfl⟩ := Option.map_eq_some_iff.mp hline
      exact hquiet i old hold

theorem openLine_eq (t : Tasks) :
    t.openLine = { t with stage := .idle } ∨
      ∃ url, t.openLine =
        { t with
          moment := { t.moment with state := { t.moment.state with push := some url } }
          lines := t.lines ++ [Line.start t.connects t.moment.state.shutDown]
          held := some t.lines.length
          stage := .idle } := by
  unfold openLine
  dsimp only
  split
  · rename_i url _ _
    exact Or.inr ⟨url, rfl⟩
  · exact Or.inl rfl

/-- The new connection, or one that was there. -/
theorem line_of_concat {i : Nat} {new line : Line}
    (hline : (t.lines ++ [new])[i]? = some line) :
    t.lines[i]? = some line ∨ i = t.lines.length ∧ line = new := by
  rw [List.getElem?_append] at hline
  split at hline
  · exact Or.inl hline
  · obtain ⟨hlt, hnew⟩ := List.getElem?_eq_some_iff.mp hline
    rw [List.length_singleton] at hlt
    rw [List.getElem_singleton] at hnew
    exact Or.inr ⟨by omega, hnew.symm⟩

theorem Tidy.openLine (htidy : t.Tidy) (hstage : t.stage = .opening) : t.openLine.Tidy := by
  have hcurrent : t.current = none := by
    unfold Tasks.current
    rw [hstage]
  have hquiet := htidy.quiet hcurrent
  have hheld : t.held = none := htidy.held (by rw [hstage]; exact Stage.noConfusion)
  have hcalling := htidy.calling
  unfold Calling at hcalling
  rw [hstage] at hcalling
  obtain ⟨call, hcall, hconnect⟩ := hcalling
  rcases t.openLine_eq with hopen | ⟨url, hopen⟩
  · rw [hopen]
    exact tidy_of_quiet htidy.line hquiet hheld hheld fun _ _ _ => hheld
  · rw [hopen]
    have hfresh : (Line.start t.connects t.moment.state.shutDown).Sound := Line.sound_start _ _
    refine ⟨?_, ?_, ?_, ?_, ?_, fun h => absurd rfl h, ?_, ?_⟩
    · intro i line hline
      rcases line_of_concat hline with hold | ⟨-, rfl⟩
      · exact htidy.line i line hold
      · exact hfresh
    · intro i line hline hlistening
      rcases line_of_concat hline with hold | ⟨rfl, -⟩
      · rw [hquiet i line hold] at hlistening
        cases hlistening
      · rfl
    · intro i hi
      cases hi
      change _ = (t.lines ++ [_]).length
      rw [List.length_append, List.length_singleton]
    · intro i line hi hline
      cases hi
      rcases line_of_concat hline with hold | ⟨-, rfl⟩
      · exact absurd (List.getElem?_eq_some_iff.mp hold).1 (Nat.lt_irrefl _)
      · rfl
    · intro call' i line h
      cases h
    · intro call' hcall' hdisconnects
      rw [hcall] at hcall'
      cases hcall'
      rw [hconnect] at hdisconnects
      cases hdisconnects
    · intro hdown i line hline halive
      rcases line_of_concat hline with hold | ⟨-, rfl⟩
      · exact htidy.down hdown i line hold halive
      · exact ⟨hdown, rfl⟩

theorem sound_start (settings : Settings) : (start settings).Sound where
  tidy := tidy_start settings
  push := by
    constructor
    · intro hpush
      cases hpush
    · rintro ⟨i, line, hline, -⟩
      cases hline
  news := rfl

/-- A turn that starts and stops no listener. -/
theorem Sound.withLine (hsound : t.Sound) (i : Nat) (f : Line → Line)
    (hf : ∀ line : Line, line.Sound → line.Follows (f line))
    (hlistening : ∀ line : Line, t.lines[i]? = some line → (f line).listening = line.listening) :
    (t.withLine i f).Sound where
  tidy := hsound.tidy.withLine i f hf
  push := by
    refine hsound.push.trans ⟨?_, ?_⟩
    · rintro ⟨j, line, hline, hgoing⟩
      by_cases hij : i = j
      · subst hij
        refine ⟨i, f line, line_withLine hline f, ?_⟩
        rw [hlistening line hline]
        exact hgoing
      · refine ⟨j, line, ?_, hgoing⟩
        rw [lines_withLine, hline]
        simp [hij]
    · rintro ⟨j, line', hline', hgoing⟩
      obtain ⟨line, hline, hnew⟩ := line_of_withLine hline'
      rcases hnew with ⟨rfl, rfl⟩ | ⟨-, rfl⟩
      · rw [hlistening line hline] at hgoing
        exact ⟨i, line, hline, hgoing⟩
      · exact ⟨j, line', hline, hgoing⟩
  news := hsound.news

/-- A moment that differs in nothing that the connections depend on. -/
theorem Sound.goOn (hsound : t.Sound) (source : Option Nat) {m : Moment} {published : List Event}
    (hpush : m.state.push = t.moment.state.push)
    (hdown : m.state.shutDown = t.moment.state.shutDown)
    (hevents : m.trace.events = t.moment.trace.events ++ published) : (t.goOn source m).Sound where
  tidy := hsound.tidy.goOn source hdown
  push := by
    change m.state.push.isSome = true ↔ _
    rw [hpush]
    exact hsound.push
  news := news_goOn source hsound.news hevents

theorem Sound.begin (hsound : t.Sound) (call : Lifecycle) : (t.begin call).Sound := by
  by_cases hidle : t.stage = .idle
  · have hcancelled : t.cancelHeld.Sound := by
      unfold cancelHeld
      split
      · exact hsound.withLine _ Line.cancel (fun _ hline => hline.follows_cancel) fun _ _ => rfl
      · exact hsound
    have htidy := hsound.tidy.begin call
    rw [begin_of_idle hidle] at htidy ⊢
    exact ⟨htidy, hcancelled.push, hcancelled.news⟩
  · rw [begin_of_busy hidle]
    exact hsound

theorem Sound.see (hsound : t.Sound) (i : Nat) (sight : Sight) :
    (t.withLine i (·.see sight)).Sound :=
  hsound.withLine i _ (fun _ hline => hline.follows_see sight) fun line _ =>
    (line.turn_see sight).kept.2.2.2

theorem next_eq {i : Nat} {line : Line} (hline : t.lines[i]? = some line) :
    t.next i = line.next := by
  unfold next
  rw [hline]
  rfl

theorem next_of_none {i : Nat} (hline : t.lines[i]? = none) : t.next i = .nothing := by
  unfold next
  rw [hline]
  rfl

/-- When its listener stops, the current connection was the last to be listened to. -/
theorem Tidy.quiet_of_closes (htidy : t.Tidy) {i : Nat} (hcloses : (t.next i).closes = true)
    (j : Nat) (line' : Line) (hline' : (t.withLine i Line.hear).lines[j]? = some line') :
    line'.listening = false := by
  cases hline : t.lines[i]? with
  | none =>
    rw [next_of_none hline] at hcloses
    cases hcloses
  | some line =>
    rw [next_eq hline] at hcloses
    have hcurrent := htidy.current i line hline (Line.listening_of_closes hcloses)
    obtain ⟨old, hold, hnew⟩ := line_of_withLine hline'
    rcases hnew with ⟨rfl, rfl⟩ | ⟨hij, rfl⟩
    · rw [hline] at hold
      cases hold
      rw [line.listening_hear, hcloses]
      exact Bool.and_false _
    · cases hlistening : line'.listening with
      | false => rfl
      | true =>
        have hother := htidy.current j line' hold hlistening
        rw [hcurrent] at hother
        exact absurd (Option.some.inj hother) hij

theorem Sound.hear (hsound : t.Sound) (i : Nat) :
    ((t.withLine i Line.hear).goOn (some i) (t.moment.heed (t.next i))).Sound := by
  have hstate := t.moment.state_heed (t.next i)
  have hevents := events_heed t.moment (t.next i)
  cases hcloses : (t.next i).closes with
  | false =>
    have hwith : (t.withLine i Line.hear).Sound := by
      refine hsound.withLine i _ (fun _ hline => hline.follows_hear) fun line hline => ?_
      rw [next_eq hline] at hcloses
      rw [line.listening_hear, hcloses]
      exact Bool.and_true _
    rw [hcloses] at hstate
    exact hwith.goOn (some i) (congrArg State.push hstate) (congrArg State.shutDown hstate) hevents
  | true =>
    rw [hcloses] at hstate
    have hquiet := hsound.tidy.quiet_of_closes hcloses
    have hdown : (t.moment.heed (t.next i)).state.shutDown = t.moment.state.shutDown := by
      rw [hstate]
      exact t.moment.shutDown_closePush
    have htidy := hsound.tidy.withLine i Line.hear fun _ hline => hline.follows_hear
    refine ⟨htidy.goOn (some i) hdown, ?_, news_goOn (some i) hsound.news hevents⟩
    change (t.moment.heed (t.next i)).state.push.isSome = true ↔ _
    rw [hstate, if_pos rfl, t.moment.push_closePush]
    constructor
    · intro hpush
      cases hpush
    · rintro ⟨j, line', hline', hlistening⟩
      rw [hquiet j line' hline'] at hlistening
      cases hlistening

/-- Where nobody listens there is no push connection. -/
theorem Sound.push_eq_none (hsound : t.Sound)
    (hquiet : ∀ (i : Nat) (line : Line), t.lines[i]? = some line → line.listening = false) :
    t.moment.state.push = none := by
  cases hpush : t.moment.state.push with
  | none => rfl
  | some url =>
    obtain ⟨i, line, hline, hlistening⟩ := hsound.push.mp (by rw [hpush]; rfl)
    rw [hquiet i line hline] at hlistening
    cases hlistening

theorem sound_of_quiet (htidy : t.Tidy)
    (hquiet : ∀ (i : Nat) (line : Line), t.lines[i]? = some line → line.listening = false)
    (hpush : t.moment.state.push = none) (hnews : t.news.map Prod.snd = t.moment.trace.events) :
    t.Sound where
  tidy := htidy
  push := by
    rw [hpush]
    constructor
    · intro h
      cases h
    · rintro ⟨i, line, hline, hlistening⟩
      rw [hquiet i line hline] at hlistening
      cases hlistening
  news := hnews

theorem Sound.stopped (hsound : t.Sound) {call : Lifecycle} {awaited : Option Nat}
    (hstage : t.stage = .stopping call awaited) (hstopped : t.hasStopped awaited = true) :
    (t.stopped call).Sound := by
  have hquiet := hsound.tidy.quiet_of_hasStopped hstage hstopped
  have hpush := hsound.push_eq_none hquiet
  have htidy := hsound.tidy.stopped hstage hstopped
  cases call with
  | connect | reconnect | disconnect => exact sound_of_quiet htidy hquiet hpush hsound.news
  | shutDown =>
    have hlines : (t.stopped .shutDown).lines = t.lines.map Line.cancel := rfl
    refine sound_of_quiet htidy ?_ hpush hsound.news
    intro i line hline
    rw [hlines, List.getElem?_map] at hline
    obtain ⟨old, hold, rfl⟩ := Option.map_eq_some_iff.mp hline
    exact hquiet i old hold

theorem blind_push : Operation.Blind State.push where
  session := fun _ _ => rfl
  health := fun _ _ => rfl
  queue := fun _ _ => rfl

theorem blind_shutDown : Operation.Blind State.shutDown where
  session := fun _ _ => rfl
  health := fun _ _ => rfl
  queue := fun _ _ => rfl

theorem Sound.probed (hsound : t.Sound) (hstage : t.stage = .probing) (gateway : Behaviour) :
    ({ t.goOn none (Operation.enact gateway Operation.probe t.moment).2 with
      stage := .opening } : Tasks).Sound := by
  obtain ⟨published, hevents⟩ := Operation.events_enact gateway Operation.probe t.moment
  have hcurrent : t.current = none := by
    unfold current
    rw [hstage]
  have hquiet := hsound.tidy.quiet hcurrent
  have hheld := hsound.tidy.held (by rw [hstage]; exact Stage.noConfusion)
  have hcalling := hsound.tidy.calling
  unfold Calling at hcalling
  rw [hstage] at hcalling
  have hpush := blind_push.keeps_probe gateway t.moment
  refine sound_of_quiet ?_ hquiet (hpush.trans (hsound.push_eq_none hquiet))
    (news_goOn none hsound.news hevents)
  exact tidy_of_quiet hsound.tidy.line hquiet hheld rfl hcalling

theorem Sound.openLine (hsound : t.Sound) (hstage : t.stage = .opening) : t.openLine.Sound := by
  have htidy := hsound.tidy.openLine hstage
  rcases t.openLine_eq with hopen | ⟨url, hopen⟩
  · rw [hopen] at htidy ⊢
    exact ⟨htidy, hsound.push, hsound.news⟩
  · rw [hopen] at htidy ⊢
    refine ⟨htidy, ?_, hsound.news⟩
    constructor
    · intro _
      exact ⟨t.lines.length, _, List.getElem?_concat_length, rfl⟩
    · intro _
      rfl

theorem Sound.proceed (hsound : t.Sound) (gateway : Behaviour) : (t.proceed gateway).Sound := by
  unfold Tasks.proceed
  split
  · exact hsound
  · rename_i call awaited hstage
    split
    · rename_i hstopped
      exact hsound.stopped hstage hstopped
    · exact hsound
  · rename_i hstage
    exact hsound.probed hstage gateway
  · rename_i hstage
    exact hsound.openLine hstage

theorem Sound.act (hsound : t.Sound) (gateway : Behaviour) (act : Act)
    (hact : act.isLifecycle = false) : (t.goOn none (act.step gateway t.moment)).Sound := by
  obtain ⟨published, hevents⟩ := events_act gateway act t.moment
  exact hsound.goOn none (keeps_act blind_push act hact gateway t.moment)
    (keeps_act blind_shutDown act hact gateway t.moment) hevents

/-- Every turn leaves the bridge and its connections in order. -/
theorem Sound.step (hsound : t.Sound) (gateway : Behaviour) (step : Step) :
    (t.step gateway step).Sound := by
  cases step with
  | call call => exact hsound.begin call
  | proceed => exact hsound.proceed gateway
  | see i sight => exact hsound.see i sight
  | hear i => exact hsound.hear i
  | act act =>
    rw [step_act]
    split
    · exact hsound
    · rename_i hact
      exact hsound.act gateway act (by simpa using hact)

theorem Sound.run (hsound : t.Sound) (gateway : Behaviour) (steps : List Step) :
    (t.run gateway steps).Sound := by
  induction steps generalizing t with
  | nil => exact hsound
  | cons step steps ih => exact ih (hsound.step gateway step)

theorem sound_reached (gateway : Behaviour) (settings : Settings) (steps : List Step) :
    (reached gateway settings steps).Sound := (sound_start settings).run gateway steps

/-- A reader at work has a listener. -/
theorem Tidy.listening_of_isAlive (htidy : t.Tidy) {i : Nat} {line : Line}
    (hline : t.lines[i]? = some line) (halive : line.isAlive = true) : line.listening = true := by
  cases hlistening : line.listening with
  | true => rfl
  | false =>
    have hended := ((htidy.line i line hline).stopped hlistening).1
    unfold Line.isAlive at halive
    rw [hended] at halive
    cases halive

/-- At most one connection is at work. -/
structure Single (t : Tasks) : Prop where
  unique : ∀ (i j : Nat) (line line' : Line), t.lines[i]? = some line → t.lines[j]? = some line' →
    line.isAlive = true → line'.isAlive = true → i = j
  /-- It was opened by the latest connect. -/
  latest : ∀ (i : Nat) (line : Line), t.lines[i]? = some line → line.isAlive = true →
    line.connect = t.latest
  /-- Whatever operation waits for its end has cancelled it. -/
  cancelled : ∀ (call : Lifecycle) (awaited : Option Nat) (i : Nat) (line : Line),
    t.stage = .stopping call awaited → t.lines[i]? = some line → line.isAlive = true →
      line.cancelled = true
  /-- A disconnect and a shutdown leave none. -/
  none_left : t.stage = .idle → ∀ call : Lifecycle, t.calls.getLast? = some call →
    call.isConnect = false → ∀ (i : Nat) (line : Line), t.lines[i]? = some line →
      line.isAlive = false
  /-- None that a later connect makes comes to open after a shutdown. -/
  none_opens : t.moment.state.shutDown = true → ∀ (i : Nat) (line : Line),
    t.lines[i]? = some line → line.isAlive = true → line.cancelled = true ∧ line.reading = .opening

theorem Tidy.single (htidy : t.Tidy) : t.Single := by
  have hcurrent : ∀ (i : Nat) (line : Line), t.lines[i]? = some line → line.isAlive = true →
      t.current = some i := by
    intro i line hline halive
    exact htidy.current i line hline (htidy.listening_of_isAlive hline halive)
  refine ⟨?_, ?_, ?_, ?_, htidy.down⟩
  · intro i j line line' hline hline' halive halive'
    have hi := hcurrent i line hline halive
    rw [hcurrent j line' hline' halive'] at hi
    exact (Option.some.inj hi).symm
  · intro i line hline halive
    exact htidy.latest i line (hcurrent i line hline halive) hline
  · intro call awaited i line hstage hline halive
    have hi := hcurrent i line hline halive
    unfold Tasks.current at hi
    rw [hstage] at hi
    subst hi
    exact htidy.cancelled call i line hstage hline
  · intro hidle call hcall hdisconnects i line hline
    cases halive : line.isAlive with
    | false => rfl
    | true =>
      have hcalling := htidy.calling
      unfold Calling at hcalling
      rw [hidle] at hcalling
      have hi := hcurrent i line hline halive
      rw [current_of_idle hidle, hcalling call hcall hdisconnects] at hi
      cases hi

end Tasks

end ZigbeeBridge.Bridge
