import Mathlib.Data.List.Infix
import ZigbeeBridge.Proofs.Bridge.Lines

/-!
From a push connection to the bus: as long as its listener keeps up, each message that comes in is
published once, in order, and nothing else is; nothing but the end of the connection shows in the
health.
-/
namespace ZigbeeBridge.Bridge

open Bus Dialogue Gateway Push

namespace Tasks

variable {t : Tasks}

def delivered (t : Tasks) (i : Nat) : List Event := ((t.lines[i]?).map Line.events).getD []

theorem delivered_eq {i : Nat} {line : Line} (hline : t.lines[i]? = some line) :
    t.delivered i = line.events := by
  unfold delivered
  rw [hline]
  rfl

theorem behind_eq {i : Nat} {line : Line} (hline : t.lines[i]? = some line) :
    t.behind i = line.behind := by
  unfold behind
  rw [hline]
  rfl

theorem delivered_withLine (i : Nat) (f : Line → Line) (j : Nat)
    (hf : ∀ line : Line, t.lines[j]? = some line → i = j → (f line).events = line.events) :
    (t.withLine i f).delivered j = t.delivered j := by
  unfold delivered
  rw [lines_withLine]
  cases hline : t.lines[j]? with
  | none => rfl
  | some line =>
    simp only [Option.map_some, Option.getD_some]
    split
    · rename_i hij
      exact hf line hline hij
    · rfl

theorem delivered_map_cancel (t : Tasks) (i : Nat) :
    ((t.lines.map Line.cancel)[i]?.map Line.events).getD [] = t.delivered i := by
  unfold delivered
  rw [List.getElem?_map, Option.map_map]
  rfl

/-- A connection has delivered nothing when it is made. -/
theorem delivered_concat (t : Tasks) (connect : Nat) (cancelled : Bool) (i : Nat) :
    ((t.lines ++ [Line.start connect cancelled])[i]?.map Line.events).getD [] =
      t.delivered i := by
  unfold delivered
  rw [List.getElem?_append]
  split
  · rfl
  · rename_i hge
    rw [List.getElem?_eq_none (Nat.le_of_not_lt hge)]
    cases i - t.lines.length with
    | zero => rfl
    | succ k => rfl

theorem cameOver_begin (call : Lifecycle) (i : Nat) : (t.begin call).cameOver i = t.cameOver i := by
  by_cases hidle : t.stage = .idle
  · rw [begin_of_idle hidle]
    unfold cameOver
    dsimp only
    rw [t.cancelHeld_kept.2.2.2.2]
  · rw [begin_of_busy hidle]

theorem delivered_begin (call : Lifecycle) (i : Nat) :
    (t.begin call).delivered i = t.delivered i := by
  by_cases hidle : t.stage = .idle
  · rw [begin_of_idle hidle]
    change t.cancelHeld.delivered i = _
    unfold cancelHeld
    split
    · exact delivered_withLine _ _ i fun _ _ _ => rfl
    · rfl
  · rw [begin_of_busy hidle]

theorem cameOver_proceed (gateway : Behaviour) (i : Nat) :
    (t.proceed gateway).cameOver i = t.cameOver i ∧
      (t.proceed gateway).delivered i = t.delivered i := by
  unfold proceed
  split
  · exact ⟨rfl, rfl⟩
  · rename_i call awaited _
    split
    · cases call with
      | connect | reconnect | disconnect => exact ⟨rfl, rfl⟩
      | shutDown => exact ⟨rfl, t.delivered_map_cancel i⟩
    · exact ⟨rfl, rfl⟩
  · obtain ⟨published, hevents⟩ := Operation.events_enact gateway Operation.probe t.moment
    exact ⟨cameOver_goOn_none hevents i, rfl⟩
  · rcases t.openLine_eq with hopen | ⟨url, hopen⟩
    · rw [hopen]
      exact ⟨rfl, rfl⟩
    · rw [hopen]
      exact ⟨rfl, t.delivered_concat _ _ i⟩

/-- A listener publishes of its own connection what it hears, and of no other anything. -/
theorem cameOver_hear (gateway : Behaviour) (i j : Nat) :
    (t.step gateway (.hear j)).cameOver i =
      t.cameOver i ++ if j = i then (t.next i).event?.toList else [] := by
  have hover : (t.withLine j Line.hear).cameOver i = t.cameOver i := rfl
  have hheard := cameOver_goOn (t := t.withLine j Line.hear) (some j)
    (events_heed t.moment (t.next j)) i
  refine hheard.trans ?_
  rw [hover]
  by_cases hji : j = i
  · subst hji
    rw [if_pos rfl, if_pos rfl]
  · rw [if_neg (fun h => hji (Option.some.inj h)), if_neg hji]

theorem delivered_hear {i : Nat} (hpace : t.behind i ≤ Line.capacity) :
    (t.withLine i Line.hear).delivered i = t.delivered i ++ (t.next i).event?.toList := by
  cases hline : t.lines[i]? with
  | none =>
    rw [next_of_none hline, delivered_withLine i _ i fun line h => by rw [hline] at h; cases h]
    exact (List.append_nil _).symm
  | some line =>
    have hbehind : line.behind ≤ Line.capacity := by rwa [behind_eq hline] at hpace
    rw [delivered_eq (line_withLine hline _), delivered_eq hline, next_eq hline]
    exact Line.events_hear hbehind

/-- One turn publishes of a connection what its listener gets behind it. -/
theorem Sound.cameOver_step (hsound : t.Sound) (gateway : Behaviour) (step : Step) (i : Nat)
    (hpace : t.behind i ≤ Line.capacity) (hover : t.cameOver i = t.delivered i) :
    (t.step gateway step).cameOver i = (t.step gateway step).delivered i := by
  cases step with
  | call call => exact (cameOver_begin call i).trans (hover.trans (delivered_begin call i).symm)
  | proceed =>
    obtain ⟨hsame, hsame'⟩ := t.cameOver_proceed gateway i
    exact hsame.trans (hover.trans hsame'.symm)
  | see j sight =>
    change t.cameOver i = (t.withLine j (·.see sight)).delivered i
    rw [delivered_withLine j _ i ?_, hover]
    intro line hline _
    exact (hsound.tidy.line i line hline).events_turn (line.turn_see sight)
  | hear j =>
    rw [cameOver_hear, hover]
    change _ = (t.withLine j Line.hear).delivered i
    by_cases hji : j = i
    · subst hji
      rw [if_pos rfl, delivered_hear hpace]
    · rw [if_neg hji, List.append_nil, delivered_withLine j _ i fun _ _ h => absurd h hji]
  | act act =>
    rw [step_act]
    split
    · exact hover
    · obtain ⟨published, hevents⟩ := events_act gateway act t.moment
      exact (cameOver_goOn_none hevents i).trans hover

@[simp] theorem run_concat (gateway : Behaviour) (t : Tasks) (steps : List Step) (step : Step) :
    t.run gateway (steps ++ [step]) = (t.run gateway steps).step gateway step :=
  List.foldl_concat _ _ _ _

/-- Up to any moment of a run in which the listener has kept up, what was published of the
connection is what the listener has behind it. -/
theorem cameOver_reached (gateway : Behaviour) (settings : Settings) (steps : List Step) (i : Nat)
    (hpace : ∀ before, before <+: steps →
      (reached gateway settings before).behind i ≤ Line.capacity) :
    (reached gateway settings steps).cameOver i = (reached gateway settings steps).delivered i := by
  induction steps using List.reverseRecOn with
  | nil => rfl
  | append_singleton steps step ih =>
    have hbefore : steps <+: steps ++ [step] := List.prefix_append _ _
    have hover := ih fun before hearlier => hpace before (hearlier.trans hbefore)
    unfold reached at hover hpace ⊢
    rw [run_concat]
    exact (sound_reached gateway settings steps).cameOver_step gateway step i (hpace steps hbefore)
      hover

def Retains (t : Tasks) (i : Nat) (line : Line) : Prop :=
  ∃ line', t.lines[i]? = some line' ∧ line.Follows line' ∧ line'.listening = line.listening

theorem retains_withLine {i : Nat} {line : Line} (hline : t.lines[i]? = some line)
    (hsound : line.Sound) (j : Nat) (f : Line → Line) (hf : j = i → line.Follows (f line))
    (hlistening : j = i → (f line).listening = line.listening) :
    (t.withLine j f).Retains i line := by
  by_cases hji : j = i
  · subst hji
    exact ⟨f line, line_withLine hline f, hf rfl, hlistening rfl⟩
  · refine ⟨line, ?_, hsound.follows_refl, rfl⟩
    rw [lines_withLine, hline]
    simp [hji]

theorem retains_proceed (gateway : Behaviour) {i : Nat} {line : Line}
    (hline : t.lines[i]? = some line) (hsound : line.Sound) :
    (t.proceed gateway).Retains i line := by
  have hsame : t.Retains i line := ⟨line, hline, hsound.follows_refl, rfl⟩
  unfold proceed
  split
  · exact hsame
  · rename_i call awaited _
    split
    · cases call with
      | connect | reconnect | disconnect => exact hsame
      | shutDown =>
        refine ⟨line.cancel, ?_, hsound.follows_cancel, rfl⟩
        change (t.lines.map Line.cancel)[i]? = _
        rw [List.getElem?_map, hline]
        rfl
    · exact hsame
  · exact hsame
  · rcases t.openLine_eq with hopen | ⟨url, hopen⟩
    · rw [hopen]
      exact hsame
    · rw [hopen]
      refine ⟨line, ?_, hsound.follows_refl, rfl⟩
      change (t.lines ++ [_])[i]? = _
      rw [List.getElem?_append_left (List.getElem?_eq_some_iff.mp hline).1, hline]

theorem retains_begin (call : Lifecycle) {i : Nat} {line : Line}
    (hline : t.lines[i]? = some line) (hsound : line.Sound) :
    (t.begin call).Retains i line := by
  by_cases hidle : t.stage = .idle
  · rw [begin_of_idle hidle]
    change t.cancelHeld.Retains i line
    unfold cancelHeld
    split
    · exact retains_withLine hline hsound _ _ (fun _ => hsound.follows_cancel) fun _ => rfl
    · exact ⟨line, hline, hsound.follows_refl, rfl⟩
  · rw [begin_of_busy hidle]
    exact ⟨line, hline, hsound.follows_refl, rfl⟩

/-- Only its own listener's turn stops a listener. -/
theorem Sound.retains_step (hsound : t.Sound) (gateway : Behaviour) {step : Step} {i : Nat}
    (hstep : step ≠ .hear i) {line : Line} (hline : t.lines[i]? = some line) :
    (t.step gateway step).Retains i line := by
  have hfine := hsound.tidy.line i line hline
  cases step with
  | call call => exact retains_begin call hline hfine
  | proceed => exact retains_proceed gateway hline hfine
  | see j sight =>
    exact retains_withLine hline hfine j (·.see sight) (fun _ => hfine.follows_see sight)
      fun _ => (line.turn_see sight).kept.2.2.2
  | hear j =>
    have hji : j ≠ i := fun h => hstep (congrArg Step.hear h)
    exact retains_withLine hline hfine j Line.hear (fun h => absurd h hji) fun h => absurd h hji
  | act act =>
    rw [step_act]
    refine ⟨line, ?_, hfine.follows_refl, rfl⟩
    split <;> exact hline

theorem Sound.line_step (hsound : t.Sound) (gateway : Behaviour) (step : Step) {i : Nat}
    {line : Line} (hline : t.lines[i]? = some line) :
    ∃ line', (t.step gateway step).lines[i]? = some line' ∧ line.Follows line' := by
  by_cases hstep : step = .hear i
  · subst hstep
    exact ⟨line.hear, line_withLine hline _, (hsound.tidy.line i line hline).follows_hear⟩
  · obtain ⟨line', hline', hfollows, -⟩ := hsound.retains_step gateway hstep hline
    exact ⟨line', hline', hfollows⟩

theorem Sound.state_of_stops (hsound : t.Sound) (gateway : Behaviour) (step : Step) {i : Nat}
    {line line' : Line} (hline : t.lines[i]? = some line) (hlistening : line.listening = true)
    (hline' : (t.step gateway step).lines[i]? = some line') (hstopped : line'.listening = false) :
    (t.step gateway step).moment.state =
      { t.moment.state with push := none, health := .disconnected } := by
  by_cases hstep : step = .hear i
  · subst hstep
    have hcloses : (t.next i).closes = true := by
      have hheard := line_withLine hline Line.hear
      change (t.withLine i Line.hear).lines[i]? = some line' at hline'
      rw [hline'] at hheard
      cases hheard
      rw [line.listening_hear, hlistening, Bool.true_and] at hstopped
      rw [next_eq hline]
      simpa using hstopped
    have hpush := hsound.push.mpr ⟨i, line, hline, hlistening⟩
    change (t.moment.heed (t.next i)).state = _
    rw [Moment.state_heed, if_pos hcloses]
    unfold Moment.closePush
    rw [if_pos hpush]
  · obtain ⟨line'', hline'', -, hkept⟩ := hsound.retains_step gateway hstep hline
    rw [hline'] at hline''
    cases hline''
    rw [hstopped, hlistening] at hkept
    cases hkept

/-- After its listener has stopped, nothing is published of a connection any more. -/
theorem cameOver_step_of_stopped (gateway : Behaviour) (step : Step) {i : Nat}
    {line : Line} (hline : t.lines[i]? = some line) (hstopped : line.listening = false) :
    (t.step gateway step).cameOver i = t.cameOver i := by
  cases step with
  | call call => exact cameOver_begin call i
  | proceed => exact (cameOver_proceed gateway i).1
  | see j sight => rfl
  | hear j =>
    have hnext : t.next i = .nothing := by
      rw [next_eq hline]
      unfold Line.next
      rw [hstopped]
      rfl
    rw [cameOver_hear, hnext]
    split <;> exact List.append_nil _
  | act act =>
    rw [step_act]
    split
    · rfl
    · obtain ⟨published, hevents⟩ := events_act gateway act t.moment
      exact cameOver_goOn_none hevents i

theorem Sound.cameOver_run_of_stopped (hsound : t.Sound) (gateway : Behaviour) (steps : List Step)
    {i : Nat} {line : Line} (hline : t.lines[i]? = some line) (hstopped : line.listening = false) :
    (t.run gateway steps).cameOver i = t.cameOver i := by
  induction steps generalizing t line with
  | nil => rfl
  | cons step steps ih =>
    obtain ⟨line', hline', hfollows⟩ := hsound.line_step gateway step hline
    have hstopped' : line'.listening = false := by
      cases hlistening : line'.listening with
      | false => rfl
      | true =>
        rw [hfollows.listening hlistening] at hstopped
        cases hstopped
    exact (ih (hsound.step gateway step) hline' hstopped').trans
      (cameOver_step_of_stopped gateway step hline hstopped)

/-- Before the connection is at its end, what the listener hears leaves the state alone. -/
theorem state_hear (gateway : Behaviour) {i : Nat} (hcloses : (t.next i).closes = false) :
    (t.step gateway (.hear i)).moment.state = t.moment.state := by
  change (t.moment.heed (t.next i)).state = _
  rw [Moment.state_heed, hcloses]
  rfl

/-- Once the connection has ended, its listener need but take its turns: it publishes what there
still is, stops, and the health is bad. -/
theorem Sound.run_hears (gateway : Behaviour) {i n : Nat} {t : Tasks} {line : Line}
    (hsound : t.Sound) (hline : t.lines[i]? = some line) (hlistening : line.listening = true)
    (hended : line.reading.isEnded = true) (hbehind : line.behind = n)
    (hpace : n ≤ Line.capacity) (hover : t.cameOver i = t.delivered i) :
    ∃ line', (t.run gateway (List.replicate n (.hear i))).lines[i]? = some line' ∧
      line'.listening = false ∧
      (t.run gateway (List.replicate n (.hear i))).cameOver i = events line.reading.frames ∧
      (t.run gateway (List.replicate n (.hear i))).moment.state =
        { t.moment.state with push := none, health := .disconnected } := by
  induction n generalizing t line with
  | zero =>
    have hlt := (hsound.tidy.line i line hline).waiting hlistening hended
    unfold Line.behind at hbehind
    omega
  | succ n ih =>
    have hfine := hsound.tidy.line i line hline
    have hhear : (t.step gateway (.hear i)).lines[i]? = some line.hear := line_withLine hline _
    have hpace' : line.behind ≤ Line.capacity := by
      rw [hbehind]
      exact hpace
    have hover' :=
      hsound.cameOver_step gateway (.hear i) i ((behind_eq hline).trans_le hpace') hover
    obtain ⟨-, -, hreading, htold⟩ := line.hear_kept
    obtain ⟨notice, hnext⟩ :=
      Line.next_of_behind hlistening hpace' (hfine.waiting hlistening hended)
    have hcloses : line.hear.listening = !(t.next i).closes := by
      rw [next_eq hline, line.listening_hear, hlistening, Bool.true_and]
    cases hstill : line.hear.listening with
    | true =>
      have hstep : line.hear.behind = n := by
        unfold Line.behind at hbehind ⊢
        unfold Line.hear
        rw [hnext]
        dsimp only
        omega
      have hstate := state_hear gateway (i := i) (by rw [hcloses] at hstill; simpa using hstill)
      have hended' : line.hear.reading.isEnded = true := by
        rw [hreading]
        exact hended
      obtain ⟨line', hline', hstopped, hall, hend⟩ :=
        ih (hsound.step gateway (.hear i)) hhear hstill hended' hstep (by omega) hover'
      rw [hreading] at hall
      rw [hstate] at hend
      exact ⟨line', hline', hstopped, hall, hend⟩
    | false =>
      -- The notice that closes the line is the last, so that no turn is left.
      have hclosed : notice.isClosed = true := by
        rw [hcloses, next_eq hline, hnext] at hstill
        simpa [Hearing.closes] using hstill
      have hlast := ((hfine.isClosed_iff hnext).mp hclosed).2
      have hnone : n = 0 := by
        unfold Line.behind at hbehind
        omega
      subst hnone
      refine ⟨line.hear, hhear, hstill, ?_, ?_⟩
      · change (t.step gateway (.hear i)).cameOver i = _
        rw [hover', delivered_eq hhear, hfine.hear.events_of_stopped hstill, hreading]
      · exact hsound.state_of_stops gateway (.hear i) hline hlistening hhear hstill

/-- All that is to be known of a push connection on its way to the bus. -/
structure Delivers (gateway : Behaviour) (t : Tasks) (i : Nat) (line : Line) : Prop where
  /-- The connection tells the life of its attempt: that it opened, the messages, that it is closed;
  or only the last. -/
  told : line.told = line.reading.notices
  /-- Of the messages those are published that the listener has heard, in order, once each. -/
  published : t.cameOver i = (line.told.take line.heard).filterMap Notice.event?
  in_order : t.cameOver i <+: events line.reading.frames
  /-- A frame that comes in changes nothing of the bridge, and ends nothing. -/
  unmoved : ∀ sight, (t.step gateway (.see i sight)).moment = t.moment
  goes_on : ∀ frames frame, line.reading = .reading frames → line.cancelled = false →
    (t.step gateway (.see i (.frame frame))).lines[i]? =
      some { line with
        reading := .reading (frames ++ [frame])
        told := line.told ++ (frame.message?.map .message).toList }
  /-- Before the end, the listener changes nothing but what is published. -/
  untouched : (t.next i).closes = false →
    (t.step gateway (.hear i)).moment.state = t.moment.state
  /-- The turn at which the listener stops finds the connection ended and makes the health bad. -/
  stops : ∀ step line', line.listening = true →
    (t.step gateway step).lines[i]? = some line' → line'.listening = false →
      line'.reading.isEnded = true ∧
        (t.step gateway step).moment.state =
          { t.moment.state with push := none, health := .disconnected }
  /-- A connection that has ended needs but the turns of its listener to come to that. -/
  ends : line.listening = true → line.reading.isEnded = true →
    ∃ line', (t.run gateway (List.replicate line.behind (.hear i))).lines[i]? = some line' ∧
      line'.listening = false ∧
      (t.run gateway (List.replicate line.behind (.hear i))).cameOver i =
        events line.reading.frames ∧
      (t.run gateway (List.replicate line.behind (.hear i))).moment.state =
        { t.moment.state with push := none, health := .disconnected }
  /-- After that everything has been published, and nothing is any more. -/
  complete : line.listening = false →
    (∃ attempt, line.reading = .ended attempt ∧ line.told = attempt.notices) ∧
      ∀ later, (t.run gateway later).cameOver i = events line.reading.frames

theorem Sound.delivers (hsound : t.Sound) (gateway : Behaviour) {i : Nat} {line : Line}
    (hline : t.lines[i]? = some line) (hpace : t.behind i ≤ Line.capacity)
    (hover : t.cameOver i = t.delivered i) : t.Delivers gateway i line := by
  have hfine := hsound.tidy.line i line hline
  have hevents : t.cameOver i = line.events := hover.trans (delivered_eq hline)
  rw [behind_eq hline] at hpace
  refine ⟨hfine.told, hevents, ?_, fun _ => rfl, ?_, fun h => state_hear gateway h, ?_, ?_, ?_⟩
  · rw [hevents]
    exact hfine.events_prefix
  · intro frames frame hreading hcancelled
    rw [← Line.see_frame hreading hcancelled frame]
    exact line_withLine hline _
  · intro step line' hlistening hline' hstopped
    have hfine' := (hsound.step gateway step).tidy.line i line' hline'
    exact ⟨(hfine'.stopped hstopped).1,
      hsound.state_of_stops gateway step hline hlistening hline' hstopped⟩
  · intro hlistening hended
    exact hsound.run_hears gateway hline hlistening hended rfl hpace hover
  · intro hstopped
    refine ⟨?_, ?_⟩
    · have hended := (hfine.stopped hstopped).1
      have htold := hfine.told
      cases hreading : line.reading with
      | ended attempt =>
        rw [hreading] at htold
        exact ⟨attempt, rfl, htold⟩
      | opening | reading frames =>
        rw [hreading] at hended
        cases hended
    · intro later
      rw [hsound.cameOver_run_of_stopped gateway later hline hstopped, hevents,
        hfine.events_of_stopped hstopped]

/-- In every run of a bridge, each push connection whose listener has never fallen further behind
than there is room for notices delivers its messages to the bus and nothing else. At any moment one
connection at most is at work, the one that the latest connect opened; none is after a disconnect
or a shutdown. -/
theorem delivers_reached (gateway : Behaviour) (settings : Settings) (steps : List Step) :
    (∀ i line, (reached gateway settings steps).lines[i]? = some line →
      (∀ before, before <+: steps →
        (reached gateway settings before).behind i ≤ Line.capacity) →
      (reached gateway settings steps).Delivers gateway i line) ∧
    (reached gateway settings steps).news.map Prod.snd =
      (reached gateway settings steps).moment.trace.events ∧
    (reached gateway settings steps).Single := by
  have hsound := sound_reached gateway settings steps
  refine ⟨?_, hsound.news, hsound.tidy.single⟩
  intro i line hline hpace
  exact hsound.delivers gateway hline (hpace steps List.prefix_rfl)
    (cameOver_reached gateway settings steps i hpace)

def sampleSettings : Settings := ⟨"gw", "T", "", 5, 1000, 0, true, none, .abort, false⟩

def welcoming : Behaviour := fun _ _ => .response 200 (some "\x7b\"name\":\"gw\"\x7d")

def sampleText : String :=
  "\x7b\"r\":\"lights\",\"id\":\"1\",\"state\":\x7b\"on\":true\x7d\x7d"

/-- A connection that brings one message among other frames, and is closed. -/
def sampleSteps : List Step :=
  [.call .connect, .proceed, .proceed, .proceed, .see 0 .opened,
    .see 0 (.frame (.text sampleText)),
    .see 0 (.frame (.text "garbage")), .see 0 (.frame (.ping "")), .hear 0, .hear 0,
    .see 0 (.ending (.closeFrame none)), .hear 0]

def sampleLine : Line :=
  ((reached welcoming sampleSettings sampleSteps).lines[0]?).getD (.start 0 false)

theorem delivers_reached_sample :
    (reached welcoming sampleSettings sampleSteps).lines[0]? = some sampleLine ∧
      (∀ before, before <+: sampleSteps →
        (reached welcoming sampleSettings before).behind 0 ≤ Line.capacity) ∧
      (reached welcoming sampleSettings sampleSteps).cameOver 0 =
        [flatten ⟨"lights", "1", some [("on", .bool true)]⟩] ∧
      (reached welcoming sampleSettings sampleSteps).Delivers welcoming 0 sampleLine ∧
      (reached welcoming sampleSettings sampleSteps).Single := by
  have hline : (reached welcoming sampleSettings sampleSteps).lines[0]? = some sampleLine := by
    have hsome : ((reached welcoming sampleSettings sampleSteps).lines[0]?).isSome = true := by
      decide +kernel
    unfold sampleLine
    cases hline : (reached welcoming sampleSettings sampleSteps).lines[0]? with
    | none =>
      rw [hline] at hsome
      cases hsome
    | some line => rfl
  have hpace : ∀ before, before <+: sampleSteps →
      (reached welcoming sampleSettings before).behind 0 ≤ Line.capacity := by
    have hinits : ∀ before ∈ sampleSteps.inits,
        (reached welcoming sampleSettings before).behind 0 ≤ Line.capacity := by
      decide +kernel
    intro before hbefore
    exact hinits before ((List.mem_inits _ _).mpr hbefore)
  have hdelivers := delivers_reached welcoming sampleSettings sampleSteps
  exact ⟨hline, hpace, by decide +kernel, hdelivers.1 0 sampleLine hline hpace, hdelivers.2.2⟩

end Tasks

end ZigbeeBridge.Bridge
