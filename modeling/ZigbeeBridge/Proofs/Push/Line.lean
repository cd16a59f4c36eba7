import ZigbeeBridge.Push.Channel

/-!
A push connection at work. Its reader tells what it meets with, and a listener hears what was told,
as far as it is kept for one who is slow. However the two take turns, what is told is the life of
one attempt to connect, and the listener stops with the last of it.
-/
namespace ZigbeeBridge.Push

open Bus

/-- How far the reader has come, with all that it has met with. -/
inductive Reading where
  | opening
  | reading (frames : List Frame)
  | ended (attempt : Attempt)
  deriving DecidableEq, Repr

/-- What the reader may meet with next. -/
inductive Sight where
  /-- The URL is none that can be asked, which shows before anything else. -/
  | unusable (reason : String)
  | opened
  | refused (reason : String)
  | frame (frame : Frame)
  | ending (ending : Ending)
  deriving DecidableEq, Repr

structure Line where
  /-- Which connect opened the line, counted from one. -/
  connect : Nat
  cancelled : Bool
  reading : Reading
  told : List Notice
  /-- How much of what was told lies behind the listener. -/
  heard : Nat
  listening : Bool
  deriving Repr

/-- What the listener gets when its turn comes. -/
inductive Hearing where
  | nothing
  | lagged (missed : Nat)
  | notice (notice : Notice)
  | hungUp
  deriving Repr

def Reading.isEnded : Reading → Bool
  | ended _ => true
  | _ => false

def Notice.isClosed : Notice → Bool
  | closed _ _ _ => true
  | _ => false

def Notice.event? : Notice → Option Event
  | message m => some (flatten m)
  | _ => none

def Hearing.event? : Hearing → Option Event
  | notice n => n.event?
  | _ => none

/-- Whether the listener stops on it. -/
def Hearing.closes : Hearing → Bool
  | notice n => n.isClosed
  | hungUp => true
  | _ => false

def Reading.frames : Reading → List Frame
  | opening => []
  | reading frames => frames
  | ended (.opened frames _) => frames
  | ended _ => []

def Reading.notices : Reading → List Notice
  | opening => []
  | reading frames => .opened :: frames.filterMap (·.message?.map .message)
  | ended attempt => attempt.notices

def events (frames : List Frame) : List Event := frames.filterMap (·.message?.map flatten)

namespace Line

/-- How many notices are kept for a listener who is slow. -/
def capacity : Nat := 256

def start (connect : Nat) (cancelled : Bool) : Line := ⟨connect, cancelled, .opening, [], 0, true⟩

def cancel (line : Line) : Line := { line with cancelled := true }

def finish (line : Line) (attempt : Attempt) (last : List Notice) : Line :=
  { line with reading := .ended attempt, told := line.told ++ last }

/-- The reader takes its turn. It looks first whether the line is cancelled. -/
def see (line : Line) (sight : Sight) : Line :=
  match line.reading with
  | .opening =>
    match sight with
    | .unusable reason => line.finish (.failed reason) (Attempt.failed reason).notices
    | sight =>
      if line.cancelled then line.finish .cancelled Attempt.cancelled.notices
      else
        match sight with
        | .opened => { line with reading := .reading [], told := line.told ++ [.opened] }
        | .refused reason => line.finish (.failed reason) (Attempt.failed reason).notices
        | _ => line
  | .reading frames =>
    if line.cancelled then line.finish (.opened frames .cancelled) [Ending.cancelled.notice]
    else
      match sight with
      | .frame frame =>
        { line with
          reading := .reading (frames ++ [frame])
          told := line.told ++ (frame.message?.map .message).toList }
      | .ending .cancelled => line
      | .ending ending => line.finish (.opened frames ending) [ending.notice]
      | _ => line
  | .ended _ => line

def behind (line : Line) : Nat := line.told.length - line.heard

/-- What the listener gets next; of what it is too late for it learns only how much it was. -/
def next (line : Line) : Hearing :=
  if !line.listening then .nothing
  else if capacity < line.behind then .lagged (line.behind - capacity)
  else
    match line.told[line.heard]? with
    | some notice => .notice notice
    | none => if line.reading.isEnded then .hungUp else .nothing

def hear (line : Line) : Line :=
  match line.next with
  | .nothing => line
  | .lagged missed => { line with heard := line.heard + missed }
  | .notice notice =>
    { line with heard := line.heard + 1, listening := !notice.isClosed }
  | .hungUp => { line with listening := false }

def isAlive (line : Line) : Bool := !line.reading.isEnded

/-- The events for all that the listener has behind it. -/
def events (line : Line) : List Event := (line.told.take line.heard).filterMap Notice.event?

end Line

/-! What an attempt tells. -/

/-- The connection is closed once, last of all. -/
theorem Attempt.notices_split (attempt : Attempt) :
    ∃ before last, attempt.notices = before ++ [last] ∧ last.isClosed = true ∧
      ∀ notice ∈ before, notice.isClosed = false := by
  cases attempt with
  | cancelled => exact ⟨[], _, rfl, rfl, by simp⟩
  | failed reason => exact ⟨[], _, rfl, rfl, by simp⟩
  | opened frames ending =>
    refine ⟨.opened :: frames.filterMap (·.message?.map .message), ending.notice, rfl, ?_, ?_⟩
    · cases ending with
      | closeFrame payload => cases payload <;> rfl
      | failure reason => rfl
      | endOfStream => rfl
      | cancelled => rfl
    · intro notice hnotice
      rcases List.mem_cons.mp hnotice with rfl | hmem
      · rfl
      · obtain ⟨frame, -, hframe⟩ := List.mem_filterMap.mp hmem
        obtain ⟨m, -, rfl⟩ := Option.map_eq_some_iff.mp hframe
        rfl

theorem Reading.isClosed_iff {reading : Reading} {k : Nat} {notice : Notice}
    (hk : reading.notices[k]? = some notice) :
    notice.isClosed = true ↔ reading.isEnded = true ∧ k + 1 = reading.notices.length := by
  cases reading with
  | opening => cases hk
  | reading frames =>
    have hopen : notice.isClosed = false := by
      rcases List.mem_cons.mp (List.mem_of_getElem? hk) with rfl | hmem
      · rfl
      · obtain ⟨frame, -, hframe⟩ := List.mem_filterMap.mp hmem
        obtain ⟨m, -, rfl⟩ := Option.map_eq_some_iff.mp hframe
        rfl
    simp [hopen, isEnded]
  | ended attempt =>
    obtain ⟨before, last, hsplit, hlast, hbefore⟩ := attempt.notices_split
    simp only [notices, hsplit] at hk ⊢
    rw [List.length_append, List.length_singleton]
    rcases Nat.lt_or_ge k before.length with hlt | hge
    · rw [List.getElem?_append_left hlt] at hk
      rw [hbefore notice (List.mem_of_getElem? hk)]
      simp only [Bool.false_eq_true, false_iff, not_and]
      omega
    · rw [List.getElem?_append_right hge] at hk
      obtain ⟨hzero, hnotice⟩ := List.getElem?_eq_some_iff.mp hk
      rw [List.length_singleton] at hzero
      rw [List.getElem_singleton] at hnotice
      rw [← hnotice, hlast]
      simp only [isEnded, true_and, true_iff]
      omega

theorem filterMap_event_message (frames : List Frame) :
    (frames.filterMap (·.message?.map .message)).filterMap Notice.event? = events frames := by
  unfold events
  rw [List.filterMap_filterMap]
  congr 1
  funext frame
  cases frame.message? <;> rfl

theorem Reading.filterMap_event_notices (reading : Reading) :
    reading.notices.filterMap Notice.event? = events reading.frames := by
  cases reading with
  | opening => rfl
  | reading frames => exact filterMap_event_message frames
  | ended attempt =>
    cases attempt with
    | cancelled => rfl
    | failed reason => rfl
    | opened frames ending =>
      have hending : ending.notice.event? = none := by
        cases ending with
        | closeFrame payload => cases payload <;> rfl
        | failure reason => rfl
        | endOfStream => rfl
        | cancelled => rfl
      change (.opened :: (frames.filterMap (·.message?.map .message) ++
        [ending.notice])).filterMap Notice.event? = events frames
      rw [List.filterMap_cons_none rfl, List.filterMap_append, filterMap_event_message]
      simp [hending]

namespace Line

/-- What is told is what the reader has to tell, and the listener is at its end when and only when
it has stopped listening. -/
structure Sound (line : Line) : Prop where
  told : line.told = line.reading.notices
  heard_le : line.heard ≤ line.told.length
  stopped : line.listening = false → line.reading.isEnded = true ∧ line.heard = line.told.length
  waiting : line.listening = true → line.reading.isEnded = true → line.heard < line.told.length

variable {line : Line}

theorem sound_start (connect : Nat) (cancelled : Bool) : (start connect cancelled).Sound where
  told := rfl
  heard_le := Nat.le_refl 0
  stopped := by
    intro h
    cases h
  waiting := by
    intro _ h
    cases h

theorem Sound.cancel (hsound : line.Sound) : line.cancel.Sound where
  told := hsound.told
  heard_le := hsound.heard_le
  stopped := hsound.stopped
  waiting := hsound.waiting

/-! The reader's turn. -/

/-- All that a turn of the reader can come to. A line that is cancelled does nothing but end. -/
inductive Turn (line : Line) : Line → Prop
  | stays : Turn line line
  | opens (hcancelled : line.cancelled = false) (hreading : line.reading = .opening) :
      Turn line { line with reading := .reading [], told := line.told ++ [.opened] }
  | reads (frames : List Frame) (frame : Frame) (hcancelled : line.cancelled = false)
      (hreading : line.reading = .reading frames) :
      Turn line
        { line with
          reading := .reading (frames ++ [frame])
          told := line.told ++ (frame.message?.map .message).toList }
  | ends (attempt : Attempt) (last : Notice) (hreading : line.reading.isEnded = false)
      (hframes : (Reading.ended attempt).frames = line.reading.frames)
      (hlast : attempt.notices = line.reading.notices ++ [last]) :
      Turn line (line.finish attempt [last])

theorem turn_see (line : Line) (sight : Sight) : line.Turn (line.see sight) := by
  obtain ⟨connect, cancelled, reading, told, heard, listening⟩ := line
  cases reading with
  | ended attempt => exact .stays
  | opening =>
    cases sight with
    | unusable reason => exact .ends (.failed reason) _ rfl rfl rfl
    | opened | refused reason | frame frame | ending ending =>
      cases cancelled with
      | true => exact .ends .cancelled _ rfl rfl rfl
      | false =>
        first
        | exact .stays
        | exact .opens rfl rfl
        | exact .ends (.failed _) _ rfl rfl rfl
  | reading frames =>
    cases cancelled with
    | true => exact .ends (.opened frames .cancelled) _ rfl rfl rfl
    | false =>
      cases sight with
      | unusable reason | opened | refused reason => exact .stays
      | frame frame => exact .reads frames frame rfl rfl
      | ending ending =>
        cases ending with
        | cancelled => exact .stays
        | closeFrame payload => exact .ends (.opened frames (.closeFrame payload)) _ rfl rfl rfl
        | failure reason => exact .ends (.opened frames (.failure reason)) _ rfl rfl rfl
        | endOfStream => exact .ends (.opened frames .endOfStream) _ rfl rfl rfl

theorem see_frame {frames : List Frame} (hreading : line.reading = .reading frames)
    (hcancelled : line.cancelled = false) (frame : Frame) :
    line.see (.frame frame) =
      { line with
        reading := .reading (frames ++ [frame])
        told := line.told ++ (frame.message?.map .message).toList } := by
  unfold see
  rw [hreading, hcancelled]
  rfl

theorem foldl_see_frames (frames seen : List Frame) (hreading : line.reading = .reading seen)
    (hcancelled : line.cancelled = false) :
    (frames.map Sight.frame).foldl see line =
      { line with
        reading := .reading (seen ++ frames)
        told := line.told ++ frames.filterMap (·.message?.map .message) } := by
  induction frames generalizing line seen with
  | nil =>
    simp only [List.map_nil, List.foldl_nil, List.append_nil, List.filterMap_nil]
    rw [← hreading]
  | cons frame frames ih =>
    rw [List.map_cons, List.foldl_cons, see_frame hreading hcancelled]
    refine Eq.trans (ih (seen ++ [frame]) ?_ ?_) ?_
    · rfl
    · exact hcancelled
    · cases hmessage : frame.message? <;> simp [hmessage]

/-- Every life that an attempt can have on its own comes about in the reader's turns. -/
theorem told_foldl_see (connect : Nat) (frames : List Frame) (ending : Ending)
    (hending : ending ≠ .cancelled) :
    ((.opened :: (frames.map Sight.frame ++ [.ending ending])).foldl see
      (start connect false)).told = (Attempt.opened frames ending).notices := by
  have hopen : (start connect false).see .opened =
      ⟨connect, false, .reading [], [.opened], 0, true⟩ := rfl
  rw [List.foldl_cons, List.foldl_append, hopen, foldl_see_frames frames [] rfl rfl]
  cases ending with
  | cancelled => exact absurd rfl hending
  | closeFrame payload | failure reason | endOfStream => rfl

theorem see_of_cancelled (hcancelled : line.cancelled = true) (sight : Sight) :
    (line.see sight).reading.isEnded = true := by
  obtain ⟨connect, cancelled, reading, told, heard, listening⟩ := line
  cases hcancelled
  cases reading with
  | opening => cases sight <;> rfl
  | reading frames => rfl
  | ended attempt => rfl

theorem Turn.kept {line' : Line} (hturn : line.Turn line') :
    line'.connect = line.connect ∧ line'.cancelled = line.cancelled ∧
      line'.heard = line.heard ∧ line'.listening = line.listening := by
  cases hturn <;> exact ⟨rfl, rfl, rfl, rfl⟩

theorem Turn.told {line' : Line} (hturn : line.Turn line') :
    ∃ new, line'.told = line.told ++ new ∧ new.length ≤ 1 := by
  cases hturn with
  | stays => exact ⟨[], (List.append_nil _).symm, by simp⟩
  | opens => exact ⟨_, rfl, by simp⟩
  | reads frames frame =>
    refine ⟨_, rfl, ?_⟩
    cases frame.message? <;> simp
  | ends => exact ⟨_, rfl, by simp⟩

theorem Turn.notices {line' : Line} (hturn : line.Turn line')
    (htold : line.told = line.reading.notices) : line'.told = line'.reading.notices := by
  cases hturn with
  | stays => exact htold
  | opens _ hreading =>
    rw [hreading] at htold
    change line.told ++ _ = _
    rw [htold]
    rfl
  | reads frames frame _ hreading =>
    rw [hreading] at htold
    change line.told ++ _ = .opened :: (frames ++ [frame]).filterMap _
    rw [htold, List.filterMap_append]
    cases hmessage : frame.message? <;> simp [Reading.notices, hmessage]
  | ends attempt last _ _ hlast =>
    change line.told ++ [last] = attempt.notices
    rw [htold, hlast]

theorem Turn.eq_of_ended {line' : Line} (hturn : line.Turn line')
    (hended : line.reading.isEnded = true) : line' = line := by
  cases hturn with
  | stays => rfl
  | opens _ hreading | reads _ _ _ hreading =>
    rw [hreading] at hended
    cases hended
  | ends _ _ hreading =>
    rw [hreading] at hended
    cases hended

theorem Turn.length_told_lt {line' : Line} (hturn : line.Turn line')
    (hgoing : line.reading.isEnded = false) (hended : line'.reading.isEnded = true) :
    line.told.length < line'.told.length := by
  cases hturn with
  | stays =>
    rw [hgoing] at hended
    cases hended
  | opens => cases hended
  | reads => cases hended
  | ends attempt last =>
    change _ < (line.told ++ [last]).length
    rw [List.length_append, List.length_singleton]
    exact Nat.lt_succ_self _

theorem Sound.turn {line' : Line} (hsound : line.Sound) (hturn : line.Turn line') :
    line'.Sound := by
  cases hgoing : line.reading.isEnded with
  | true =>
    rw [hturn.eq_of_ended hgoing]
    exact hsound
  | false =>
    obtain ⟨-, -, hheard, hlistening⟩ := hturn.kept
    obtain ⟨new, hnew, -⟩ := hturn.told
    have hle := hsound.heard_le
    refine ⟨hturn.notices hsound.told, ?_, ?_, ?_⟩
    · rw [hheard, hnew, List.length_append]
      omega
    · intro hstopped
      rw [hlistening] at hstopped
      have hended := (hsound.stopped hstopped).1
      rw [hgoing] at hended
      cases hended
    · intro _ hended
      rw [hheard]
      exact Nat.lt_of_le_of_lt hle (hturn.length_told_lt hgoing hended)

/-- A turn of the reader puts nothing behind the listener. -/
theorem Sound.events_turn {line' : Line} (hsound : line.Sound) (hturn : line.Turn line') :
    line'.events = line.events := by
  obtain ⟨-, -, hheard, -⟩ := hturn.kept
  obtain ⟨new, hnew, -⟩ := hturn.told
  unfold events
  rw [hheard, hnew, List.take_append_of_le_length hsound.heard_le]

/-! The listener's turn. -/

/-- What the listener gets, with when it gets it. -/
inductive Hears (line : Line) : Hearing → Prop
  | stopped (hstopped : line.listening = false) : Hears line .nothing
  | lagged (missed : Nat) (hlistening : line.listening = true) (hmissed : 0 < missed)
      (hbehind : line.behind = capacity + missed) : Hears line (.lagged missed)
  | notice (notice : Notice) (hlistening : line.listening = true) (hpace : line.behind ≤ capacity)
      (htold : line.told[line.heard]? = some notice) : Hears line (.notice notice)
  | waits (hlistening : line.listening = true) (hgoing : line.reading.isEnded = false) :
      Hears line .nothing
  | hungUp (hlistening : line.listening = true) (hended : line.reading.isEnded = true)
      (hpast : line.told.length ≤ line.heard) : Hears line .hungUp

theorem hears_next (line : Line) : line.Hears line.next := by
  unfold next
  cases hlistening : line.listening with
  | false => exact .stopped hlistening
  | true =>
    rw [Bool.not_true, if_neg Bool.false_ne_true]
    split
    · rename_i hbehind
      exact .lagged _ hlistening (by omega) (by omega)
    · rename_i hbehind
      cases htold : line.told[line.heard]? with
      | some notice => exact .notice notice hlistening (Nat.le_of_not_lt hbehind) htold
      | none =>
        cases hended : line.reading.isEnded with
        | true => exact .hungUp hlistening hended (List.getElem?_eq_none_iff.mp htold)
        | false => exact .waits hlistening hended

/-- The channel does not end before the listener has the last notice. -/
theorem Sound.next_ne_hungUp (hsound : line.Sound) : line.next ≠ .hungUp := by
  intro hnext
  have hhears := line.hears_next
  rw [hnext] at hhears
  cases hhears with
  | hungUp hlistening hended hpast =>
    exact absurd (hsound.waiting hlistening hended) (Nat.not_lt_of_le hpast)

theorem Sound.isClosed_iff (hsound : line.Sound) {notice : Notice}
    (hnext : line.next = .notice notice) :
    notice.isClosed = true ↔
      line.reading.isEnded = true ∧ line.heard + 1 = line.told.length := by
  have hhears := line.hears_next
  rw [hnext] at hhears
  cases hhears with
  | notice _ _ _ htold =>
    rw [hsound.told] at htold ⊢
    exact Reading.isClosed_iff htold

theorem Sound.hear (hsound : line.Sound) : line.hear.Sound := by
  have hle := hsound.heard_le
  have hhears := line.hears_next
  unfold Line.hear
  cases hnext : line.next with
  | nothing => exact hsound
  | hungUp => exact absurd hnext hsound.next_ne_hungUp
  | lagged missed =>
    -- One who lags goes on with the oldest notice that is still kept.
    rw [hnext] at hhears
    cases hhears with
    | lagged _ hlistening hmissed hbehind =>
      unfold behind at hbehind
      have hcapacity : 0 < capacity := by decide
      refine ⟨hsound.told, ?_, ?_, ?_⟩
      · dsimp only
        omega
      · intro hstopped
        rw [hlistening] at hstopped
        cases hstopped
      · intro _ _
        dsimp only
        omega
  | notice notice =>
    have hclosed := hsound.isClosed_iff hnext
    rw [hnext] at hhears
    cases hhears with
    | notice _ _ _ htold =>
      have hlt : line.heard < line.told.length := (List.getElem?_eq_some_iff.mp htold).1
      refine ⟨hsound.told, hlt, ?_, ?_⟩
      · intro hstopped
        exact hclosed.mp (by simpa using hstopped)
      · intro hgoing hended
        have hopen : notice.isClosed = false := by simpa using hgoing
        have hnot : line.heard + 1 ≠ line.told.length := by
          intro hlast
          rw [hclosed.mpr ⟨hended, hlast⟩] at hopen
          cases hopen
        dsimp only
        omega

theorem hear_kept (line : Line) : line.hear.connect = line.connect ∧
    line.hear.cancelled = line.cancelled ∧ line.hear.reading = line.reading ∧
      line.hear.told = line.told := by
  unfold hear
  split <;> exact ⟨rfl, rfl, rfl, rfl⟩

/-- One who keeps up hears each notice, in order. -/
theorem events_hear (hpace : line.behind ≤ capacity) :
    line.hear.events = line.events ++ line.next.event?.toList := by
  have hhears := line.hears_next
  unfold events hear
  generalize line.next = hearing at hhears
  cases hhears with
  | stopped => exact (List.append_nil _).symm
  | lagged missed _ hmissed hbehind =>
    rw [hbehind] at hpace
    omega
  | notice notice _ _ htold =>
    dsimp only
    rw [List.take_add_one, htold, List.filterMap_append]
    cases notice <;> rfl
  | waits => exact (List.append_nil _).symm
  | hungUp => exact (List.append_nil _).symm

theorem listening_hear (line : Line) :
    line.hear.listening = (line.listening && !line.next.closes) := by
  have hhears := line.hears_next
  unfold hear
  generalize line.next = hearing at hhears
  cases hhears with
  | stopped hstopped =>
    rw [hstopped]
    rfl
  | lagged missed hlistening | waits hlistening =>
    rw [hlistening]
    rfl
  | notice notice hlistening =>
    rw [hlistening]
    exact (Bool.true_and _).symm
  | hungUp hlistening =>
    rw [hlistening]
    rfl

theorem next_of_behind (hlistening : line.listening = true) (hpace : line.behind ≤ capacity)
    (hlt : line.heard < line.told.length) : ∃ notice, line.next = .notice notice := by
  unfold next
  rw [hlistening, Bool.not_true, if_neg Bool.false_ne_true, if_neg (Nat.not_lt_of_le hpace),
    List.getElem?_eq_getElem hlt]
  exact ⟨_, rfl⟩

theorem listening_of_closes (hcloses : line.next.closes = true) : line.listening = true := by
  have hhears := line.hears_next
  generalize line.next = hearing at hhears hcloses
  cases hhears with
  | stopped | lagged | waits => cases hcloses
  | notice _ hlistening | hungUp hlistening => exact hlistening

/-- Where nothing waits for the listener, it hears of a cancelled line next that it is closed. -/
theorem Sound.closes_of_cancelled (hsound : line.Sound) (hlistening : line.listening = true)
    (hcalm : line.behind = 0) (hcancelled : line.cancelled = true) (sight : Sight) :
    (line.see sight).next.closes = true := by
  have hturn := line.turn_see sight
  have hended := see_of_cancelled hcancelled sight
  have hsound' := hsound.turn hturn
  obtain ⟨-, -, hheard, hkept⟩ := hturn.kept
  obtain ⟨new, htold, hone⟩ := hturn.told
  rw [hlistening] at hkept
  have hlt := hsound'.waiting hkept hended
  have hlength : (line.see sight).told.length = (line.see sight).heard + 1 := by
    have hle := hsound.heard_le
    unfold behind at hcalm
    rw [hheard] at hlt ⊢
    rw [htold, List.length_append] at hlt ⊢
    omega
  have hcapacity : 1 ≤ capacity := by decide
  have hpace : (line.see sight).behind ≤ capacity := by
    unfold behind
    omega
  obtain ⟨notice, hnext⟩ := next_of_behind hkept hpace hlt
  have hclosed := (hsound'.isClosed_iff hnext).mpr ⟨hended, hlength.symm⟩
  rw [hnext]
  exact hclosed

/-- A listener that has stopped has put all the messages on the bus. -/
theorem Sound.events_of_stopped (hsound : line.Sound) (hstopped : line.listening = false) :
    line.events = Push.events line.reading.frames := by
  unfold events
  rw [(hsound.stopped hstopped).2, List.take_length, hsound.told, Reading.filterMap_event_notices]

theorem Sound.events_prefix (hsound : line.Sound) :
    line.events <+: Push.events line.reading.frames := by
  rw [← Reading.filterMap_event_notices, ← hsound.told]
  exact (List.take_prefix _ _).filterMap _

/-! From one turn to the next. -/

/-- What a turn, or the end of a bridge's interest, may make of a line. -/
structure Follows (line line' : Line) : Prop where
  sound : line'.Sound
  connect : line'.connect = line.connect
  cancelled : line.cancelled = true → line'.cancelled = true
  listening : line'.listening = true → line.listening = true
  alive : line'.isAlive = true → line.isAlive = true
  /-- A line that is cancelled before it has opened does not open any more. -/
  opening : line.cancelled = true → line.reading = .opening → line'.isAlive = true →
    line'.reading = .opening

theorem Sound.follows_refl (hsound : line.Sound) : line.Follows line where
  sound := hsound
  connect := rfl
  cancelled := id
  listening := id
  alive := id
  opening := fun _ hopening _ => hopening

theorem Sound.follows_cancel (hsound : line.Sound) : line.Follows line.cancel where
  sound := hsound.cancel
  connect := rfl
  cancelled := fun _ => rfl
  listening := id
  alive := id
  opening := fun _ hopening _ => hopening

theorem Sound.follows_see (hsound : line.Sound) (sight : Sight) :
    line.Follows (line.see sight) := by
  have hturn := line.turn_see sight
  obtain ⟨hconnect, hcancelled, -, hlistening⟩ := hturn.kept
  refine ⟨hsound.turn hturn, hconnect, ?_, ?_, ?_, ?_⟩
  · intro h
    rwa [hcancelled]
  · intro h
    rwa [hlistening] at h
  · intro halive
    cases hended : line.reading.isEnded with
    | true =>
      rw [hturn.eq_of_ended hended] at halive
      exact halive
    | false =>
      unfold isAlive
      rw [hended]
      rfl
  · intro h hopening halive
    generalize line.see sight = line' at hturn halive
    cases hturn with
    | stays => exact hopening
    | opens hopen | reads _ _ hopen =>
      rw [hopen] at h
      cases h
    | ends => cases halive

theorem Sound.follows_hear (hsound : line.Sound) : line.Follows line.hear := by
  obtain ⟨hconnect, hcancelled, hreading, -⟩ := line.hear_kept
  refine ⟨hsound.hear, hconnect, ?_, ?_, ?_, ?_⟩
  · intro h
    rwa [hcancelled]
  · intro hgoing
    rw [listening_hear, Bool.and_eq_true] at hgoing
    exact hgoing.1
  · intro halive
    unfold isAlive at halive ⊢
    rwa [hreading] at halive
  · intro _ hopening _
    rwa [hreading]

end Line

end ZigbeeBridge.Push
