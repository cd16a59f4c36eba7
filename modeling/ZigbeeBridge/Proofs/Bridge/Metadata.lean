import ZigbeeBridge.Proofs.Bridge.Effect
import ZigbeeBridge.Proofs.Bridge.Keeps

/-!
What a bridge knows of its gateway. It is what some gateway told it last, and it outlives a move to
another address: until the gateway there has told something too, name, version and push port are
those of the old one.
-/
namespace ZigbeeBridge.Bridge

open Bus Gateway Operation
open Dialogue (Attempt Behaviour Trace)

/-- What a gateway told of itself, and where it was asked. -/
structure Account where
  address : String
  about : About
  deriving DecidableEq, Repr

section Accounts

variable (gateway : Behaviour)

/-- What is told at an address to whoever asks for it there. -/
def toldAt (address token : String) (asked : List Request) : Option About :=
  match baseUrl address with
  | .ok base => (toldAbout gateway ⟨base, token⟩ asked).toOption
  | .error _ => none

/-- The account that an operation comes by, if it asks for one and is answered. -/
def account? (part : Moment × Act) : Option Account :=
  if part.2.asksAbout part.1 then
    (toldAt gateway part.1.state.session.address part.1.state.session.token
      part.1.trace.requests).map fun about => ⟨part.1.state.session.address, about⟩
  else none

def accounts (parts : List (Moment × Act)) : List Account := parts.filterMap (account? gateway)

theorem getLast?_accounts_cons (part : Moment × Act) (parts : List (Moment × Act)) :
    (accounts gateway (part :: parts)).getLast? =
      (accounts gateway parts).getLast?.or (account? gateway part) := by
  unfold accounts
  rw [List.filterMap_cons]
  cases account? gateway part with
  | none => exact Option.or_none.symm
  | some account =>
    dsimp only
    rw [List.getLast?_cons]
    cases (List.filterMap (account? gateway) parts).getLast? with
    | none => rfl
    | some last => rfl

theorem learned_of_current {m : Moment} (hcurrent : m.state.session.Current) :
    learned gateway m =
      toldAt gateway m.state.session.address m.state.session.token m.trace.requests := by
  unfold learned toldAt
  cases hclient : m.state.session.connectClient with
  | ok found =>
    obtain ⟨client, session⟩ := found
    obtain ⟨hbase, htoken, -, -⟩ := hcurrent.connectClient hclient
    rw [hbase, ← htoken]
  | error e =>
    unfold Session.connectClient at hclient
    split at hclient
    · cases hclient
    · cases hbase : baseUrl m.state.session.address with
      | error e => rfl
      | ok base =>
        rw [hbase] at hclient
        cases hclient

def Moves (part : Moment × Act) : Prop :=
  (part.2.step gateway part.1).state.session.address ≠ part.1.state.session.address

/-- The session has moved, and since then no gateway has told anything. -/
def Astray (parts : List (Moment × Act)) : Prop :=
  ∃ before part after, parts = before ++ part :: after ∧ Moves gateway part ∧
    accounts gateway (part :: after) = []

theorem address_of_asksAbout (m : Moment) (act : Act) (hasks : act.asksAbout m = true) :
    (act.effect m.state.session).address = m.state.session.address := by
  unfold Act.asksAbout at hasks
  split at hasks
  · rfl
  · rfl
  · rfl
  · obtain ⟨counter, hcount⟩ := m.state.session.exists_tick
    rw [Act.effect, hcount]
    rfl
  · cases hasks

variable {gateway} {m m' : Moment} {parts : List (Moment × Act)}

/-- What is known in the end is the last account on the way, or else what was known before. -/
theorem about_path (hpath : Path gateway m parts m')
    (hcurrent : ∀ part ∈ parts, part.1.state.session.Current) :
    m'.state.session.about =
      ((accounts gateway parts).getLast?.map Account.about).or m.state.session.about := by
  induction hpath with
  | nil m => rfl
  | requeue queue _ ih => exact ih hcurrent
  | @cons m m' act rest hact _ ih =>
    obtain ⟨client, hsession⟩ := alike_step gateway m act hact
    have hlearned := learned_of_current gateway (hcurrent (m, act) List.mem_cons_self)
    have habout : (act.step gateway m).state.session.about =
        ((account? gateway (m, act)).map Account.about).or m.state.session.about := by
      obtain ⟨_, _, _, _, heffect⟩ := act.exists_effect m.state.session
      rw [hsession, heffect]
      unfold Session.informed account?
      dsimp only
      rw [hlearned]
      split
      · rw [Option.map_map]
        simp [Function.comp_def]
      · rfl
    rw [ih fun part hmem => hcurrent part (List.mem_cons_of_mem _ hmem), habout,
      getLast?_accounts_cons]
    cases (accounts gateway rest).getLast? with
    | none => rfl
    | some last => rfl

theorem address_path (hpath : Path gateway m parts m') (hstray : ¬Astray gateway parts) :
    m'.state.session.address =
      ((accounts gateway parts).getLast?.map Account.address).getD m.state.session.address := by
  induction hpath with
  | nil m => rfl
  | requeue queue _ ih => exact ih hstray
  | @cons m m' act rest hact _ ih =>
    have hrest : ¬Astray gateway rest := by
      rintro ⟨before, part, after, rfl, hmoves, hnone⟩
      exact hstray ⟨(m, act) :: before, part, after, rfl, hmoves, hnone⟩
    have hlast := getLast?_accounts_cons gateway (m, act) rest
    rw [ih hrest, hlast]
    cases hlater : (accounts gateway rest).getLast? with
    | some last => rfl
    | none =>
      rw [hlater] at hlast
      cases haccount : account? gateway (m, act) with
      | none =>
        rw [haccount] at hlast
        -- Nothing is told here or later, so a move here would be one that leaves it astray.
        by_contra hmoves
        exact hstray ⟨[], (m, act), rest, rfl, hmoves, List.getLast?_eq_none_iff.mp hlast⟩
      | some account =>
        unfold account? at haccount
        split at haccount
        · rename_i hasks
          obtain ⟨client, hsession⟩ := alike_step gateway m act hact
          obtain ⟨about, -, rfl⟩ := Option.map_eq_some_iff.mp haccount
          dsimp only at hasks
          rw [hsession]
          exact address_of_asksAbout m act hasks
        · cases haccount

end Accounts

section Push

variable (gateway : Behaviour) (m : Moment)

/-- Where the push connection goes that a bridge opens at an address: to the port of the settings,
or else to the one that is known from the gateway, or else to the usual one. -/
def pushGoal (settings : Settings) (address : String) (about? : Option About) : Option Url :=
  let port := (settings.pushPort.or (about?.bind (·.pushPort))).getD Session.usualPushPort
  (baseUrl address >>= fun base => pushUrl base port).toOption

theorem push_startPush (hclosed : m.state.push = none) :
    (enact gateway startPush m).2.state.push =
      if m.state.settings.pushEnabled && !m.state.shutDown then
        pushGoal m.state.settings m.state.session.address m.state.session.about
      else none := by
  have hgoal : pushGoal m.state.settings m.state.session.address m.state.session.about =
      (m.state.session.pushTarget m.state.settings).toOption := by
    unfold pushGoal Session.pushTarget
    rfl
  rw [enact_startPush, hgoal]
  dsimp only
  cases m.state.settings.pushEnabled with
  | false => exact hclosed
  | true =>
    rw [if_pos rfl]
    cases m.state.session.pushTarget m.state.settings with
    | error e =>
      dsimp only
      rw [hclosed]
      split
      · rfl
      · rfl
    | ok url =>
      dsimp only
      cases m.state.shutDown with
      | true => rfl
      | false => rfl

theorem push_connect :
    (enact gateway connect m).2.state.push =
      if m.state.settings.pushEnabled && !m.state.shutDown then
        pushGoal m.state.settings (enact gateway connect m).2.state.session.address
          (enact gateway connect m).2.state.session.about
      else none := by
  have hblind : Blind fun s => (s.settings, s.push, s.shutDown) :=
    ⟨fun _ _ => rfl, fun _ _ => rfl, fun _ _ => rfl⟩
  have hprobe := hblind.keeps_probe gateway (m.closePush.withHealth .connecting)
  simp only [Prod.mk.injEq] at hprobe
  obtain ⟨hsettings, hpush, hshut⟩ := hprobe
  rw [enact_connect]
  dsimp only
  rw [push_startPush _ _ (hpush.trans m.push_closePush), hsettings.trans m.settings_closePush,
    hshut.trans m.shutDown_closePush, session_startPush]

end Push

section Results

variable (gateway : Behaviour) (settings : Settings) (acts : List Act)

def accountsOf : List Account := accounts gateway (operations gateway (.start settings) acts)

/-- Of these, the ones from the address where the session is in the end. -/
def ownAccounts : List Account :=
  (accountsOf gateway settings acts).filter
    (·.address = (Moment.reached gateway settings acts).state.session.address)

def Shows (status : Status) (about? : Option About) : Prop :=
  status.deviceName = (about?.map (·.name)).getD "" ∧
    status.version = (about?.map (·.version)).getD ""

def Act.isConnect : Act → Bool
  | connect | reconnect => true
  | _ => false

theorem step_of_isConnect (act : Act) (hconnect : act.isConnect = true) (m : Moment) :
    act.step gateway m = (enact gateway connect m).2 := by
  unfold Act.step Act.operation
  cases act with
  | connect | reconnect => rw [enact_map]
  | _ => cases hconnect

theorem last_ownAccounts
    (hstray : ¬Astray gateway (operations gateway (.start settings) acts)) :
    (ownAccounts gateway settings acts).getLast? =
      (accountsOf gateway settings acts).getLast? := by
  have haddress := address_path (path_run gateway acts (.start settings)) hstray
  change _ = ((accountsOf gateway settings acts).getLast?.map Account.address).getD _ at haddress
  unfold ownAccounts
  rw [List.getLast?_filter]
  cases hlast : (accountsOf gateway settings acts).getLast? with
  | none =>
    rw [List.getLast?_eq_none_iff.mp hlast]
    rfl
  | some account =>
    obtain ⟨before, hall⟩ := List.getLast?_eq_some_iff.mp hlast
    rw [hlast] at haddress
    rw [hall, List.reverse_append, List.reverse_singleton, List.singleton_append]
    rw [List.find?_cons_of_pos]
    exact decide_eq_true haddress.symm

theorem about_reached :
    (Moment.reached gateway settings acts).state.session.about =
      (accountsOf gateway settings acts).getLast?.map Account.about := by
  have hworked : Worked gateway (.start settings) (Moment.reached gateway settings acts)
      (operations gateway (.start settings) acts) :=
    worked_run acts (Session.current_start settings)
  have hpath : Path gateway (.start settings) (operations gateway (.start settings) acts)
      (Moment.reached gateway settings acts) := path_run gateway acts (.start settings)
  rw [about_path hpath fun part hpart => (hworked.parts part hpart).1]
  exact Option.or_none

theorem shows_status (s : State) : Shows s.status s.session.about := ⟨rfl, rfl⟩

theorem push_reached (earlier : List Act) (act : Act) (hconnect : act.isConnect = true) :
    (Moment.reached gateway settings (earlier ++ [act])).state.push =
      if settings.pushEnabled && !(Moment.reached gateway settings earlier).state.shutDown then
        pushGoal settings (Moment.reached gateway settings (earlier ++ [act])).state.session.address
          (Moment.reached gateway settings (earlier ++ [act])).state.session.about
      else none := by
  have hlast : Moment.reached gateway settings (earlier ++ [act]) =
      (enact gateway connect (Moment.reached gateway settings earlier)).2 := by
    unfold Moment.reached Moment.run
    rw [List.foldl_append]
    exact step_of_isConnect gateway act hconnect _
  have hsettings : (Moment.reached gateway settings earlier).state.settings = settings :=
    settings_run gateway earlier (.start settings)
  rw [hlast, push_connect, hsettings]

/-- Nothing is shown or used but what was told at the address where the session is. -/
structure Belongs : Prop where
  shown : Shows (Moment.reached gateway settings acts).state.status
    ((ownAccounts gateway settings acts).getLast?.map Account.about)
  pushed : ∀ earlier act, acts = earlier ++ [act] → act.isConnect = true →
    settings.pushEnabled = true → (Moment.reached gateway settings earlier).state.shutDown = false →
      (Moment.reached gateway settings acts).state.push =
        pushGoal settings (Moment.reached gateway settings acts).state.session.address
          ((ownAccounts gateway settings acts).getLast?.map Account.about)

/-- What is shown, and used for the push connection, is what some gateway told last. That is the
one at the address of the session, unless it has moved there and was not told anything since. -/
theorem metadata_reached :
    Shows (Moment.reached gateway settings acts).state.status
        ((accountsOf gateway settings acts).getLast?.map Account.about) ∧
      (∀ earlier act, acts = earlier ++ [act] → act.isConnect = true →
        (Moment.reached gateway settings acts).state.push =
          if settings.pushEnabled && !(Moment.reached gateway settings earlier).state.shutDown then
            pushGoal settings (Moment.reached gateway settings acts).state.session.address
              ((accountsOf gateway settings acts).getLast?.map Account.about)
          else none) ∧
      (Astray gateway (operations gateway (.start settings) acts) ∨
        Belongs gateway settings acts) := by
  have habout := about_reached gateway settings acts
  have hshown := shows_status (Moment.reached gateway settings acts).state
  have hpushed : ∀ earlier act, acts = earlier ++ [act] → act.isConnect = true →
      (Moment.reached gateway settings acts).state.push =
        if settings.pushEnabled && !(Moment.reached gateway settings earlier).state.shutDown then
          pushGoal settings (Moment.reached gateway settings acts).state.session.address
            ((accountsOf gateway settings acts).getLast?.map Account.about)
        else none := by
    intro earlier act hacts hconnect
    rw [← habout, hacts]
    exact push_reached gateway settings earlier act hconnect
  rw [habout] at hshown
  refine ⟨hshown, hpushed, ?_⟩
  by_cases hstray : Astray gateway (operations gateway (.start settings) acts)
  · exact Or.inl hstray
  · rw [← last_ownAccounts gateway settings acts hstray] at hshown hpushed
    refine Or.inr ⟨hshown, ?_⟩
    intro earlier act hacts hconnect hwanted hrunning
    rw [hpushed earlier act hacts hconnect, hwanted, hrunning]
    rfl

def lonely : Behaviour := fun _ request =>
  if request.url.host = some (.domain "a") then
    .response 200 (some
      "\x7b\"name\":\"A\",\"swversion\":\"1.0\",\"websocketport\":8088\x7d")
  else .none

def restless : Settings := ⟨"a", "T", "", 5, 1000, 0, true, none, .abort, false⟩

def removal : List Act := [.probe, .setAddress "b", .connect]

/-- After a move the name and the port are still those of the old gateway, though nobody has told
anything at the new address. -/
theorem not_belongs_removal :
    ¬Belongs lonely restless removal ∧ ownAccounts lonely restless removal = [] ∧
      (Moment.reached lonely restless removal).state.status.address = "http://b" ∧
      (Moment.reached lonely restless removal).state.status.deviceName = "A" ∧
      (Moment.reached lonely restless removal).state.push.map Url.text = some "ws://b:8088/" := by
  have hrun : ownAccounts lonely restless removal = [] ∧
      (Moment.reached lonely restless removal).state.status.address = "http://b" ∧
      (Moment.reached lonely restless removal).state.status.deviceName = "A" ∧
      (Moment.reached lonely restless removal).state.push.map Url.text =
        some "ws://b:8088/" := by
    decide +kernel
  refine And.intro ?_ hrun
  intro hbelongs
  have hshown := hbelongs.shown.1
  rw [hrun.2.2.1, hrun.1] at hshown
  exact absurd hshown (by decide)

end Results

end ZigbeeBridge.Bridge
