import ZigbeeBridge.Proofs.Bridge.Tour
import ZigbeeBridge.Proofs.Gateway.Envelope
import ZigbeeBridge.Proofs.Json.Keys

/-!
What is listed is asked for once. The entries of a listing are its keys in their order, and these
are all different, however often the text of the listing repeats one.
-/
namespace ZigbeeBridge.Bridge

open Bus Data Gateway
open Dialogue (Behaviour)

theorem ids_summaries {members : Entries Value} {found : List Summary}
    (hfound : summaries members = .ok found) : found.map Summary.id = Entries.keys members := by
  refine map_of_mapM_eq_ok ?_ members found hfound
  intro entry summary hsummary
  obtain ⟨_, -, hdone⟩ := bind_eq_ok hsummary
  cases hdone
  rfl

theorem ids_sensorInfos {members : Entries Value} {found : List SensorInfo}
    (hfound : sensorInfos members = .ok found) :
    found.map SensorInfo.id = Entries.keys members := by
  refine map_of_mapM_eq_ok ?_ members found hfound
  intro entry info hinfo
  obtain ⟨_, -, hdone⟩ := bind_eq_ok hinfo
  cases hdone
  rfl

theorem whole_listing_eq_ok {body : String} {v : Value} {members : Entries Value}
    (hlisting : whole listing body v = .ok members) : v = .object members := by
  cases v with
  | object members' =>
    cases hlisting
    rfl
  | null | bool _ | number _ | string _ | array _ => cases hlisting

section Answers

variable (gateway : Behaviour) (client : Client) (asked : List Request)

/-- A listing fails, or what it tells of are the keys of an object, in order. -/
theorem ids_stopsOf {β : Type} (call : Call) (stop : β → Stop) (id : β → String)
    (hstop : ∀ b, (stop b).id? = some (id b)) (next : Entries Value → Except Gateway.Error (List β))
    (hids : ∀ members found, next members = .ok found → found.map id = Entries.keys members)
    (answer : Except Gateway.Error (List β))
    (hanswer : answer = call.request client >>= fun request =>
      accept (fun body v => whole listing body v >>= next) (gateway asked request)) :
    ((!answer.isOk) = true ∧ stopsOf stop answer = []) ∨
      ∃ request body members, call.request client = .ok request ∧
        Accepted (gateway asked request) body (.object members) ∧
        (stopsOf stop answer).map Stop.id? = (Entries.keys members).map some := by
  cases answer with
  | error e => exact Or.inl ⟨rfl, rfl⟩
  | ok found =>
    obtain ⟨request, hrequest, hread⟩ := bind_eq_ok hanswer.symm
    obtain ⟨body, v, haccepted, hdecode⟩ := (accept_eq_ok_iff _ _ found).mp hread
    obtain ⟨members, hlisting, hnext⟩ := bind_eq_ok hdecode
    cases whole_listing_eq_ok hlisting
    refine Or.inr ⟨request, body, members, hrequest, haccepted, ?_⟩
    rw [stopsOf, ← hids members found hnext, List.map_map, List.map_map]
    exact List.map_congr_left fun b _ => hstop b

theorem fails_listing (phase : Phase) :
    (Stop.listing phase).fails gateway client asked =
      !(told gateway client asked phase.call).isOk := by
  rw [Stop.fails, Stop.outcome]
  cases told gateway client asked phase.call with
  | error e => rfl
  | ok found => rfl

/-- A listing fails, or its entries are those of a document: their ids are its keys, in order. -/
theorem ids_entries (phase : Phase) :
    ((Stop.listing phase).fails gateway client asked = true ∧
      phase.entries gateway client asked = []) ∨
      ∃ request body members, phase.call.request client = .ok request ∧
        Accepted (gateway asked request) body (.object members) ∧
        (phase.entries gateway client asked).map Stop.id? = (Entries.keys members).map some := by
  cases phase with
  | lights =>
    have hfails : (Stop.listing .lights).fails gateway client asked =
        !(told gateway client asked .lights).isOk := fails_listing gateway client asked .lights
    rw [hfails, Phase.entries]
    exact ids_stopsOf gateway client asked .lights (fun summary : Summary => .light summary.id)
      Summary.id (fun _ => rfl) summaries (fun _ _ => ids_summaries) _ rfl
  | groups =>
    have hfails : (Stop.listing .groups).fails gateway client asked =
        !(told gateway client asked .groups).isOk := fails_listing gateway client asked .groups
    rw [hfails, Phase.entries]
    exact ids_stopsOf gateway client asked .groups (fun summary : Summary => .group summary.id)
      Summary.id (fun _ => rfl) summaries (fun _ _ => ids_summaries) _ rfl
  | sensors =>
    have hfails : (Stop.listing .sensors).fails gateway client asked =
        !(told gateway client asked .sensors).isOk := fails_listing gateway client asked .sensors
    rw [hfails, Phase.entries]
    exact ids_stopsOf gateway client asked .sensors .sensor SensorInfo.id
      (fun _ => rfl) sensorInfos (fun _ _ => ids_sensorInfos) _ rfl

theorem nodup_ids_entries (phase : Phase) :
    ((phase.entries gateway client asked).map Stop.id?).Nodup := by
  rcases ids_entries gateway client asked phase with ⟨-, hnone⟩ |
    ⟨_, body, members, -, haccepted, hids⟩
  · rw [hnone]
    exact List.nodup_nil
  · rw [hids]
    have hkeys := Json.nodup_keys_parse body members haccepted.parsed
    exact List.Pairwise.map some (fun _ _ hne heq => hne (Option.some.inj heq)) hkeys

end Answers

/-- The phase that a stop belongs to. -/
def Stop.phase : Stop → Phase
  | listing phase => phase
  | light _ => .lights
  | group _ => .groups
  | sensor _ => .sensors

/-- What tells two stops of a tour apart. -/
def Stop.key (stop : Stop) : Phase × Option String := (stop.phase, stop.id?)

/-- The key of the stop that a call is made at. -/
def keyOf? : Call → Option (Phase × Option String)
  | .lights => some (.lights, none)
  | .light id => some (.lights, some id)
  | .groups => some (.groups, none)
  | .group id => some (.groups, some id)
  | .sensors => some (.sensors, none)
  | .sensor id => some (.sensors, some id)
  | _ => none

theorem keyOf?_eq {stop : Stop} {call : Call} (hcall : stop.call? = some call) :
    keyOf? call = some stop.key := by
  cases stop with
  | listing phase =>
    cases hcall
    cases phase with
    | lights | groups | sensors => rfl
  | light id =>
    cases hcall
    rfl
  | group id =>
    cases hcall
    rfl
  | sensor info =>
    rw [Stop.call?] at hcall
    split at hcall
    · cases hcall
      rfl
    · cases hcall

section Keys

variable (gateway : Behaviour) (client : Client)

theorem mem_stopsOf {β : Type} {next : β → Stop} {answer : Except Gateway.Error (List β)}
    {stop : Stop} (hstop : stop ∈ stopsOf next answer) : ∃ b, next b = stop := by
  cases answer with
  | error e => cases hstop
  | ok bs =>
    obtain ⟨b, -, hb⟩ := List.mem_map.mp hstop
    exact ⟨b, hb⟩

theorem mem_entries {asked : List Request} {phase : Phase} {stop : Stop}
    (hstop : stop ∈ phase.entries gateway client asked) :
    stop.phase = phase ∧ stop.id? ≠ none := by
  cases phase with
  | lights | groups | sensors =>
    rw [Phase.entries] at hstop
    obtain ⟨entry, rfl⟩ := mem_stopsOf hstop
    exact ⟨rfl, Option.some_ne_none _⟩

theorem mem_itinerary {phases : List Phase} {asked : List Request} {stop : Stop}
    (hstop : stop ∈ itinerary gateway client phases asked) : stop.phase ∈ phases := by
  induction phases generalizing asked with
  | nil => cases hstop
  | cons phase rest ih =>
    rw [itinerary, List.mem_append] at hstop
    rcases hstop with hhere | hlater
    · rcases List.mem_cons.mp hhere with rfl | hentry
      · exact List.mem_cons_self
      · rw [(mem_entries gateway client hentry).1]
        exact List.mem_cons_self
    · exact List.mem_cons_of_mem _ (ih hlater)

theorem nodup_keys_phase (phase : Phase) (asked : List Request) :
    ((.listing phase :: phase.entries gateway client asked).map Stop.key).Nodup := by
  rw [List.map_cons, List.nodup_cons]
  constructor
  · intro hmem
    obtain ⟨stop, hstop, hkey⟩ := List.mem_map.mp hmem
    exact (mem_entries gateway client hstop).2 (congrArg Prod.snd hkey)
  · have hids := nodup_ids_entries gateway client asked phase
    rw [List.Nodup, List.pairwise_map] at hids ⊢
    exact hids.imp fun hne heq => hne (congrArg Prod.snd heq)

theorem nodup_keys_itinerary (phases : List Phase) (hphases : phases.Nodup)
    (asked : List Request) : ((itinerary gateway client phases asked).map Stop.key).Nodup := by
  induction phases generalizing asked with
  | nil => exact List.nodup_nil
  | cons phase rest ih =>
    obtain ⟨hfresh, hrest⟩ := List.nodup_cons.mp hphases
    rw [itinerary, List.map_append, List.nodup_append]
    refine ⟨nodup_keys_phase gateway client phase asked, ih hrest _, ?_⟩
    rintro key hhere key' hlater rfl
    obtain ⟨stop, hstop, hkey⟩ := List.mem_map.mp hhere
    obtain ⟨stop', hstop', hkey'⟩ := List.mem_map.mp hlater
    have hphase : stop.phase = phase := by
      rcases List.mem_cons.mp hstop with rfl | hentry
      · rfl
      · exact (mem_entries gateway client hentry).1
    have hsame : stop'.phase = stop.phase := congrArg Prod.fst (hkey'.trans hkey.symm)
    exact hfresh (hphase ▸ hsame ▸ mem_itinerary gateway client hstop')

/-- No call is made twice on a tour. -/
theorem nodup_calls (phases : List Phase) (hphases : phases.Nodup) (asked : List Request) :
    ((itinerary gateway client phases asked).filterMap Stop.call?).Nodup := by
  have hkeys := nodup_keys_itinerary gateway client phases hphases asked
  rw [List.Nodup, List.pairwise_map] at hkeys
  rw [List.Nodup, List.pairwise_filterMap]
  refine hkeys.imp ?_
  rintro stop stop' hne call hcall call' hcall' rfl
  have hkey := (keyOf?_eq hcall).symm.trans (keyOf?_eq hcall')
  exact hne (Option.some.inj hkey)

theorem nodup_phases (sensors : Bool) : (phases sensors).Nodup := by
  cases sensors with
  | true | false => decide

end Keys

section Requests

variable (client : Client)

/-- A client that can make a request at all makes one for every call. -/
theorem requestsAt_eq (call : Call) (hclient : ∃ request, call.request client = .ok request)
    (stops : List Stop) :
    (requestsAt client stops).map .ok = (stops.filterMap Stop.call?).map (Call.request client) := by
  induction stops with
  | nil => rfl
  | cons stop rest ih =>
    have hstop : (stop.requests client).map .ok =
        (stop.call?.map (Call.request client)).toList := by
      unfold Stop.requests
      cases stop.call? with
      | none => rfl
      | some call' =>
        obtain ⟨request, hrequest⟩ := request_ok_of_ok client call call' hclient
        simp only [requestOf, hrequest, Option.map_some]
        rfl
    unfold requestsAt at ih ⊢
    rw [List.flatMap_cons, List.map_append, ih, hstop, List.filterMap_cons]
    cases stop.call? with
    | none => rfl
    | some call' => rfl

/-- What is asked at the first stops are the requests of the first calls. -/
theorem requestsAt_isPrefix {visited stops : List Stop} (hvisited : visited <+: stops) :
    (requestsAt client visited).map .ok <+:
      (stops.filterMap Stop.call?).map (Call.request client) := by
  by_cases hclient : ∃ call request, Call.request client call = .ok request
  · obtain ⟨call, hrequest⟩ := hclient
    rw [requestsAt_eq client call hrequest]
    exact (hvisited.filterMap Stop.call?).map (Call.request client)
  · have hnone : requestsAt client visited = [] := by
      unfold requestsAt
      rw [List.flatMap_eq_nil_iff]
      intro stop _
      unfold Stop.requests
      cases stop.call? with
      | none => rfl
      | some call =>
        dsimp only
        unfold requestOf
        cases hrequest : call.request client with
        | error e => rfl
        | ok request => exact absurd ⟨call, request, hrequest⟩ hclient
    rw [hnone]
    exact List.nil_prefix

end Requests

end ZigbeeBridge.Bridge
