import ZigbeeBridge.Proofs.Gateway.Call
import ZigbeeBridge.Proofs.Url.Segment

/-!
Where the requests for a single light, group or sensor go. The id stands in the path as it is, so
the request is for that resource only if the id is plain.
-/
namespace ZigbeeBridge.Gateway

open Url

/-- A member of a collection, and what of it is meant if not all. -/
structure Item where
  collection : String
  id : String
  below : Option String
  deriving DecidableEq, Repr

/-- What a call is about. -/
def Call.item? : Call → Option Item
  | light id => some ⟨"lights", id, none⟩
  | setLight id _ => some ⟨"lights", id, some "state"⟩
  | group id => some ⟨"groups", id, none⟩
  | setGroup id _ => some ⟨"groups", id, some "action"⟩
  | sensorDetail id | sensor id => some ⟨"sensors", id, none⟩
  | about | lights | groups | sensors => none

def Item.place (token : String) (item : Item) : UrlPath :=
  .segments (["api", token, item.collection, segment item.id] ++ item.below.toList)

section Places

variable {call : Call} {item : Item} (hitem : call.item? = some item)

include hitem

theorem toList_path : call.path.toList =
    item.collection.toList ++ '/' :: (item.id.toList ++ belowText item.below) := by
  cases call with
  | about | lights | groups | sensors => cases hitem
  | light id | setLight id change | group id | setGroup id change | sensorDetail id | sensor id =>
    cases hitem
    simp [Call.path, belowText, toString]

theorem words_item : IsWord item.collection ∧ ∀ part, item.below = some part → IsWord part := by
  have hcollections : ∀ part ∈ ["lights", "groups", "sensors"], IsWord part := by decide
  have hbelow : ∀ part ∈ ["state", "action"], IsWord part := by decide
  cases call with
  | about | lights | groups | sensors => cases hitem
  | light id | group id | sensorDetail id | sensor id =>
    cases hitem
    exact ⟨hcollections _ (by simp), nofun⟩
  | setLight id change | setGroup id change =>
    cases hitem
    refine ⟨hcollections _ (by simp), ?_⟩
    rintro part hpart
    cases hpart
    exact hbelow _ (by simp)

def Item.text (token : String) (item : Item) : List Char :=
  "api".toList ++ '/' :: (token.toList ++ '/' ::
    (item.collection.toList ++ '/' :: (item.id.toList ++ belowText item.below)))

theorem url_item (client : Client) (hbase : Root client.base) :
    ∃ host, client.base.host = some host ∧ call.request client = .ok ⟨call.method,
      urlAt client.base.scheme host client.base.port (cleaned (item.text client.token)),
      call.body⟩ := by
  obtain ⟨host, hhost, hparse⟩ := hbase.parse_append (item.text client.token)
  have hplace : s!"{dropSlashesEnd client.base.text}/api/{client.token}/{call.path}" =
      String.ofList (stem client.base ++ '/' :: item.text client.token) := by
    rw [place_eq, hbase.stem_eq, toList_path hitem, String.toList_ofList]
    simp [pathStart, Item.text]
  have hhttp : Client.isHttp (urlAt client.base.scheme host client.base.port
      (cleaned (item.text client.token))) = true :=
    (isHttp_iff _).mpr hbase.scheme
  exact ⟨host, hhost, (request_eq_ok_iff client).mpr ⟨rfl, rfl, hplace ▸ hparse, hhttp⟩⟩

omit hitem in
theorem segments_item {token : String} (htoken : IsWord token)
    (hcollection : IsWord item.collection) :
    resolveDots false [] (pieces (item.text token)) =
      resolveDots false [item.collection, token, "api"]
        (pieces (item.id.toList ++ belowText item.below)) := by
  have hword : ∀ (part : String), IsWord part → ∀ (before : List String) (back : List Char),
      resolveDots false before (pieces (part.toList ++ '/' :: back)) =
        resolveDots false (part :: before) (pieces back) := by
    intro part hpart before back
    have hharmless : ∀ c ∈ part.toList, isHarmless c = true := fun c hc =>
      isHarmless_of_isAlphanum (hpart c hc)
    rw [pieces_harmless hharmless, resolveDots_plain hharmless hpart.ne_dots.1 hpart.ne_dots.2,
      segment_word hpart]
  rw [Item.text, hword "api" (by decide), hword token htoken, hword item.collection hcollection]

omit hitem in
theorem question_not_mem_text {token : String} (htoken : IsWord token)
    (hcollection : IsWord item.collection)
    (hbelow : ∀ part, item.below = some part → IsWord part) (hid : Plain item.id item.below) :
    '?' ∉ item.text token := by
  have hword : ∀ part : String, IsWord part → '?' ∉ part.toList := fun part hpart hmem =>
    absurd (hpart '?' hmem) (by decide)
  have hlast : '?' ∉ belowText item.below := by
    cases hpart : item.below with
    | none => simp [belowText]
    | some part => simp [belowText, hword part (hbelow part hpart)]
  have hmiddle : '?' ∉ item.id.toList := fun hmem =>
    absurd (hid.harmless '?' hmem) (by decide)
  simp [Item.text, hword token htoken, hword item.collection hcollection, hmiddle, hlast]

/-- The path is the place of the item if and only if the id is plain. -/
theorem path_item (client : Client) (hbase : Root client.base) (htoken : IsWord client.token)
    (host : Host) :
    (urlAt client.base.scheme host client.base.port (cleaned (item.text client.token))).path =
      item.place client.token ↔ Plain item.id item.below := by
  obtain ⟨hcollection, hbelow⟩ := words_item hitem
  rw [path_urlAt hbase.scheme, segments_item htoken hcollection, Item.place,
    UrlPath.segments.injEq]
  constructor
  · intro h
    exact plain_of_resolveDots hbelow [item.collection, client.token, "api"] h
  · intro h
    exact resolveDots_of_plain h hbelow _

end Places

/-- Behind a root the request for an item has its place as a path if and only if the id is plain. -/
theorem request_item (client : Client) (call : Call) (item : Item) (hbase : Root client.base)
    (htoken : IsWord client.token) (hitem : call.item? = some item) :
    ∃ request, call.request client = .ok request ∧ request.url.scheme = client.base.scheme ∧
      request.url.host = client.base.host ∧ request.url.port = client.base.port ∧
      ((request.url.path = item.place client.token ∧ request.url.query = none) ↔
        Plain item.id item.below) := by
  obtain ⟨hcollection, hbelow⟩ := words_item hitem
  obtain ⟨host, hhost, hrequest⟩ := url_item hitem client hbase
  have hpath := path_item hitem client hbase htoken host
  refine ⟨_, hrequest, rfl, hhost.symm, rfl, ?_⟩
  constructor
  · exact fun h => hpath.mp h.1
  · intro h
    exact ⟨hpath.mpr h,
      query_urlAt _ _ _ (question_not_mem_text htoken hcollection hbelow h)⟩

theorem place_injective (token : String) : Function.Injective (Item.place token) := by
  intro item item' h
  rw [Item.place, Item.place, UrlPath.segments.injEq] at h
  simp only [List.cons_append, List.nil_append, List.cons.injEq, true_and] at h
  obtain ⟨hcollection, hid, hbelow⟩ := h
  have hbelow' : item.below = item'.below := by
    cases hcase : item.below <;> cases hcase' : item'.below <;> simp_all
  cases item
  cases item'
  simp only [Item.mk.injEq]
  exact ⟨hcollection, segment_injective hid, hbelow'⟩

/-- Plain ids for which the same request is made are one id in one collection. -/
theorem item_eq_of_request_eq (client : Client) (call call' : Call) (item item' : Item)
    (hbase : Root client.base) (htoken : IsWord client.token) (hitem : call.item? = some item)
    (hitem' : call'.item? = some item') (hid : Plain item.id item.below)
    (hid' : Plain item'.id item'.below) (h : call.request client = call'.request client) :
    item = item' := by
  obtain ⟨host, -, hrequest⟩ := url_item hitem client hbase
  obtain ⟨host', -, hrequest'⟩ := url_item hitem' client hbase
  rw [hrequest, hrequest', Except.ok.injEq, Request.mk.injEq] at h
  apply place_injective client.token
  rw [← (path_item hitem client hbase htoken host).mpr hid,
    ← (path_item hitem' client hbase htoken host').mpr hid', h.2.1]

section Samples

theorem root_sampleClient : Root sampleClient.base :=
  ⟨Or.inl rfl, rfl, rfl, rfl, rfl, rfl, by rfl⟩

theorem request_item_sample :
    Root sampleClient.base ∧ IsWord sampleClient.token ∧
      Call.item? (.setLight "7" .off) = some ⟨"lights", "7", some "state"⟩ ∧
      ∃ request, Call.request sampleClient (.setLight "7" .off) = .ok request ∧
        request.url.path = .segments ["api", "T", "lights", "7", "state"] ∧
        request.url.query = none := by
  have htoken : IsWord sampleClient.token := by decide
  have hharmless := List.all_eq_true.mp (by decide : "7".toList.all isHarmless = true)
  have hplain : Plain "7" (some "state") := ⟨hharmless, by decide, by decide, nofun⟩
  obtain ⟨request, hrequest, -, -, -, hplace⟩ :=
    request_item sampleClient (.setLight "7" .off) _ root_sampleClient htoken rfl
  obtain ⟨hpath, hquery⟩ := hplace.mpr hplain
  refine ⟨root_sampleClient, htoken, rfl, request, hrequest, ?_, hquery⟩
  rw [hpath]
  rfl

/-- An id may lead to another collection, where it means what another id means. -/
theorem not_request_item :
    Call.request sampleClient (.light "../groups/1") = Call.request sampleClient (.group "1") ∧
      ¬∀ (client : Client) (call : Call) (item : Item), Root client.base → IsWord client.token →
        call.item? = some item → item.id ≠ "" →
          ∃ request, call.request client = .ok request ∧
            request.url.path = item.place client.token ∧ request.url.query = none := by
  have hsame : Call.request sampleClient (.light "../groups/1") =
      Call.request sampleClient (.group "1") := by decide +kernel
  have hgroup : (Call.request sampleClient (.group "1")).map (·.url.path) =
      .ok (.segments ["api", "T", "groups", "1"]) := by decide +kernel
  refine ⟨hsame, ?_⟩
  intro hall
  obtain ⟨request, hrequest, hpath, -⟩ := hall sampleClient (.light "../groups/1") _
    root_sampleClient (by decide) rfl (by decide)
  rw [← hsame, hrequest, Except.map, hpath] at hgroup
  simp [Item.place] at hgroup

end Samples

end ZigbeeBridge.Gateway
