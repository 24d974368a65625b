import PersonGate.Proofs.Http.Target
import PersonGate.Proofs.Service.Access
/-!
# Which answer a request gets

The service looks at the path, the method, the first `Authorization` header and the grants, in this
order. `Presents` says which header values carry which token, and `Decided` is the decision on a
request for an action: 401 without the token of a grant, 403 if the last grant for the token lacks
the role, and otherwise success. Everything else in a request is without effect. The headline is
`response_exact`.
-/
namespace PersonGate

namespace Http

/-- The value of the first `Authorization` header, in whatever case its name is written. -/
def RequestDraft.authorization? (draft : RequestDraft) : Option Text :=
  (draft.headers.find? fun header =>
    header.name.map Char.toLower == Request.authorizationName).map Header.value

/-- The target up to its query or fragment. -/
def RequestDraft.resource (draft : RequestDraft) : Text :=
  (Text.upTo Uri.endsPath draft.target).1

/-! ## What a draft becomes -/

namespace Request

theorem mapM_header? {drafts headers : List Header} (h : drafts.mapM header? = some headers) :
    headers = drafts.map fun header => { header with name := header.name.map Char.toLower } := by
  induction drafts generalizing headers with
  | nil => simpa using h.symm
  | cons header rest ih =>
    rw [List.mapM_cons] at h
    obtain ⟨first, hfirst, h⟩ := Option.bind_eq_some_iff.1 h
    obtain ⟨more, hmore, h⟩ := Option.bind_eq_some_iff.1 h
    obtain rfl : first :: more = headers := by simpa using h
    have hlower : first = { header with name := header.name.map Char.toLower } := by
      unfold header? at hfirst
      split at hfirst
      · exact (Option.some.inj hfirst).symm
      · cases hfirst
    rw [List.map_cons, hlower, ih hmore]

/-- The parts of a request come from the parts of its draft. -/
theorem of_ofDraft? {draft : RequestDraft} {request : Request} (h : ofDraft? draft = some request) :
    Uri.target? draft.resource = some request.path ∧ request.method = .ofName draft.method ∧
      request.headerValue? authorizationName = draft.authorization? := by
  unfold ofDraft? at h
  split at h
  · rename_i path headers hpath hheaders
    split at h
    · cases h
      refine ⟨Uri.target?_upTo hpath, rfl, ?_⟩
      rw [headerValue?, mapM_header? hheaders, List.find?_map, Option.map_map,
        RequestDraft.authorization?]
      rfl
    · cases h
  · cases h

end Request

/-- The methods that ask for actions are known by their names. -/
theorem Method.ofName_eq_iff (name : Text) (action : PersonAction) :
    ofName name = action.method ↔ name = action.method.name := by
  constructor
  · intro h
    unfold ofName at h
    cases hl : known.lookup name with
    | none => rw [hl] at h; cases action <;> cases h
    | some method =>
      rw [hl, Option.getD_some] at h
      rw [h] at hl
      obtain ⟨before, after, hknown, -⟩ := List.lookup_eq_some_iff.1 hl
      have hmem : (name, action.method) ∈ known := by rw [hknown]; simp
      cases action <;> simpa [known, PersonAction.method, Method.name] using hmem
  · rintro rfl
    cases action <;> rfl

theorem ofMethod?_ofName (name : Text) (action : PersonAction) :
    PersonAction.ofMethod? (Method.ofName name) = some action ↔ name = action.method.name :=
  PersonAction.ofMethod?_eq_some_iff.trans (Method.ofName_eq_iff name action)

end Http

open Http

/-! ## The token in a header -/

/-- A header value carries a token: all of it can be read, and it is the word `bearer` in any case, a
space, and the token with any blanks around it. -/
def Presents (value token : Text) : Prop :=
  (∀ c ∈ value, c = '\t' ∨ 0x20 ≤ c.toNat ∧ c.toNat ≤ 0x7E) ∧
  ∃ scheme rest, value = scheme ++ ' ' :: rest ∧ scheme.map Char.toLower = "bearer".toList ∧
    token = Text.trim rest ∧ token ≠ []

theorem bearerToken?_eq_some_iff {value token : Text} :
    bearerToken? value = some token ↔ Presents value token := by
  rw [Presents, ← all_isReadable_iff, bearerToken?, readable?]
  by_cases hread : value.all isReadable = true
  · rw [if_pos hread, and_iff_right hread]
    simp only [Option.bind_eq_bind, Option.bind_some, Option.bind_eq_some_iff, Prod.exists,
      Option.ite_none_right_eq_some, Option.some.injEq]
    constructor
    · rintro ⟨scheme, rest, hcut, ⟨hscheme, hne⟩, rfl⟩
      exact ⟨scheme, rest, (Text.cut?_eq_some_iff.1 hcut).2, hscheme, rfl, hne⟩
    · rintro ⟨scheme, rest, rfl, hscheme, rfl, hne⟩
      refine ⟨scheme, rest, Text.cut?_eq_some_iff.2 ⟨fun hspace => ?_, rfl⟩, ⟨hscheme, hne⟩, rfl⟩
      -- a space in the scheme would still be there in lower case
      have : Char.toLower ' ' ∈ "bearer".toList := hscheme ▸ List.mem_map_of_mem hspace
      exact absurd this (by decide)
  · rw [if_neg hread]
    simp [hread]

/-- The token that a request presents. -/
theorem requestToken?_eq_some_iff {draft : RequestDraft} {request : Request}
    (h : Request.ofDraft? draft = some request) {token : Text} :
    requestToken? request = some token ↔
      ∃ value, draft.authorization? = some value ∧ Presents value token := by
  rw [requestToken?, (Request.of_ofDraft? h).2.2]
  simp only [Option.bind_eq_bind, Option.bind_eq_some_iff, bearerToken?_eq_some_iff]

/-! ## The decision -/

namespace Service

/-- The status of an action that was carried out. -/
def successStatus (action : PersonAction) : Status := if action = .create then 201 else 200

/-- The answer to a request for an action whose first `Authorization` header has this value. -/
structure Decided (grants : List Grant) (header : Option Text) (action : PersonAction)
    (newId : Text) (answer : Response) : Prop where
  unauthorized_iff : answer.status = 401 ↔ ¬∃ value token, header = some value ∧
    Presents value token ∧ ∃ grant ∈ grants, grant.token = token
  forbidden_iff : answer.status = 403 ↔ ∃ value token grant, header = some value ∧
    Presents value token ∧ Grant.LastFor grants token grant ∧
    action.requiredRole.name.toList ∉ grant.roles
  success_iff : answer.status = successStatus action ↔ ∃ value token grant, header = some value ∧
    Presents value token ∧ Grant.LastFor grants token grant ∧
    action.requiredRole.name.toList ∈ grant.roles
  otherwise : answer.status = 401 ∨ answer.status = 403 ∨ answer.status = successStatus action
  /-- Only a new person has an identifier. -/
  body : answer.status = successStatus action →
    answer.body = reportBody (if action = .create then some newId else none) (report action)

/-- Different verdicts give different statuses. -/
theorem status_actionResponse (table : AccessTable) (token? : Option Text) (action : PersonAction)
    (newId : Text) :
    let status := (actionResponse table token? action newId).status
    (status = 401 ↔ table.judge token? action = .unauthorized) ∧
    (status = 403 ↔ table.judge token? action = .forbidden) ∧
    (status = successStatus action ↔ table.judge token? action = .allowed) := by
  have hdiffer : successStatus action ≠ 401 ∧ successStatus action ≠ 403 := by
    cases action <;> decide
  have hallowed : (carriedOut action newId).status = successStatus action := rfl
  intro status
  simp only [status, actionResponse]
  cases table.judge token? action with
  | unauthorized => simp [hdiffer.1.symm]
  | forbidden => simp [hdiffer.2.symm]
  | allowed => simp [hallowed, hdiffer]

theorem decided_actionResponse (grants : List Grant) {header token? : Option Text}
    (htoken : ∀ token, token? = some token ↔ ∃ value, header = some value ∧ Presents value token)
    (action : PersonAction) (newId : Text) :
    Decided grants header action newId (actionResponse (.ofGrants grants) token? action newId) := by
  obtain ⟨hunauthorized, hforbidden, hallowed⟩ :=
    status_actionResponse (.ofGrants grants) token? action newId
  have hgrant : ∀ p : Text → Grant → Prop, (∃ token grant, token? = some token ∧ p token grant) ↔
      ∃ value token grant, header = some value ∧ Presents value token ∧ p token grant := by
    intro p
    simp only [htoken]
    exact ⟨fun ⟨token, grant, ⟨value, hv, ht⟩, h⟩ => ⟨value, token, grant, hv, ht, h⟩,
      fun ⟨value, token, grant, hv, ht, h⟩ => ⟨token, grant, ⟨value, hv, ht⟩, h⟩⟩
  constructor
  case unauthorized_iff =>
    rw [hunauthorized, AccessTable.judge_eq_unauthorized_iff]
    have := hgrant fun token grant => grant ∈ grants ∧ grant.token = token
    simpa only [exists_and_left] using not_congr this
  case forbidden_iff =>
    rw [hforbidden, AccessTable.judge_eq_iff grants action (p := fun grant =>
      action.requiredRole.name.toList ∉ grant.roles) (fun grant => by simp) (by decide)]
    exact hgrant _
  case success_iff =>
    rw [hallowed, AccessTable.judge_eq_iff grants action (p := fun grant =>
      action.requiredRole.name.toList ∈ grant.roles) (fun grant => by simp) (by decide)]
    exact hgrant _
  case otherwise =>
    rw [hunauthorized, hforbidden, hallowed]
    cases (AccessTable.ofGrants grants).judge token? action <;> simp
  case body =>
    intro h
    rw [actionResponse, hallowed.1 h]
    rfl

/-! ## Whole requests -/

/-- The answer of a service with these grants that was asked some number of times before. -/
def answer (grants : List Grant) (count : UInt64) (newId : Text) (request : Request) : Response :=
  ((⟨.ofGrants grants, count⟩ : Service).handle newId request).2

section
variable {grants : List Grant} {count : UInt64} {newId : Text} {draft : RequestDraft}
  {request : Request} (hdraft : Request.ofDraft? draft = some request)
include hdraft

/-- A request for an action is decided by its first `Authorization` header. -/
theorem decided_answer (hpath : request.path = "/person".toList) {action : PersonAction}
    (hmethod : draft.method = action.method.name) :
    Decided grants draft.authorization? action newId (answer grants count newId request) := by
  have hresource : resource? request.path = some .person := by
    rw [hpath]
    decide
  have haction : PersonAction.ofMethod? request.method = some action := by
    rw [(Request.of_ofDraft? hdraft).2.1, ofMethod?_ofName, hmethod]
  rw [answer, handle_response, response, hresource]
  simp only [haction]
  exact decided_actionResponse grants (fun token => requestToken?_eq_some_iff hdraft) action newId

theorem answer_other_method (hpath : request.path = "/person".toList)
    (hmethod : ∀ action : PersonAction, draft.method ≠ action.method.name) :
    answer grants count newId request = notAllowed .person := by
  have hresource : resource? request.path = some .person := by
    rw [hpath]
    decide
  have haction : PersonAction.ofMethod? request.method = none := by
    refine Option.eq_none_iff_forall_ne_some.2 fun action h => hmethod action ?_
    rwa [(Request.of_ofDraft? hdraft).2.1, ofMethod?_ofName] at h
  rw [answer, handle_response, response, hresource]
  simp only [haction]

theorem status_health (hpath : request.path = "/healthz".toList)
    (hmethod : draft.method = "GET".toList ∨ draft.method = "HEAD".toList) :
    (answer grants count newId request).status = 200 := by
  have hresource : resource? request.path = some .health := by
    rw [hpath]
    decide
  rw [answer, handle_response, response, hresource, (Request.of_ofDraft? hdraft).2.1]
  rcases hmethod with h | h <;> rw [h] <;> rfl

/-- A success takes a grant with the role, and its token in the header. -/
theorem grant_of_isSuccess (hpath : request.path = "/person".toList)
    (hsuccess : isSuccess (answer grants count newId request).status = true) :
    ∃ (action : PersonAction) (grant : Grant) (value : Text), draft.method = action.method.name ∧
      grant ∈ grants ∧ draft.authorization? = some value ∧ Presents value grant.token ∧
      action.requiredRole.name.toList ∈ grant.roles := by
  by_cases haction : ∃ action : PersonAction, draft.method = action.method.name
  · obtain ⟨action, hmethod⟩ := haction
    have hdecided : Decided grants draft.authorization? action newId
      (answer grants count newId request) := decided_answer hdraft hpath hmethod
    have hstatus : (answer grants count newId request).status = successStatus action := by
      rcases hdecided.otherwise with h | h | h
      · rw [h] at hsuccess; cases hsuccess
      · rw [h] at hsuccess; cases hsuccess
      · exact h
    obtain ⟨value, token, grant, hvalue, hpresents, hlast, hrole⟩ := hdecided.success_iff.1 hstatus
    exact ⟨action, grant, value, hmethod, hlast.mem.1, hvalue, hlast.mem.2 ▸ hpresents, hrole⟩
  · rw [answer_other_method hdraft hpath fun action hmethod => haction ⟨action, hmethod⟩] at hsuccess
    cases hsuccess

/-- Nothing but the method, the target up to its query and the first `Authorization` header has a
part in the answer. -/
theorem answer_congr {other : RequestDraft} {otherRequest : Request} {otherCount : UInt64}
    (hother : Request.ofDraft? other = some otherRequest) (hmethod : other.method = draft.method)
    (hresource : other.resource = draft.resource)
    (hheader : other.authorization? = draft.authorization?) :
    answer grants otherCount newId otherRequest = answer grants count newId request := by
  obtain ⟨hpath, hname, hvalue⟩ := Request.of_ofDraft? hdraft
  obtain ⟨hpath', hname', hvalue'⟩ := Request.of_ofDraft? hother
  have hsame : otherRequest.path = request.path := by
    rw [hresource, hpath] at hpath'
    exact (Option.some.inj hpath').symm
  have htoken : requestToken? otherRequest = requestToken? request := by
    rw [requestToken?, requestToken?, hvalue', hvalue, hheader]
  rw [answer, answer, handle_response, handle_response, response, response, hsame, hname', hname,
    hmethod, htoken]
end

theorem answer_elsewhere (grants : List Grant) (count : UInt64) (newId : Text) {request : Request}
    (hperson : request.path ≠ "/person".toList) (hhealth : request.path ≠ "/healthz".toList) :
    answer grants count newId request = notFound := by
  have hnone : resource? request.path = none := by
    rw [resource?, List.find?_eq_none]
    intro resource _
    cases resource with
    | health => simpa [Resource.path] using Ne.symm hhealth
    | person => simpa [Resource.path] using Ne.symm hperson
  rw [answer, handle_response, response, hnone]

/-- **Authorization is exact.** At `/person`, a request for an action is decided by the grants and
the first `Authorization` header, and any other method is not allowed; the health check is open, and
there is nothing else. A success at `/person` takes a grant with the role, and two requests with the
same method, the same target up to the query and the same first `Authorization` header get the same
answer, however often the service was asked before. -/
theorem response_exact (grants : List Grant) (count : UInt64) (newId : Text)
    {draft : RequestDraft} {request : Request} (hdraft : Request.ofDraft? draft = some request) :
    let response := answer grants count newId request
    (request.path = "/person".toList → ∀ action : PersonAction, draft.method = action.method.name →
      Decided grants draft.authorization? action newId response) ∧
    (request.path = "/person".toList →
      (∀ action : PersonAction, draft.method ≠ action.method.name) → response.status = 405) ∧
    (request.path ≠ "/person".toList → request.path ≠ "/healthz".toList →
      response.status = 404) ∧
    (request.path = "/healthz".toList →
      draft.method = "GET".toList ∨ draft.method = "HEAD".toList → response.status = 200) ∧
    (request.path = "/person".toList → isSuccess response.status = true →
      ∃ (action : PersonAction) (grant : Grant) (value : Text),
        draft.method = action.method.name ∧ grant ∈ grants ∧ draft.authorization? = some value ∧
        Presents value grant.token ∧ action.requiredRole.name.toList ∈ grant.roles) ∧
    ∀ (other : RequestDraft) (otherRequest : Request) (otherCount : UInt64),
      Request.ofDraft? other = some otherRequest → other.method = draft.method →
      other.resource = draft.resource → other.authorization? = draft.authorization? →
      answer grants otherCount newId otherRequest = response := by
  intro response
  refine ⟨fun hpath action hmethod => decided_answer hdraft hpath hmethod, ?_, ?_,
    status_health hdraft, grant_of_isSuccess hdraft,
    fun other otherRequest otherCount => answer_congr hdraft⟩
  · intro hpath hmethod
    have hresponse : response = notAllowed .person := answer_other_method hdraft hpath hmethod
    rw [hresponse]
    rfl
  · intro hperson hhealth
    have hresponse : response = notFound := answer_elsewhere grants count newId hperson hhealth
    rw [hresponse]
    rfl

/-- A request with a query, an odd spelling of the scheme, blanks around the token and a second
`Authorization` header is let in by the second of two grants for its token. -/
theorem response_exact_second_grant :
    let grants : List Grant :=
      [⟨['t'], [Role.user.name.toList]⟩, ⟨['t'], [Role.admin.name.toList]⟩]
    let draft : RequestDraft := {
      method := "POST".toList
      target := "/person?role=none".toList
      headers := [⟨"Accept".toList, "*".toList⟩, ⟨"AUTHORIZATION".toList, "bEARER  t ".toList⟩,
        ⟨"authorization".toList, "Bearer other".toList⟩] }
    let value := "bEARER  t ".toList
    ∃ request, Request.ofDraft? draft = some request ∧ request.path = "/person".toList ∧
      draft.method = PersonAction.create.method.name ∧ draft.authorization? = some value ∧
      Presents value ['t'] ∧ (answer grants 7 [] request).status = 201 := by
  intro grants draft value
  obtain ⟨request, hdraft⟩ : ∃ request, Request.ofDraft? draft = some request :=
    Option.isSome_iff_exists.1 (by decide)
  have hpath : request.path = "/person".toList := by
    have := (Request.of_ofDraft? hdraft).1
    rw [show Uri.target? draft.resource = some "/person".toList by decide] at this
    exact (Option.some.inj this).symm
  have hpresents : Presents value ['t'] := bearerToken?_eq_some_iff.1 (by decide)
  have hlast : Grant.LastFor grants ['t'] ⟨['t'], [Role.admin.name.toList]⟩ :=
    ⟨[⟨['t'], [Role.user.name.toList]⟩], [], rfl, rfl, by simp⟩
  have hdecided := (response_exact grants 7 [] hdraft).1 hpath .create rfl
  refine ⟨request, hdraft, hpath, rfl, rfl, hpresents, ?_⟩
  exact hdecided.success_iff.2 ⟨value, ['t'], _, rfl, hpresents, hlast, List.mem_singleton_self _⟩

end Service

end PersonGate
