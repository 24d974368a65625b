import PersonGate.Client.Exchange
import PersonGate.Proofs.Http.Site
import PersonGate.Proofs.Service.Access
/-!
# A client and its service

A client sends the token that it holds, the service reads it, looks it up and judges it, and the
client tells the user how that went. Put together, what the user is told depends on the last grant
for the token alone, and the service counts the request unless it could not be sent
(`perform_exact`).
-/
namespace PersonGate
open Http

/-- The service after it has received some requests. -/
def Service.after (service : Service) (newId : Text) (requests : List SentRequest) : Service :=
  requests.foldl (fun s request => (s.handle newId (Endpoint.received request)).1) service

/-! ## The request gets to the service -/

section
variable {config : ClientConfig} {site : Site} (hbase : config.baseUrl = site.text)
  (hsite : Address.isTarget ⟨site.origin, ClientConfig.personPath, none⟩ = true)
include hbase hsite

/-- Below a site that can be asked, the person resource has its path and the site's origin. -/
theorem address?_request (token : BearerToken) (action : PersonAction) :
    (config.request token action).address? =
      some ⟨site.origin, ClientConfig.personPath, none⟩ := by
  have hparse : Address.parse? config.personUrl =
      some ⟨site.origin, ClientConfig.personPath, none⟩ := by
    rw [ClientConfig.personUrl, hbase]
    exact site.parse?_text (.inr ⟨_, rfl⟩) (by decide)
  exact Option.filter_eq_some_iff.2 ⟨hparse, hsite⟩

/-- The endpoint at a site gets every request whose token can stand in a header, and no other. -/
theorem receive_ofOrigin (endpoint : Endpoint) (instant : Nat) (token : BearerToken)
    (action : PersonAction) :
    (Endpoint.ofOrigin config.baseUrl endpoint).receive instant (config.request token action) =
      if token.secret.all isSendable then endpoint instant (config.request token action)
      else .refused := by
  have haddress := address?_request hbase hsite token action
  have horigin : (Address.parse? config.baseUrl).map Address.origin = some site.origin := by
    have hparse := site.parse?_text (.inl rfl) (by simp)
    rw [List.append_nil] at hparse
    rw [hbase, hparse, Option.map_some]
  have hsendable : (config.request token action).isSendable = token.secret.all isSendable := by
    rw [SentRequest.isSendable, haddress, ClientConfig.request, all_isSendable_authorization,
      Option.isSome_some, Bool.and_true]
  rw [Endpoint.receive, hsendable, Endpoint.ofOrigin, haddress, horigin]
  simp

theorem path_request (token : BearerToken) (action : PersonAction) :
    (Endpoint.received (config.request token action)).path = ClientConfig.personPath := by
  rw [Endpoint.received, SentRequest.path, address?_request hbase hsite]

/-- The service answers a request for an action by judging the token that it reads. -/
theorem response_request (table : AccessTable) (newId : Text) (token : BearerToken)
    (action : PersonAction) :
    Service.response table newId (Endpoint.received (config.request token action)) =
      Service.actionResponse table (bearerToken? token.authorization) action newId := by
  have hresource : Service.resource? ClientConfig.personPath = some .person := by decide
  have hmethod : PersonAction.ofMethod?
      (Endpoint.received (config.request token action)).method = some action :=
    PersonAction.ofMethod?_eq_some_iff.2 rfl
  rw [Service.response, path_request hbase hsite, hresource]
  simp only [hmethod]
  rfl

/-- A token that can stand in a header gets the answer of the service; with any other the request
stays at home. -/
theorem exchange_service (table : AccessTable) (instant : Nat) (token : BearerToken)
    (action : PersonAction) :
    (Endpoint.ofOrigin config.baseUrl (.service table)).exchange config instant token action =
      if token.secret.all isSendable then
        ⟨some (.ok (Service.actionResponse table (bearerToken? token.authorization) action
          []).status), [config.request token action]⟩
      else ⟨some (.error .broken), []⟩ := by
  simp only [Endpoint.exchange, receive_ofOrigin hbase hsite]
  by_cases hsend : token.secret.all isSendable = true
  · simp only [if_pos hsend, Endpoint.service, response_request hbase hsite, Reply.result]
  · simp only [if_neg hsend]

theorem isCounted_request (token : BearerToken) (action : PersonAction) :
    Service.isCounted (Endpoint.received (config.request token action)) = true := by
  rw [Service.isCounted, path_request hbase hsite]
  cases action <;> rfl

end

/-! ## What becomes of it -/

/-- The status of an answer says just whether the action was allowed. -/
theorem isSuccess_actionResponse (table : AccessTable) (token : Option Text)
    (action : PersonAction) (newId : Text) :
    isSuccess (Service.actionResponse table token action newId).status = true ↔
      table.judge token action = .allowed := by
  rw [Service.actionResponse]
  cases table.judge token action with
  | allowed => cases action <;> simp [Service.carriedOut, isSuccess]
  | unauthorized => simp [isSuccess]
  | forbidden => simp [isSuccess]

theorem all_isSendable_iff {t : Text} :
    t.all isSendable = true ↔ ¬∃ c ∈ t, c.toNat < 0x20 ∧ c ≠ '\t' ∨ c.toNat = 0x7F := by
  rw [List.all_eq_true]
  simp only [not_exists, not_and]
  refine forall_congr' fun c => imp_congr_right fun _ => ?_
  have htab : c = '\t' → c.toNat ≠ 0x7F := by
    rintro rfl
    decide
  rw [isSendable, Bool.or_eq_true, beq_iff_eq, Bool.and_eq_true, decide_eq_true_eq, bne_iff_ne]
  by_cases hc : c = '\t'
  · simp [hc]
  · simp only [hc, false_or, ne_eq, not_false_eq_true, and_true, not_or, Nat.not_lt]

/-- A judgement of the token as the service reads it. -/
theorem judge_authorization {token : BearerToken} {raw : Text}
    (h : BearerToken.ofText raw = .ok token) (grants : List Grant) (action : PersonAction) :
    (AccessTable.ofGrants grants).judge (bearerToken? token.authorization) action = .allowed ↔
      token.secret.all isReadable = true ∧ ∃ grant, Grant.LastFor grants token.secret grant ∧
        action.requiredRole.name.toList ∈ grant.roles := by
  rw [bearerToken?_authorization h]
  cases token.secret.all isReadable with
  | false => simp [AccessTable.judge]
  | true =>
    rw [if_pos rfl, AccessTable.judge_ofGrants]
    exact (and_iff_right rfl).symm

/-- **Client and service agree from end to end.** A client that holds the token of a text and asks
the service of some grants for an action tells the user of a success just when the service can read
the token and the last grant for it has the role; otherwise it tells of a failure. The service
counts the request unless a control character in the token kept it at home. -/
theorem perform_exact {config : ClientConfig} {site : Site} (hbase : config.baseUrl = site.text)
    (hsite : Address.isTarget ⟨site.origin, ClientConfig.personPath, none⟩ = true)
    (grants : List Grant) {raw : Text} (hraw : Text.trim raw ≠ []) (action : PersonAction)
    (call : TokenCall) :
    ∃ token exchange outcome, BearerToken.ofText raw = .ok token ∧
      (Endpoint.ofOrigin config.baseUrl (.service (.ofGrants grants))).perform config
        (.fixed token) call action = .ok exchange ∧
      exchange.outcome? = some outcome ∧
      (outcome = .succeeded ↔
        (∀ c ∈ Text.trim raw, c = '\t' ∨ 0x20 ≤ c.toNat ∧ c.toNat ≤ 0x7E) ∧
        ∃ grant, Grant.LastFor grants (Text.trim raw) grant ∧
          action.requiredRole.name.toList ∈ grant.roles) ∧
      ∀ (service : Service) (newId : Text),
        ((∃ c ∈ Text.trim raw, c.toNat < 0x20 ∧ c ≠ '\t' ∨ c.toNat = 0x7F) →
          (service.after newId exchange.arrived).count = service.count) ∧
        ((¬∃ c ∈ Text.trim raw, c.toNat < 0x20 ∧ c ≠ '\t' ∨ c.toNat = 0x7F) →
          (service.after newId exchange.arrived).count = service.count + 1) := by
  have htoken : BearerToken.ofText raw = .ok ⟨Text.trim raw⟩ :=
    BearerToken.ofText_eq_ok_iff.2 ⟨rfl, hraw⟩
  have hexchange := exchange_service hbase hsite (.ofGrants grants) call.instant ⟨Text.trim raw⟩
    action
  have hjudge := judge_authorization htoken grants action
  rw [← isSuccess_actionResponse _ _ _ [], all_isReadable_iff] at hjudge
  by_cases hsend : (Text.trim raw).all isSendable = true
  · rw [if_pos hsend] at hexchange
    have hcontrol := all_isSendable_iff.1 hsend
    refine ⟨_, _, _, htoken, congrArg Except.ok hexchange, rfl, ?_, fun service newId => ?_⟩
    · rw [← hjudge, Outcome.ofResult_eq_succeeded_iff]
      simp
    · refine ⟨fun h => absurd h hcontrol, fun _ => ?_⟩
      simp only [Service.after, List.foldl_cons, List.foldl_nil, Service.handle,
        isCounted_request hbase hsite, if_true]
  · rw [if_neg hsend] at hexchange
    have hcontrol := not_not.1 (mt all_isSendable_iff.2 hsend)
    refine ⟨_, _, _, htoken, congrArg Except.ok hexchange, rfl, ?_, fun service newId => ?_⟩
    · have hread : ¬∀ c ∈ Text.trim raw, c = '\t' ∨ 0x20 ≤ c.toNat ∧ c.toNat ≤ 0x7E := fun h =>
        hsend (List.all_eq_true.2 fun c hc =>
          isSendable_of_isReadable (List.all_eq_true.1 (all_isReadable_iff.2 h) c hc))
      exact ⟨fun h => absurd h (by decide), fun h => absurd h.1 hread⟩
    · exact ⟨fun _ => rfl, fun h => absurd hcontrol h⟩

/-- The site of a client's default address. -/
def standardSite : Site where
  secure := false
  authority := "localhost:9003".toList
  origin := ⟨false, "localhost".toList, 9003⟩
  plain := by decide
  names := by decide

/-- The second of two grants for a token is the one that lets a client in. -/
theorem perform_exact_standard :
    let first : Grant := ⟨['t'], [Role.user.name.toList]⟩
    let second : Grant := ⟨['t'], [Role.admin.name.toList]⟩
    let config := ClientConfig.standard
    config.baseUrl = standardSite.text ∧
    Address.isTarget ⟨standardSite.origin, ClientConfig.personPath, none⟩ = true ∧
    Text.trim [' ', 't'] ≠ [] ∧
    ∃ token exchange, BearerToken.ofText [' ', 't'] = .ok token ∧
      (Endpoint.ofOrigin config.baseUrl (.service (.ofGrants [first, second]))).perform config
        (.fixed token) ⟨0, 0, {}⟩ .create = .ok exchange ∧
      exchange.outcome? = some .succeeded ∧
      ((Service.ofGrants [first, second]).after [] exchange.arrived).count = 1 := by
  intro first second config
  have hbase : config.baseUrl = standardSite.text := by decide
  have hsite : Address.isTarget ⟨standardSite.origin, ClientConfig.personPath, none⟩ = true := by
    decide
  have htrim : Text.trim [' ', 't'] = ['t'] := by decide
  have hraw : Text.trim [' ', 't'] ≠ [] := by decide
  have hlast : Grant.LastFor [first, second] ['t'] second := ⟨[first], [], rfl, rfl, by simp⟩
  obtain ⟨token, exchange, outcome, htoken, hperform, houtcome, hiff, hcount⟩ :=
    perform_exact hbase hsite [first, second] hraw .create ⟨0, 0, {}⟩
  rw [htrim] at hiff
  have hsucceeded : outcome = .succeeded :=
    hiff.2 ⟨all_isReadable_iff.1 (by decide), second, hlast, List.mem_singleton_self _⟩
  refine ⟨hbase, hsite, hraw, token, exchange, htoken, hperform, hsucceeded ▸ houtcome, ?_⟩
  rw [htrim] at hcount
  exact (hcount _ _).2 (all_isSendable_iff.1 (by decide))

end PersonGate
