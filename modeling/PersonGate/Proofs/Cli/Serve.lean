import PersonGate.Cli.Run
import PersonGate.Proofs.Config.Settings
import PersonGate.Proofs.Service.Memory
/-!
# The service that is started

The service runs unless a setting is bad or its port is taken, and the first of these is what is
reported (`Starts`). Once it runs it `Enforces` exactly the grants that it was given. Without any it
has made up two tokens, and no grant but theirs: nobody gets in without one of them, and nobody at
all may do what takes a role that neither has (`MadeUp`). The headline is `serve_exact`.
-/
namespace PersonGate

namespace Service
open Http

/-- The service answers by these grants, whatever it was asked before. -/
structure Enforces (grants : List Grant) (service : Service) : Prop where
  decided : ∀ (visits : List Visit) (newId : Text) (draft : RequestDraft) (request : Request),
    Request.ofDraft? draft = some request → request.path = "/person".toList →
    ∀ action : PersonAction, draft.method = action.method.name →
      Decided grants draft.authorization? action newId
        ((service.serve visits).1.handle newId request).2
  /-- Where no action is asked for, grants have no part. -/
  otherwise : ∀ (visits : List Visit) (newId : Text) (request : Request),
    ¬AsksForAction request →
      ((service.serve visits).1.handle newId request).2 = response {} newId request

/-- The service has the two grants that it has made up, and no other. -/
structure MadeUp (adminBytes userBytes : List UInt8) (service : Service) : Prop where
  eq : service = .ofGrants (demoGrants adminBytes userBytes)
  enforces : Enforces (demoGrants adminBytes userBytes) service
  nonempty : service.table.entries ≠ []
  /-- An administrator is a user too. -/
  roles : ∀ token, service.table.roles? token =
    if token = demoToken userBytes then some [Role.user.name.toList]
    else if token = demoToken adminBytes then
      some [Role.admin.name.toList, Role.user.name.toList]
    else none
  unauthorized_iff : ∀ (visits : List Visit) (newId : Text) (draft : RequestDraft)
    (request : Request), Request.ofDraft? draft = some request → request.path = "/person".toList →
    ∀ action : PersonAction, draft.method = action.method.name →
      (((service.serve visits).1.handle newId request).2.status = 401 ↔
        ∀ value, draft.authorization? = some value →
          ¬Presents value (demoToken adminBytes) ∧ ¬Presents value (demoToken userBytes))
  /-- What takes a role that neither has is never done. -/
  restricted : ∀ (visits : List Visit) (newId : Text) (request : Request),
    request.method = .patch →
      isSuccess ((service.serve visits).1.handle newId request).2.status = false

/-! ## Services with given grants -/

theorem handle_serve (grants : List Grant) (visits : List Visit) (newId : Text)
    (request : Request) :
    (((ofGrants grants).serve visits).1.handle newId request).2 =
      response (.ofGrants grants) newId request := by
  rw [handle_response, table_serve]
  rfl

/-- A request that asks for no action is answered without a look at the table. -/
theorem response_of_not_asksForAction {request : Request} (h : ¬AsksForAction request)
    (table : AccessTable) (newId : Text) :
    response table newId request = response {} newId request := by
  unfold response
  split
  · rfl
  · rfl
  · rename_i hresource
    have hpath := resource?_eq_some_iff.1 hresource
    split
    · rename_i action haction
      exact absurd ⟨hpath, exists_ofMethod?_iff.1 ⟨action, haction⟩⟩ h
    · rfl

theorem enforces_ofGrants (grants : List Grant) : Enforces grants (.ofGrants grants) where
  decided := by
    intro visits newId draft request hdraft hpath action hmethod
    rw [handle_serve]
    have hdecided : Decided grants draft.authorization? action newId
      (answer grants 0 newId request) := decided_answer hdraft hpath hmethod
    exact hdecided
  otherwise := by
    intro visits newId request hother
    rw [handle_serve]
    exact response_of_not_asksForAction hother _ newId

/-- Without a grant for the role that an action takes, a request for it has no success. -/
theorem isSuccess_response_of_lacks {grants : List Grant} {action : PersonAction}
    (hlacks : ∀ grant ∈ grants, action.requiredRole.name.toList ∉ grant.roles) {request : Request}
    (hmethod : request.method = action.method) (newId : Text) :
    isSuccess (response (.ofGrants grants) newId request).status = false := by
  have hnot : ∀ resource, isSuccess (notAllowed resource).status = false := fun _ => rfl
  unfold response
  split
  · rfl
  · rw [hmethod]
    cases action <;> exact hnot .health
  · rw [PersonAction.ofMethod?_eq_some_iff.2 hmethod]
    simp only [actionResponse]
    split
    · rfl
    · rfl
    · rename_i hallowed
      cases htoken : requestToken? request with
      | none =>
        rw [htoken] at hallowed
        cases hallowed
      | some token =>
        rw [htoken, AccessTable.judge_ofGrants] at hallowed
        obtain ⟨grant, hlast, hrole⟩ := hallowed
        exact absurd hrole (hlacks grant hlast.mem.1)

/-! ## A service that made up its tokens -/

theorem mem_demoGrants_iff {adminBytes userBytes : List UInt8} {grant : Grant} :
    grant ∈ demoGrants adminBytes userBytes ↔
      grant = ⟨demoToken adminBytes, [Role.admin.name.toList, Role.user.name.toList]⟩ ∨
      grant = ⟨demoToken userBytes, [Role.user.name.toList]⟩ := by
  simp [demoGrants]

theorem roles?_demoGrants (adminBytes userBytes : List UInt8) (token : Text) :
    (AccessTable.ofGrants (demoGrants adminBytes userBytes)).roles? token =
      if token = demoToken userBytes then some [Role.user.name.toList]
      else if token = demoToken adminBytes then
        some [Role.admin.name.toList, Role.user.name.toList]
      else none := by
  have huser : [Role.user.name.toList].eraseDups = [Role.user.name.toList] := by decide
  have hadmin : [Role.admin.name.toList, Role.user.name.toList].eraseDups =
      [Role.admin.name.toList, Role.user.name.toList] := by decide
  have htable : AccessTable.ofGrants (demoGrants adminBytes userBytes) =
      (({} : AccessTable).insert ⟨demoToken adminBytes, _⟩).insert ⟨demoToken userBytes, _⟩ := rfl
  rw [htable, AccessTable.roles?_insert, AccessTable.roles?_insert, huser, hadmin]
  simp only [eq_comm (a := token)]
  rfl

theorem madeUp_ofGrants (adminBytes userBytes : List UInt8) :
    MadeUp adminBytes userBytes (.ofGrants (demoGrants adminBytes userBytes)) where
  eq := rfl
  enforces := enforces_ofGrants _
  nonempty := List.cons_ne_nil _ _
  roles := roles?_demoGrants adminBytes userBytes
  unauthorized_iff := by
    intro visits newId draft request hdraft hpath action hmethod
    have hdecided : Decided (demoGrants adminBytes userBytes) draft.authorization? action newId _ :=
      (enforces_ofGrants _).decided visits newId draft request hdraft hpath action hmethod
    rw [hdecided.unauthorized_iff]
    constructor
    · intro hnone value hvalue
      constructor
      · intro hpresents
        exact hnone ⟨value, _, hvalue, hpresents, _, mem_demoGrants_iff.2 (.inl rfl), rfl⟩
      · intro hpresents
        exact hnone ⟨value, _, hvalue, hpresents, _, mem_demoGrants_iff.2 (.inr rfl), rfl⟩
    · rintro hneither ⟨value, token, hvalue, hpresents, grant, hmem, rfl⟩
      obtain ⟨hadmin, huser⟩ := hneither value hvalue
      rcases mem_demoGrants_iff.1 hmem with rfl | rfl
      · exact hadmin hpresents
      · exact huser hpresents
  restricted := by
    intro visits newId request hmethod
    rw [handle_serve]
    have hlacks : ∀ grant ∈ demoGrants adminBytes userBytes,
        PersonAction.restricted.requiredRole.name.toList ∉ grant.roles := by
      intro grant hmem
      have hadmin : PersonAction.restricted.requiredRole.name.toList ∉
          [Role.admin.name.toList, Role.user.name.toList] := by decide
      have huser : PersonAction.restricted.requiredRole.name.toList ∉
          [Role.user.name.toList] := by decide
      rcases mem_demoGrants_iff.1 hmem with rfl | rfl
      · exact hadmin
      · exact huser
    exact isSuccess_response_of_lacks hlacks hmethod newId

end Service

/-! ## The command -/

namespace Cli
open Text ServiceConfig

/-- How the command that starts the service ends. The settings are read before the port is opened,
and a service that was given no grants makes up its own. -/
inductive Starts (surroundings : Surroundings) : Ending → Prop
  | misconfigured {cause : ConfigError}
    (hreads : Reads surroundings.environment.var? (.error cause)) :
    Starts surroundings (.failed (.config cause))
  | taken {config : ServiceConfig} {reason : Text}
    (hreads : Reads surroundings.environment.var? (.ok config))
    (htaken : surroundings.ports config.port = some reason) :
    Starts surroundings (.failed (.service (.listener reason)))
  | given {config : ServiceConfig} (hreads : Reads surroundings.environment.var? (.ok config))
    (hfree : surroundings.ports config.port = none) (hgiven : config.grants ≠ []) :
    Starts surroundings (.serving (.ofGrants config.grants))
  | madeUp {config : ServiceConfig} (hreads : Reads surroundings.environment.var? (.ok config))
    (hfree : surroundings.ports config.port = none) (hnone : config.grants = []) :
    Starts surroundings (.serving (.ofGrants
      (Service.demoGrants surroundings.adminBytes surroundings.userBytes)))

theorem ending_runService_iff {surroundings : Surroundings} {ending : Ending} :
    (Invocation.runService surroundings).ending = ending ↔ Starts surroundings ending := by
  constructor
  · rintro rfl
    unfold Invocation.runService
    split
    · rename_i cause hconfig
      exact .misconfigured (ofLookup_eq_iff.1 hconfig)
    · rename_i config hconfig
      have hreads := ofLookup_eq_iff.1 hconfig
      unfold Service.launch Service.effectiveGrants
      cases hport : surroundings.ports config.port with
      | some reason => exact .taken hreads hport
      | none =>
        by_cases hgrants : config.grants = []
        · rw [if_pos hgrants]
          exact .madeUp hreads hport hgrants
        · rw [if_neg hgrants]
          exact .given hreads hport hgrants
  · intro h
    cases h with
    | misconfigured hreads =>
      rw [Invocation.runService, ofEnvironment, ofLookup_eq_iff.2 hreads]
    | taken hreads htaken =>
      rw [Invocation.runService, ofEnvironment, ofLookup_eq_iff.2 hreads]
      simp only [Service.launch, htaken]
    | given hreads hfree hgiven =>
      rw [Invocation.runService, ofEnvironment, ofLookup_eq_iff.2 hreads]
      simp only [Service.launch, hfree, Service.effectiveGrants, if_neg hgiven]
    | madeUp hreads hfree hnone =>
      rw [Invocation.runService, ofEnvironment, ofLookup_eq_iff.2 hreads]
      simp only [Service.launch, hfree, Service.effectiveGrants, if_pos hnone]

/-- The service does not run just if a setting is bad or its port is taken. -/
theorem exists_starts_failed_iff {surroundings : Surroundings} :
    (∃ cause, Starts surroundings (.failed cause)) ↔
      (∃ raw, surroundings.environment.var? portKey.toList = some raw ∧
        ∀ port : Fin 65536, ¬WritesNumber port raw) ∨
      (∃ raw, surroundings.environment.var? Grant.settingKey.toList = some raw ∧
        ∃ entry ∈ split ',' raw, Grant.Malformed entry) ∨
      ∃ port reason, GivesPort (surroundings.environment.var? portKey.toList) port ∧
        surroundings.ports port = some reason := by
  constructor
  · rintro ⟨cause, h⟩
    cases h with
    | misconfigured hreads =>
      cases hreads with
      | badPort hset hbad => exact .inl ⟨_, hset, hbad⟩
      | badGrants hport hset hbad =>
        exact .inr (.inl ⟨_, hset, Grant.exists_firstMalformed_iff.1 ⟨_, hbad⟩⟩)
    | taken hreads htaken =>
      cases hreads with
      | good hport hgrants => exact .inr (.inr ⟨_, _, hport, htaken⟩)
  · intro h
    have hreads : Reads surroundings.environment.var?
      (ofLookup surroundings.environment.var?) := ofLookup_eq_iff.1 rfl
    generalize ofLookup surroundings.environment.var? = result at hreads
    -- a bad setting that was read first is reported whatever else is wrong
    cases hreads with
    | badPort hset hbad => exact ⟨_, .misconfigured (.badPort hset hbad)⟩
    | badGrants hport hset hbad => exact ⟨_, .misconfigured (.badGrants hport hset hbad)⟩
    | @good port hport grants hgrants =>
      rcases h with ⟨raw, hset, hbad⟩ | ⟨raw, hset, hbad⟩ | ⟨other, reason, hother, htaken⟩
      · rw [hset] at hport
        exact absurd hport (hbad port)
      · obtain ⟨entry, hfirst⟩ := Grant.exists_firstMalformed_iff.2 hbad
        rw [hset, GivesGrants, Grant.parse_eq_error_iff.2 ⟨entry, hfirst, rfl⟩] at hgrants
        cases hgrants
      · obtain rfl : other = port := by
          rw [← readPort_eq_ok_iff] at hport hother
          exact Except.ok.inj (hother.symm.trans hport)
        exact ⟨_, .taken (.good hport hgrants) htaken⟩

namespace Invocation

/-- **The service runs as it is configured.** It does not start just if its port is set and is no
number below 65536, or its grants are set with a malformed entry, or its port is taken; `Starts`
says which of these is reported. If grants are given they are enforced, those and no others. If the
setting is missing or writes none then the service has made up two tokens: it is never without a
grant, it knows nobody who has neither token, and it never does what takes more than their roles. -/
theorem serve_exact (invocation : Invocation) (surroundings : Surroundings) :
    let ending := (run { invocation with command := .serve } surroundings).ending
    let port? := surroundings.environment.var? portKey.toList
    let grants? := surroundings.environment.var? Grant.settingKey.toList
    (∀ result, ending = result ↔ Starts surroundings result) ∧
    ((∃ cause, ending = .failed cause) ↔
      (∃ raw, port? = some raw ∧ ∀ port : Fin 65536, ¬WritesNumber port raw) ∨
      (∃ raw, grants? = some raw ∧ ∃ entry ∈ split ',' raw, Grant.Malformed entry) ∨
      ∃ port reason, GivesPort port? port ∧ surroundings.ports port = some reason) ∧
    (∀ raw grants service, grants? = some raw → Grant.parse raw = .ok grants → grants ≠ [] →
      ending = .serving service → service = .ofGrants grants ∧ Service.Enforces grants service) ∧
    ∀ service, (grants? = none ∨
        ∃ raw, grants? = some raw ∧ ∀ entry ∈ split ',' raw, Blank entry) →
      ending = .serving service →
      Service.MadeUp surroundings.adminBytes surroundings.userBytes service := by
  intro ending port? grants?
  have hending : ∀ {result}, ending = result ↔ Starts surroundings result := ending_runService_iff
  refine ⟨fun result => hending, ?_, ?_, ?_⟩
  · simp only [hending]
    exact exists_starts_failed_iff
  · intro raw grants service hset hparse hne hserving
    have hgives : ∀ {given}, GivesGrants grants? given → given = grants := by
      intro given hgiven
      rw [hset, GivesGrants, hparse] at hgiven
      exact (Except.ok.inj hgiven).symm
    cases hending.1 hserving with
    | given hreads hfree hgiven =>
      cases hreads with
      | good hport hgrants =>
        obtain rfl := hgives hgrants
        exact ⟨rfl, Service.enforces_ofGrants _⟩
    | madeUp hreads hfree hnone =>
      cases hreads with
      | good hport hgrants => exact absurd ((hgives hgrants).symm.trans hnone) hne
  · intro service hunset hserving
    have hgives : ∀ {given}, GivesGrants grants? given → given = [] := by
      intro given hgiven
      rcases hunset with hnone | ⟨raw, hset, hblank⟩
      · rw [hnone] at hgiven
        exact hgiven
      · rw [hset, GivesGrants, Grant.parse_eq_ok_nil_iff.2 hblank] at hgiven
        exact (Except.ok.inj hgiven).symm
    cases hending.1 hserving with
    | given hreads hfree hgiven =>
      cases hreads with
      | good hport hgrants => exact absurd (hgives hgrants) hgiven
    | madeUp hreads hfree hnone => exact Service.madeUp_ofGrants _ _

/-- One grant in a list with a blank entry is enforced; of blank entries alone two tokens are made
up. The port is 80, oddly written. -/
theorem serve_exact_configured :
    let invocation := Invocation.ofGiven {} .serve
    let environment (grants : Text) : Environment := ⟨[
      (portKey.toList, OsText.ofText " +080 ".toList),
      (Grant.settingKey.toList, OsText.ofText grants)]⟩
    let surroundings (grants : Text) : Surroundings :=
      ⟨environment grants, .replying (.status 201), fun _ => none, [1], [2]⟩
    let ending (grants : Text) := (invocation.run (surroundings grants)).ending
    (∃ service, ending " t = person-user ,".toList = .serving service ∧
      Service.Enforces [⟨['t'], [Role.user.name.toList]⟩] service) ∧
    ∃ service, ending " , ".toList = .serving service ∧ Service.MadeUp [1] [2] service := by
  intro invocation environment surroundings ending
  constructor
  · refine ⟨.ofGrants [⟨['t'], [Role.user.name.toList]⟩], by decide, ?_⟩
    obtain ⟨-, -, hgiven, -⟩ := serve_exact invocation (surroundings " t = person-user ,".toList)
    exact (hgiven " t = person-user ,".toList _ _ (by decide) (by decide) (by decide)
      (by decide)).2
  · refine ⟨.ofGrants (Service.demoGrants [1] [2]), by decide, ?_⟩
    obtain ⟨-, -, -, hmadeUp⟩ := serve_exact invocation (surroundings " , ".toList)
    have hblank : ∀ entry ∈ split ',' " , ".toList, Blank entry :=
      Grant.parse_eq_ok_nil_iff.1 (by decide)
    exact hmadeUp _ (.inr ⟨" , ".toList, by decide, hblank⟩) (by decide)

end Invocation

end Cli
end PersonGate
