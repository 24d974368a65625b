import PersonGate.Proofs.Service.Decision
import PersonGate.Service.Identifier
/-!
# What a service remembers

A service that answers requests in a row keeps its table and changes nothing but its counter
(`table_serve`, `count_serve`). So each answer is the one that a service without a past gives, but
for the identifier of a new person, which is drawn at random (`responses_serve`); `hideId` puts a
mark in its place. Which requests are counted depends on path and method alone (`isCounted_iff`),
not on the answer, and the order of the requests does not matter. The headline is
`serve_memoryless`.
-/
namespace PersonGate
namespace Service
open Http

/-- A request that comes in, and the random bytes for the identifier that it may need. -/
structure Visit where
  random : List UInt8
  request : Request

/-- The service after visits in a row, and the answers to them. -/
def serve (service : Service) : List Visit → Service × List Response
  | [] => (service, [])
  | visit :: rest =>
    let (next, answer) := service.handle (identifier visit.random) visit.request
    let (last, answers) := next.serve rest
    (last, answer :: answers)

/-! ## Which requests are counted -/

/-- The request asks for one of the three actions. -/
def AsksForAction (request : Request) : Prop :=
  request.path = "/person".toList ∧
    (request.method = .post ∨ request.method = .put ∨ request.method = .patch)

instance (request : Request) : Decidable (AsksForAction request) :=
  inferInstanceAs (Decidable (_ ∧ _))

theorem resource?_eq_some_iff {path : Text} {resource : Resource} :
    resource? path = some resource ↔ path = resource.path := by
  constructor
  · intro h
    rw [resource?] at h
    have := List.find?_some h
    exact (beq_iff_eq.1 this).symm
  · rintro rfl
    cases resource <;> decide

theorem exists_ofMethod?_iff {method : Method} :
    (∃ action, PersonAction.ofMethod? method = some action) ↔
      method = .post ∨ method = .put ∨ method = .patch := by
  cases method <;> simp [PersonAction.ofMethod?]

theorem isCounted_iff {request : Request} : isCounted request = true ↔ AsksForAction request := by
  rw [isCounted, Bool.and_eq_true, beq_iff_eq, resource?_eq_some_iff, Option.isSome_iff_exists,
    exists_ofMethod?_iff, AsksForAction]
  rfl

/-- Whoever asks for an action is served, refused or not known. -/
theorem status_of_asksForAction {request : Request} (h : AsksForAction request)
    (table : AccessTable) (newId : Text) :
    let status := (response table newId request).status
    isSuccess status = true ∨ status = 401 ∨ status = 403 := by
  obtain ⟨hpath, hmethod⟩ := h
  obtain ⟨action, haction⟩ := exists_ofMethod?_iff.2 hmethod
  have hresponse : response table newId request =
      actionResponse table (requestToken? request) action newId := by
    rw [response, resource?_eq_some_iff.2 (show request.path = Resource.person.path from hpath)]
    simp only [haction]
  intro status
  obtain ⟨hunauthorized, hforbidden, hallowed⟩ :=
    status_actionResponse table (requestToken? request) action newId
  rw [← hresponse] at hunauthorized hforbidden hallowed
  cases hjudge : table.judge (requestToken? request) action with
  | unauthorized => exact .inr (.inl (hunauthorized.2 hjudge))
  | forbidden => exact .inr (.inr (hforbidden.2 hjudge))
  | allowed =>
    refine .inl ?_
    rw [show status = successStatus action from hallowed.2 hjudge]
    cases action <;> rfl

/-! ## Identifiers -/

/-- What stands in the place of an identifier. -/
def idMark : Text := "<uuid>".toList

/-- What the report of a new person has in front of the identifier. -/
def reportStart : Text := '\x7b' :: idStart.toList

/-- The answer with the mark in the place of an identifier, if it has one. -/
def hideId (answer : Response) : Response :=
  if reportStart.isPrefixOf answer.body then
    { answer with
      body := reportStart ++ idMark ++ (answer.body.drop reportStart.length).dropWhile (· ≠ '"') }
  else answer

theorem mem_groupDigits {c : Char} {sizes : List Nat} {digits : Text}
    (h : c ∈ groupDigits sizes digits) : c = '-' ∨ c ∈ digits := by
  induction sizes generalizing digits with
  | nil => exact .inr h
  | cons size sizes ih =>
    simp only [groupDigits, List.mem_append, List.mem_cons] at h
    rcases h with h | rfl | h
    · exact .inr (List.mem_of_mem_take h)
    · exact .inl rfl
    · exact (ih h).imp_right List.mem_of_mem_drop

/-- No identifier ends the JSON text that it stands in. -/
theorem quote_not_mem_identifier (random : List UInt8) : '"' ∉ identifier random := by
  intro h
  rcases mem_groupDigits h with h | h
  · exact absurd h (by decide)
  · exact absurd (Text.mem_encodeHex h) (by decide)

theorem hideId_eq {answer : Response} {id rest : Text} (hid : '"' ∉ id)
    (hbody : answer.body = reportStart ++ (id ++ '"' :: rest)) :
    hideId answer = { answer with body := reportStart ++ (idMark ++ '"' :: rest) } := by
  have hstart : reportStart.isPrefixOf answer.body = true := by
    rw [hbody]
    exact List.isPrefixOf_iff_prefix.2 (List.prefix_append _ _)
  have hpass : ∀ c ∈ id, decide (c ≠ '"') = true := fun c hc =>
    decide_eq_true fun h => hid (h ▸ hc)
  rw [hideId, if_pos hstart, hbody, List.drop_left, List.dropWhile_append_of_pos hpass,
    List.append_assoc]
  rfl

theorem hideId_eq_self {answer : Response} (h : reportStart.isPrefixOf answer.body = false) :
    hideId answer = answer := by
  rw [hideId, h]
  rfl

theorem body_created (id : Text) :
    (carriedOut .create id).body =
      reportStart ++ (id ++ '"' :: (',' :: messageStart.toList ++ (report .create).toList ++
        ['"', '\x7d'])) := by
  simp [carriedOut, reportBody, reportStart]

/-- Without its identifier, an answer is the one that a fixed identifier gives. -/
theorem hideId_response (table : AccessTable) (random : List UInt8) (request : Request) :
    hideId (response table (identifier random) request) = response table idMark request := by
  unfold response
  split
  · exact hideId_eq_self rfl
  · split <;> exact hideId_eq_self (by decide)
  · split
    · rename_i action _
      unfold actionResponse
      split
      · exact hideId_eq_self rfl
      · exact hideId_eq_self rfl
      · cases action with
        | create =>
          rw [hideId_eq (quote_not_mem_identifier random) (body_created _), carriedOut,
            ← body_created]
          rfl
        | update => exact hideId_eq_self rfl
        | restricted => exact hideId_eq_self rfl
    · exact hideId_eq_self rfl

/-! ## Requests in a row -/

theorem table_serve (service : Service) (visits : List Visit) :
    (service.serve visits).1.table = service.table := by
  induction visits generalizing service with
  | nil => rfl
  | cons visit rest ih => exact ih _

/-- The answers are those of the table, whatever was asked before. -/
theorem responses_serve (service : Service) (visits : List Visit) :
    (service.serve visits).2 =
      visits.map fun visit => response service.table (identifier visit.random) visit.request := by
  induction visits generalizing service with
  | nil => rfl
  | cons visit rest ih => exact congrArg (_ :: ·) (ih _)

theorem count_handle (service : Service) (newId : Text) (request : Request) :
    (service.handle newId request).1.count.toNat =
      (service.count.toNat + if AsksForAction request then 1 else 0) % UInt64.size := by
  by_cases h : AsksForAction request
  · rw [if_pos h, handle, if_pos (isCounted_iff.2 h), UInt64.toNat_add]
    rfl
  · rw [if_neg h, handle, if_neg (mt isCounted_iff.1 h), Nat.add_zero]
    exact (Nat.mod_eq_of_lt (UInt64.toNat_lt _)).symm

theorem count_serve (service : Service) (visits : List Visit) :
    (service.serve visits).1.count.toNat =
      (service.count.toNat + visits.countP fun visit => AsksForAction visit.request) %
        UInt64.size := by
  induction visits generalizing service with
  | nil => exact (Nat.mod_eq_of_lt (UInt64.toNat_lt _)).symm
  | cons visit rest ih =>
    let next := (service.handle (identifier visit.random) visit.request).1
    have hnext : (service.serve (visit :: rest)).1 = (next.serve rest).1 := rfl
    rw [hnext, ih, count_handle, Nat.mod_add_mod, List.countP_cons, Nat.add_assoc]
    simp only [decide_eq_true_eq, Nat.add_comm]

/-- **A service remembers nothing but how often it was asked for an action.** Each answer in a row
is the one that the request alone gets from a new service with the same grants, but for the
identifier of a new person. The counter says how many of the requests asked for an action, modulo
2⁶⁴, and the roles of every token stay. The next request is counted just if it asks for an action,
and then it is answered with success, 401 or 403; an answer with 404 or 405 or from the health check
leaves the counter alone. So the same requests in another order lead to the same counter and the
same answers in that order. -/
theorem serve_memoryless (grants : List Grant) (visits : List Visit) :
    let start := ofGrants grants
    let last := (start.serve visits).1
    let answers := (start.serve visits).2
    (∀ random, answers.map hideId =
      visits.map fun visit => hideId (start.handle (identifier random) visit.request).2) ∧
    last.count.toNat = (visits.countP fun visit => AsksForAction visit.request) % UInt64.size ∧
    (∀ token, last.table.roles? token = start.table.roles? token) ∧
    (∀ newId request,
      let next := (last.handle newId request).1
      let status := (last.handle newId request).2.status
      next.count = (if AsksForAction request then last.count + 1 else last.count) ∧
      (AsksForAction request → isSuccess status = true ∨ status = 401 ∨ status = 403) ∧
      (status = 404 ∨ status = 405 ∨ request.path = "/healthz".toList → next.count = last.count)) ∧
    ∀ others, (visits.map Visit.request).Perm (others.map Visit.request) →
      (start.serve others).1.count = last.count ∧
      ((start.serve others).2.map hideId).Perm (answers.map hideId) := by
  intro start last answers
  have hanswers : ∀ visits, (start.serve visits).2.map hideId =
      (visits.map Visit.request).map (response start.table idMark) := by
    intro visits
    rw [responses_serve, List.map_map, List.map_map]
    exact List.map_congr_left fun visit _ => hideId_response _ _ _
  have hcount : ∀ visits, (start.serve visits).1.count.toNat =
      ((visits.map Visit.request).countP fun request => AsksForAction request) % UInt64.size := by
    intro visits
    rw [count_serve, List.countP_map, show start.count.toNat = 0 from rfl, Nat.zero_add]
    rfl
  refine ⟨fun random => ?_, ?_, fun token => ?_, fun newId request => ?_, fun others hperm => ?_⟩
  · rw [hanswers, List.map_map]
    exact List.map_congr_left fun visit _ => (hideId_response _ random _).symm
  · rw [hcount, List.countP_map]
    rfl
  · rw [show last.table = start.table from table_serve start visits]
  · intro next status
    have hnext : next.count = if AsksForAction request then last.count + 1 else last.count := by
      simp only [next, handle, isCounted_iff]
    refine ⟨hnext, fun hasks => status_of_asksForAction hasks _ _, fun hother => ?_⟩
    rw [hnext, if_neg]
    intro hasks
    have hstatus : isSuccess status = true ∨ status = 401 ∨ status = 403 :=
      status_of_asksForAction hasks _ _
    rcases hother with h | h | h
    · rw [h] at hstatus
      exact absurd hstatus (by decide)
    · rw [h] at hstatus
      exact absurd hstatus (by decide)
    · exact absurd (hasks.1.symm.trans h) (by decide)
  · constructor
    · apply UInt64.toNat_inj.1
      rw [hcount, show last.count.toNat = _ from hcount visits, hperm.countP_eq]
    · rw [hanswers, hanswers]
      exact hperm.symm.map _

/-- A creation, a health check and a forbidden action, and the same with other random bytes from the
last to the first. -/
theorem serve_memoryless_reversed :
    let start := ofGrants [⟨['t'], [Role.admin.name.toList]⟩]
    let headers : List Header := [⟨Request.authorizationName, "Bearer t".toList⟩]
    let create : Request := ⟨.post, "/person".toList, headers, []⟩
    let restricted : Request := ⟨.patch, "/person".toList, headers, []⟩
    let health : Request := ⟨.get, "/healthz".toList, [], []⟩
    let first := start.serve [⟨[1], create⟩, ⟨[2], health⟩, ⟨[3], restricted⟩]
    let second := start.serve [⟨[4], restricted⟩, ⟨[5], health⟩, ⟨[6], create⟩]
    first.2.map Response.status = [201, 200, 403] ∧ first.1.count = 2 ∧
      second.1.count = first.1.count ∧ (second.2.map hideId).Perm (first.2.map hideId) := by
  intro start headers create restricted health first second
  have hperm : [create, health, restricted].Perm [restricted, health, create] :=
    (List.reverse_perm [create, health, restricted]).symm
  obtain ⟨-, hcount, -, -, horder⟩ := serve_memoryless [⟨['t'], [Role.admin.name.toList]⟩]
    [⟨[1], create⟩, ⟨[2], health⟩, ⟨[3], restricted⟩]
  refine ⟨by decide, UInt64.toNat_inj.1 (hcount.trans (by decide)), ?_⟩
  exact horder [⟨[4], restricted⟩, ⟨[5], health⟩, ⟨[6], create⟩] hperm

end Service
end PersonGate
