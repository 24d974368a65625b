import Mathlib.Data.List.Perm.Basic
import PersonGate.Proofs.Panel.Run
/-!
# No work of a panel is lost, doubled or reordered

A trigger has two ways to its end, its `Course`: the token source has no token and the trigger is
abandoned, or there is a token, one request is sent with it, and the user is told how that went. In
every run the events of each trigger are the start of such a course, the log is these events shuffled
and nothing else, and once no task is left every trigger has come to the end of its course. The
headline is `ledger_exact`; its last part is about a session that waits (`settled_waitIdle`).
-/
namespace PersonGate

namespace TaskEvent

/-- The action that was scheduled. -/
def action? : TaskEvent → Option PersonAction
  | .scheduled action => some action
  | _ => none

/-- The token that there was. -/
def token? : TaskEvent → Option BearerToken
  | .tokenCall (.ok token) => some token
  | _ => none

/-- The request that was sent, whether or not it arrived. -/
def sent? : TaskEvent → Option SentRequest
  | .attempt request _ => some request
  | _ => none

end TaskEvent

namespace ActionPanel

/-- The action of a move that is a trigger. -/
def Move.action? : Move → Option PersonAction
  | .schedule _ _ action => some action
  | _ => none

/-- All events of a trigger from start to end, when the token source gives this answer. -/
inductive Course (config : ClientConfig) (action : PersonAction) :
    Except TokenError BearerToken → List TaskEvent → Prop where
  | abandoned (cause : TokenError) :
    Course config action (.error cause)
      [.scheduled action, .sending, .tokenCall (.error cause), .finished .failed]
  /-- The request asks for the action, carries the token of this very call, and has no body. -/
  | completed {token : BearerToken} {request : SentRequest} (arrived : Bool)
    {result : Except TransportError Http.Status} {outcome : Outcome}
    (method : request.method = action.method) (url : request.url = config.personUrl)
    (authorization : request.authorization = "Bearer ".toList ++ token.secret)
    (body : request.body = none)
    (outcome_iff : outcome = .succeeded ↔ ∃ status, result = .ok status ∧ 200 ≤ status ∧
      status ≤ 299) :
    Course config action (.ok token)
      [.scheduled action, .sending, .tokenCall (.ok token), .attempt request arrived,
        .ended result, .finished (.ofOutcome outcome), .notified outcome]

/-- The first of the events of a trigger that can be read in this way. -/
def first? {α : Type} (panel : ActionPanel) (read : TaskEvent → Option α) (id : Nat) : Option α :=
  (eventsOf panel.log id).findSome? read

/-- Did the token call of the trigger succeed? -/
def hasToken (panel : ActionPanel) (id : Nat) : Bool := (panel.first? TaskEvent.token? id).isSome

/-- Did the request of the trigger get to the other side? -/
def hasArrived (panel : ActionPanel) (id : Nat) : Bool :=
  (panel.first? TaskEvent.arrived? id).isSome

/-- The methods that these triggers ask for. -/
def methodsOf (panel : ActionPanel) (ids : List Nat) : List Http.Method :=
  ids.filterMap fun id => (panel.first? TaskEvent.action? id).map PersonAction.method

/-- The entries with which a task ends and the user is told how. -/
def announced (id instant : Nat) (outcome : Outcome) : List LogEntry :=
  [⟨id, instant, .finished (.ofOutcome outcome)⟩, ⟨id, instant, .notified outcome⟩]

/-- The log holds everything that every trigger leads to. -/
structure Settled (panel : ActionPanel) : Prop where
  calls : tokenCalls panel.log = panel.triggers
  notices : (outcomes panel.log).length =
    ((List.range panel.triggers).filter panel.hasToken).length
  sent : ((readings TaskEvent.sent? panel.log).map SentRequest.method).Perm
    (panel.methodsOf ((List.range panel.triggers).filter panel.hasToken))
  recorded : ((requests panel.log).map SentRequest.method).Perm
    (panel.methodsOf ((List.range panel.triggers).filter panel.hasArrived))

/-! ## Courses -/

/-- Every end of the request that the client makes for a token completes a course. -/
theorem Course.ofRequest (config : ClientConfig) (action : PersonAction) (token : BearerToken)
    (arrived : Bool) (result : Except TransportError Http.Status) :
    Course config action (.ok token) [.scheduled action, .sending, .tokenCall (.ok token),
      .attempt (config.request token action) arrived, .ended result,
      .finished (.ofOutcome (.ofResult result)), .notified (.ofResult result)] := by
  refine .completed arrived rfl rfl rfl rfl ?_
  simp only [Outcome.ofResult_eq_succeeded_iff, Http.isSuccess_iff]

/-- A story is the start of a course. -/
theorem Story.course {config : ClientConfig} {action : PersonAction} {phase : TaskPhase}
    {events : List TaskEvent} (h : Story config action phase events) :
    ∃ answer course, Course config action answer course ∧ events <+: course := by
  cases h with
  | waiting due => exact ⟨_, _, .abandoned .empty, _, rfl⟩
  | asking => exact ⟨_, _, .abandoned .empty, _, rfl⟩
  | inFlight deadline reception token =>
    exact ⟨_, _, .ofRequest config action token reception.arrives (.error .broken), _, rfl⟩
  | abandoned cause => exact ⟨_, _, .abandoned cause, List.prefix_refl _⟩
  | ended token arrived result =>
    exact ⟨_, _, .ofRequest config action token arrived result, List.prefix_refl _⟩

theorem Course.start {config : ClientConfig} {action : PersonAction}
    {answer : Except TokenError BearerToken} {course : List TaskEvent}
    (h : Course config action answer course) :
    ∃ rest, course = .scheduled action :: .sending :: .tokenCall answer :: rest := by
  cases h <;> exact ⟨_, rfl⟩

/-- Two courses that start with the events of a trigger are courses for one action, and with one
answer of the token source, unless it has not been asked. -/
theorem Course.unique {config : ClientConfig} {action action' : PersonAction}
    {answer answer' : Except TokenError BearerToken} {course course' events : List TaskEvent}
    (h : Course config action answer course) (h' : Course config action' answer' course')
    (hne : events ≠ []) (hp : events <+: course) (hp' : events <+: course') :
    action = action' ∧ (answer = answer' ∨ events <+: [.scheduled action, .sending]) := by
  obtain ⟨rest, rfl⟩ := h.start
  obtain ⟨rest', rfl⟩ := h'.start
  match events with
  | [] => exact absurd rfl hne
  | [a] => simp_all
  | [a, b] => simp_all
  | a :: b :: c :: more =>
    simp only [List.cons_prefix_cons] at hp hp'
    obtain ⟨rfl, rfl, rfl, -⟩ := hp
    simp_all

/-! ## What is told together -/

/-- Events of one task that a move adds at once. -/
inductive Block : List TaskEvent → Prop where
  | nothing : Block []
  | scheduled (action : PersonAction) : Block [.scheduled action]
  | sending : Block [.sending]
  | abandoned (cause : TokenError) : Block [.tokenCall (.error cause), .finished .failed]
  | sent (token : BearerToken) {request : SentRequest}
    (h : request.authorization = token.authorization) (arrived : Bool) :
    Block [.tokenCall (.ok token), .attempt request arrived]
  | ended (result : Except TransportError Http.Status) (outcome : Outcome) :
    Block [.ended result, .finished (.ofOutcome outcome), .notified outcome]

/-- A move adds one block to the log, which schedules an action if the move is a trigger. -/
theorem log_move (config : ClientConfig) (panel : ActionPanel) (m : Move) :
    ∃ id instant events, Block events ∧ events.filterMap TaskEvent.action? = m.action?.toList ∧
      (panel.move config m).log = panel.log ++ events.map fun event => ⟨id, instant, event⟩ := by
  have hnothing : ∃ id instant events, Block events ∧ events.filterMap TaskEvent.action? = [] ∧
      panel.log = panel.log ++ events.map fun event => (⟨id, instant, event⟩ : LogEntry) :=
    ⟨0, 0, [], .nothing, rfl, (List.append_nil _).symm⟩
  cases m with
  | schedule instant due action => exact ⟨_, instant, _, .scheduled action, rfl, rfl⟩
  | begin instant id =>
    simp only [move, ActionPanel.begin]
    split
    · exact hnothing
    · exact ⟨id, instant, _, .sending, rfl, rfl⟩
  | proceed receive instant id answer =>
    simp only [move, ActionPanel.proceed]
    split
    · exact hnothing
    · cases answer with
      | error cause => exact ⟨id, instant, _, .abandoned cause, rfl, rfl⟩
      | ok token => exact ⟨id, instant, _, .sent token rfl _, rfl, rfl⟩
  | resolve instant id result =>
    simp only [move, ActionPanel.resolve]
    split
    · exact hnothing
    · exact ⟨id, instant, _, .ended result _, rfl, rfl⟩
  | collect chosen => exact hnothing

/-- What every move keeps true of the log is true of it after a run. -/
theorem log_play {P : List LogEntry → Prop} {config : ClientConfig}
    (hmove : ∀ (panel : ActionPanel) m, P panel.log → P (panel.move config m).log)
    {panel : ActionPanel} (h : P panel.log) (moves : List Move) :
    P (panel.play config moves).log := by
  induction moves generalizing panel with
  | nil => exact h
  | cons m rest ih => exact ih (hmove panel m h)

theorem triggers_move (config : ClientConfig) (panel : ActionPanel) (m : Move) :
    (panel.move config m).triggers = panel.triggers + m.action?.toList.length := by
  cases m with
  | schedule instant due action => rfl
  | begin instant id => exact triggers_begin panel instant id
  | proceed receive instant id answer => exact triggers_proceed panel config _ instant id answer
  | resolve instant id result => exact triggers_resolve panel instant id result
  | collect chosen => rfl

/-- The log schedules what was triggered, in that order. -/
theorem scheduled_play (config : ClientConfig) (moves : List Move) (panel : ActionPanel) :
    readings TaskEvent.action? (panel.play config moves).log =
        readings TaskEvent.action? panel.log ++ moves.filterMap Move.action? ∧
      (panel.play config moves).triggers =
        panel.triggers + (moves.filterMap Move.action?).length := by
  induction moves generalizing panel with
  | nil => exact ⟨(List.append_nil _).symm, rfl⟩
  | cons m rest ih =>
    obtain ⟨hlog, htriggers⟩ := ih (panel.move config m)
    obtain ⟨id, instant, events, -, haction, hm⟩ := log_move config panel m
    have hcons : (m :: rest).filterMap Move.action? =
        m.action?.toList ++ rest.filterMap Move.action? := by
      cases ha : m.action? <;> simp [ha]
    rw [hm, readings_append, readings_note, haction, List.append_assoc] at hlog
    rw [triggers_move, Nat.add_assoc] at htriggers
    rw [hcons, List.length_append]
    exact ⟨hlog, htriggers⟩

/-- Whoever is told is told right after the end, and whatever ends without anyone being told had no
token. -/
structure Together (log : List LogEntry) : Prop where
  notified : ∀ id instant outcome, ⟨id, instant, .notified outcome⟩ ∈ log →
    announced id instant outcome <:+: log
  finished : ∀ id instant status, ⟨id, instant, .finished status⟩ ∈ log →
    (∃ cause, .tokenCall (.error cause) ∈ eventsOf log id) ∨
      ∃ outcome, status = .ofOutcome outcome ∧ announced id instant outcome <:+: log

theorem Together.append {log : List LogEntry} (h : Together log) {events : List TaskEvent}
    (hb : Block events) (id instant : Nat) :
    Together (log ++ events.map fun event => ⟨id, instant, event⟩) := by
  -- a block that tells of an end ends with the two entries in question
  have hend : ∀ (result : Except TransportError Http.Status) (outcome : Outcome),
      announced id instant outcome <:+: log ++ [TaskEvent.ended result,
        .finished (.ofOutcome outcome), .notified outcome].map fun event => ⟨id, instant, event⟩ :=
    fun result outcome => ⟨log ++ [⟨id, instant, .ended result⟩], [], by simp [announced]⟩
  constructor
  · intro other time outcome hmem
    rcases List.mem_append.1 hmem with hmem | hmem
    · exact (h.notified other time outcome hmem).trans (List.infix_append' [] _ _)
    · cases hb with
      | ended result told =>
        obtain ⟨rfl, rfl, rfl⟩ : other = id ∧ time = instant ∧ outcome = told := by
          simpa using hmem
        exact hend result outcome
      | _ => simp at hmem
  · intro other time status hmem
    rcases List.mem_append.1 hmem with hmem | hmem
    · rcases h.finished other time status hmem with ⟨cause, hc⟩ | ⟨outcome, rfl, ho⟩
      · refine .inl ⟨cause, ?_⟩
        rw [eventsOf_append]
        exact List.mem_append_left _ hc
      · exact .inr ⟨outcome, rfl, ho.trans (List.infix_append' [] _ _)⟩
    · cases hb with
      | abandoned cause =>
        obtain ⟨rfl, -, -⟩ : other = id ∧ time = instant ∧ status = .failed := by
          simpa using hmem
        refine .inl ⟨cause, ?_⟩
        rw [eventsOf_append, eventsOf_note_self]
        simp
      | ended result told =>
        obtain ⟨rfl, rfl, rfl⟩ : other = id ∧ time = instant ∧ status = .ofOutcome told := by
          simpa using hmem
        exact .inr ⟨told, rfl, hend result told⟩
      | _ => simp at hmem

theorem together_play (config : ClientConfig) (moves : List Move) :
    Together (play config {} moves).log := by
  refine log_play (fun panel m h => ?_) ⟨by simp, by simp⟩ moves
  obtain ⟨id, instant, events, hb, -, hlog⟩ := log_move config panel m
  exact hlog ▸ h.append hb id instant

theorem Story.hasToken {config : ClientConfig} {action : PersonAction} {phase : TaskPhase}
    {events : List TaskEvent} (h : Story config action phase events)
    (ht : (events.findSome? TaskEvent.token?).isSome = true) (cause : TokenError) :
    .tokenCall (.error cause) ∉ events := by
  cases h <;> simp_all [TaskEvent.token?]

/-! ## The log is a shuffle -/

theorem entries_perm (log : List LogEntry) (n : Nat) :
    (log.filter fun entry => entry.task < n).Perm ((List.range n).flatMap (entriesOf log)) := by
  induction n with
  | zero => simp
  | succ n ih =>
    have hold : (log.filter fun entry => entry.task < n + 1).filter (fun entry => entry.task < n) =
        log.filter fun entry => entry.task < n := by
      rw [List.filter_filter]
      refine List.filter_congr fun entry _ => ?_
      by_cases hlt : entry.task < n
      · simp [hlt, Nat.lt_succ_of_lt hlt]
      · simp [hlt]
    have hnew : (log.filter fun entry => entry.task < n + 1).filter
        (fun entry => !decide (entry.task < n)) = entriesOf log n := by
      rw [List.filter_filter, entriesOf]
      refine List.filter_congr fun entry _ => ?_
      rw [Bool.eq_iff_iff]
      simp only [Bool.and_eq_true, Bool.not_eq_true', decide_eq_false_iff_not, decide_eq_true_eq,
        beq_iff_eq]
      omega
    have hsplit := List.filter_append_perm (fun entry : LogEntry => decide (entry.task < n))
      (log.filter fun entry => entry.task < n + 1)
    rw [hold, hnew] at hsplit
    rw [List.range_succ, List.flatMap_append, List.flatMap_singleton]
    exact hsplit.symm.trans (ih.append_right _)

namespace Coherent
variable {config : ClientConfig} {panel : ActionPanel}

theorem log_perm (h : Coherent config panel) :
    panel.log.Perm ((List.range panel.triggers).flatMap (entriesOf panel.log)) := by
  have hall : (panel.log.filter fun entry => entry.task < panel.triggers) = panel.log := by
    rw [List.filter_eq_self]
    simpa using h.known
  have := entries_perm panel.log panel.triggers
  rwa [hall] at this

/-- Whatever is read off the log was read off the triggers one by one. -/
theorem readings_perm (h : Coherent config panel) {α : Type} (read : TaskEvent → Option α) :
    (readings read panel.log).Perm
      ((List.range panel.triggers).flatMap fun id => (eventsOf panel.log id).filterMap read) := by
  have hread := h.log_perm.filterMap fun entry => read entry.event
  rw [List.filterMap_flatMap] at hread
  simpa only [readings, eventsOf, List.filterMap_map, Function.comp_def] using hread

/-- What happens to a trigger at most once is read off the log once for each trigger to which it
happened. -/
theorem readings_perm_first (h : Coherent config panel) {α : Type} {read : TaskEvent → Option α}
    (honce : ∀ (action : PersonAction) (phase : TaskPhase) (events : List TaskEvent),
      Story config action phase events → (events.filterMap read).length ≤ 1) :
    (readings read panel.log).Perm ((List.range panel.triggers).filterMap (panel.first? read)) := by
  refine (h.readings_perm read).trans ?_
  rw [List.filterMap_eq_flatMap_toList]
  refine List.Perm.flatMap_left _ fun id hid => ?_
  obtain ⟨action, phase, hs, -⟩ := h.story (List.mem_range.1 hid)
  have hlen := honce action phase _ hs
  rw [first?, ← List.head?_filterMap]
  match (eventsOf panel.log id).filterMap read, hlen with
  | [], _ => exact .refl _
  | [a], _ => exact .refl _

/-- Without tasks, every trigger has come to its end. -/
theorem story_of_outstanding (h : Coherent config panel) (hidle : panel.outstanding = 0) {id : Nat}
    (hid : id ∈ List.range panel.triggers) :
    ∃ action, Story config action .finished (eventsOf panel.log id) := by
  refine h.forgotten id (List.mem_range.1 hid) ?_
  rw [List.length_eq_zero_iff.1 hidle]
  simp

end Coherent

/-! ## What a trigger does at most once -/

namespace Story
variable {config : ClientConfig} {action : PersonAction} {phase : TaskPhase}
  {events : List TaskEvent}

theorem answer_once (h : Story config action phase events) :
    (events.filterMap TaskEvent.answer?).length ≤ 1 := by
  cases h <;> exact Nat.le_of_ble_eq_true rfl

theorem notice_once (h : Story config action phase events) :
    (events.filterMap TaskEvent.notice?).length ≤ 1 := by
  cases h <;> exact Nat.le_of_ble_eq_true rfl

theorem sent_once (h : Story config action phase events) :
    (events.filterMap TaskEvent.sent?).length ≤ 1 := by
  cases h <;> exact Nat.le_of_ble_eq_true rfl

/-- What arrives was sent. -/
theorem arrived_once (h : Story config action phase events) :
    (events.filterMap TaskEvent.arrived?).length ≤ 1 := by
  cases h with
  | inFlight deadline reception token =>
    cases reception <;> exact Nat.le_of_ble_eq_true rfl
  | ended token arrived result => cases arrived <;> exact Nat.le_of_ble_eq_true rfl
  | _ => exact Nat.le_of_ble_eq_true rfl

theorem answer_isSome (h : Story config action .finished events) :
    (events.findSome? TaskEvent.answer?).isSome = true := by
  cases h <;> rfl

theorem notice_isSome (h : Story config action .finished events) :
    (events.findSome? TaskEvent.notice?).isSome = (events.findSome? TaskEvent.token?).isSome := by
  cases h <;> rfl

theorem sent_method (h : Story config action .finished events) :
    (events.findSome? TaskEvent.sent?).map SentRequest.method =
      if (events.findSome? TaskEvent.token?).isSome then
        (events.findSome? TaskEvent.action?).map PersonAction.method
      else none := by
  cases h <;> rfl

theorem arrived_method (h : Story config action .finished events) :
    (events.findSome? TaskEvent.arrived?).map SentRequest.method =
      if (events.findSome? TaskEvent.arrived?).isSome then
        (events.findSome? TaskEvent.action?).map PersonAction.method
      else none := by
  cases h with
  | abandoned cause => rfl
  | ended token arrived result => cases arrived <;> rfl

end Story

/-! ## Nothing left to do -/

namespace Coherent
variable {config : ClientConfig} {panel : ActionPanel}

/-- The token source is asked at most once for each trigger. -/
theorem tokenCalls_le (h : Coherent config panel) : tokenCalls panel.log ≤ panel.triggers := by
  rw [tokenCalls, (h.readings_perm_first fun _ _ _ => Story.answer_once).length_eq]
  calc ((List.range panel.triggers).filterMap (panel.first? TaskEvent.answer?)).length
      ≤ (List.range panel.triggers).length := List.length_filterMap_le _ _
    _ = panel.triggers := List.length_range

/-- The methods of the requests of one kind are those that the triggers with such a request ask
for. -/
theorem methods_perm (h : Coherent config panel) {read : TaskEvent → Option SentRequest}
    (honce : ∀ (action : PersonAction) (phase : TaskPhase) (events : List TaskEvent),
      Story config action phase events → (events.filterMap read).length ≤ 1)
    {has : Nat → Bool} (hhas : ∀ id ∈ List.range panel.triggers,
      (panel.first? read id).map SentRequest.method =
        if has id then (panel.first? TaskEvent.action? id).map PersonAction.method else none) :
    ((readings read panel.log).map SentRequest.method).Perm
      (panel.methodsOf ((List.range panel.triggers).filter has)) := by
  refine ((h.readings_perm_first honce).map _).trans (List.Perm.of_eq ?_)
  rw [methodsOf, List.filterMap_filter, List.map_filterMap]
  exact List.filterMap_congr hhas

theorem settled (h : Coherent config panel) (hidle : panel.outstanding = 0) : Settled panel := by
  constructor
  case calls =>
    rw [tokenCalls, (h.readings_perm_first fun _ _ _ => Story.answer_once).length_eq,
      List.length_filterMap_eq_countP]
    refine (List.countP_eq_length.2 fun id hid => ?_).trans List.length_range
    obtain ⟨action, hs⟩ := h.story_of_outstanding hidle hid
    exact hs.answer_isSome
  case notices =>
    rw [outcomes, (h.readings_perm_first fun _ _ _ => Story.notice_once).length_eq,
      List.length_filterMap_eq_countP, ← List.countP_eq_length_filter]
    refine List.countP_congr fun id hid => ?_
    obtain ⟨action, hs⟩ := h.story_of_outstanding hidle hid
    exact Bool.eq_iff_iff.1 hs.notice_isSome
  case sent =>
    refine h.methods_perm (fun _ _ _ => Story.sent_once) fun id hid => ?_
    obtain ⟨action, hs⟩ := h.story_of_outstanding hidle hid
    exact hs.sent_method
  case recorded =>
    refine h.methods_perm (fun _ _ _ => Story.arrived_once) fun id hid => ?_
    obtain ⟨action, hs⟩ := h.story_of_outstanding hidle hid
    exact hs.arrived_method

/-- The events of a trigger start a course, and only one as far as they tell courses apart. -/
theorem course (h : Coherent config panel) {id : Nat} (hid : id < panel.triggers) :
    ∃ action answer course, Course config action answer course ∧
      eventsOf panel.log id <+: course ∧
      ∀ action' answer' course', Course config action' answer' course' →
        eventsOf panel.log id <+: course' → action = action' ∧
          (answer = answer' ∨ eventsOf panel.log id <+: [.scheduled action, .sending]) := by
  obtain ⟨action, phase, hs, -⟩ := h.story hid
  have hne : eventsOf panel.log id ≠ [] := by
    generalize eventsOf panel.log id = events at hs
    cases hs <;> simp
  obtain ⟨answer, course, hc, hp⟩ := hs.course
  exact ⟨action, answer, course, hc, hp, fun _ _ _ hother hp' => hc.unique hother hne hp hp'⟩

end Coherent

end ActionPanel

/-! ## Sessions -/

namespace TimedPanel
open ActionPanel

/-- A wait that comes to its end leaves everything done that the triggers lead to. -/
theorem settled_waitIdle {setting : PanelSetting} {s : TimedPanel} {horizon : Option Nat}
    (hs : Reaches setting.config {} s.panel) (h : (s.waitIdle setting horizon).2 = true) :
    Settled (s.waitIdle setting horizon).1.panel := by
  obtain ⟨moves, hmoves⟩ := hs.trans (reaches_waitIdle setting s horizon)
  have hcoherent := coherent_play setting.config moves
  rw [← hmoves] at hcoherent
  exact hcoherent.settled (outstanding_waitIdle h)

/-- A step logs what some run logs, also when it takes the panel away. -/
theorem exists_log_step (setting : PanelSetting) (horizon : Option Nat) (s : TimedPanel)
    (step : Step) : ∃ next, Reaches setting.config s.panel next ∧
      (s.step setting horizon step).1.panel.log = next.log := by
  cases step with
  | advance span => exact ⟨_, reaches_runUntil setting _ s, rfl⟩
  | reply action reply => exact ⟨_, reaches_reply setting s action reply, rfl⟩
  | waitIdle =>
    rcases step_waitIdle setting horizon s with hstep | hstep | hstep <;> rw [hstep]
    · exact ⟨_, reaches_waitIdle setting s horizon, rfl⟩
    · exact ⟨_, (works_settle setting s horizon).reaches, rfl⟩
    · exact ⟨_, Reaches.refl _ _, rfl⟩
  | trigger action =>
    simp only [TimedPanel.step]
    split
    · exact ⟨_, Reaches.one (.schedule _ _ action), rfl⟩
    · exact ⟨_, Reaches.refl _ _, rfl⟩
  | setVariable | unsetVariable => exact ⟨_, Reaches.refl _ _, rfl⟩
  | render | teardown | drop =>
    refine ⟨_, Reaches.refl _ _, ?_⟩
    simp only [TimedPanel.step]
    split <;> rfl

/-- What every move keeps true of the log stays true of it, also when the panel is gone. -/
theorem log_after {P : List LogEntry → Prop} {setting : PanelSetting}
    (hmove : ∀ (panel : ActionPanel) m, P panel.log → P (panel.move setting.config m).log)
    (horizon : Option Nat) {s : TimedPanel} (h : P s.panel.log) (steps : List Step) :
    P (s.after setting horizon steps).panel.log := by
  induction steps generalizing s with
  | nil => exact h
  | cons step rest ih =>
    refine ih ?_
    obtain ⟨next, ⟨moves, rfl⟩, hlog⟩ := exists_log_step setting horizon s step
    rw [hlog]
    exact log_play hmove h moves

/-- What was logged stays. -/
theorem log_prefix_after (setting : PanelSetting) (horizon : Option Nat) (s : TimedPanel)
    (steps : List Step) : s.panel.log <+: (s.after setting horizon steps).panel.log := by
  refine log_after (P := (s.panel.log <+: ·)) (fun panel m h => ?_) horizon (List.prefix_refl _)
    steps
  obtain ⟨_, _, _, -, -, hlog⟩ := log_move setting.config panel m
  rw [hlog]
  exact h.trans (List.prefix_append _ _)

end TimedPanel

/-! ## Everything together -/

namespace ActionPanel

/-- **No work is lost, doubled or reordered.** Whatever moves were made: what was triggered is what
was scheduled; each trigger's events start exactly one course; an end that the user is told of is
told at once; the log, and whatever is read off it, is the events of the triggers shuffled; the token
source is asked at most once for each trigger; and when no task is left, everything that every
trigger leads to has happened. That is so once a session, however it came to this panel, has waited
for all its tasks. -/
theorem ledger_exact (config : ClientConfig) (moves : List Move) :
    let panel := play config {} moves
    readings TaskEvent.action? panel.log = moves.filterMap Move.action? ∧
    panel.triggers = (moves.filterMap Move.action?).length ∧
    (∀ id < panel.triggers, ∃ action answer course, Course config action answer course ∧
      eventsOf panel.log id <+: course ∧
      ∀ action' answer' course', Course config action' answer' course' →
        eventsOf panel.log id <+: course' → action = action' ∧
          (answer = answer' ∨ eventsOf panel.log id <+: [.scheduled action, .sending])) ∧
    (∀ id instant outcome, ⟨id, instant, .notified outcome⟩ ∈ panel.log →
      announced id instant outcome <:+: panel.log) ∧
    (∀ id instant status, ⟨id, instant, .finished status⟩ ∈ panel.log →
      panel.hasToken id = true →
      ∃ outcome, status = .ofOutcome outcome ∧ announced id instant outcome <:+: panel.log) ∧
    panel.log.Perm ((List.range panel.triggers).flatMap (entriesOf panel.log)) ∧
    (∀ (α : Type) (read : TaskEvent → Option α), (readings read panel.log).Perm
      ((List.range panel.triggers).flatMap fun id => (eventsOf panel.log id).filterMap read)) ∧
    tokenCalls panel.log ≤ panel.triggers ∧
    (panel.outstanding = 0 → Settled panel) ∧
    (∀ (source : TokenSource) (endpoint : Endpoint) (s : TimedPanel) (horizon : Option Nat),
      let waited := s.waitIdle ⟨config, source, endpoint⟩ horizon
      s.panel = panel → waited.2 = true →
        Settled waited.1.panel ∧ waited.1.panel.triggers = panel.triggers) := by
  intro panel
  have h : Coherent config panel := coherent_play config moves
  have htogether : Together panel.log := together_play config moves
  obtain ⟨hscheduled, htriggers⟩ := scheduled_play config moves {}
  refine ⟨hscheduled, htriggers.trans (Nat.zero_add _), fun id hid => h.course hid,
    htogether.notified, ?_, h.log_perm,
    fun _ read => h.readings_perm read, h.tokenCalls_le, h.settled, ?_⟩
  · intro id instant status hmem htoken
    rcases htogether.finished id instant status hmem with ⟨cause, hcause⟩ | hannounced
    · -- a trigger with a token was not also told that there is none
      obtain ⟨action, phase, hs, -⟩ := h.story (h.known _ hmem)
      exact absurd hcause (hs.hasToken htoken cause)
    · exact hannounced
  · intro source endpoint s horizon waited hpanel hidle
    refine ⟨TimedPanel.settled_waitIdle ⟨moves, hpanel⟩ hidle, ?_⟩
    rw [← hpanel]
    exact TimedPanel.triggers_waitIdle _ s horizon

/-- A session waits after its one request has been answered. -/
theorem ledger_exact_waited :
    let moves : List Move := [.schedule 0 5 .create, .begin 5 0,
      .proceed (fun _ => .held) 5 0 (.ok ⟨['t']⟩), .resolve 9 0 (.ok 201)]
    let s : TimedPanel := { now := 9, panel := play .standard {} moves }
    let waited := s.waitIdle ⟨.standard, .fixed ⟨['t']⟩, .holding⟩ none
    s.panel.outstanding = 1 ∧ waited.2 = true ∧ Settled waited.1.panel ∧
      waited.1.panel.triggers = 1 := by
  intro moves s waited
  have hidle : waited.2 = true := by
    have hrest : s.next? none = none := rfl
    show (TimedPanel.runUntil _ none s).isIdle = true
    rw [TimedPanel.runUntil_of_none hrest]
    rfl
  obtain ⟨-, htriggers, -, -, -, -, -, -, -, hwaited⟩ := ledger_exact .standard moves
  obtain ⟨hsettled, hsame⟩ := hwaited (.fixed ⟨['t']⟩) .holding s none rfl hidle
  exact ⟨rfl, hidle, hsettled, hsame.trans htriggers⟩

end ActionPanel
end PersonGate
