import PersonGate.Proofs.Panel.Likeness
/-!
# Why an action failed is not shown

A session carries a panel through a world that answers it: a source of tokens, the other side of its
requests, the replies that come later. If two worlds differ only in what a panel keeps to itself,
the panel does the same at the same instants in both (`TimedAlike.step`): it wakes the same tasks,
it stops at the same instants, and its reports say the same.

The leeway that matters to a user is in the reasons. One token error may stand for another, one
refusal for another or for no answer at all, one status of success for another; nothing that the
user sees or hears tells which it was (`causes_indistinguishable`).
-/
namespace PersonGate
open ActionPanel TimedPanel

/-- Two requests that come to the same: neither arrives, neither is answered for now, or both are
answered to the same effect. -/
inductive ReceptionsAlike : Reception → Reception → Prop
  | refused : ReceptionsAlike .refused .refused
  | held : ReceptionsAlike .held .held
  | answered {a b : Reply} (h : SameVerdict a.result b.result) :
    ReceptionsAlike (.answered a) (.answered b)

theorem ReceptionsAlike.arrives {a b : Reception} (h : ReceptionsAlike a b) :
    a.arrives = b.arrives := by
  cases h <;> rfl

/-- The same step, where a reply may be another one to the same effect. -/
inductive StepsAlike : TimedPanel.Step → TimedPanel.Step → Prop
  | same (step : TimedPanel.Step) : StepsAlike step step
  | reply (action : PersonAction) {a b : Reply} (h : SameVerdict a.result b.result) :
    StepsAlike (.reply action a) (.reply action b)

namespace Leeway

/-- Two panels on clocks that differ within the leeway. -/
structure TimedAlike (l : Leeway) (s t : TimedPanel) : Prop where
  now : s.now = t.now
  environment : l.environment s.environment t.environment
  panel : l.PanelsAlike s.panel t.panel
  live : s.live = t.live

/-- Two worlds that differ within the leeway, which is narrow enough that requests come to the
same. -/
structure WorldsAlike (l : Leeway) (setting other : PanelSetting) : Prop where
  config : setting.config = other.config
  source : ∀ index instant env env', l.environment env env' →
    l.AnswersAlike (setting.source ⟨index, instant, env⟩) (other.source ⟨index, instant, env'⟩)
  receive : ∀ instant request request', l.RequestsAlike request request' →
    l.reception (setting.endpoint.receive instant request) (other.endpoint.receive instant request')
  come : ∀ a b, l.reception a b → ReceptionsAlike a b

/-- Two such worlds in which a variable can be set or unset as well. -/
structure SettingsAlike (l : Leeway) (setting other : PanelSetting) : Prop
    extends l.WorldsAlike setting other where
  set : ∀ name value env env', l.environment env env' →
    l.environment (env.set name value) (env'.set name value)
  unset : ∀ name env env', l.environment env env' →
    l.environment (env.unset name) (env'.unset name)

variable {l : Leeway} {s t : TimedPanel} {setting other : PanelSetting}

/-! ## What the clock looks at -/

theorem PhasesAlike.wakesAt? {p q : TaskPhase} (h : l.PhasesAlike p q) :
    p.wakesAt? = q.wakesAt? := h.congr fun _ _ _ => rfl

theorem PhasesAlike.isRefused (hcome : ∀ a b, l.reception a b → ReceptionsAlike a b)
    {p q : TaskPhase} (h : l.PhasesAlike p q) : p.isRefused = q.isRefused := by
  cases h with
  | inFlight deadline h => cases hcome _ _ h <;> rfl
  | _ => rfl

theorem TasksAlike.isDue {task task' : Task} (h : l.TasksAlike task task') (instant : Nat) :
    isDue instant task = isDue instant task' := by
  obtain ⟨id, action, hpq⟩ := h
  simp only [TimedPanel.isDue, hpq.wakesAt?]

/-- Replies have come in for both tasks, to the same effect, or for neither. -/
theorem TasksAlike.reply? (hcome : ∀ a b, l.reception a b → ReceptionsAlike a b)
    {task task' : Task} (h : l.TasksAlike task task') :
    Option.Rel (fun a b : Reply => SameVerdict a.result b.result) (reply? task) (reply? task') := by
  obtain ⟨id, action, hpq⟩ := h
  cases hpq with
  | inFlight deadline h =>
    cases hcome _ _ h with
    | answered hverdict => exact .some hverdict
    | _ => exact .none
  | _ => exact .none

theorem TasksAlike.filterMap {tasks others : List Task}
    (h : List.Forall₂ l.TasksAlike tasks others) {α : Type} {f : Task → Option α}
    (hf : ∀ task task', l.TasksAlike task task' → f task = f task') :
    tasks.filterMap f = others.filterMap f := by
  induction h with
  | nil => rfl
  | cons ht _ ih => simp only [List.filterMap_cons, hf _ _ ht, ih]

theorem TasksAlike.all {tasks others : List Task} (h : List.Forall₂ l.TasksAlike tasks others)
    {p : Task → Bool} (hp : ∀ task task', l.TasksAlike task task' → p task = p task') :
    tasks.all p = others.all p := by
  induction h with
  | nil => rfl
  | cons ht _ ih => simp only [List.all_cons, hp _ _ ht, ih]

theorem PanelsAlike.tokenCalls {panel panel' : ActionPanel} (h : l.PanelsAlike panel panel') :
    ActionPanel.tokenCalls panel.log = ActionPanel.tokenCalls panel'.log := by
  have hanswers : List.Forall₂ l.AnswersAlike (readings TaskEvent.answer? panel.log)
      (readings TaskEvent.answer? panel'.log) := by
    refine EntriesAlike.read h.log fun e f he => ?_
    cases he with
    | tokenCall hanswer => exact .some hanswer
    | _ => exact .none
  exact hanswers.length_eq

theorem EntriesAlike.requests (hcome : ∀ a b, l.reception a b → ReceptionsAlike a b)
    {log others : List LogEntry} (h : List.Forall₂ l.EntriesAlike log others) :
    List.Forall₂ l.RequestsAlike (ActionPanel.requests log) (ActionPanel.requests others) := by
  refine EntriesAlike.read h fun e f he => ?_
  cases he with
  | attempt hrequest hreception =>
    rw [(hcome _ _ hreception).arrives]
    generalize Reception.arrives _ = arrived
    cases arrived with
    | true => exact .some hrequest
    | false => exact .none
  | _ => exact .none

/-! ## What happens at an instant -/

theorem PanelsAlike.bounce (hcome : ∀ a b, l.reception a b → ReceptionsAlike a b)
    {panel panel' : ActionPanel} (h : l.PanelsAlike panel panel') (instant id : Nat) :
    l.PanelsAlike (panel.bounce instant id) (panel'.bounce instant id) := by
  have htask := h.task? id fun _ _ => PhasesAlike.isRefused hcome
  unfold ActionPanel.bounce
  generalize panel.task? id TaskPhase.isRefused = found at htask
  generalize panel'.task? id TaskPhase.isRefused = found' at htask
  cases htask with
  | none => exact h
  | some _ => exact h.resolve instant id Iff.rfl

namespace TimedAlike

theorem withPanel (h : l.TimedAlike s t) {panel panel' : ActionPanel}
    (hpanel : l.PanelsAlike panel panel') :
    l.TimedAlike { s with panel := panel } { t with panel := panel' } :=
  ⟨h.now, h.environment, hpanel, h.live⟩

theorem withNow (h : l.TimedAlike s t) (instant : Nat) :
    l.TimedAlike { s with now := instant } { t with now := instant } :=
  ⟨rfl, h.environment, h.panel, h.live⟩

theorem wake (h : l.TimedAlike s t) (hsetting : l.WorldsAlike setting other) {task task' : Task}
    (htask : l.TasksAlike task task') :
    l.TimedAlike (wake setting s task) (wake other t task') := by
  obtain ⟨id, action, hpq⟩ := htask
  cases hpq with
  | waiting due =>
    refine h.withPanel ?_
    have hanswer : l.AnswersAlike (setting.source s.tokenCall) (other.source t.tokenCall) := by
      rw [TimedPanel.tokenCall, TimedPanel.tokenCall, h.panel.tokenCalls, h.now]
      exact hsetting.source _ _ _ _ h.environment
    rw [hsetting.config, h.now]
    exact ((h.panel.begin _ _).proceed _ (hsetting.receive t.now) _ _ hanswer).bounce
      hsetting.come _ _
  | inFlight deadline _ =>
    refine h.withPanel ?_
    rw [h.now]
    exact h.panel.resolve _ _ Iff.rfl
  | asking => exact h
  | finished => exact h

theorem deliver (h : l.TimedAlike s t) (hsetting : l.WorldsAlike setting other)
    {task task' : Task} (htask : l.TasksAlike task task') :
    l.TimedAlike (deliver s task) (deliver t task') := by
  have hreply := htask.reply? hsetting.come
  unfold TimedPanel.deliver
  generalize TimedPanel.reply? task = reply at hreply
  generalize TimedPanel.reply? task' = reply' at hreply
  cases hreply with
  | none => exact h
  | some hverdict =>
    obtain ⟨id, action, -⟩ := htask
    refine h.withPanel ?_
    rw [h.now]
    exact h.panel.resolve _ _ hverdict

/-- One task after the other acts on both panels. -/
theorem foldl {act act' : TimedPanel → Task → TimedPanel}
    (hact : ∀ s t task task', l.TimedAlike s t → l.TasksAlike task task' →
      l.TimedAlike (act s task) (act' t task'))
    (h : l.TimedAlike s t) {tasks others : List Task}
    (htasks : List.Forall₂ l.TasksAlike tasks others) :
    l.TimedAlike (tasks.foldl act s) (others.foldl act' t) := by
  induction htasks generalizing s t with
  | nil => exact h
  | cons htask _ ih => exact ih (hact _ _ _ _ h htask)

theorem runDue (h : l.TimedAlike s t) (hsetting : l.WorldsAlike setting other) :
    l.TimedAlike (runDue setting s) (runDue other t) := by
  have hdue : List.Forall₂ l.TasksAlike (s.panel.tasks.filter (isDue s.now))
      (t.panel.tasks.filter (isDue t.now)) := by
    rw [h.now]
    exact TasksAlike.filter h.panel.tasks fun task task' ht => ht.isDue t.now
  have hwoken := h.foldl (fun _ _ _ _ hs ht => hs.wake hsetting ht) hdue
  exact hwoken.foldl (fun _ _ _ _ hs ht => hs.deliver hsetting ht) hwoken.panel.tasks

/-! ## The passing of time -/

theorem next? (h : l.TimedAlike s t) (limit : Option Nat) : s.next? limit = t.next? limit := by
  have hwakes : (s.panel.tasks.filterMap fun task => task.phase.wakesAt?) =
      t.panel.tasks.filterMap fun task => task.phase.wakesAt? := by
    refine TasksAlike.filterMap h.panel.tasks fun task task' ht => ?_
    obtain ⟨id, action, hpq⟩ := ht
    exact hpq.wakesAt?
  rw [TimedPanel.next?, hwakes, TimedPanel.next?]

/-- Both clocks stop at the same instants. -/
theorem runUntil (h : l.TimedAlike s t) (hsetting : l.WorldsAlike setting other)
    (limit : Option Nat) :
    l.TimedAlike (runUntil setting limit s) (runUntil other limit t) := by
  induction s using runUntil.induct setting limit generalizing t with
  | case1 s hnone =>
    rw [runUntil_of_none hnone, runUntil_of_none ((h.next? limit).symm.trans hnone)]
    exact h
  | case2 s instant hsome ih =>
    rw [runUntil_of_some hsome, runUntil_of_some ((h.next? limit).symm.trans hsome), ← h.now]
    exact ih ((h.withNow _).runDue hsetting)

theorem advance (h : l.TimedAlike s t) (hsetting : l.WorldsAlike setting other) (span : Nat) :
    l.TimedAlike (s.advance setting span) (t.advance other span) := by
  rw [TimedPanel.advance, TimedPanel.advance, h.now]
  exact (h.runUntil hsetting _).withNow _

theorem trigger (h : l.TimedAlike s t) (hsetting : l.WorldsAlike setting other)
    (action : PersonAction) : l.TimedAlike (s.trigger setting action) (t.trigger other action) := by
  refine h.withPanel ?_
  rw [hsetting.config, h.now]
  exact h.panel.schedule _ _ action

theorem held? (h : l.TimedAlike s t) (hsetting : l.WorldsAlike setting other)
    (method : Http.Method) : Option.Rel l.TasksAlike (s.held? method) (t.held? method) := by
  refine TasksAlike.find? h.panel.tasks fun task task' ht => ?_
  have hreply := ht.reply? hsetting.come
  obtain ⟨id, action, hpq⟩ := ht
  have hnone : ∀ {a b : Option Reply}, Option.Rel (fun a b => SameVerdict a.result b.result) a b →
      a.isNone = b.isNone := by
    rintro _ _ (_ | _) <;> rfl
  have hflight : TaskPhase.isInFlight _ = TaskPhase.isInFlight _ := hpq.congr fun _ _ _ => rfl
  simp only [hnone hreply, hflight]

theorem reply (h : l.TimedAlike s t) (hsetting : l.WorldsAlike setting other)
    (action : PersonAction) {a b : Reply} (hverdict : SameVerdict a.result b.result) :
    l.TimedAlike (s.reply setting action a).1 (t.reply other action b).1 ∧
      (s.reply setting action a).2 = (t.reply other action b).2 := by
  have hready := h.advance hsetting 0
  have htask := hready.held? hsetting action.method
  unfold TimedPanel.reply
  simp only
  generalize TimedPanel.held? (s.advance setting 0) action.method = found at htask
  generalize TimedPanel.held? (t.advance other 0) action.method = found' at htask
  cases htask with
  | none => exact ⟨hready, rfl⟩
  | some htask =>
    obtain ⟨id, action', -⟩ := htask
    refine ⟨hready.withPanel ?_, rfl⟩
    rw [hready.now]
    exact hready.panel.resolve _ _ hverdict

theorem settle (h : l.TimedAlike s t) (hsetting : l.WorldsAlike setting other)
    (horizon : Option Nat) :
    l.TimedAlike (s.settle setting horizon) (t.settle other horizon) := by
  rw [TimedPanel.settle, TimedPanel.settle, h.now]
  exact h.runUntil hsetting _

theorem isIdle (h : l.TimedAlike s t) : s.isIdle = t.isIdle := by
  refine TasksAlike.all h.panel.tasks fun task task' ht => ?_
  obtain ⟨id, action, hpq⟩ := ht
  exact hpq.isFinished

theorem waitIdle (h : l.TimedAlike s t) (hsetting : l.WorldsAlike setting other)
    (horizon : Option Nat) :
    l.TimedAlike (s.waitIdle setting horizon).1 (t.waitIdle other horizon).1 :=
  have hsettled := h.settle hsetting horizon
  hsettled.withPanel (hsettled.panel.collect _)

theorem drop (h : l.TimedAlike s t) : l.TimedAlike s.drop t.drop :=
  ⟨h.now, h.environment, ⟨h.panel.board, h.panel.triggers, .nil, h.panel.log⟩, rfl⟩

theorem teardown (h : l.TimedAlike s t) : l.TimedAlike s.teardown t.teardown :=
  ⟨h.now, h.environment, ⟨h.panel.board, h.panel.triggers, .nil, h.panel.log⟩, rfl⟩

/-! ## Sessions -/

/-- A step keeps what is alike alike, if it leaves environments that are. -/
theorem step_of_environment (h : l.TimedAlike s t) (hsetting : l.WorldsAlike setting other)
    (horizon : Option Nat) {step step' : Step} (hstep : StepsAlike step step')
    (henv : l.environment (s.step setting horizon step).1.environment
      (t.step other horizon step').1.environment) :
    l.TimedAlike (s.step setting horizon step).1 (t.step other horizon step').1 ∧
      (s.step setting horizon step).2 = (t.step other horizon step').2 := by
  cases hstep with
  | reply action hverdict =>
    obtain ⟨hnext, hfound⟩ := h.reply hsetting action hverdict
    refine ⟨hnext, ?_⟩
    simp only [TimedPanel.step, hfound]
  | same step =>
    cases step with
    | reply action reply =>
      obtain ⟨hnext, hfound⟩ := h.reply hsetting action (a := reply) Iff.rfl
      refine ⟨hnext, ?_⟩
      simp only [TimedPanel.step, hfound]
    | advance span => exact ⟨h.advance hsetting span, rfl⟩
    | setVariable name value => exact ⟨⟨h.now, henv, h.panel, h.live⟩, rfl⟩
    | unsetVariable name => exact ⟨⟨h.now, henv, h.panel, h.live⟩, rfl⟩
    | waitIdle =>
      have hsettled := h.settle hsetting horizon
      simp only [TimedPanel.step, h.live, hsettled.isIdle]
      split
      · split
        · exact ⟨h.waitIdle hsetting horizon, rfl⟩
        · exact ⟨hsettled, rfl⟩
      · exact ⟨h, rfl⟩
    | render =>
      simp only [TimedPanel.step, h.live, h.panel.view]
      split <;> exact ⟨h, rfl⟩
    | trigger action =>
      simp only [TimedPanel.step, h.live]
      split
      · exact ⟨h.trigger hsetting action, rfl⟩
      · exact ⟨h, rfl⟩
    | teardown =>
      simp only [TimedPanel.step, h.live]
      split
      · exact ⟨h.teardown, rfl⟩
      · exact ⟨h, rfl⟩
    | drop =>
      simp only [TimedPanel.step, h.live]
      split
      · exact ⟨h.drop, rfl⟩
      · exact ⟨h, rfl⟩

theorem step (h : l.TimedAlike s t) (hsetting : l.SettingsAlike setting other)
    (horizon : Option Nat) {step step' : Step} (hstep : StepsAlike step step') :
    l.TimedAlike (s.step setting horizon step).1 (t.step other horizon step').1 ∧
      (s.step setting horizon step).2 = (t.step other horizon step').2 := by
  refine h.step_of_environment hsetting.toWorldsAlike horizon hstep ?_
  rw [environment_step, environment_step]
  cases hstep with
  | reply action hverdict => exact h.environment
  | same step =>
    cases step with
    | setVariable name value => exact hsetting.set name value _ _ h.environment
    | unsetVariable name => exact hsetting.unset name _ _ h.environment
    | _ => exact h.environment

/-- If the tokens are the same, so is the report of a step. -/
theorem report (h : l.TimedAlike s t) (hsetting : l.SettingsAlike setting other)
    (htoken : ∀ a b, l.token a b → a = b) {next next' : TimedPanel}
    (hnext : l.TimedAlike next next') (answer : Answer) :
    TimedPanel.report s next answer = TimedPanel.report t next' answer := by
  have hnews : List.Forall₂ l.EntriesAlike (next.panel.log.drop s.panel.log.length)
      (next'.panel.log.drop t.panel.log.length) := by
    rw [h.panel.log.length_eq]
    exact List.forall₂_drop _ hnext.panel.log
  have hrequests := (EntriesAlike.requests hsetting.come hnews).imp
    fun request request' hr => hr.eq htoken
  rw [List.forall₂_eq_eq_eq] at hrequests
  simp only [TimedPanel.report, hrequests, EntriesAlike.outcomes hnews, hnext.panel.status,
    hnext.panel.outstanding, hnext.panel.tokenCalls, hnext.panel.board, h.panel.board, hnext.live]

theorem run (h : l.TimedAlike s t) (hsetting : l.SettingsAlike setting other)
    (htoken : ∀ a b, l.token a b → a = b) (horizon : Option Nat) {steps others : List Step}
    (hsteps : List.Forall₂ StepsAlike steps others) :
    TimedPanel.run setting horizon s steps = TimedPanel.run other horizon t others := by
  induction hsteps generalizing s t with
  | nil => rfl
  | @cons step step' _ _ hstep _ ih =>
    obtain ⟨hnext, hanswer⟩ := h.step hsetting horizon hstep
    simp only [TimedPanel.run]
    rw [hanswer, h.report hsetting htoken hnext, ih hnext]

end TimedAlike

/-! ## The reasons -/

/-- Moves may differ in why there is no token and why a request failed, also when one request gets
an answer and the other runs out of time. -/
def inCauses : Leeway := ⟨Eq, fun _ _ => True, Eq⟩

/-- Sessions may differ in the same; each request ends at the same instant in both. -/
def inReplies : Leeway := ⟨Eq, ReceptionsAlike, Eq⟩

end Leeway

namespace ActionPanel

/-- **Why an action failed is not shown.** Take two runs with the same moves in the same order,
where a failing answer may stand for another one, for a broken request or for a time limit, one
status of success for another, and one token error for another. After every move the user has been
told the same, the same statuses were published, as many tasks are left, and the panel renders to
the same text. And two sessions whose worlds and replies differ in no more than that have the same
reports. -/
theorem causes_indistinguishable :
    (∀ (config : ClientConfig) (moves others : List Move),
      List.Forall₂ Leeway.inCauses.MovesAlike moves others → ∀ n,
        let panel := play config {} (moves.take n)
        let other := play config {} (others.take n)
        outcomes panel.log = outcomes other.log ∧
          panel.board.published = other.board.published ∧
          panel.outstanding = other.outstanding ∧ panel.view.html = other.view.html) ∧
    ∀ (config : ClientConfig) (source source' : TokenSource) (endpoint endpoint' : Endpoint)
      (horizon : Option Nat) (steps others : List TimedPanel.Step),
      (∀ call, Leeway.inReplies.AnswersAlike (source call) (source' call)) →
      (∀ instant request, ReceptionsAlike (endpoint.receive instant request)
        (endpoint'.receive instant request)) →
      List.Forall₂ StepsAlike steps others →
        TimedPanel.run ⟨config, source, endpoint⟩ horizon {} steps =
          TimedPanel.run ⟨config, source', endpoint'⟩ horizon {} others := by
  constructor
  · intro config moves others hmoves n panel other
    have h : Leeway.inCauses.PanelsAlike panel other :=
      Leeway.PanelsAlike.start.play config (List.forall₂_take n hmoves)
    exact ⟨Leeway.EntriesAlike.outcomes h.log, congrArg StatusBoard.published h.board,
      h.outstanding, by rw [h.view]⟩
  · intro config source source' endpoint endpoint' horizon steps others hsource hendpoint hsteps
    have hsetting : Leeway.inReplies.SettingsAlike ⟨config, source, endpoint⟩
        ⟨config, source', endpoint'⟩ :=
      { config := rfl
        source := fun index instant env env' (henv : env = env') => henv ▸ hsource _
        receive := fun instant request request' hr => hr.eq (fun _ _ ht => ht) ▸ hendpoint _ _
        come := fun _ _ hreception => hreception
        set := fun name value _ _ henv => congrArg (Environment.set · name value) henv
        unset := fun name _ _ henv => congrArg (Environment.unset · name) henv }
    exact Leeway.TimedAlike.run ⟨rfl, rfl, .start, rfl⟩ hsetting (fun _ _ ht => ht) horizon hsteps

/-- An answer without permission and none in time. -/
theorem causes_indistinguishable_forbidden :
    let before : List Move := [.schedule 0 0 .create, .begin 0 0,
      .proceed (fun _ => .held) 0 0 (.ok ⟨['t']⟩)]
    let forbidden := play .standard {} (before ++ [.resolve 1 0 (.ok 403)])
    let late := play .standard {} (before ++ [.resolve 1 0 (.error .timedOut)])
    outcomes forbidden.log = [.failed] ∧ outcomes late.log = outcomes forbidden.log ∧
      late.view.html = forbidden.view.html := by
  intro before forbidden late
  have hproceed : Leeway.inCauses.MovesAlike (.proceed (fun _ => .held) 0 0 (.ok ⟨['t']⟩))
      (.proceed (fun _ => .held) 0 0 (.ok ⟨['t']⟩)) :=
    .proceed 0 0 (fun _ _ _ => trivial) (.token rfl)
  have hresolve : Leeway.inCauses.MovesAlike (.resolve 1 0 (.error .timedOut))
      (.resolve 1 0 (.ok 403)) := .resolve 1 0 (by simp [SameVerdict, IsFulfilled])
  have hmoves : List.Forall₂ Leeway.inCauses.MovesAlike
      (before ++ [.resolve 1 0 (.error .timedOut)]) (before ++ [.resolve 1 0 (.ok 403)]) :=
    .cons (.schedule 0 0 .create) (.cons (.begin 0 0) (.cons hproceed (.cons hresolve .nil)))
  obtain ⟨htold, -, -, hshown⟩ := causes_indistinguishable.1 .standard _ _ hmoves 4
  exact ⟨rfl, htold, hshown⟩

end ActionPanel
end PersonGate
