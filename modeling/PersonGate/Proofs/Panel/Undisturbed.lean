import PersonGate.Proofs.Panel.Punctual
/-!
# Triggers do not disturb each other

Of every session and every trigger in it there is a session with this trigger alone: the other
triggers are left out, time passes as it did, and a reply to a held request stays if it was for this
trigger (`alone`). If the token source does not count its calls, the trigger has the same history in
both: each step of the one is mirrored by the steps that the other keeps of it (`Mirrors.step`). The
headline is `triggers_undisturbed`.
-/
namespace PersonGate
namespace TimedPanel
open ActionPanel

/-- What is left of a step when only one trigger is made. -/
def stepAlone (setting : PanelSetting) (horizon : Option Nat) (id : Nat) (s : TimedPanel) :
    Step → List Step
  | .trigger action => if s.live ∧ s.panel.triggers = id then [.trigger action] else []
  | .reply action reply =>
    if ((s.advance setting 0).held? action.method).any fun task => task.id = id then
      [.reply action reply]
    else [.advance 0]
  | .waitIdle =>
    -- the wait for this trigger alone might be shorter
    if s.live then [.advance ((s.waitIdle setting horizon).1.now - s.now)] else []
  | .render => []
  | step => [step]

/-- The session with one trigger alone. -/
def alone (setting : PanelSetting) (horizon : Option Nat) (id : Nat) : TimedPanel → List Step →
    List Step
  | _, [] => []
  | s, step :: rest =>
    s.stepAlone setting horizon id step ++
      alone setting horizon id (s.step setting horizon step).1 rest

/-- The second state is that of a session in which a trigger of the first is alone. -/
structure Mirrors (id : Nat) (s solo : TimedPanel) : Prop where
  now : solo.now = s.now
  environment : solo.environment = s.environment
  live : solo.live = s.live
  triggers : solo.panel.triggers = if id < s.panel.triggers then 1 else 0
  track : solo.panel.track 0 = s.panel.track id

variable {setting : PanelSetting} {horizon : Option Nat} {s solo : TimedPanel} {id : Nat}
  {made madeAlone : List (Nat × PersonAction)}

namespace Mirrors

theorem congr (h : Mirrors id s solo) {next : TimedPanel} (hnow : next.now = s.now)
    (henvironment : next.environment = s.environment) (hlive : next.live = s.live)
    (htriggers : next.panel.triggers = s.panel.triggers)
    (htrack : next.panel.track id = s.panel.track id) : Mirrors id next solo where
  now := h.now.trans hnow.symm
  environment := h.environment.trans henvironment.symm
  live := h.live.trans hlive.symm
  triggers := by rw [h.triggers, htriggers]
  track := h.track.trans htrack.symm

theorem trigger (h : Mirrors id s solo) (hs : Orderly setting.config made s)
    (hsolo : Orderly setting.config madeAlone solo) (hlive : s.live = true)
    (action : PersonAction) :
    Mirrors id (s.trigger setting action)
      (solo.after setting horizon (s.stepAlone setting horizon id (.trigger action))) := by
  have hfresh : s.panel.track s.panel.triggers = {} := hs.fresh _ (Nat.le_of_eq hs.count.symm)
  by_cases hid : s.panel.triggers = id
  · have hnone : solo.panel.triggers = 0 := by rw [h.triggers, if_neg (by omega)]
    have hfreshAlone : solo.panel.track solo.panel.triggers = {} :=
      hsolo.fresh _ (Nat.le_of_eq hsolo.count.symm)
    have hnew := track_schedule_self hfresh s.now
      (s.now + setting.config.actionDelay.nanoseconds) action
    have hnewAlone := track_schedule_self hfreshAlone solo.now
      (solo.now + setting.config.actionDelay.nanoseconds) action
    rw [hnone, h.now, ← hnew, hid] at hnewAlone
    have hstep : solo.after setting horizon (s.stepAlone setting horizon id (.trigger action)) =
        solo.trigger setting action := by
      simp only [stepAlone, hlive, hid, and_self, if_true]
      show (solo.step setting horizon (.trigger action)).1 = _
      simp only [TimedPanel.step, h.live, hlive, if_true]
    rw [hstep]
    refine ⟨h.now, h.environment, h.live, ?_, ?_⟩
    · show solo.panel.triggers + 1 = if id < s.panel.triggers + 1 then 1 else 0
      rw [hnone, if_pos (by omega)]
    · show (solo.panel.schedule solo.now _ action).track 0 = _
      rw [h.now]
      exact hnewAlone
  · have hstep : s.stepAlone setting horizon id (.trigger action) = [] := by
      simp only [stepAlone, hid, and_false, if_false]
    rw [hstep]
    refine ⟨h.now, h.environment, h.live, ?_, ?_⟩
    · show solo.panel.triggers = if id < s.panel.triggers + 1 then 1 else 0
      rw [h.triggers]
      split <;> split <;> omega
    · show solo.panel.track 0 = (s.panel.schedule _ _ _).track id
      rw [track_schedule_other (Ne.symm hid), h.track]

theorem advance (h : Mirrors id s solo) (hsource : setting.source.DependsOnTime)
    (hs : Orderly setting.config made s) (hsolo : Orderly setting.config madeAlone solo)
    (span : Nat) : Mirrors id (s.advance setting span) (solo.advance setting span) where
  now := by
    show solo.now + span = s.now + span
    rw [h.now]
  environment := by rw [environment_advance, environment_advance, h.environment]
  live := by rw [live_advance, live_advance, h.live]
  triggers := by rw [triggers_advance, triggers_advance, h.triggers]
  track := by
    have hpasses := passes_advance (hs.resting id) setting span
    have hpassesAlone := passes_advance (hsolo.resting 0) setting span
    rw [h.now, h.environment, h.track] at hpassesAlone
    exact hpassesAlone.unique hpasses hsource

/-- A request that is held is also held when its trigger is alone. -/
theorem held? (h : Mirrors id s solo) (hs : Orderly setting.config made s)
    (hsolo : Orderly setting.config madeAlone solo) {method : Http.Method} {task : Task}
    (hheld : s.held? method = some task) (hid : task.id = id) :
    ∃ taskAlone, solo.held? method = some taskAlone ∧ taskAlone.id = 0 := by
  obtain ⟨hmethod, limit, htasks⟩ := track_of_held? hs.resting hheld
  rw [hid, ← h.track] at htasks
  have hmem : (task.action, .inFlight limit .held) ∈ (solo.panel.track 0).tasks := by simp [htasks]
  have hsome := isSome_held? hmem
  rw [hmethod] at hsome
  obtain ⟨taskAlone, hheldAlone⟩ := Option.isSome_iff_exists.1 hsome
  refine ⟨taskAlone, hheldAlone, ?_⟩
  -- there is no other trigger that the task could be of
  obtain ⟨-, _, htasksAlone⟩ := track_of_held? hsolo.resting hheldAlone
  have hone : solo.panel.triggers ≤ 1 := by
    rw [h.triggers]
    split <;> omega
  by_contra hother
  rw [hsolo.fresh taskAlone.id (by rw [← hsolo.count]; omega)] at htasksAlone
  cases htasksAlone

theorem reply (h : Mirrors id s solo) (hsource : setting.source.DependsOnTime)
    (hs : Orderly setting.config made s) (hsolo : Orderly setting.config madeAlone solo)
    (action : PersonAction) (reply : Reply) :
    Mirrors id (s.reply setting action reply).1
      (solo.after setting horizon (s.stepAlone setting horizon id (.reply action reply))) := by
  have hready := h.advance hsource hs hsolo 0
  have hreadyOf := hs.advance 0
  have hreadyAlone := hsolo.advance 0
  rw [reply_eq]
  cases hheld : (s.advance setting 0).held? action.method with
  | none =>
    simp only [stepAlone, hheld, Option.any_none, Bool.false_eq_true, if_false]
    exact hready
  | some task =>
    obtain ⟨-, limit, htasks⟩ := track_of_held? hreadyOf.resting hheld
    by_cases hid : task.id = id
    · obtain ⟨taskAlone, hheldAlone, hzero⟩ := hready.held? hreadyOf hreadyAlone hheld hid
      have hstep : solo.after setting horizon (s.stepAlone setting horizon id
          (.reply action reply)) = (solo.reply setting action reply).1 := by
        simp only [stepAlone, hheld, Option.any_some, hid, decide_true, if_true]
        rfl
      rw [hstep, reply_eq, hheldAlone]
      simp only [hid, hzero]
      rw [hid] at htasks
      refine ⟨hready.now, hready.environment, hready.live, ?_, ?_⟩
      · show ((solo.advance setting 0).panel.resolve _ _ _).triggers =
          if id < ((s.advance setting 0).panel.resolve _ _ _).triggers then 1 else 0
        rw [triggers_resolve, triggers_resolve]
        exact hready.triggers
      · rw [track_resolve (Track.eq_mk htasks), track_resolve (Track.eq_mk (hready.track ▸ htasks)),
          hready.track, h.now]
    · have hstep : s.stepAlone setting horizon id (.reply action reply) = [.advance 0] := by
        simp [stepAlone, hheld, hid]
      rw [hstep]
      exact hready.congr rfl rfl rfl (triggers_resolve _ _ _ _)
        (track_resolve_other (Ne.symm hid) _ _ _)

theorem waitIdle (h : Mirrors id s solo) (hsource : setting.source.DependsOnTime)
    (hs : Orderly setting.config made s) (hsolo : Orderly setting.config madeAlone solo)
    (hlive : s.live = true) :
    Mirrors id (s.step setting horizon .waitIdle).1
      (solo.after setting horizon (s.stepAlone setting horizon id .waitIdle)) := by
  obtain ⟨span, hwait, hstep⟩ := waitIdle_eq setting s horizon
  have hnow : (s.waitIdle setting horizon).1.now - s.now = span := by
    rw [hwait]
    exact Nat.add_sub_cancel_left _ _
  simp only [stepAlone, hlive, if_true, hnow]
  have hpassed := h.advance hsource hs hsolo span
  rcases hstep hlive with hsame | hreaped
  · rw [hsame]
    exact hpassed
  · rw [hreaped]
    exact hpassed.congr rfl rfl rfl rfl (track_collect _ _ _)

/-- The end of the panel is the end for each trigger. -/
theorem drop (h : Mirrors id s solo) : Mirrors id s.drop solo.drop where
  now := h.now
  environment := h.environment
  live := rfl
  triggers := h.triggers
  track := by
    show solo.panel.release.track 0 = s.panel.release.track id
    rw [track_release, track_release, h.track]

theorem step (h : Mirrors id s solo) (hsource : setting.source.DependsOnTime)
    (hs : Orderly setting.config made s) (hsolo : Orderly setting.config madeAlone solo)
    (step : Step) :
    Mirrors id (s.step setting horizon step).1
      (solo.after setting horizon (s.stepAlone setting horizon id step)) := by
  cases step with
  | advance span => exact h.advance hsource hs hsolo span
  | reply action reply => exact h.reply hsource hs hsolo action reply
  | setVariable name value =>
    exact ⟨h.now, congrArg (Environment.set · name value) h.environment, h.live, h.triggers,
      h.track⟩
  | unsetVariable name =>
    exact ⟨h.now, congrArg (Environment.unset · name) h.environment, h.live, h.triggers, h.track⟩
  | render =>
    simp only [TimedPanel.step]
    split <;> exact h
  | trigger action =>
    cases hlive : s.live with
    | true =>
      simp only [TimedPanel.step, hlive, if_true]
      exact h.trigger hs hsolo hlive action
    | false =>
      simp only [TimedPanel.step, stepAlone, hlive, Bool.false_eq_true, false_and, if_false]
      exact h
  | waitIdle =>
    cases hlive : s.live with
    | true => exact h.waitIdle hsource hs hsolo hlive
    | false =>
      simp only [TimedPanel.step, stepAlone, hlive, Bool.false_eq_true, if_false]
      exact h
  | teardown | drop =>
    show Mirrors id _ (solo.step setting horizon _).1
    cases hlive : s.live with
    | true =>
      simp only [TimedPanel.step, h.live, hlive, if_true]
      exact h.drop
    | false =>
      simp only [TimedPanel.step, h.live, hlive, Bool.false_eq_true, if_false]
      exact h

/-- A whole session is mirrored by the session that leaves one trigger alone. -/
theorem after (h : Mirrors id s solo) (hsource : setting.source.DependsOnTime)
    (hs : Orderly setting.config made s) (hsolo : Orderly setting.config madeAlone solo)
    (horizon : Option Nat) (steps : List Step) :
    Mirrors id (s.after setting horizon steps)
      (solo.after setting horizon (alone setting horizon id s steps)) := by
  induction steps generalizing s solo made madeAlone with
  | nil => exact h
  | cons step rest ih =>
    obtain ⟨_, hnext⟩ := hs.step horizon step
    obtain ⟨_, hnextAlone⟩ := hsolo.after horizon (s.stepAlone setting horizon id step)
    rw [alone, after_append]
    exact ih (h.step hsource hs hsolo step) hnext hnextAlone

end Mirrors

/-- **Triggers do not disturb each other.** Whatever else is done in a session, before a trigger and
after it: the trigger asks for its token and sends its request at the instant at which its wait is
over, once and not earlier, and it has done so when the clock has passed that instant, or when tasks
were let run at it, while the panel is there. It does not matter how a span of time is divided. And
if the token source does not count its calls, each trigger has the history, instants included, that
it has in the session in which it is the only one. -/
theorem triggers_undisturbed (setting : PanelSetting) (horizon : Option Nat)
    (environment : Environment) :
    let start : TimedPanel := { environment }
    (∀ before action later,
      let s := start.after setting horizon before
      let sends := setting.config.sendsAt s.now
      let final := s.after setting horizon (.trigger action :: later)
      let history := historyOf final.panel.log s.panel.triggers
      s.live = true →
      (∃ phase, Timeline setting.config s.now action phase history) ∧
      (∀ entry ∈ history, entry.1 ≤ final.now) ∧
      ∀ more rest, later = more ++ rest →
        let reached := s.after setting horizon (.trigger action :: more)
        reached.live = true →
        sends < reached.now ∨ sends = reached.now ∧ (∃ step ∈ more.getLast?, step.runs = true) →
        ∃ answer, (sends, .tokenCall answer) ∈ history) ∧
    (∀ before span spans later,
      start.after setting horizon (before ++ (span :: spans).map .advance ++ later) =
        start.after setting horizon (before ++ [.advance (spans.foldl (· + ·) span)] ++ later)) ∧
    (setting.source.DependsOnTime → ∀ steps id,
      let final := start.after setting horizon steps
      let solo := start.after setting horizon (start.alone setting horizon id steps)
      historyOf solo.panel.log 0 = historyOf final.panel.log id ∧ solo.now = final.now ∧
        solo.panel.triggers = if id < final.panel.triggers then 1 else 0) := by
  intro start
  have hstart : Orderly setting.config [] start := .start setting.config environment
  refine ⟨?_, ?_, ?_⟩
  · intro before action later s sends final history hlive
    obtain ⟨_, hs⟩ := hstart.after horizon before
    exact trigger_punctual hs hlive horizon action later
  · intro before span spans later
    simp only [after_append, after_spans]
  · intro hsource steps id final solo
    have hmirrors : Mirrors id start start := ⟨rfl, rfl, rfl, rfl, rfl⟩
    have hlast := hmirrors.after hsource hstart hstart horizon steps
    exact ⟨congrArg Track.history hlast.track, hlast.now, hlast.triggers⟩

/-- An update that is triggered a microsecond after another action calls for its token when its wait
of three seconds is over, and it has the history that it has alone. -/
theorem triggers_undisturbed_second :
    let setting : PanelSetting := ⟨.standard, .fixed ⟨['t']⟩, .replying (.status 200)⟩
    let start : TimedPanel := {}
    let s := start.after setting none [.trigger .create, .advance 1000]
    let final := s.after setting none [.trigger .update, .advance 3000000000]
    let solo := start.after setting none [.advance 1000, .trigger .update, .advance 3000000000]
    s.live = true ∧ s.panel.triggers = 1 ∧ setting.source.DependsOnTime ∧
    (∃ answer, (3000001000, .tokenCall answer) ∈ historyOf final.panel.log 1) ∧
    historyOf solo.panel.log 0 = historyOf final.panel.log 1 := by
  intro setting start s final solo
  have hlive : s.live = true := live_advance setting (start.trigger setting .create) 1000
  have htriggers : s.panel.triggers = 1 :=
    triggers_advance setting (start.trigger setting .create) 1000
  have hsource : setting.source.DependsOnTime := fun _ _ _ _ => rfl
  have hstep : final = (s.trigger setting .update).advance setting 3000000000 := by
    show ((s.step setting none (.trigger .update)).1.advance setting 3000000000) = _
    simp only [TimedPanel.step, hlive, if_true]
  have hfinal : final.live = true := by rw [hstep, live_advance]; exact hlive
  have halone : start.alone setting none 1 [.trigger .create, .advance 1000, .trigger .update,
      .advance 3000000000] = [.advance 1000, .trigger .update, .advance 3000000000] := by
    calc _ = stepAlone setting none 1 start (.trigger .create) ++ ([.advance 1000] ++
          (s.stepAlone setting none 1 (.trigger .update) ++ [.advance 3000000000])) := rfl
      _ = _ := by simp [stepAlone, start, hlive, htriggers]
  obtain ⟨hpunctual, -, hsolo⟩ := triggers_undisturbed setting none {}
  obtain ⟨-, -, hcalled⟩ := hpunctual [.trigger .create, .advance 1000] .update
    [.advance 3000000000] hlive
  obtain ⟨hsame, -, -⟩ := hsolo hsource [.trigger .create, .advance 1000, .trigger .update,
    .advance 3000000000] 1
  refine ⟨hlive, htriggers, hsource, ?_, ?_⟩
  · have hnow : s.now = 1000 := rfl
    have hsends : setting.config.sendsAt s.now = 3000001000 := by rw [hnow]; decide
    have hreached : final.now = 3000001000 := by
      rw [hstep]
      show s.now + 3000000000 = _
      rw [hnow]
    have hmem := hcalled [.advance 3000000000] [] rfl hfinal
    rw [hsends, htriggers] at hmem
    exact hmem (.inr ⟨hreached.symm, _, rfl, rfl⟩)
  · rw [halone] at hsame
    exact hsame

end TimedPanel
end PersonGate
