import Mathlib.Data.List.Chain
import PersonGate.Proofs.Panel.Display
/-!
# What a panel publishes

The activity of a panel has three kinds of changes: a trigger, the start of sending, and an end.
Each publishes one status, and nothing else publishes any (`Publishes`). Which status may come after
which depends on the kind of change (`Follows`): a result is published only by the end that brought
it, after a request was on its way, and only a trigger publishes after it. The changes are those that
the moves alone make. The headline is `published_exact`.
-/
namespace PersonGate

namespace PanelStatus

/-- One status is published right after another. -/
inductive Next : PanelStatus → PanelStatus → Prop
  | idle_pending : Next .idle .pending
  | pending_pending : Next .pending .pending
  | pending_inFlight : Next .pending .inFlight
  | inFlight_inFlight : Next .inFlight .inFlight
  | inFlight_pending : Next .inFlight .pending
  | inFlight_succeeded : Next .inFlight .succeeded
  | inFlight_failed : Next .inFlight .failed
  | succeeded_pending : Next .succeeded .pending
  | failed_pending : Next .failed .pending

/-- Nothing leads back to idleness. -/
theorem Next.ne_idle {status after : PanelStatus} (h : Next status after) : after ≠ .idle := by
  cases h <;> simp

/-- Is the status the result of an action? -/
def IsResult (status : PanelStatus) : Prop := status = .succeeded ∨ status = .failed

theorem isResult_ofOutcome (outcome : Outcome) : (ofOutcome outcome).IsResult := by
  cases outcome
  · exact .inl rfl
  · exact .inr rfl

/-- A change of the activity of a panel that shows the first status publishes the second. -/
inductive Follows : Change → PanelStatus → PanelStatus → Prop
  | trigger {status : PanelStatus} (h : status ≠ .inFlight) : Follows .trigger status .pending
  | triggerInFlight : Follows .trigger .inFlight .inFlight
  | startPending : Follows .start .pending .inFlight
  | startInFlight : Follows .start .inFlight .inFlight
  /-- Another request is still on its way. -/
  | finishInFlight (result : PanelStatus) : Follows (.finish result) .inFlight .inFlight
  /-- Another task still waits. -/
  | finishPending (result : PanelStatus) : Follows (.finish result) .inFlight .pending
  | finish {result : PanelStatus} (h : result.IsResult) : Follows (.finish result) .inFlight result

namespace Follows
variable {change : Change} {status after : PanelStatus}

theorem next (h : Follows change status after) : Next status after := by
  cases h with
  | trigger h =>
    cases status with
    | inFlight => exact absurd rfl h
    | _ => constructor
  | finish h => rcases h with rfl | rfl <;> constructor
  | _ => constructor

/-- A result is published by the end that brought it. -/
theorem of_isResult (h : Follows change status after) (hafter : after.IsResult) :
    status = .inFlight ∧ change = .finish after := by
  cases h with
  | finish h => exact ⟨rfl, rfl⟩
  | _ => simp [IsResult] at hafter

/-- After a result only a trigger publishes. -/
theorem eq_trigger (h : Follows change status after) (hstatus : status.IsResult) :
    change = .trigger := by
  cases h with
  | trigger h => rfl
  | _ => simp [IsResult] at hstatus

end Follows

/-- These changes in a row, of a panel that shows a status at first, publish these statuses, each
change one. -/
inductive Publishes : PanelStatus → List Change → List PanelStatus → Prop
  | nothing (status : PanelStatus) : Publishes status [] []
  | publish {change : Change} {status next : PanelStatus} {changes : List Change}
    {published : List PanelStatus} (first : Follows change status next)
    (rest : Publishes next changes published) :
    Publishes status (change :: changes) (next :: published)

namespace Publishes
variable {status : PanelStatus} {changes : List Change} {published : List PanelStatus}

theorem one {change : Change} {next : PanelStatus} (h : Follows change status next) :
    Publishes status [change] [next] := .publish h (.nothing next)

/-- More changes publish more, from the status that was published last. -/
theorem append (h : Publishes status changes published) {more : List Change}
    {news : List PanelStatus} (hmore : Publishes (published.getLast?.getD status) more news) :
    Publishes status (changes ++ more) (published ++ news) := by
  induction h with
  | nothing status => exact hmore
  | publish first rest ih =>
    refine .publish first (ih ?_)
    rwa [List.getLast?_cons, Option.getD_some] at hmore

theorem isChain (h : Publishes status changes published) : (status :: published).IsChain Next := by
  induction h with
  | nothing status => exact .singleton status
  | publish first rest ih => exact .cons_cons first.next ih

theorem idle_not_mem (h : Publishes status changes published) : .idle ∉ published := by
  induction h with
  | nothing status => exact List.not_mem_nil
  | publish first rest ih => exact List.not_mem_cons_of_ne_of_not_mem first.next.ne_idle.symm ih

/-- What comes before and after a published result. -/
theorem around_result (h : Publishes status changes published) {i : Nat} {result : PanelStatus}
    (hi : published[i]? = some result) (hresult : result.IsResult) :
    (status :: published)[i]? = some .inFlight ∧ changes[i]? = some (.finish result) ∧
      ∀ change ∈ changes[i + 1]?, change = .trigger := by
  induction h generalizing i with
  | nothing status => simp at hi
  | publish first rest ih =>
    cases i with
    | succ i => exact ih hi
    | zero =>
      obtain rfl := Option.some.inj hi
      obtain ⟨rfl, rfl⟩ := first.of_isResult hresult
      refine ⟨rfl, rfl, fun change hmem => ?_⟩
      cases rest with
      | nothing => simp at hmem
      | publish second _ =>
        obtain rfl := Option.some.inj hmem
        exact second.eq_trigger hresult

end Publishes
end PanelStatus

open PanelStatus

/-! ## The three changes of an activity -/

namespace Activity
variable {a : Activity}

theorem follows_scheduled (hlast : ∀ status, a.last = some status → status.IsResult) :
    Follows .trigger a.status a.scheduled.status := by
  by_cases hflight : 0 < a.inFlight
  · simp only [status, scheduled, hflight, if_true]
    exact .triggerInFlight
  · simp only [status, scheduled, hflight, if_false, Nat.succ_pos, if_true]
    refine .trigger ?_
    split
    · simp
    · cases h : a.last with
      | none => simp
      | some last => rcases hlast last h with rfl | rfl <;> simp

theorem follows_sending (hpending : 0 < a.pending) :
    Follows .start a.status a.sending.status := by
  simp only [status, sending, hpending, Nat.succ_pos, if_true]
  by_cases hflight : 0 < a.inFlight
  · simp only [hflight, if_true]
    exact .startInFlight
  · simp only [hflight, if_false]
    exact .startPending

theorem follows_finished (hflight : 0 < a.inFlight) {result : PanelStatus}
    (hresult : result.IsResult) :
    Follows (.finish result) a.status (a.finished result).status := by
  simp only [status, finished, hflight, if_true, Option.getD_some]
  by_cases hmore : 0 < a.inFlight - 1
  · simp only [hmore, if_true]
    exact .finishInFlight result
  · by_cases hpending : 0 < a.pending
    · simp only [hmore, hpending, if_false, if_true]
      exact .finishPending result
    · simp only [hmore, hpending, if_false]
      exact .finish hresult

end Activity

/-! ## The moves of a panel -/

namespace ActionPanel

/-- The later panel has this change on its log in addition, and has published one status for it; for
no change it has published none. -/
def Announces (panel next : ActionPanel) (change : Option Change) : Prop :=
  ∃ news statuses, next.log = panel.log ++ news ∧
    readings TaskEvent.change? news = change.toList ∧
    next.board.published = panel.board.published ++ statuses ∧
    statuses.length = change.toList.length ∧
    Publishes panel.status change.toList statuses

theorem announces_of_eq {panel next : ActionPanel} (hboard : next.board = panel.board)
    {news : List LogEntry} (hlog : next.log = panel.log ++ news)
    (hnews : readings TaskEvent.change? news = []) : Announces panel next none :=
  ⟨news, [], hlog, hnews, by rw [hboard, List.append_nil], rfl, .nothing _⟩

theorem announces_of_update {panel next : ActionPanel} {activity : Activity}
    (hboard : next.board = panel.board.update activity) {news : List LogEntry}
    (hlog : next.log = panel.log ++ news) {change : Change}
    (hnews : readings TaskEvent.change? news = [change])
    (hfollows : Follows change panel.status activity.status) : Announces panel next (some change) :=
  ⟨news, [activity.status], hlog, hnews, by rw [hboard, StatusBoard.update], rfl, .one hfollows⟩

namespace Coherent
variable {config : ClientConfig} {panel : ActionPanel}

/-- Each move publishes what it changes. -/
theorem exists_announces_move (h : Coherent config panel) (m : Move) :
    ∃ change, Announces panel (panel.move config m) change := by
  have hsame : ∃ change, Announces panel panel change :=
    ⟨none, announces_of_eq rfl (List.append_nil _).symm rfl⟩
  have hshown := h.shown
  cases m with
  | collect chosen => exact hsame
  | schedule instant due action =>
    refine ⟨_, announces_of_update rfl rfl rfl ?_⟩
    rw [hshown]
    exact Activity.follows_scheduled fun status hs => h.result_of_last (h.last ▸ hs)
  | begin instant id =>
    simp only [ActionPanel.move, ActionPanel.begin]
    split
    · exact hsame
    · rename_i task ht
      obtain ⟨hmem, -, hphase⟩ := of_task? ht
      refine ⟨_, announces_of_update rfl rfl rfl ?_⟩
      rw [hshown]
      exact Activity.follows_sending (h.pending_pos hmem hphase)
  | proceed receive instant id answer =>
    simp only [ActionPanel.move, ActionPanel.proceed]
    split
    · exact hsame
    · rename_i task ht
      obtain ⟨hmem, -, hphase⟩ := of_task? ht
      have hpos := h.inFlight_pos hmem (by rw [TaskPhase.eq_asking hphase]; rfl)
      cases answer with
      | error cause =>
        refine ⟨_, announces_of_update rfl rfl rfl ?_⟩
        rw [hshown]
        exact Activity.follows_finished hpos (.inr rfl)
      | ok token => exact ⟨_, announces_of_eq rfl rfl rfl⟩
  | resolve instant id result =>
    simp only [ActionPanel.move, ActionPanel.resolve]
    split
    · exact hsame
    · rename_i task ht
      obtain ⟨hmem, -, hphase⟩ := of_task? ht
      obtain ⟨deadline, reception, hflight⟩ := TaskPhase.eq_inFlight hphase
      have hpos := h.inFlight_pos hmem (by rw [hflight]; rfl)
      refine ⟨_, announces_of_update rfl rfl rfl ?_⟩
      rw [hshown]
      exact Activity.follows_finished hpos (isResult_ofOutcome _)

/-- The change that a move publishes is the one that the move alone makes. -/
theorem announces_move (h : Coherent config panel) (m : Move) :
    Announces panel (panel.move config m) (m.effect panel.stages).2 := by
  obtain ⟨change, hannounces⟩ := h.exists_announces_move m
  obtain ⟨-, news, hlog, hnews⟩ := h.obeys_move m
  have hsame : change = (m.effect panel.stages).2 := by
    obtain ⟨news', -, hlog', hnews', -⟩ := hannounces
    rw [List.append_cancel_left (hlog'.symm.trans hlog), hnews] at hnews'
    simpa using congrArg List.head? hnews'.symm
  exact hsame ▸ hannounces

end Coherent

/-- A run publishes what it changes. -/
theorem publishes_play (config : ClientConfig) (moves : List Move) :
    let panel := play config {} moves
    Publishes .idle (readings TaskEvent.change? panel.log) panel.board.published := by
  -- the next move goes on from the status that was published last
  have hstep : ∀ (moves : List Move) (panel : ActionPanel), Coherent config panel →
      Publishes .idle (readings TaskEvent.change? panel.log) panel.board.published →
      Publishes .idle (readings TaskEvent.change? (panel.play config moves).log)
        (panel.play config moves).board.published := by
    intro moves
    induction moves with
    | nil => exact fun _ _ hpublished => hpublished
    | cons m rest ih =>
      intro panel h hpublished
      obtain ⟨news, statuses, hlog, hnews, hboard, -, hmore⟩ := h.announces_move m
      refine ih _ (h.move m) ?_
      rw [hlog, hboard, readings_append, hnews]
      exact hpublished.append hmore
  exact hstep moves {} (Coherent.start config) (.nothing .idle)

/-- **The status published follows one graph.** Whatever moves were made: every trigger, start of
sending and end, as the moves alone make them, publishes one status, and nothing else does; each
status may come after the one before it, the first one after idleness, which does not come back; a
result is published by the end that brought it, right after a request was on its way, and right
after it only a trigger publishes. The next move, whatever it is, publishes one status if it is a
trigger, a start of sending or an end, and none if it is not. -/
theorem published_exact (config : ClientConfig) (moves : List Move) :
    let panel := play config {} moves
    let changes := changesOf [] moves
    let history := .idle :: panel.board.published
    readings TaskEvent.action? panel.log = moves.filterMap Move.action? ∧
    readings TaskEvent.change? panel.log = changes ∧
    Publishes .idle changes panel.board.published ∧
    history.IsChain Next ∧
    .idle ∉ panel.board.published ∧
    (∀ i result, panel.board.published[i]? = some result → result.IsResult →
      history[i]? = some .inFlight ∧ changes[i]? = some (.finish result) ∧
        ∀ change ∈ changes[i + 1]?, change = .trigger) ∧
    ∀ m, Announces panel (panel.move config m) (m.effect (stagesAfter [] moves)).2 := by
  intro panel changes history
  obtain ⟨hstages, hchanges⟩ : panel.stages = stagesAfter [] moves ∧
      readings TaskEvent.change? panel.log = changes := obeys_play config moves
  have hpublished : Publishes .idle changes panel.board.published :=
    hchanges ▸ publishes_play config moves
  exact ⟨(scheduled_play config moves {}).1, hchanges, hpublished, hpublished.isChain,
    hpublished.idle_not_mem, fun i result => hpublished.around_result,
    hstages ▸ (coherent_play config moves).announces_move⟩

end ActionPanel
end PersonGate
