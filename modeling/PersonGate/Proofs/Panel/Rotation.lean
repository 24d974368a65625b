import PersonGate.Proofs.Panel.Fate
import PersonGate.Proofs.Text.Padded
/-!
# A token that changes takes effect at dispatch

A panel whose tokens come from an environment variable asks for the token of a trigger when the wait
of the trigger is over, and the value that the variable has then is all that counts of it: the
request carries its trim, or there is no request if it gives no token (`Dispatched`). Two triggers
that were made at the same instant, and for which the variable has the same value when their waits
are over, have the same history as far as both go, whatever values there were before and after
(`Fate.comparable`). The other variables are of no account at all: a session without the steps that
set them leads to the same panel (`SeesAlike.after`).

The headline is `rotation_exact`.
-/
namespace PersonGate
open ActionPanel

/-! ## The token in a variable -/

/-- A value of a variable gives no token: the variable is not set, it is not text, or it is
blank. -/
def Tokenless (value : Option OsText) : Prop :=
  ∀ raw, value = some (.ofText raw) → Text.Blank raw

theorem Environment.var?_eq_some_iff {environment : Environment} {name raw : Text} :
    environment.var? name = some raw ↔ environment.get? name = some (.ofText raw) := by
  rw [var?, Option.bind_eq_bind, Option.bind_eq_some_iff]
  simp only [OsText.text?_eq_some_iff, exists_eq_right]

namespace TokenSource

theorem fromEnvironment_eq_ok_iff {name : Text} {environment : Environment} {token : BearerToken} :
    fromEnvironment name environment = .ok token ↔ ∃ raw,
      environment.get? name = some (.ofText raw) ∧ ¬Text.Blank raw ∧ token = ⟨Text.trim raw⟩ := by
  simp only [← Environment.var?_eq_some_iff, fromEnvironment]
  cases environment.var? name with
  | none => simp
  | some raw =>
    simp only [Option.some.injEq, exists_eq_left', BearerToken.ofText_eq_ok_iff]
    rw [and_comm, ne_eq, Text.trim_eq_nil_iff]
    refine and_congr_right fun _ => ?_
    cases token
    simp

theorem tokenless_of_fromEnvironment {name : Text} {environment : Environment} {cause : TokenError}
    (h : fromEnvironment name environment = .error cause) : Tokenless (environment.get? name) := by
  intro raw hset
  by_contra hsolid
  rw [fromEnvironment_eq_ok_iff.2 ⟨raw, hset, hsolid, rfl⟩] at h
  cases h

/-- What a source reads from a variable depends on the value of the variable alone. -/
theorem fromEnvironment_congr {name : Text} {environment other : Environment}
    (h : other.get? name = environment.get? name) :
    fromEnvironment name other = fromEnvironment name environment := by
  rw [fromEnvironment, fromEnvironment, Environment.var?, Environment.var?, h]

end TokenSource

namespace ActionPanel

/-! ## What comes of a dispatch -/

/-- What has happened to a trigger made at an instant, by the environment in which its token was
asked for. Before that it waits. If the variable gives a token, a request with it is sent once; and
if not, the trigger fails at once, without a request and without a notice. -/
inductive Dispatched (config : ClientConfig) (name : Text) (t : Nat) (action : PersonAction) :
    Option Environment → History → Prop
  | waiting : Dispatched config name t action none [(t, .scheduled action)]
  | sent {environment : Environment} {raw : Text}
    (hset : environment.get? name = some (.ofText raw)) (hsolid : ¬Text.Blank raw) (arrived : Bool)
    {rest : History} (hrest : ∀ entry ∈ rest, entry.2.isEnd = true) :
    Dispatched config name t action (some environment)
      ([(t, .scheduled action), (config.sendsAt t, .sending),
        (config.sendsAt t, .tokenCall (.ok ⟨Text.trim raw⟩)),
        (config.sendsAt t, .attempt
          ⟨action.method, config.personUrl, "Bearer ".toList ++ Text.trim raw, none⟩ arrived)] ++
        rest)
  | abandoned {environment : Environment} (hnone : Tokenless (environment.get? name))
    (cause : TokenError) :
    Dispatched config name t action (some environment)
      [(t, .scheduled action), (config.sendsAt t, .sending),
        (config.sendsAt t, .tokenCall (.error cause)), (config.sendsAt t, .finished .failed)]

theorem Fate.dispatched {config : ClientConfig} {name : Text} {endpoint : Endpoint} {t : Nat}
    {action : PersonAction} {asked : Option Environment} {replies : List (Nat × Reply)}
    {track : Track} (h : Fate ⟨config, .ofVariable name, endpoint⟩ t action asked replies track) :
    Dispatched config name t action asked track.history := by
  cases h with
  | waiting => exact .waiting
  | abandoned hsource => exact .abandoned (TokenSource.tokenless_of_fromEnvironment hsource) _
  | sent hsource _ hresolves =>
    obtain ⟨raw, hset, hsolid, rfl⟩ := TokenSource.fromEnvironment_eq_ok_iff.1 hsource
    obtain ⟨rest, hhistory, hrest⟩ := hresolves.history
    rw [hhistory]
    exact .sent hset hsolid _ hrest

/-! ## Two triggers -/

/-- One history is as far as the other has come too. -/
def Comparable (history other : History) : Prop := history <+: other ∨ other <+: history

theorem Comparable.refl (history : History) : Comparable history history :=
  .inl (List.prefix_refl _)

/-- The same request with the same replies comes to the same end, if it comes to one. -/
theorem Resolves.comparable {limit : Option Nat} {e : Nat} {sent : Reception → Track}
    {reception : Reception} {replies : List (Nat × Reply)} {track other : Track}
    (h : Resolves limit e sent reception replies track)
    (h' : Resolves limit e sent reception replies other) :
    Comparable track.history other.history := by
  cases h with
  | refused | answered | replied =>
    cases h'
    exact .refl _
  | held =>
    cases h' with
    | held => exact .refl _
    | givenUp => exact .inl (List.prefix_append _ _)
  | givenUp hlimit =>
    cases h' with
    | held => exact .inr (List.prefix_append _ _)
    | givenUp hlimit' =>
      obtain rfl := Option.some.inj (hlimit.symm.trans hlimit')
      exact .refl _

namespace Fate
variable {setting : PanelSetting} {t : Nat} {action : PersonAction}
  {asked asked' : Option Environment} {replies : List (Nat × Reply)} {track track' : Track}

theorem scheduled_prefix (h : Fate setting t action asked replies track) :
    [(t, .scheduled action)] <+: track.history := by
  cases h with
  | waiting => exact List.prefix_refl _
  | abandoned => exact ⟨_, rfl⟩
  | sent _ _ hresolves =>
    obtain ⟨rest, hhistory, -⟩ := hresolves.history
    rw [hhistory]
    exact ⟨_, rfl⟩

/-- Two triggers made at the same instant, which got the same answer for their token and the same
replies to their requests, have the same history as far as both go. -/
theorem comparable (h : Fate setting t action asked replies track)
    (h' : Fate setting t action asked' replies track')
    (hsource : ∀ environment environment', asked = some environment → asked' = some environment' →
      ∀ i j, setting.source ⟨i, setting.config.sendsAt t, environment⟩ =
        setting.source ⟨j, setting.config.sendsAt t, environment'⟩) :
    Comparable track.history track'.history := by
  have hsame : ∀ {i j environment environment' answer answer'}, asked = some environment →
      asked' = some environment' →
      setting.source ⟨i, setting.config.sendsAt t, environment⟩ = answer →
      setting.source ⟨j, setting.config.sendsAt t, environment'⟩ = answer' → answer = answer' :=
    fun hasked hasked' hanswer hanswer' =>
      hanswer.symm.trans ((hsource _ _ hasked hasked' _ _).trans hanswer')
  cases h with
  | waiting => exact .inl h'.scheduled_prefix
  | abandoned hanswer =>
    cases h' with
    | waiting => exact .inr ⟨_, rfl⟩
    | abandoned hanswer' =>
      cases hsame rfl rfl hanswer hanswer'
      exact .refl _
    | sent hanswer' => cases hsame rfl rfl hanswer hanswer'
  | sent hanswer hreception hresolves =>
    have hown : Fate setting t action (some _) replies track := .sent hanswer hreception hresolves
    cases h' with
    | waiting => exact .inr hown.scheduled_prefix
    | abandoned hanswer' => cases hsame rfl rfl hanswer hanswer'
    | sent hanswer' hreception' hresolves' =>
      cases hsame rfl rfl hanswer hanswer'
      obtain rfl := hreception.symm.trans hreception'
      exact hresolves.comparable hresolves'

end Fate
end ActionPanel

namespace TimedPanel

/-! ## The environment at an instant -/

variable {setting : PanelSetting} {horizon : Option Nat} {s : TimedPanel}

/-- Before the clock has come to an instant no task was let run up to it. -/
theorem environmentAt?_eq_none {e : Nat} {steps : List Step}
    (h : (s.after setting horizon steps).now < e) :
    environmentAt? setting horizon e s steps = none := by
  induction steps generalizing s with
  | nil => rfl
  | cons step rest ih =>
    have hnext := le_now_after setting horizon (s.step setting horizon step).1 rest
    have hearly : s.askedIn? setting horizon e step = none := by
      rw [askedIn?, if_neg]
      rintro ⟨-, -, hreached⟩
      exact absurd (Nat.le_trans hreached hnext) (Nat.not_le.2 h)
    rw [environmentAt?, hearly, Option.none_or]
    exact ih h

/-- While the steps let no task run, none is let run up to an instant. -/
theorem environmentAt?_of_idle {e : Nat} {steps : List Step}
    (h : ∀ step ∈ steps, step.runs = false) : environmentAt? setting horizon e s steps = none := by
  induction steps generalizing s with
  | nil => rfl
  | cons step rest ih =>
    obtain ⟨hidle, hrest⟩ := List.forall_mem_cons.1 h
    have hasked : s.askedIn? setting horizon e step = none := by simp [askedIn?, hidle]
    rw [environmentAt?, hasked, Option.none_or]
    exact ih hrest

/-- The environment at an instant is what the steps before the clock came to it made of the first
one; where there is nothing to wait for, the steps before tasks were let run. -/
theorem environmentAt?_of_passed {e : Nat} {first : List Step} {step : Step} (rest : List Step)
    (hlive : (s.after setting horizon first).live = true) (hruns : step.runs = true)
    (hbefore : (s.after setting horizon first).now < e ∨ ∀ idle ∈ first, idle.runs = false)
    (hreached : e ≤ ((s.after setting horizon first).step setting horizon step).1.now) :
    environmentAt? setting horizon e s (first ++ step :: rest) =
      some (first.foldl Step.onEnvironment s.environment) := by
  have hfirst : environmentAt? setting horizon e s first = none :=
    hbefore.elim environmentAt?_eq_none environmentAt?_of_idle
  rw [environmentAt?_append, hfirst, Option.none_or, environmentAt?,
    askedIn?_of_runs hlive hruns, if_pos hreached, Option.some_or, environment_after]

/-! ## The other variables -/

/-- Does the step leave all variables but this one as they are? -/
def Step.sparesOthers (name : Text) : Step → Bool
  | .setVariable other _ | .unsetVariable other => other = name
  | _ => true

section
variable {environment : Environment}

/-- Nothing that happens at an instant sees more of the environment than the source does. -/
theorem wake_environment (setting : PanelSetting) (s : TimedPanel)
    (hsource : ∀ i instant, setting.source ⟨i, instant, environment⟩ =
      setting.source ⟨i, instant, s.environment⟩) (task : Task) :
    wake setting { s with environment := environment } task =
      { wake setting s task with environment := environment } := by
  unfold wake
  split
  · rw [tokenCall, hsource]
    rfl
  · rfl
  · rfl
  · rfl

theorem deliver_environment (s : TimedPanel) (task : Task) :
    deliver { s with environment := environment } task =
      { deliver s task with environment := environment } := by
  unfold deliver
  split <;> rfl

theorem foldl_environment {act : TimedPanel → Task → TimedPanel} {seen : Environment}
    (hkeeps : ∀ s task, ∃ panel, act s task = { s with panel := panel })
    (hact : ∀ s task, s.environment = seen →
      act { s with environment := environment } task =
        { act s task with environment := environment })
    (tasks : List Task) {s : TimedPanel} (hs : s.environment = seen) :
    tasks.foldl act { s with environment := environment } =
      { tasks.foldl act s with environment := environment } := by
  induction tasks generalizing s with
  | nil => rfl
  | cons task rest ih =>
    obtain ⟨panel, hpanel⟩ := hkeeps s task
    rw [List.foldl_cons, List.foldl_cons, hact s task hs]
    exact ih (by rw [hpanel]; exact hs)

theorem runDue_environment (setting : PanelSetting) (s : TimedPanel)
    (hsource : ∀ i instant, setting.source ⟨i, instant, environment⟩ =
      setting.source ⟨i, instant, s.environment⟩) :
    runDue setting { s with environment := environment } =
      { runDue setting s with environment := environment } := by
  have hwoken := foldl_environment (wake_eq setting)
    (fun other task (hother : other.environment = s.environment) =>
      wake_environment setting other (by rwa [hother]) task)
    (s.panel.tasks.filter (isDue s.now)) rfl
  unfold runDue
  rw [hwoken]
  exact foldl_environment deliver_eq (fun other task _ => deliver_environment other task) _ rfl

theorem runUntil_environment (setting : PanelSetting) (limit : Option Nat) (s : TimedPanel)
    (hsource : ∀ i instant, setting.source ⟨i, instant, environment⟩ =
      setting.source ⟨i, instant, s.environment⟩) :
    runUntil setting limit { s with environment := environment } =
      { runUntil setting limit s with environment := environment } := by
  induction s using runUntil.induct setting limit with
  | case1 s hnone =>
    have hnone' : ({ s with environment := environment } : TimedPanel).next? limit = none := hnone
    rw [runUntil_of_none hnone, runUntil_of_none hnone']
  | case2 s t hsome ih =>
    have hsome' : ({ s with environment := environment } : TimedPanel).next? limit = some t := hsome
    have hdue := runDue_environment setting { s with now := max s.now t } hsource
    obtain ⟨panel, hpanel⟩ := runDue_eq setting { s with now := max s.now t }
    rw [runUntil_of_some hsome, runUntil_of_some hsome', ← ih (by rw [hpanel]; exact hsource)]
    exact congrArg _ hdue

/-- A step does the same in another environment in which the source finds the same. -/
theorem step_environment (setting : PanelSetting) (horizon : Option Nat) (s : TimedPanel)
    (hsource : ∀ i instant, setting.source ⟨i, instant, environment⟩ =
      setting.source ⟨i, instant, s.environment⟩) (step : Step) :
    (({ s with environment := environment } : TimedPanel).step setting horizon step).1 =
      { (s.step setting horizon step).1 with environment := step.onEnvironment environment } := by
  have hadvance : ∀ span, advance setting { s with environment := environment } span =
      { s.advance setting span with environment := environment } := fun span => by
    rw [advance, runUntil_environment setting _ s hsource]
    rfl
  cases step with
  | advance span => exact hadvance span
  | reply action reply =>
    have hheld : ({ s.advance setting 0 with environment := environment } : TimedPanel).held?
        action.method = (s.advance setting 0).held? action.method := rfl
    simp only [TimedPanel.step, reply_eq, hadvance, hheld]
    cases (s.advance setting 0).held? action.method <;> rfl
  | waitIdle =>
    have hsettle : settle setting { s with environment := environment } horizon =
        { s.settle setting horizon with environment := environment } :=
      runUntil_environment setting _ s hsource
    have hidle : ({ s.settle setting horizon with environment := environment } : TimedPanel).isIdle =
        (s.settle setting horizon).isIdle := rfl
    simp only [TimedPanel.step, waitIdle, hsettle, hidle]
    split
    · split <;> rfl
    · rfl
  | setVariable other value => rfl
  | unsetVariable other => rfl
  | trigger | render | teardown | drop =>
    simp only [TimedPanel.step]
    split <;> rfl

end

/-- The states differ in their environments only, and a variable has the same value in both. -/
def SeesAlike (name : Text) (s other : TimedPanel) : Prop :=
  ∃ environment : Environment, other = { s with environment := environment } ∧
    environment.get? name = s.environment.get? name

theorem get?_onEnvironment_of_not_sparesOthers {name : Text} {step : Step}
    (h : step.sparesOthers name = false) (environment : Environment) :
    (step.onEnvironment environment).get? name = environment.get? name := by
  cases step with
  | setVariable other value =>
    exact Environment.get?_set_of_ne (Ne.symm (of_decide_eq_false h)) environment value
  | unsetVariable other =>
    exact Environment.get?_unset_of_ne (Ne.symm (of_decide_eq_false h)) environment
  | _ => cases h

theorem get?_onEnvironment_congr {name : Text} {environment other : Environment}
    (h : other.get? name = environment.get? name) (step : Step) :
    (step.onEnvironment other).get? name = (step.onEnvironment environment).get? name := by
  cases hspares : step.sparesOthers name with
  | false =>
    rw [get?_onEnvironment_of_not_sparesOthers hspares,
      get?_onEnvironment_of_not_sparesOthers hspares, h]
  | true =>
    cases step with
    | setVariable key value =>
      obtain rfl : key = name := of_decide_eq_true hspares
      rw [Step.onEnvironment, Step.onEnvironment, Environment.get?_set_self,
        Environment.get?_set_self]
    | unsetVariable key =>
      obtain rfl : key = name := of_decide_eq_true hspares
      rw [Step.onEnvironment, Step.onEnvironment, Environment.get?_unset_self,
        Environment.get?_unset_self]
    | _ => exact h

namespace SeesAlike
variable {config : ClientConfig} {name : Text} {endpoint : Endpoint} {other : TimedPanel}

theorem step (h : SeesAlike name s other) (config : ClientConfig) (endpoint : Endpoint)
    (horizon : Option Nat) (step : Step) :
    let setting : PanelSetting := ⟨config, .ofVariable name, endpoint⟩
    SeesAlike name (s.step setting horizon step).1 (other.step setting horizon step).1 := by
  intro setting
  obtain ⟨environment, rfl, hvalue⟩ := h
  refine ⟨_, step_environment setting horizon s
    (fun _ _ => TokenSource.fromEnvironment_congr hvalue) step, ?_⟩
  rw [environment_step]
  exact get?_onEnvironment_congr hvalue step

/-- A step that sets another variable may as well be left out. -/
theorem skip (h : SeesAlike name s other) (setting : PanelSetting) (horizon : Option Nat)
    {step : Step} (hskip : step.sparesOthers name = false) :
    SeesAlike name (s.step setting horizon step).1 other := by
  obtain ⟨environment, rfl, hvalue⟩ := h
  refine ⟨environment, ?_, ?_⟩
  · cases step with
    | setVariable key value => rfl
    | unsetVariable key => rfl
    | _ => cases hskip
  · rw [environment_step, get?_onEnvironment_of_not_sparesOthers hskip, hvalue]

theorem after (h : SeesAlike name s other) (config : ClientConfig) (endpoint : Endpoint)
    (horizon : Option Nat) (steps : List Step) :
    let setting : PanelSetting := ⟨config, .ofVariable name, endpoint⟩
    SeesAlike name (s.after setting horizon steps)
      (other.after setting horizon (steps.filter (Step.sparesOthers name))) := by
  intro setting
  induction steps generalizing s other with
  | nil => exact h
  | cons step rest ih =>
    cases hspares : step.sparesOthers name with
    | true =>
      rw [List.filter_cons_of_pos hspares]
      exact ih (h.step config endpoint horizon step)
    | false =>
      rw [List.filter_cons_of_neg (by simp [hspares])]
      exact ih (h.skip setting horizon hspares)

end SeesAlike

/-! ## Triggers of a session -/

section
variable {config : ClientConfig} {name : Text} {endpoint : Endpoint}
  {made madeOther : List (Nat × PersonAction)}

/-- A trigger sees the variable as it is when its wait is over. -/
theorem dispatched_trigger (hs : Orderly config made s) (hlive : s.live = true)
    (endpoint : Endpoint) (horizon : Option Nat) (action : PersonAction) (later : List Step) :
    let setting : PanelSetting := ⟨config, .ofVariable name, endpoint⟩
    let steps := .trigger action :: later
    Dispatched config name s.now action
      (environmentAt? setting horizon (config.sendsAt s.now) s steps)
      (historyOf (s.after setting horizon steps).panel.log s.panel.triggers) := by
  intro setting steps
  obtain ⟨track, hhistory, -, hfate⟩ :
    ∃ track, historyOf (s.after setting horizon steps).panel.log s.panel.triggers = track.history ∧
      _ ∧ Fate setting s.now action _ _ track :=
    fate_trigger hs hlive horizon action later
  rw [hhistory]
  exact hfate.dispatched

/-- Two triggers that see the same value have the same history as far as both go. -/
theorem comparable_trigger {other : TimedPanel} {action : PersonAction} {later otherLater : List Step}
    (hs : Orderly config made s) (hother : Orderly config madeOther other) (hlive : s.live = true)
    (hotherLive : other.live = true) (hnow : other.now = s.now) :
    let setting : PanelSetting := ⟨config, .ofVariable name, endpoint⟩
    let e := config.sendsAt s.now
    let steps := .trigger action :: later
    let otherSteps := .trigger action :: otherLater
    (∀ there otherThere, environmentAt? setting horizon e s steps = some there →
      environmentAt? setting horizon e other otherSteps = some otherThere →
      otherThere.get? name = there.get? name) →
    repliesTo setting horizon other.panel.triggers other otherSteps =
      repliesTo setting horizon s.panel.triggers s steps →
    Comparable (historyOf (s.after setting horizon steps).panel.log s.panel.triggers)
      (historyOf (other.after setting horizon otherSteps).panel.log other.panel.triggers) := by
  intro setting e steps otherSteps hvalue hreplies
  obtain ⟨track, hhistory, -, hfate⟩ :
    ∃ track, historyOf (s.after setting horizon steps).panel.log s.panel.triggers = track.history ∧
      _ ∧ Fate setting s.now action (environmentAt? setting horizon e s steps) _ track :=
    fate_trigger hs hlive horizon action later
  have hother : Orderly setting.config madeOther other := hother
  obtain ⟨otherTrack, hotherHistory, -, hotherFate⟩ :=
    fate_trigger hother hotherLive horizon action otherLater
  rw [hnow, hreplies] at hotherFate
  rw [hhistory, hotherHistory]
  refine hfate.comparable hotherFate fun there otherThere hthere hotherThere _ _ => ?_
  exact (TokenSource.fromEnvironment_congr (hvalue there otherThere hthere hotherThere)).symm

end

/-- **A token that changes takes effect at dispatch.** In every session of a panel whose tokens come
from an environment variable: when the wait of a trigger is over, the request of the trigger carries
the trim of the value that the variable then has; and if the variable then is not set, not text or
blank, the trigger fails without a request and without a notice. The environment at that instant is
what the steps made of it before the clock came there, or before tasks were let run if there is
nothing to wait for. Two triggers that were made at the same instant, and for which the variable then
has the same value, have the same history as far as both go if they get the same replies, whatever
values the variable had before and has after. And if all steps that set other variables are left
out, and these have other values to begin with, the panel comes to the same. -/
theorem rotation_exact (config : ClientConfig) (name : Text) (endpoint : Endpoint)
    (horizon : Option Nat) (environment : Environment) :
    let setting : PanelSetting := ⟨config, .ofVariable name, endpoint⟩
    let start : TimedPanel := { environment }
    (∀ before action later,
      let s := start.after setting horizon before
      let steps := .trigger action :: later
      let final := s.after setting horizon steps
      s.live = true →
        Dispatched config name s.now action
          (environmentAt? setting horizon (config.sendsAt s.now) s steps)
          (historyOf final.panel.log s.panel.triggers)) ∧
    (∀ before first step rest e,
      let s := start.after setting horizon before
      let reached := s.after setting horizon first
      reached.live = true → step.runs = true →
        (reached.now < e ∨ ∀ idle ∈ first, idle.runs = false) →
        e ≤ (reached.step setting horizon step).1.now →
        environmentAt? setting horizon e s (first ++ step :: rest) =
          some ((before ++ first).foldl Step.onEnvironment environment)) ∧
    (∀ otherEnvironment before otherBefore action later otherLater,
      let s := start.after setting horizon before
      let other :=
        ({ environment := otherEnvironment } : TimedPanel).after setting horizon otherBefore
      let e := config.sendsAt s.now
      let steps := .trigger action :: later
      let otherSteps := .trigger action :: otherLater
      s.live = true → other.live = true → other.now = s.now →
        (∀ there otherThere, environmentAt? setting horizon e s steps = some there →
          environmentAt? setting horizon e other otherSteps = some otherThere →
          otherThere.get? name = there.get? name) →
        repliesTo setting horizon other.panel.triggers other otherSteps =
          repliesTo setting horizon s.panel.triggers s steps →
        Comparable (historyOf (s.after setting horizon steps).panel.log s.panel.triggers)
          (historyOf (other.after setting horizon otherSteps).panel.log other.panel.triggers)) ∧
    ∀ (otherEnvironment : Environment) steps,
      otherEnvironment.get? name = environment.get? name →
      let s := start.after setting horizon steps
      let other := ({ environment := otherEnvironment } : TimedPanel).after setting horizon
        (steps.filter (Step.sparesOthers name))
      other.panel = s.panel ∧ other.now = s.now ∧ other.live = s.live := by
  intro setting start
  refine ⟨?_, ?_, ?_, ?_⟩
  · intro before action later s steps final hlive
    obtain ⟨_, hs⟩ := (Orderly.start setting.config environment).after horizon before
    exact dispatched_trigger hs hlive endpoint horizon action later
  · intro before first step rest e s reached hlive hruns hbefore hreached
    rw [environmentAt?_of_passed rest hlive hruns hbefore hreached, List.foldl_append,
      environment_after]
  · intro otherEnvironment before otherBefore action later otherLater s other e steps otherSteps
      hlive hotherLive hnow hvalue hreplies
    obtain ⟨_, hs⟩ := (Orderly.start setting.config environment).after horizon before
    obtain ⟨_, hother⟩ := (Orderly.start setting.config otherEnvironment).after horizon
      otherBefore
    exact comparable_trigger hs hother hlive hotherLive hnow hvalue hreplies
  · intro otherEnvironment steps hvalue s other
    obtain ⟨_, hother, -⟩ := SeesAlike.after (s := start) ⟨otherEnvironment, rfl, hvalue⟩ config
      endpoint horizon steps
    have hsame : other = { s with environment := _ } := hother
    rw [hsame]
    exact ⟨rfl, rfl, rfl⟩

/-- A token is set anew between a trigger and the end of its wait, and once more after that. -/
theorem rotation_exact_between :
    let name := "TOKEN".toList
    let config := ClientConfig.standard.withActionDelay ⟨3⟩
    let setting : PanelSetting := ⟨config, .ofVariable name, .replying (.status 200)⟩
    let start : TimedPanel := { environment := Environment.set {} name (.ofText "old".toList) }
    let steps := [Step.trigger .create, .setVariable name (.ofText " new ".toList), .advance 3,
      .setVariable name (.ofText "later".toList)]
    start.live = true ∧
    ∃ arrived, (3, .attempt ⟨.post, config.personUrl, "Bearer new".toList, none⟩ arrived) ∈
      historyOf (start.after setting none steps).panel.log 0 := by
  intro name config setting start steps
  have hlive : start.live = true := rfl
  obtain ⟨hdispatched, hpassed, -⟩ :=
    rotation_exact config name (.replying (.status 200)) none start.environment
  have hasked : environmentAt? setting none 3 start steps =
      some (start.environment.set name (.ofText " new ".toList)) :=
    hpassed [] (steps.take 2) (.advance 3) (steps.drop 3) 3 rfl rfl (.inl (by decide)) (by decide)
  have hfinal : Dispatched config name 0 .create (environmentAt? setting none 3 start steps)
      (historyOf (start.after setting none steps).panel.log 0) :=
    hdispatched [] .create steps.tail hlive
  have hvalue : (start.environment.set name (.ofText " new ".toList)).get? name =
      some (.ofText " new ".toList) := by decide
  rw [hasked] at hfinal
  refine ⟨hlive, ?_⟩
  generalize historyOf (start.after setting none steps).panel.log 0 = history at hfinal
  cases hfinal with
  | abandoned hnone cause => exact absurd (hnone _ hvalue 'n' (by decide)) (by decide)
  | @sent _ _ hset hsolid arrived rest hrest =>
    obtain rfl := Option.some.inj ((Environment.var?_eq_some_iff.2 hset).symm.trans
      (Environment.var?_eq_some_iff.2 hvalue))
    refine ⟨arrived, List.mem_append_left rest ?_⟩
    exact List.mem_cons_of_mem _ (List.mem_cons_of_mem _ (List.mem_cons_of_mem _
      (List.mem_singleton_self _)))

end TimedPanel
end PersonGate
