import PersonGate.Proofs.Panel.Causes
import PersonGate.Proofs.Panel.Ledger
import PersonGate.Proofs.Service.EndToEnd
/-!
# A token goes into a header and nowhere else

Take two panels whose token sources give and refuse tokens at the same places, where one token may
stand for quite another one. The user sees and hears the same of both (`ShownAlike`), and what they
send at the same instants differs in the `Authorization` header only. What is in that header is the
token that the source gave for this very request (`Carried`); the two facts together are
`tokens_stay_in_header`.

At the clock one token may stand for another if both can be sent and the requests with them get the
same replies (`Interchangeable`). Where a source takes its tokens from does not matter: the
environments may differ, and so may what is done to them.
-/
namespace PersonGate
open ActionPanel

/-- No character of the token but a tab is a control character. -/
def BearerToken.CanBeSent (token : BearerToken) : Prop :=
  ¬∃ c ∈ token.secret, c.toNat < 0x20 ∧ c ≠ '\t' ∨ c.toNat = 0x7F

/-- Both tokens can be sent, and the requests with them get the same replies. -/
structure Interchangeable (endpoint other : Endpoint) (a b : BearerToken) : Prop where
  left : a.CanBeSent
  right : b.CanBeSent
  receive : ∀ (instant : Nat) (request : SentRequest),
    endpoint instant { request with authorization := a.authorization } =
      other instant { request with authorization := b.authorization }

/-- What there is of a request besides its authorization, and whether it arrived. -/
def TaskEvent.outline? : TaskEvent → Option (SentRequest × Bool)
  | .attempt request arrived => some ({ request with authorization := [] }, arrived)
  | _ => none

namespace ActionPanel

/-- The readings of a log, each with its task and instant. -/
def stamped {α : Type} (read : TaskEvent → Option α) (log : List LogEntry) :
    List (Nat × Nat × α) :=
  log.filterMap fun entry => (read entry.event).map fun a => (entry.task, entry.instant, a)

/-- The same is published, told, outstanding and rendered, and the same requests are sent at the
same instants, whatever they carry as their authorization. -/
structure ShownAlike (panel other : ActionPanel) : Prop where
  published : panel.board.published = other.board.published
  told : stamped TaskEvent.notice? panel.log = stamped TaskEvent.notice? other.log
  outstanding : panel.outstanding = other.outstanding
  rendered : panel.view.html = other.view.html
  sent : stamped TaskEvent.outline? panel.log = stamped TaskEvent.outline? other.log

/-- The requests of a log carry, one by one, the tokens that there were: each at the instant of its
own token call, and for the same task. -/
def Carried (log : List LogEntry) : Prop :=
  (stamped TaskEvent.sent? log).map (fun (task, instant, request) =>
      (task, instant, request.authorization)) =
    (stamped TaskEvent.token? log).map fun (task, instant, token) =>
      (task, instant, "Bearer ".toList ++ token.secret)

/-! ## What is in the header -/

theorem stamped_note {α : Type} (read : TaskEvent → Option α) (log : List LogEntry)
    (id instant : Nat) (events : List TaskEvent) :
    stamped read (log ++ events.map fun event => ⟨id, instant, event⟩) =
      stamped read log ++ (events.filterMap read).map fun a => (id, instant, a) := by
  rw [stamped, List.filterMap_append, List.filterMap_map, List.map_filterMap]
  rfl

/-- A move that sends a request asks for its token first. -/
theorem Carried.append {log : List LogEntry} (h : Carried log) {events : List TaskEvent}
    (hb : Block events) (id instant : Nat) :
    Carried (log ++ events.map fun event => ⟨id, instant, event⟩) := by
  rw [Carried, stamped_note, stamped_note, List.map_append, List.map_append, h]
  cases hb with
  | sent token hauthorization arrived =>
    exact congrArg (fun text => _ ++ [(id, instant, text)]) hauthorization
  | _ => rfl

theorem Carried.move (config : ClientConfig) (panel : ActionPanel) (m : Move)
    (h : Carried panel.log) : Carried (panel.move config m).log := by
  obtain ⟨id, instant, events, hb, -, hlog⟩ := log_move config panel m
  exact hlog ▸ h.append hb id instant

end ActionPanel

/-! ## What is not in the header -/

theorem ReceptionsAlike.refl (reception : Reception) : ReceptionsAlike reception reception := by
  cases reception with
  | refused => exact .refused
  | held => exact .held
  | answered reply => exact .answered Iff.rfl

namespace Leeway

/-- Tokens may differ in this way, and so may the environments that they are taken from. -/
def inTokens (T : BearerToken → BearerToken → Prop) : Leeway := ⟨T, Eq, fun _ _ => True⟩

variable {l : Leeway}

theorem AnswersAlike.imp {l' : Leeway} (h : ∀ a b, l.token a b → l'.token a b)
    {answer other : Except TokenError BearerToken} (hanswer : l.AnswersAlike answer other) :
    l'.AnswersAlike answer other := by
  cases hanswer with
  | token htoken => exact .token (h _ _ htoken)
  | none a b => exact .none a b

theorem EntriesAlike.stamped {log others : List LogEntry}
    (h : List.Forall₂ l.EntriesAlike log others) {α : Type} {read : TaskEvent → Option α}
    (hread : ∀ e f, l.EventsAlike e f → read e = read f) :
    ActionPanel.stamped read log = ActionPanel.stamped read others := by
  induction h with
  | nil => rfl
  | cons he _ ih =>
    obtain ⟨task, instant, he⟩ := he
    simp only [ActionPanel.stamped, List.filterMap_cons, hread _ _ he] at ih ⊢
    rw [ih]

/-- Panels that differ in their tokens only are the same to everyone but the other side. -/
theorem PanelsAlike.shownAlike {panel other : ActionPanel} (h : l.PanelsAlike panel other)
    (hcome : ∀ a b, l.reception a b → ReceptionsAlike a b) : ShownAlike panel other where
  published := congrArg StatusBoard.published h.board
  told := EntriesAlike.stamped h.log fun e f he => by cases he <;> rfl
  outstanding := h.outstanding
  rendered := by rw [h.view]
  sent := EntriesAlike.stamped h.log fun e f he => by
    cases he with
    | attempt hrequest hreception =>
      obtain ⟨request, -⟩ := hrequest
      simp only [TaskEvent.outline?, (hcome _ _ hreception).arrives]
    | _ => rfl

end Leeway

/-! ## Two sessions -/

namespace TimedPanel

/-- The step does something to the environment, and nothing to the panel. -/
def Step.IsAround : Step → Prop
  | .setVariable _ _ | .unsetVariable _ => True
  | _ => False

/-- The same step, or two steps that change the environment, each as it likes. -/
inductive SameInside : Step → Step → Prop
  | same (step : Step) : SameInside step step
  | around {step other : Step} (h : step.IsAround) (h' : other.IsAround) : SameInside step other

theorem step_of_isAround {step : Step} (h : step.IsAround) (setting : PanelSetting)
    (horizon : Option Nat) (s : TimedPanel) :
    s.step setting horizon step =
      ({ s with environment := step.onEnvironment s.environment }, .done) := by
  cases step with
  | setVariable name value => rfl
  | unsetVariable name => rfl
  | _ => exact h.elim

end TimedPanel

namespace Leeway
open TimedPanel
variable {l : Leeway} {setting other : PanelSetting}

/-- Sessions keep what is alike alike, as long as the environments are. -/
theorem TimedAlike.after {s t : TimedPanel} (h : l.TimedAlike s t)
    (hworlds : l.WorldsAlike setting other) (horizon : Option Nat) {steps others : List Step}
    (hsteps : List.Forall₂ SameInside steps others)
    (henv : ∀ n, l.environment (s.after setting horizon (steps.take n)).environment
      (t.after other horizon (others.take n)).environment) (n : Nat) :
    l.TimedAlike (s.after setting horizon (steps.take n))
      (t.after other horizon (others.take n)) := by
  induction hsteps generalizing s t n with
  | nil => simpa [TimedPanel.after] using h
  | @cons step step' _ _ hstep _ ih =>
    cases n with
    | zero => exact h
    | succ n =>
      have hnext : l.environment (s.step setting horizon step).1.environment
          (t.step other horizon step').1.environment := henv 1
      refine ih ?_ (fun n => henv (n + 1)) n
      cases hstep with
      | same => exact (h.step_of_environment hworlds horizon (.same step) hnext).1
      | around hstep hstep' =>
        simp only [step_of_isAround hstep, step_of_isAround hstep'] at hnext ⊢
        exact ⟨h.now, hnext, h.panel, h.live⟩

end Leeway

/-- The requests with two interchangeable tokens leave the client alike and are received alike. -/
theorem Interchangeable.receive_eq {endpoint other : Endpoint} {a b : BearerToken}
    (h : Interchangeable endpoint other a b) (instant : Nat) (request : SentRequest) :
    endpoint.receive instant { request with authorization := a.authorization } =
      other.receive instant { request with authorization := b.authorization } := by
  have hall : ∀ token : BearerToken, token.CanBeSent →
      token.authorization.all Http.isSendable = true := fun token htoken =>
    (all_isSendable_authorization token).trans (all_isSendable_iff.2 htoken)
  have hsendable : SentRequest.isSendable { request with authorization := a.authorization } =
      SentRequest.isSendable { request with authorization := b.authorization } := by
    rw [SentRequest.isSendable, SentRequest.isSendable, hall a h.left, hall b h.right]
    rfl
  rw [Endpoint.receive, Endpoint.receive, hsendable, h.receive]

/-- Tokens may be interchangeable ones, and environments may differ in which the sources answer
alike. -/
def Leeway.inSources (source source' : TokenSource) (endpoint endpoint' : Endpoint) : Leeway where
  token := Interchangeable endpoint endpoint'
  reception := Eq
  environment env env' := ∀ index instant,
    (inTokens (Interchangeable endpoint endpoint')).AnswersAlike
      (source ⟨index, instant, env⟩) (source' ⟨index, instant, env'⟩)

theorem Leeway.worldsAlike_inSources (config : ClientConfig) (source source' : TokenSource)
    (endpoint endpoint' : Endpoint) :
    (inSources source source' endpoint endpoint').WorldsAlike ⟨config, source, endpoint⟩
      ⟨config, source', endpoint'⟩ where
  config := rfl
  source := fun index instant env env' henv => by
    refine AnswersAlike.imp ?_ (henv index instant)
    exact fun _ _ htokens => htokens
  receive := by
    rintro instant _ _ ⟨request, htokens⟩
    exact Interchangeable.receive_eq htokens instant request
  come := fun a b (heq : a = b) => heq ▸ .refl a

namespace ActionPanel
open TimedPanel

/-- **A token goes into the `Authorization` header and nowhere else.** Take two runs with the same
moves in the same order, whose token calls succeed and fail at the same places and whose requests
get the same replies, while the tokens may be quite different ones. After every move the same was
published, told and is outstanding and rendered, and the same requests were sent at the same
instants, but for their authorization. The same goes for two sessions, on clocks that show the
same, whose sources have interchangeable tokens in the environments that they come upon. Every
request of a run or of a session carries `Bearer ` and the token of its own call. And no description
of a token or of the source that holds it depends on the token. -/
theorem tokens_stay_in_header :
    (∀ (T : BearerToken → BearerToken → Prop) (config : ClientConfig) (moves others : List Move),
      List.Forall₂ (Leeway.inTokens T).MovesAlike moves others → ∀ n,
        ShownAlike (play config {} (moves.take n)) (play config {} (others.take n))) ∧
    (∀ (config : ClientConfig) (source source' : TokenSource) (endpoint endpoint' : Endpoint)
      (horizon : Option Nat) (env env' : Environment) (steps others : List Step),
      let mine n := TimedPanel.after ⟨config, source, endpoint⟩ horizon { environment := env }
        (steps.take n)
      let theirs n := TimedPanel.after ⟨config, source', endpoint'⟩ horizon { environment := env' }
        (others.take n)
      List.Forall₂ SameInside steps others →
      (∀ n index instant, (Leeway.inTokens (Interchangeable endpoint endpoint')).AnswersAlike
        (source ⟨index, instant, (mine n).environment⟩)
        (source' ⟨index, instant, (theirs n).environment⟩)) →
      ∀ n, (mine n).now = (theirs n).now ∧ (mine n).live = (theirs n).live ∧
        ShownAlike (mine n).panel (theirs n).panel) ∧
    (∀ config moves, Carried (play config {} moves).log) ∧
    (∀ setting horizon env steps,
      Carried (TimedPanel.after setting horizon { environment := env } steps).panel.log) ∧
    ∀ token : BearerToken, token.description = "BearerToken(<redacted>)" ∧
      TokenSource.fixedDescription token =
        "StaticTokenProvider \x7b token: BearerToken(<redacted>) \x7d" := by
  have hempty : Carried [] := rfl
  refine ⟨?_, ?_, fun config => log_play (Carried.move config) hempty,
    fun setting horizon env => log_after (Carried.move setting.config) horizon hempty,
    fun _ => ⟨rfl, rfl⟩⟩
  · intro T config moves others hmoves n
    have h : (Leeway.inTokens T).PanelsAlike (play config {} (moves.take n))
        (play config {} (others.take n)) :=
      Leeway.PanelsAlike.start.play config (List.forall₂_take n hmoves)
    exact h.shownAlike fun a b (heq : a = b) => heq ▸ .refl a
  · intro config source source' endpoint endpoint' horizon env env' steps others mine theirs hsteps
      hanswers n
    have hworlds := Leeway.worldsAlike_inSources config source source' endpoint endpoint'
    have hstart : (Leeway.inSources source source' endpoint endpoint').TimedAlike
        { environment := env } { environment := env' } := ⟨rfl, hanswers 0, .start, rfl⟩
    have h := hstart.after hworlds horizon hsteps hanswers n
    exact ⟨h.now, h.live, h.panel.shownAlike hworlds.come⟩

/-- Two runs with two tokens, and two sessions in which a variable is set to two other ones. -/
theorem tokens_stay_in_header_rotated :
    let run (token : BearerToken) := play .standard {} [.schedule 0 0 .create, .begin 0 0,
      .proceed (fun _ => .held) 0 0 (.ok token), .resolve 1 0 (.ok 201)]
    let session (secret : Text) (n : Nat) :=
      TimedPanel.after ⟨.standard, .ofVariable ['T'], .holding⟩ none {}
        ([.setVariable ['T'] (.ofText secret), .trigger .create, .advance 2].take n)
    (requests (run ⟨['a']⟩).log).map SentRequest.authorization = ["Bearer a".toList] ∧
      (requests (run ⟨['b', 'b']⟩).log).map SentRequest.authorization = ["Bearer bb".toList] ∧
      ShownAlike (run ⟨['a']⟩) (run ⟨['b', 'b']⟩) ∧
      ∀ n, ShownAlike (session ['a'] n).panel (session ['b', 'b'] n).panel := by
  intro run session
  obtain ⟨hruns, hsessions, -⟩ := tokens_stay_in_header
  refine ⟨rfl, rfl, ?_, fun n => ?_⟩
  · have hmoves : List.Forall₂ (Leeway.inTokens fun _ _ => True).MovesAlike
        [.schedule 0 0 .create, .begin 0 0, .proceed (fun _ => .held) 0 0 (.ok ⟨['a']⟩),
          .resolve 1 0 (.ok 201)]
        [.schedule 0 0 .create, .begin 0 0, .proceed (fun _ => .held) 0 0 (.ok ⟨['b', 'b']⟩),
          .resolve 1 0 (.ok 201)] :=
      .cons (.schedule 0 0 .create) (.cons (.begin 0 0) (.cons
        (.proceed 0 0 (fun _ _ _ => rfl) (.token trivial)) (.cons (.resolve 1 0 Iff.rfl) .nil)))
    exact hruns _ .standard _ _ hmoves 4
  · have hsteps : List.Forall₂ SameInside
        [.setVariable ['T'] (.ofText ['a']), .trigger .create, .advance 2]
        [.setVariable ['T'] (.ofText ['b', 'b']), .trigger .create, .advance 2] :=
      .cons (.around trivial trivial) (.cons (.same _) (.cons (.same _) .nil))
    have htokens : Interchangeable .holding .holding ⟨['a']⟩ ⟨['b', 'b']⟩ :=
      ⟨by simp [BearerToken.CanBeSent], by simp [BearerToken.CanBeSent], fun _ _ => rfl⟩
    have hanswers : (Leeway.inTokens (Interchangeable .holding .holding)).AnswersAlike
        (.ok ⟨['a']⟩) (.ok ⟨['b', 'b']⟩) := .token htokens
    refine (hsessions .standard (.ofVariable ['T']) (.ofVariable ['T']) .holding .holding none {} {}
      _ _ hsteps (fun n index instant => ?_) n).2.2
    rw [environment_after, environment_after]
    match n with
    | 0 => exact .none _ _
    | 1 | 2 => exact hanswers
    | n + 3 =>
      rw [List.take_of_length_le (by simp), List.take_of_length_le (by simp)]
      exact hanswers

end ActionPanel
end PersonGate
