import PersonGate.Cli.Run
/-!
# When a command line counts as logged in

Two parts of the program ask whether there is a token. The actions take one from the source of the
invocation; the navigation bar, unless told otherwise, looks whether one is configured. The two
agree but for one thing: a fixed token of blanks is none, so every action fails with it, and still
it counts as configured (`tokenConfigured_exact`). In the environment a blank value counts on
neither side.
-/
namespace PersonGate

/-- A variable has a token in it if it is set to text that is not blank. -/
theorem TokenSource.exists_fromEnvironment_iff (name : Text) (env : Environment) :
    (∃ token, fromEnvironment name env = .ok token) ↔
      ((env.var? name).any fun t => Text.trim t ≠ []) = true := by
  unfold fromEnvironment
  cases hvar : env.var? name with
  | none => simp
  | some raw =>
    simp only [Option.any_some, decide_eq_true_eq]
    constructor
    · rintro ⟨token, htoken⟩
      exact (BearerToken.ofText_eq_ok_iff.1 htoken).2
    · exact fun hne => ⟨⟨Text.trim raw⟩, BearerToken.ofText_eq_ok_iff.2 ⟨rfl, hne⟩⟩

namespace Cli.Invocation
variable {invocation : Invocation}

/-- The token for a call in an environment; it is the same for every call there. -/
def tokenIn (invocation : Invocation) (env : Environment) : Except TokenError BearerToken :=
  match invocation.token with
  | some raw => BearerToken.ofText raw
  | none => TokenSource.fromEnvironment invocation.tokenEnv env

/-- The invocation has a source, and a call of it gives a token. -/
def HasToken (invocation : Invocation) (call : TokenCall) : Prop :=
  ∃ tokens token, invocation.source = .ok tokens ∧ tokens call = .ok token

/-- There is a fixed token, and it is a text of blanks. -/
def HasBlankToken (invocation : Invocation) : Prop :=
  ∃ raw, invocation.token = some raw ∧ ∀ c ∈ raw, Text.isBlank c = true

theorem source_call {tokens : TokenSource} (h : invocation.source = .ok tokens) (call : TokenCall) :
    tokens call = invocation.tokenIn call.environment := by
  unfold source at h
  unfold tokenIn
  cases htoken : invocation.token with
  | none =>
    obtain rfl : TokenSource.ofVariable invocation.tokenEnv = tokens := by simpa [htoken] using h
    rfl
  | some raw =>
    simp only [htoken] at h ⊢
    cases hraw : BearerToken.ofText raw with
    | error cause => simp [hraw] at h
    | ok token =>
      obtain rfl : TokenSource.fixed token = tokens := by simpa [hraw] using h
      rfl

/-- Only a fixed token that is blank leaves an invocation without a source. -/
theorem source_eq_error_iff {cause : CommandError} :
    invocation.source = .error cause ↔ invocation.HasBlankToken ∧ cause = .token .empty := by
  unfold source HasBlankToken
  cases htoken : invocation.token with
  | none => simp
  | some raw =>
    simp only [Option.some.injEq, exists_eq_left']
    cases hraw : BearerToken.ofText raw with
    | ok token =>
      obtain ⟨-, hne⟩ := BearerToken.ofText_eq_ok_iff.1 hraw
      simp [← Text.trim_eq_nil_iff, hne]
    | error e =>
      obtain ⟨rfl, hblank⟩ := BearerToken.ofText_eq_error_iff.1 hraw
      simp only [Except.error.injEq]
      exact ⟨fun hcause => ⟨hblank, hcause.symm⟩, fun h => h.2.symm⟩

/-- A source gives no token if the variable behind it is not set to text that is not blank. -/
theorem blank_of_source_call {tokens : TokenSource} (h : invocation.source = .ok tokens)
    {call : TokenCall} {cause : TokenError} (hcall : tokens call = .error cause) :
    invocation.token = none ∧ ∀ raw, call.environment.var? invocation.tokenEnv = some raw →
      ∀ c ∈ raw, Text.isBlank c = true := by
  rw [source_call h, tokenIn] at hcall
  cases htoken : invocation.token with
  | some raw =>
    simp only [htoken] at hcall
    simp [source, htoken, hcall] at h
  | none =>
    simp only [htoken] at hcall
    refine ⟨rfl, fun raw hvar => ?_⟩
    simp only [TokenSource.fromEnvironment, hvar] at hcall
    exact (BearerToken.ofText_eq_error_iff.1 hcall).2

theorem hasToken_iff (call : TokenCall) :
    invocation.HasToken call ↔ ∃ token, invocation.tokenIn call.environment = .ok token := by
  constructor
  · rintro ⟨tokens, token, hsource, htoken⟩
    exact ⟨token, (source_call hsource call).symm.trans htoken⟩
  · rintro ⟨token, htoken⟩
    cases hsource : invocation.source with
    | ok tokens => exact ⟨tokens, token, hsource, (source_call hsource call).trans htoken⟩
    | error cause =>
      obtain ⟨⟨raw, hraw, hblank⟩, -⟩ := source_eq_error_iff.1 hsource
      simp [tokenIn, hraw, BearerToken.ofText_eq_error_iff.2 ⟨rfl, hblank⟩] at htoken

/-- An action has a request to send if a call of the source gives a token. -/
theorem isSome_request?_iff (env : Environment) (action : PersonAction) (index instant : Nat) :
    (invocation.request? env action).isSome = true ↔ invocation.HasToken ⟨index, instant, env⟩ := by
  rw [hasToken_iff, request?]
  cases hsource : invocation.source with
  | error cause =>
    obtain ⟨⟨raw, hraw, hblank⟩, -⟩ := source_eq_error_iff.1 hsource
    simp [tokenIn, hraw, BearerToken.ofText_eq_error_iff.2 ⟨rfl, hblank⟩]
  | ok tokens =>
    simp only [source_call hsource]
    cases invocation.tokenIn env <;> simp

/-- **What counts as logged in.** A token is configured if a call of the source in that environment
gives a token, or if the fixed token is blank; then there is no source at all. So the bar, if no
flag says otherwise, shows the way out if an action would have a request to send, or the fixed token
is blank. -/
theorem tokenConfigured_exact (invocation : Invocation) (call : TokenCall) :
    let env := call.environment
    (invocation.tokenConfigured env = true ↔
      invocation.HasToken call ∨ invocation.HasBlankToken) ∧
    (invocation.HasBlankToken ↔ invocation.source = .error (.token .empty)) ∧
    ∀ (surroundings : Surroundings) (action : PersonAction), surroundings.environment = env →
      ∃ loggedIn, (run { invocation with command := .nav none } surroundings).output =
          line (NavBar.treeWhen loggedIn).html ∧
        (loggedIn = true ↔ (invocation.request? env action).isSome = true ∨
          invocation.HasBlankToken) := by
  intro env
  have hconfigured : invocation.tokenConfigured env = true ↔
      invocation.HasToken call ∨ invocation.HasBlankToken := by
    rw [hasToken_iff]
    unfold tokenConfigured tokenIn HasBlankToken
    cases htoken : invocation.token with
    | none =>
      rw [or_iff_left (by simp), Option.isSome_none, Bool.false_or,
        TokenSource.exists_fromEnvironment_iff]
    | some raw =>
      simp only [Option.isSome_some, Bool.true_or, true_iff, Option.some.injEq, exists_eq_left']
      cases hraw : BearerToken.ofText raw with
      | ok token => exact .inl ⟨token, rfl⟩
      | error e => exact .inr (BearerToken.ofText_eq_error_iff.1 hraw).2
  refine ⟨hconfigured, by simp [source_eq_error_iff], fun surroundings action henv => ?_⟩
  refine ⟨invocation.tokenConfigured env, by rw [← henv]; rfl, ?_⟩
  rw [hconfigured, isSome_request?_iff env action call.index call.instant]

/-- The command line `--token " " nav`. -/
theorem tokenConfigured_blank :
    ∃ invocation, parse {} (["--token", " ", "nav"].map fun word => OsText.ofText word.toList) =
        .ok invocation ∧
      invocation.tokenConfigured {} = true ∧ ∀ call, ¬ invocation.HasToken call := by
  refine ⟨.ofGiven { token := some [' '] } (.nav none), rfl, rfl, ?_⟩
  rintro call ⟨tokens, token, hsource, -⟩
  cases hsource

end Cli.Invocation
end PersonGate
