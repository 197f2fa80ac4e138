import ClassScope.Proofs.Build.Session

/-!
# Calls

A host uses a session by calling it. Three calls are hooks and have an order; between them it may
look up a name, the names met so far, or the naming that scripts are told, as often as it likes.
This file lists once what a call can do (`Session.Effect`), and runs sequences of calls
(`Session.run`). Main statements:

- `Session.effect_perform`: a call in a consistent session has one of the listed effects;
- `Session.invariant_of_mem_run`: what every effect keeps holds all along a run.
-/

namespace ClassScope.Session

/-- A call of a session. -/
inductive Call where
  /-- Transforms a module. -/
  | transform (name code : Text)
  /-- Marks the bundle as written. -/
  | bundle (manifest : Manifest)
  /-- Finishes the markup. -/
  | finish (html : Text)
  /-- Looks a name up. -/
  | resolve (name : Text)
  /-- Asks for the names met so far. -/
  | classMap
  /-- Asks for the naming that scripts are told. -/
  | naming
  deriving DecidableEq, Repr

/-- The hook that a call is, if it is one. -/
def Call.hook? : Call → Option Hook
  | .transform _ _ => some .transform
  | .bundle _ => some .bundle
  | .finish _ => some .finish
  | .resolve _ | .classMap | .naming => none

/-- What a call gives. -/
inductive Reply where
  /-- The hook was called out of order. -/
  | refused (e : OutOfOrder)
  /-- A setting has a value that cannot be used. -/
  | failed (e : Setting.Misuse)
  /-- Nothing, and all went well. -/
  | done
  /-- A text. -/
  | text (s : WideText)
  /-- The names met so far with their full names. -/
  | entries (entries : List (Text × Text))
  /-- The scope that scripts are told. -/
  | naming (scope : Setting)
  deriving DecidableEq, Repr

/-- The call was refused. -/
def Reply.isRefused : Reply → Bool
  | .refused _ => true
  | _ => false

/-- What a call gives, and the session after it. A hook that is called out of order gives no
session, so the host goes on with the one it has. -/
def perform (session : Session) : Call → Reply × Session
  | .transform name code =>
    match session.transform name code with
    | .error e => (.refused e, session)
    | .ok (code, next) => (.text (WideText.ofText code), next)
  | .bundle manifest =>
    match session.bundle manifest with
    | .error e => (.refused e, session)
    | .ok next => (.done, next)
  | .finish html =>
    match session.finish html with
    | .error e => (.refused e, session)
    | .ok (.error e, next) => (.failed e, next)
    | .ok (.ok html, next) => (.text html, next)
  | .resolve name => (.text (WideText.ofText (session.resolve name).1), (session.resolve name).2)
  | .classMap => (.entries session.registry.entries, session)
  | .naming => (.naming session.config.publishedScope, session)

/-! ## What a call can do -/

/-- What a call gives in a session, and the session after it. -/
inductive Effect (session : Session) : Call → Reply → Session → Prop where
  /-- A hook that may not be called now is refused, and nothing changes. -/
  | refused {call : Call} {hook : Hook} (isHook : call.hook? = some hook)
      (outOfOrder : hook.allowedIn session.phase = false) :
      Effect session call (.refused ⟨hook, session.phase⟩) session
  /-- A module is transformed. -/
  | transform (name code : Text) (inOrder : Hook.transform.allowedIn session.phase = true) :
      Effect session (.transform name code)
        (.text (WideText.ofText (session.config.moduleText name code)))
        (session.afterModule (name, code))
  /-- The bundle is marked as written. -/
  | bundle (manifest : Manifest) (inOrder : Hook.bundle.allowedIn session.phase = true) :
      Effect session (.bundle manifest) .done { session with phase := .bundled, manifest }
  /-- The markup is finished. -/
  | finish (html : Text) (inOrder : session.phase = .bundled) {finished : WideText}
      (result : session.config.finishedMarkup session.manifest html = .ok finished) :
      Effect session (.finish html) (.text finished)
        { session with
          phase := .done
          registry := session.registry.enter (session.config.markupNames html) }
  /-- The markup cannot be finished, though its names have been looked up. -/
  | fail (html : Text) (inOrder : session.phase = .bundled) {e : Setting.Misuse}
      (result : session.config.finishedMarkup session.manifest html = .error e) :
      Effect session (.finish html) (.failed e)
        { session with
          phase := .finishing
          registry := session.registry.enter (session.config.markupNames html) }
  /-- A name is looked up. -/
  | resolve (name : Text) :
      Effect session (.resolve name)
        (.text (WideText.ofText (Registry.fullName session.config.scope name)))
        { session with registry := session.registry.enter [name] }
  /-- The names met so far are given. -/
  | classMap : Effect session .classMap (.entries session.registry.entries) session
  /-- The naming is given. -/
  | naming : Effect session .naming (.naming session.config.publishedScope) session

variable {session : Session}

/-- A hook that is not allowed now is out of order. -/
theorem require_of_not_allowed {hook : Hook} (h : hook.allowedIn session.phase = false) :
    session.require hook = .error ⟨hook, session.phase⟩ := by
  rw [require, h]
  rfl

theorem perform_transform_of_not_allowed (h : Hook.transform.allowedIn session.phase = false)
    (name code : Text) :
    session.perform (.transform name code) = (.refused ⟨.transform, session.phase⟩, session) := by
  rw [perform, transform, require_of_not_allowed h]
  rfl

theorem perform_bundle_of_not_allowed (h : Hook.bundle.allowedIn session.phase = false)
    (manifest : Manifest) :
    session.perform (.bundle manifest) = (.refused ⟨.bundle, session.phase⟩, session) := by
  rw [perform, bundle, require_of_not_allowed h]
  rfl

theorem perform_finish_of_not_allowed (h : Hook.finish.allowedIn session.phase = false)
    (html : Text) :
    session.perform (.finish html) = (.refused ⟨.finish, session.phase⟩, session) := by
  rw [perform, finish, require_of_not_allowed h]
  rfl

/-- A call in a consistent session has one of the effects that are listed. -/
theorem effect_perform (h : session.Consistent) (call : Call) :
    Effect session call (session.perform call).1 (session.perform call).2 := by
  cases call with
  | transform name code =>
    cases hallowed : Hook.transform.allowedIn session.phase with
    | false =>
      rw [perform_transform_of_not_allowed hallowed]
      exact .refused rfl hallowed
    | true =>
      rw [perform, transform_eq h hallowed]
      exact .transform name code hallowed
  | bundle manifest =>
    cases hallowed : Hook.bundle.allowedIn session.phase with
    | false =>
      rw [perform_bundle_of_not_allowed hallowed]
      exact .refused rfl hallowed
    | true =>
      rw [perform, bundle_eq hallowed]
      exact .bundle manifest hallowed
  | finish html =>
    cases hallowed : Hook.finish.allowedIn session.phase with
    | false =>
      rw [perform_finish_of_not_allowed hallowed]
      exact .refused rfl hallowed
    | true =>
      have hphase : session.phase = .bundled := by simpa [Hook.allowedIn] using hallowed
      rw [perform, finish_eq h hphase]
      cases hresult : session.config.finishedMarkup session.manifest html with
      | error e => exact .fail html hphase hresult
      | ok finished => exact .finish html hphase hresult
  | resolve name =>
    have hname : (session.resolve name).1 = Registry.fullName session.config.scope name := by
      rw [← h.scope]
      exact Registry.resolve_fst h.valid name
    rw [perform, hname]
    exact .resolve name
  | classMap => exact .classMap
  | naming => exact .naming

namespace Effect

variable {session' : Session} {call : Call} {reply : Reply}

/-- No call changes the configuration. -/
theorem config_eq (h : Effect session call reply session') : session'.config = session.config := by
  cases h <;> rfl

/-- The names that a call has looked up. -/
theorem registry_eq (h : Effect session call reply session') :
    ∃ names, session'.registry = session.registry.enter names := by
  cases h with
  | refused | bundle | classMap | naming => exact ⟨[], rfl⟩
  | transform name code => exact ⟨session.config.moduleNames name code, rfl⟩
  | finish html | fail html => exact ⟨session.config.markupNames html, rfl⟩
  | resolve name => exact ⟨[name], rfl⟩

theorem consistent (h : Effect session call reply session') (hconsistent : session.Consistent) :
    session'.Consistent := by
  obtain ⟨names, hnames⟩ := h.registry_eq
  exact hconsistent.enter names h.config_eq hnames

/-- A call that is refused leaves the session as it was. -/
theorem eq_of_refused (h : Effect session call reply session') (hrefused : reply.isRefused = true) :
    session' = session := by
  cases h with
  | refused => rfl
  | transform | bundle | finish | fail | resolve | classMap | naming => cases hrefused

/-- Exactly the hooks that may not be called now are refused. -/
theorem isRefused_iff (h : Effect session call reply session') :
    reply.isRefused = true ↔
      ∃ hook, call.hook? = some hook ∧ hook.allowedIn session.phase = false := by
  cases h with
  | refused isHook outOfOrder => simp [Reply.isRefused, isHook, outOfOrder]
  | transform name code inOrder => simp [Reply.isRefused, Call.hook?, inOrder]
  | bundle manifest inOrder => simp [Reply.isRefused, Call.hook?, inOrder]
  | finish html inOrder | fail html inOrder =>
    simp [Reply.isRefused, Call.hook?, Hook.allowedIn, inOrder]
  | resolve | classMap | naming => simp [Reply.isRefused, Call.hook?]

end Effect

/-! ## Runs -/

/-- A call with what it gave and the sessions before and after it. -/
structure Step where
  /-- The session before the call. -/
  before : Session
  /-- The call. -/
  call : Call
  /-- What it gave. -/
  reply : Reply
  /-- The session after the call. -/
  after : Session
  deriving DecidableEq, Repr

/-- The call was not refused. -/
def Step.accepted (step : Step) : Bool := !step.reply.isRefused

/-- The hook that was called in a step, unless it was refused. -/
def Step.hook? (step : Step) : Option Hook := if step.accepted then step.call.hook? else none

/-- The step that a call is in a session. -/
def step (session : Session) (call : Call) : Step where
  before := session
  call := call
  reply := (session.perform call).1
  after := (session.perform call).2

/-- Some calls, one after the other. -/
def run (session : Session) : List Call → List Step
  | [] => []
  | call :: calls => session.step call :: (session.step call).after.run calls

/-- The session after some calls. -/
def after (session : Session) (calls : List Call) : Session :=
  calls.foldl (fun session call => (session.step call).after) session

/-- What holds at first and is kept by every effect holds before and after every step of a run, and
every step has an effect. -/
theorem invariant_of_mem_run {P : Session → Prop}
    (hkeep : ∀ {s s' : Session} {call : Call} {reply : Reply},
      P s → Effect s call reply s' → P s')
    (hconsistent : session.Consistent) (hstart : P session) {calls : List Call} {step : Step}
    (hstep : step ∈ session.run calls) :
    P step.before ∧ P step.after ∧ Effect step.before step.call step.reply step.after := by
  induction calls generalizing session with
  | nil => cases hstep
  | cons call calls ih =>
    have heffect := effect_perform hconsistent call
    rcases List.mem_cons.1 hstep with rfl | hstep
    · exact ⟨hstart, hkeep hstart heffect, heffect⟩
    · exact ih (heffect.consistent hconsistent) (hkeep hstart heffect) hstep

/-- A session stays consistent in every run. -/
theorem consistent_after (h : session.Consistent) (calls : List Call) :
    (session.after calls).Consistent := by
  induction calls generalizing session with
  | nil => exact h
  | cons call calls ih => exact ih ((effect_perform h call).consistent h)

/-- A session keeps its configuration in every run. -/
theorem config_after (h : session.Consistent) (calls : List Call) :
    (session.after calls).config = session.config := by
  induction calls generalizing session with
  | nil => rfl
  | cons call calls ih =>
    have heffect := effect_perform h call
    exact (ih (heffect.consistent h)).trans heffect.config_eq

end ClassScope.Session
