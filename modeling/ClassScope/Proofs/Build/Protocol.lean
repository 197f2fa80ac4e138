import ClassScope.Proofs.Build.Calls

/-!
# The protocol of a session

The hooks of a session have an order: modules are transformed, then the bundle is marked as written,
then the markup is finished. A host that keeps to it is never refused, and one that does not is
refused without harm. Main statement: `Session.keepsProtocol`, on all sequences of calls.

The proof follows the phase of the session, which says what hooks were accepted so far
(`Phase.Follows`).
-/

namespace ClassScope

/-- How many modules were transformed in all. -/
def Tally.total (tally : Tally) : Nat := tally.scripts + tally.styles + tally.skipped

/-- A module that is counted adds one, whatever its kind. -/
theorem Config.total_count (config : Config) (tally : Tally) (module : Text × Text) :
    (config.count tally module).total = tally.total + 1 := by
  unfold Config.count
  cases config.kindOf module.1 <;> simp only [ModuleKind.count, Tally.total] <;> omega

/-! ## The order of hooks -/

/-- The hooks are called in the order that is meant, and perhaps not yet to the end. -/
def Hook.Orderly (hooks : List Hook) : Prop :=
  ∃ count, hooks <+: List.replicate count .transform ++ [.bundle, .finish]

namespace Hook

/-- What comes after all transforms is the bundle and then the markup. -/
theorem orderly_replicate_append {hooks : List Hook} (h : hooks.head? ≠ some .transform)
    (count : Nat) :
    Orderly (List.replicate count .transform ++ hooks) ↔ hooks <+: [.bundle, .finish] := by
  constructor
  · rintro ⟨total, hstart⟩
    induction count generalizing total with
    | zero =>
      cases total with
      | zero => exact hstart
      | succ total =>
        -- The first hook would be a transform.
        cases hooks with
        | nil => exact List.nil_prefix
        | cons hook hooks =>
          rw [List.replicate_zero, List.nil_append, List.replicate_succ, List.cons_append,
            List.cons_prefix_cons] at hstart
          simp [hstart.1] at h
    | succ count ih =>
      rw [List.replicate_succ, List.cons_append] at hstart
      cases total with
      | zero =>
        rw [List.replicate_zero, List.nil_append, List.cons_prefix_cons] at hstart
        cases hstart.1
      | succ total =>
        rw [List.replicate_succ, List.cons_append, List.cons_prefix_cons] at hstart
        exact ih total hstart.2
  · intro hstart
    exact ⟨count, (List.prefix_append_right_inj _).2 hstart⟩

theorem Orderly.of_append {hooks others : List Hook} (h : Orderly (hooks ++ others)) :
    Orderly hooks := by
  obtain ⟨count, hstart⟩ := h
  exact ⟨count, (List.prefix_append hooks others).trans hstart⟩

/-- The markup is finished at most once. -/
theorem Orderly.count_finish_le {hooks : List Hook} (h : Orderly hooks) :
    hooks.count .finish ≤ 1 := by
  obtain ⟨count, hstart⟩ := h
  have hcount := hstart.sublist.count_le .finish
  simpa [List.count_append, List.count_replicate] using hcount

end Hook

/-- The phase of a session that has accepted some hooks and no others. -/
def Phase.Follows : Phase → List Hook → Prop
  | .configuring, past => past = []
  | .transforming, past => ∃ count, past = List.replicate (count + 1) .transform
  | .bundled, past => ∃ count, past = List.replicate count .transform ++ [.bundle]
  | .finishing, past | .done, past =>
    ∃ count, past = List.replicate count .transform ++ [.bundle, .finish]

namespace Phase

variable {phase : Phase} {past : List Hook}

theorem Follows.orderly (h : phase.Follows past) : Hook.Orderly past := by
  cases phase with
  | configuring =>
    rw [show past = [] from h]
    exact ⟨0, List.nil_prefix⟩
  | transforming =>
    obtain ⟨count, rfl⟩ := h
    exact ⟨count + 1, List.prefix_append _ _⟩
  | bundled =>
    obtain ⟨count, rfl⟩ := h
    exact (Hook.orderly_replicate_append (by simp) count).2 (by decide)
  | finishing | done =>
    obtain ⟨count, rfl⟩ := h
    exact (Hook.orderly_replicate_append (by simp) count).2 (by decide)

/-- A hook may be called exactly where it comes next. -/
theorem Follows.allowedIn_iff (h : phase.Follows past) (hook : Hook) :
    hook.allowedIn phase = true ↔ Hook.Orderly (past ++ [hook]) := by
  -- A transform goes on the transforms before it, any other hook ends them.
  have hempty : ∀ hook : Hook, Hook.Orderly [hook] ↔ hook ≠ .finish := by
    intro hook
    cases hook with
    | transform => exact ⟨fun _ => by simp, fun _ => ⟨1, by simp⟩⟩
    | bundle | finish =>
      rw [← List.nil_append [_], ← List.replicate_zero, Hook.orderly_replicate_append (by simp)]
      decide
  cases phase with
  | configuring =>
    rw [show past = [] from h, List.nil_append, hempty]
    cases hook <;> simp [Hook.allowedIn]
  | transforming =>
    obtain ⟨count, rfl⟩ := h
    cases hook with
    | transform =>
      refine iff_of_true rfl ⟨count + 2, ?_⟩
      rw [← List.replicate_succ']
      exact List.prefix_append _ _
    | bundle | finish =>
      rw [Hook.orderly_replicate_append (by simp)]
      decide
  | bundled =>
    obtain ⟨count, rfl⟩ := h
    rw [List.append_assoc, Hook.orderly_replicate_append (by simp)]
    cases hook <;> decide
  | finishing | done =>
    obtain ⟨count, rfl⟩ := h
    rw [List.append_assoc, Hook.orderly_replicate_append (by simp)]
    cases hook <;> decide

/-- After a hook that was accepted the phase follows that hook too. -/
theorem Follows.transform (h : phase.Follows past)
    (hallowed : Hook.transform.allowedIn phase = true) :
    Phase.transforming.Follows (past ++ [.transform]) := by
  cases phase with
  | configuring =>
    rw [show past = [] from h]
    exact ⟨0, rfl⟩
  | transforming =>
    obtain ⟨count, rfl⟩ := h
    exact ⟨count + 1, List.replicate_succ'.symm⟩
  | bundled | finishing | done => cases hallowed

theorem Follows.bundle (h : phase.Follows past) (hallowed : Hook.bundle.allowedIn phase = true) :
    Phase.bundled.Follows (past ++ [.bundle]) := by
  cases phase with
  | configuring =>
    rw [show past = [] from h]
    exact ⟨0, rfl⟩
  | transforming =>
    obtain ⟨count, rfl⟩ := h
    exact ⟨count + 1, rfl⟩
  | bundled | finishing | done => cases hallowed

theorem Follows.finish (h : Phase.bundled.Follows past) :
    ∃ count, past ++ [.finish] = List.replicate count .transform ++ [.bundle, .finish] := by
  obtain ⟨count, rfl⟩ := h
  exact ⟨count, List.append_assoc ..⟩

end Phase

namespace Session

variable {session : Session}

/-- The hooks among some calls. -/
def hooks (calls : List Call) : List Hook := calls.filterMap Call.hook?

/-- The hooks that were accepted in a run. -/
def acceptedHooks (steps : List Step) : List Hook := steps.filterMap Step.hook?

/-! ## Who is refused -/

/-- The phase after a call that was accepted. -/
theorem Effect.follows {session' : Session} {call : Call} {reply : Reply} {past : List Hook}
    (h : Effect session call reply session') (hpast : session.phase.Follows past)
    (haccepted : reply.isRefused = false) :
    session'.phase.Follows (past ++ call.hook?.toList) := by
  cases h with
  | refused => cases haccepted
  | transform name code inOrder => exact hpast.transform inOrder
  | bundle manifest inOrder => exact hpast.bundle inOrder
  | finish html inOrder | fail html inOrder =>
    rw [inOrder] at hpast
    exact hpast.finish
  | resolve | classMap | naming => rwa [Call.hook?, Option.toList_none, List.append_nil]

/-- No call of a run is refused exactly if its hooks go on in order. -/
theorem accepted_iff_orderly (h : session.Consistent) {past : List Hook}
    (hpast : session.phase.Follows past) (calls : List Call) :
    (∀ step ∈ session.run calls, step.accepted = true) ↔ Hook.Orderly (past ++ hooks calls) := by
  induction calls generalizing session past with
  | nil => simpa [run, hooks] using hpast.orderly
  | cons call calls ih =>
    have heffect := effect_perform h call
    rw [run, List.forall_mem_cons]
    cases hrefused : (session.perform call).1.isRefused with
    | false =>
      -- The others go on from where this call leads.
      have haccepted : (session.step call).accepted = true := by
        rw [Step.accepted, step, hrefused]
        rfl
      have hrest := ih (heffect.consistent h) (heffect.follows hpast hrefused)
      have hhooks : hooks (call :: calls) = call.hook?.toList ++ hooks calls := by
        simp only [hooks, List.filterMap_cons]
        cases call.hook? <;> rfl
      rw [hhooks, ← List.append_assoc, ← hrest]
      exact and_iff_right haccepted
    | true =>
      -- This hook is not the next one, so the order is broken here already.
      obtain ⟨hook, hcall, hnot⟩ := heffect.isRefused_iff.1 hrefused
      have haccepted : (session.step call).accepted = false := by
        rw [Step.accepted, step, hrefused]
        rfl
      refine iff_of_false (fun hall => by simp [haccepted] at hall) fun horderly => ?_
      have hhooks : past ++ hooks (call :: calls) = (past ++ [hook]) ++ hooks calls := by
        rw [hooks, List.filterMap_cons_some hcall, List.append_assoc]
        rfl
      rw [hhooks] at horderly
      rw [(hpast.allowedIn_iff hook).2 horderly.of_append] at hnot
      cases hnot

/-- A run without the calls that were refused goes on as it does with them. -/
theorem run_filter_accepted (h : session.Consistent) (calls : List Call) :
    session.run (((session.run calls).filter Step.accepted).map Step.call) =
      (session.run calls).filter Step.accepted := by
  induction calls generalizing session with
  | nil => rfl
  | cons call calls ih =>
    have heffect := effect_perform h call
    rw [run]
    cases hrefused : (session.perform call).1.isRefused with
    | false =>
      rw [List.filter_cons_of_pos (by rw [Step.accepted, step, hrefused]; rfl), List.map_cons, run]
      exact congrArg (session.step call :: ·) (ih (heffect.consistent h))
    | true =>
      rw [List.filter_cons_of_neg (by rw [Step.accepted, step, hrefused]; simp)]
      have hafter : (session.step call).after = session := heffect.eq_of_refused hrefused
      rw [hafter]
      exact ih h

theorem acceptedHooks_eq (steps : List Step) :
    acceptedHooks steps = hooks ((steps.filter Step.accepted).map Step.call) := by
  rw [acceptedHooks, hooks, List.filterMap_map, List.filterMap_filter]
  rfl

/-- The hooks that are accepted in a run are in order. -/
theorem orderly_acceptedHooks (h : session.Consistent) (hphase : session.phase = .configuring)
    (calls : List Call) : Hook.Orderly (acceptedHooks (session.run calls)) := by
  -- They are the hooks of the run without the refused calls, in which none is refused.
  have hpast : session.phase.Follows [] := by
    rw [hphase]
    rfl
  rw [acceptedHooks_eq, ← List.nil_append (hooks _), ← accepted_iff_orderly h hpast,
    run_filter_accepted h]
  intro step hstep
  exact (List.mem_filter.1 hstep).2

/-! ## What is counted -/

/-- Every call that is accepted counts one module if it transforms one, and none otherwise. -/
theorem Step.total_tally (step : Step)
    (h : Effect step.before step.call step.reply step.after) :
    step.after.tally.total =
      step.before.tally.total + step.hook?.toList.count .transform := by
  obtain ⟨before, call, reply, after⟩ := step
  dsimp only at h
  cases h with
  | refused | bundle | finish | fail | resolve | classMap | naming => rfl
  | transform name code => exact Config.total_count before.config before.tally (name, code)

/-- All that is counted in a run are the transforms that were accepted. -/
theorem total_tally_after (h : session.Consistent) (calls : List Call) :
    (session.after calls).tally.total =
      session.tally.total + (acceptedHooks (session.run calls)).count .transform := by
  induction calls generalizing session with
  | nil => rfl
  | cons call calls ih =>
    have heffect := effect_perform h call
    have hcall := (session.step call).total_tally heffect
    have hrest := ih (heffect.consistent h)
    have hhooks : acceptedHooks (session.run (call :: calls)) =
        (session.step call).hook?.toList ++
          acceptedHooks ((session.step call).after.run calls) := by
      rw [acceptedHooks, run, List.filterMap_cons]
      cases (session.step call).hook? <;> rfl
    calc ((session.step call).after.after calls).tally.total
        = (session.step call).after.tally.total +
            (acceptedHooks ((session.step call).after.run calls)).count .transform := hrest
      _ = session.tally.total + (acceptedHooks (session.run (call :: calls))).count .transform := by
          rw [hcall, hhooks, List.count_append, Nat.add_assoc]
          rfl

/-! ## Sessions that put no names in scope -/

section Disabled

variable {session' : Session} {reply : Reply}

/-- Where no names are put in scope, a module that is accepted is passed on, looks nothing up and
counts as passed through. -/
theorem Effect.transform_of_disabled {name code : Text}
    (h : Effect session (.transform name code) reply session')
    (hdisabled : ¬ session.config.enabled = true) (haccepted : reply.isRefused = false) :
    reply = .text (WideText.ofText code) ∧ session'.registry = session.registry ∧
      session'.tally = { session.tally with skipped := session.tally.skipped + 1 } := by
  have hkind : session.config.kindOf name = .other := if_neg hdisabled
  cases h with
  | refused => cases haccepted
  | transform _ _ inOrder =>
    refine ⟨by rw [Config.moduleText_of_disabled hdisabled], ?_, ?_⟩
    · simp [afterModule, Config.moduleNames, hkind, ModuleKind.names]
    · simp [afterModule, Config.count, hkind, ModuleKind.count]

/-- Where no names are put in scope, markup that is accepted is passed on and looks nothing up. -/
theorem Effect.finish_of_disabled {html : Text} (h : Effect session (.finish html) reply session')
    (hdisabled : ¬ session.config.enabled = true) (haccepted : reply.isRefused = false) :
    reply = .text (WideText.ofText html) ∧ session'.registry = session.registry ∧
      session'.tally = session.tally := by
  have hmarkup := Config.finishedMarkup_of_disabled hdisabled session.manifest html
  cases h with
  | refused => cases haccepted
  | finish _ inOrder result =>
    rw [hmarkup] at result
    cases result
    exact ⟨rfl, by simp [Config.markupNames, hdisabled], rfl⟩
  | fail _ inOrder result =>
    rw [hmarkup] at result
    cases result

end Disabled

/-! ## The protocol -/

/-- The session is not in the middle of finishing, which takes place within one call. -/
theorem Effect.phase_ne_finishing {session' : Session} {call : Call} {reply : Reply}
    (h : Effect session call reply session') (hpreview : session.config.NamesPreview)
    (hphase : session.phase ≠ .finishing) : session'.phase ≠ .finishing := by
  cases h with
  | refused | resolve | classMap | naming => exact hphase
  | transform | bundle | finish => simp [afterModule]
  | fail html inOrder result =>
    obtain ⟨finished, hfinished⟩ := exists_finishedMarkup hpreview session.manifest html
    rw [hfinished] at result
    cases result

/-- What holds of a run of calls, from the start of a session. -/
structure KeepsProtocol (config : Config) (calls : List Call) : Prop where
  /-- No call is refused exactly if the hooks are called in order. -/
  accepted_iff :
    (∀ step ∈ (start config).run calls, step.accepted = true) ↔ Hook.Orderly (hooks calls)
  /-- A call that is refused leaves the session as it was. -/
  refused : ∀ step ∈ (start config).run calls, step.accepted = false → step.after = step.before
  /-- Without the calls that are refused, all others go on as they do with them. -/
  without_refused :
    (start config).run ((((start config).run calls).filter Step.accepted).map Step.call) =
      ((start config).run calls).filter Step.accepted
  /-- Where the preview image is named by texts, as it should be, no call leaves the session in the
  middle of finishing. -/
  settled : config.NamesPreview → ∀ step ∈ (start config).run calls, step.after.phase ≠ .finishing
  /-- The modules that are counted are the transforms that were accepted. -/
  counted :
    ((start config).after calls).tally.total =
      (acceptedHooks ((start config).run calls)).count .transform
  /-- The markup is finished at most once. -/
  finished_once : (acceptedHooks ((start config).run calls)).count .finish ≤ 1
  /-- Where no names are put in scope, a module is passed on and counts as passed through. -/
  passes_modules : config.enabled = false → ∀ step ∈ (start config).run calls,
    step.accepted = true → ∀ name code, step.call = .transform name code →
      step.reply = .text (WideText.ofText code) ∧ step.after.registry = step.before.registry ∧
        step.after.tally =
          { step.before.tally with skipped := step.before.tally.skipped + 1 }
  /-- Where no names are put in scope, the markup is passed on and nothing is counted. -/
  passes_markup : config.enabled = false → ∀ step ∈ (start config).run calls,
    step.accepted = true → ∀ html, step.call = .finish html →
      step.reply = .text (WideText.ofText html) ∧ step.after.registry = step.before.registry ∧
        step.after.tally = step.before.tally

/-- Whatever a host calls, and in whatever order, a session keeps to its protocol. -/
theorem keepsProtocol (config : Config) (calls : List Call) : KeepsProtocol config calls := by
  have hstart := consistent_start config
  -- The configuration is the same all along, and every step has one of the listed effects.
  have hsteps : ∀ step ∈ (start config).run calls,
      step.before.config = config ∧ Effect step.before step.call step.reply step.after := by
    intro step hstep
    have hinvariant := invariant_of_mem_run (P := fun session => session.config = config)
      (fun hconfig heffect => heffect.config_eq.trans hconfig) hstart rfl hstep
    exact ⟨hinvariant.1, hinvariant.2.2⟩
  have hdisabled : config.enabled = false → ∀ step ∈ (start config).run calls,
      ¬ step.before.config.enabled = true := fun hdisabled step hstep => by
    rw [(hsteps step hstep).1, hdisabled]
    exact Bool.false_ne_true
  have hreply : ∀ {step : Step}, step.accepted = true → step.reply.isRefused = false :=
    fun haccepted => by simpa [Step.accepted] using haccepted
  exact {
    accepted_iff := accepted_iff_orderly hstart rfl calls
    refused := fun step hstep hrefused =>
      (hsteps step hstep).2.eq_of_refused (by simpa [Step.accepted] using hrefused)
    without_refused := run_filter_accepted hstart calls
    settled := fun hpreview step hstep =>
      (invariant_of_mem_run
        (P := fun session => session.config = config ∧ session.phase ≠ .finishing)
        (fun h heffect => ⟨heffect.config_eq.trans h.1,
          heffect.phase_ne_finishing (h.1 ▸ hpreview) h.2⟩)
        hstart ⟨rfl, by simp [start]⟩ hstep).2.1.2
    counted := by simpa [start, Tally.total] using total_tally_after hstart calls
    finished_once := (orderly_acceptedHooks hstart rfl calls).count_finish_le
    passes_modules := fun h step hstep haccepted name code hcall =>
      (hcall ▸ (hsteps step hstep).2).transform_of_disabled (hdisabled h step hstep)
        (hreply haccepted)
    passes_markup := fun h step hstep haccepted html hcall =>
      (hcall ▸ (hsteps step hstep).2).finish_of_disabled (hdisabled h step hstep)
        (hreply haccepted) }

end Session

end ClassScope
