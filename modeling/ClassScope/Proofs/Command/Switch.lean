import ClassScope.Proofs.Command.BuildRun

/-!
# The switch for a dry run

A dry run is asked for by a switch among the arguments. Wherever an option may stand, the switch
changes nothing else: the same arguments are given, and where they make no sense the error is the
same. Main statements:

- `switched_gather`: what is given with the switch and without it;
- `argumentsFrom_switch`: the arguments of a build with the switch are those of a dry run.
-/

namespace ClassScope.Command

/-- The switch. -/
def dryRunSwitch : Text := Text.of "--dry-run"

/-- The option that the switch is. -/
def dryRunOption : Opt := ⟨dryRunSwitch, .nothing⟩

/-- The arguments of a dry run. -/
def BuildArguments.dry (arguments : BuildArguments) : BuildArguments :=
  { arguments with dryRun := true }

/-- An option may stand behind these arguments: none of them ends the options, and the last one is
no option that waits for its value. -/
structure Receptive (front : List Text) : Prop where
  /-- The options are not ended. -/
  unended : ['-', '-'] ∉ front
  /-- No option waits for its value. -/
  complete : ∀ s ∈ front.getLast?, ∀ option,
    buildOptions.word s = .ok (.option option none) → option.takesValue = false

/-! ## Words -/

theorem word_dryRunSwitch : buildOptions.word dryRunSwitch = .ok (.option dryRunOption none) := by
  decide +kernel

/-- The switch does not end the options. -/
theorem dryRunSwitch_ne : dryRunSwitch ≠ ['-', '-'] := by
  rw [dryRunSwitch, Text.of_eq_toList]
  decide

/-- Arguments that do not end the options are looked at one by one. -/
theorem Options.words_append (options : Options) {front : List Text}
    (hfront : ['-', '-'] ∉ front) (back : List Text) :
    options.words (front ++ back) = do
      let words ← front.mapM options.word
      let rest ← options.words back
      return words ++ rest := by
  induction front with
  | nil =>
    rw [List.nil_append, List.mapM_nil]
    cases options.words back <;> rfl
  | cons s front ih =>
    obtain ⟨hs, hfront⟩ := not_or.1 (mt List.mem_cons.2 hfront)
    rw [List.cons_append, words, if_neg (Ne.symm hs), ih hfront, List.mapM_cons]
    simp only [bind_assoc, pure_bind]
    rfl

/-- The last word is what the last argument is. -/
theorem exists_last_argument {front : List Text} {words : List Word} {word : Word}
    (hwords : front.mapM buildOptions.word = .ok words) (hlast : words.getLast? = some word) :
    ∃ s ∈ front.getLast?, buildOptions.word s = .ok word := by
  -- The word of the last argument comes after those of all the others.
  rcases List.eq_nil_or_concat front with rfl | ⟨front, s, rfl⟩
  · cases hwords
    cases hlast
  · rw [List.concat_eq_append, List.mapM_append, bind_eq_ok] at hwords
    obtain ⟨others, -, hwords⟩ := hwords
    cases hword : buildOptions.word s with
    | error e => simp [hword] at hwords
    | ok last =>
      simp only [List.mapM_cons, List.mapM_nil, hword, ok_bind, pure_bind] at hwords
      obtain rfl : others ++ [last] = words := Except.ok.inj hwords
      obtain rfl : last = word := by simpa using hlast
      exact ⟨s, by simp, hword⟩

/-! ## What is given -/

/-- What is given without the switch and with it. -/
inductive Switched : Except UsageError Given → Except UsageError Given → Prop where
  /-- The same is wrong. -/
  | error (e : UsageError) : Switched (.error e) (.error e)
  /-- Help is asked for. -/
  | help {given given' : Given} (h : given.help = true) (h' : given'.help = true) :
    Switched (.ok given) (.ok given')
  /-- The same is given, but for the switch. -/
  | given (front back : List (Text × Option Setting)) (others : List Text) :
    Switched (.ok ⟨front ++ back, others, false⟩)
      (.ok ⟨front ++ (dryRunSwitch, none) :: back, others, false⟩)

namespace Switched

variable {x y : Except UsageError Given}

theorem add (name : Text) (value : Option Setting) (h : Switched x y) :
    Switched (Given.add name value <$> x) (Given.add name value <$> y) := by
  cases h with
  | error e => exact .error e
  | help h h' => exact .help h h'
  | given front back others => exact .given ((name, value) :: front) back others

theorem addOther (s : Text) (h : Switched x y) :
    Switched (Given.addOther s <$> x) (Given.addOther s <$> y) := by
  cases h with
  | error e => exact .error e
  | help h h' => exact .help h h'
  | given front back others => exact .given front back (s :: others)

/-- The switch in front. -/
theorem front (x : Except UsageError Given) :
    Switched x (Given.add dryRunSwitch none <$> x) := by
  rcases x with e | ⟨options, others, _ | _⟩
  · exact .error e
  · exact .given [] options others
  · exact .help rfl rfl

end Switched

/-- An option that takes no value. -/
theorem gather_of_not_takesValue {option : Opt} (h : ¬ option.takesValue = true)
    (words : List Word) :
    gather (.option option none :: words) =
      if option.takes = .help then .ok { Given.none with help := true }
      else Given.add option.name none <$> gather words := by
  rw [gather.eq_def]
  simp only [if_neg h]

/-- What holds of the last word holds of the last word behind the first ones. -/
theorem complete_of_cons {word : Word} {words : List Word}
    (h : ∀ option, (word :: words).getLast? = some (.option option none) →
      option.takesValue = false) (option : Opt)
    (hlast : words.getLast? = some (.option option none)) : option.takesValue = false :=
  h option (by rw [List.getLast?_cons, hlast]; rfl)

/-- Where no option waits for its value, the switch is taken for itself and nothing else changes. -/
theorem switched_gather (words rest : List Word)
    (hlast : ∀ option, words.getLast? = some (.option option none) → option.takesValue = false) :
    Switched (gather (words ++ rest)) (gather (words ++ .option dryRunOption none :: rest)) := by
  match words with
  | [] =>
    rw [List.nil_append, List.nil_append, gather_of_not_takesValue (by decide)]
    exact .front _
  | .operand s :: words => exact (switched_gather words rest (complete_of_cons hlast)).addOther s
  | .separator :: words => exact (switched_gather words rest (complete_of_cons hlast)).addOther _
  | .unknownOption s :: words =>
    exact (switched_gather words rest (complete_of_cons hlast)).addOther s
  | .shortHelp attached :: words =>
    -- Nothing behind the short name is looked at.
    simp only [List.cons_append, gather]
    split
    · exact .help rfl rfl
    · exact .error _
  | .option option (some value) :: words =>
    simp only [List.cons_append, gather]
    split
    · cases option.checkAttached value with
      | error e => exact .error e
      | ok setting => exact (switched_gather words rest (complete_of_cons hlast)).add _ _
    · exact .error _
  | .option option none :: words =>
    rw [List.cons_append, List.cons_append]
    by_cases hvalue : option.takesValue = true
    · -- The value is among the words in front of the switch, or there is an error already.
      match words with
      | [] => rw [hlast option rfl] at hvalue; cases hvalue
      | .operand value :: words =>
        simp only [List.cons_append, gather, if_pos hvalue]
        cases option.check value with
        | error e => exact .error e
        | ok setting =>
          exact (switched_gather words rest
            (complete_of_cons (complete_of_cons hlast))).add _ _
      | .separator :: _ | .unknownOption _ :: _ | .shortHelp _ :: _ | .option _ _ :: _ =>
        simp only [List.cons_append, gather, if_pos hvalue]
        exact .error _
    · rw [gather_of_not_takesValue hvalue, gather_of_not_takesValue hvalue]
      split
      · exact .help rfl rfl
      · exact (switched_gather words rest (complete_of_cons hlast)).add _ _

/-- The switch is no option that has to be given. -/
theorem missing_switch (front back : List (Text × Option Setting)) :
    (buildOptions.required.filter fun name =>
        !(front ++ (dryRunSwitch, none) :: back).any (·.1 = name)) =
      buildOptions.required.filter fun name => !(front ++ back).any (·.1 = name) := by
  refine List.filter_congr fun name hname => ?_
  have hne : dryRunSwitch ≠ name := by
    rw [List.mem_singleton.1 hname]
    exact mt Text.of_inj.1 (by decide)
  rw [List.any_append, List.any_append, List.any_cons, decide_eq_false hne, Bool.false_or]

/-- What the arguments give with the switch at a place where an option may stand, and without. -/
theorem switched_read {front : List Text} (hfront : Receptive front) (back : List Text) :
    Switched (buildOptions.read (front ++ back))
      (buildOptions.read (front ++ dryRunSwitch :: back)) := by
  have hswitch : buildOptions.words (dryRunSwitch :: back) = do
      let rest ← buildOptions.words back
      return .option dryRunOption none :: rest := by
    rw [Options.words, if_neg dryRunSwitch_ne, word_dryRunSwitch]
    rfl
  rw [Options.read, Options.read, Options.words_append _ hfront.unended,
    Options.words_append _ hfront.unended, hswitch]
  cases hwords : front.mapM buildOptions.word with
  | error e => exact .error e
  | ok words =>
    cases buildOptions.words back with
    | error e => exact .error e
    | ok rest =>
      simp only [ok_bind, pure, Except.pure]
      have hgather := switched_gather words rest fun option hoption => by
        obtain ⟨s, hs, hword⟩ := exists_last_argument hwords hoption
        exact hfront.complete s hs option hword
      revert hgather
      generalize gather (words ++ rest) = given
      generalize gather (words ++ .option dryRunOption none :: rest) = given'
      -- What is checked of what is given does not depend on the switch.
      rintro (e | ⟨h, h'⟩ | ⟨front, back, others⟩)
      · exact .error e
      · simp only [ok_bind, h, h', if_true]
        exact .help h h'
      · have hmissing := missing_switch front back
        simp only [ok_bind, hmissing, Bool.false_eq_true, if_false]
        split
        · exact .error _
        · split
          · exact .error _
          · exact .given front back others

/-! ## The arguments of a dry run -/

section Given

variable {front back : List (Text × Option Setting)} {others : List Text} {name : String}

/-- The switch gives no other option a value. -/
theorem value?_switch (h : name ≠ "--dry-run") :
    Given.value? ⟨front ++ (dryRunSwitch, none) :: back, others, false⟩ name =
      Given.value? ⟨front ++ back, others, false⟩ name := by
  simp [Given.value?, List.find?_append, dryRunSwitch, Text.of_inj, h.symm]

/-- The switch gives no other option. -/
theorem has_switch (h : name ≠ "--dry-run") :
    Given.has ⟨front ++ (dryRunSwitch, none) :: back, others, false⟩ name =
      Given.has ⟨front ++ back, others, false⟩ name := by
  simp [Given.has, dryRunSwitch, Text.of_inj, h.symm]

theorem has_dryRun :
    Given.has ⟨front ++ (dryRunSwitch, none) :: back, others, false⟩ "--dry-run" = true := by
  simp [Given.has, dryRunSwitch]

theorem ofGiven_switch :
    BuildArguments.ofGiven ⟨front ++ (dryRunSwitch, none) :: back, others, false⟩ =
      (BuildArguments.ofGiven ⟨front ++ back, others, false⟩).map BuildArguments.dry := by
  simp (disch := decide) only [BuildArguments.ofGiven, value?_switch, has_switch, has_dryRun]
  cases Setting.demand .root _ with
  | error e => rfl
  | ok root => cases Setting.demand .document _ <;> rfl

end Given

/-- The switch, at a place where an option may stand, makes a build a dry run and changes nothing
else. -/
theorem argumentsFrom_switch {front : List Text} (hfront : Receptive front) (back : List Text) :
    argumentsFrom (front ++ dryRunSwitch :: back) =
      (argumentsFrom (front ++ back)).map BuildArguments.dry := by
  have hread := switched_read hfront back
  unfold argumentsFrom
  revert hread
  generalize buildOptions.read (front ++ back) = given
  generalize buildOptions.read (front ++ dryRunSwitch :: back) = given'
  rintro (e | ⟨h, h'⟩ | ⟨front, back, others⟩)
  · rfl
  · simp only [h, h', if_true]
    rfl
  · dsimp only
    rw [ofGiven_switch]
    cases BuildArguments.ofGiven ⟨front ++ back, others, false⟩ <;> rfl

end ClassScope.Command
