import RerankPrompt.Proofs.CommandLine.Acceptance
import RerankPrompt.Proofs.CommandLine.Interleaving

/-!
# Which error is reported

Arguments are read from the left, and the first one that is refused settles the error: the arguments
before it are read without regard to it, and those after it are not looked at
(`exists_refusesAt_iff`, `Command.RefusesAt.of_take_eq`). A setting lacks its value only at the very
end. Where all options are read, the number of the positional arguments is looked at next, and the
level last (`run_reported`).
-/

namespace RerankPrompt.CommandLine

namespace Command

variable {command : Command}

/-- The argument is refused where options are read, with this error. -/
inductive Refuses (command : Command) : String → UsageError → Prop where
  /-- A flag with a value attached. -/
  | flag {name : String} {structured : Bool} (value : String) : (name, structured) ∈ flags →
    Refuses command (name ++ "=" ++ value) (.unwantedValue name)
  /-- An option whose name, up to the first `=`, is that of no flag and of no setting. -/
  | unknown {argument : String} : isPositional argument = false → argument ≠ terminator →
    (∀ flag ∈ flags, flag.1 ≠ (splitOption argument).1) →
    (∀ setting ∈ command.settings, setting.name ≠ (splitOption argument).1) →
    Refuses command argument (.unknownOption (reportedName argument))

/-- All these arguments are read, as options and positional arguments, and after them options are
still read. -/
def ReadsOn (command : Command) (front : List String) : Prop :=
  ∃ line : List (Spelling × Item), (∀ item ∈ line.map Prod.snd, command.Takes item) ∧
    front = spelled line

/-- The argument of this number, counted from one, is refused after all before it have been read. -/
def RefusesAt (command : Command) (arguments : List String) (number : Nat) (error : UsageError) :
    Prop :=
  ∃ front argument rest, command.ReadsOn front ∧ arguments = front ++ argument :: rest ∧
    number = front.length + 1 ∧ command.Refuses argument error

/-! ## Refused arguments -/

theorem lookup_flags_eq_none_iff {name : String} :
    flags.lookup name = none ↔ ∀ flag ∈ flags, flag.1 ≠ name := by
  simp only [List.lookup_eq_none_iff, bne_iff_ne, ne_comm]

theorem setting?_eq_none_iff {name : String} :
    command.setting? name = none ↔ ∀ setting ∈ command.settings, setting.name ≠ name := by
  simp only [setting?, List.find?_eq_none, beq_iff_eq, ne_eq]

theorem readArgument_of_refuses {argument : String} {error : UsageError}
    (h : command.Refuses argument error) : command.readArgument argument = .refused error := by
  cases h with
  | @flag name structured value hflag =>
    obtain ⟨hnotMem, c, rest, hdashes⟩ := isOptionName_of_mem_flags hflag
    have hdashes' : (name ++ "=" ++ value).toList
        = '-' :: '-' :: c :: (rest ++ '=' :: value.toList) := by
      simp [hdashes]
    rw [readArgument_of_dashes command hdashes', readOption, splitOption_append value hnotMem]
    simp only [lookup_flags_eq_some_iff.mpr hflag]
  | unknown hpositional hterminator hflags hsettings =>
    rw [readArgument, if_neg (by simpa using hterminator), if_neg (by simp [hpositional]),
      readOption]
    simp only [lookup_flags_eq_none_iff.mpr hflags, setting?_eq_none_iff.mpr hsettings]

theorem refuses_of_readArgument {argument : String} {error : UsageError}
    (h : command.readArgument argument = .refused error) : command.Refuses argument error := by
  unfold readArgument at h
  split at h
  · cases h
  · next hterminator =>
    split at h
    · cases h
    · next hpositional =>
      unfold readOption at h
      split at h
      next name value hsplit =>
      split at h
      · cases h
      · next structured value hflag =>
        cases h
        rw [splitOption_eq_some hsplit]
        exact .flag value (lookup_flags_eq_some_iff.mp hflag)
      · cases h
      · cases h
      · next hflags hsettings =>
        cases h
        have hname : (splitOption argument).1 = name := congrArg Prod.fst hsplit
        subst hname
        exact .unknown (by simpa using hpositional) (by simpa using hterminator)
          (lookup_flags_eq_none_iff.mp hflags) (setting?_eq_none_iff.mp hsettings)

theorem Refuses.exists_name {argument : String} {error : UsageError}
    (h : command.Refuses argument error) :
    ∃ name, error = .unknownOption name ∨ error = .unwantedValue name := by
  cases h with
  | flag value hflag => exact ⟨_, Or.inr rfl⟩
  | unknown => exact ⟨_, Or.inl rfl⟩

/-! ## Arguments that are read -/

theorem eq_error_of_map_eq_error {ε α β : Type} {x : Except ε α} {f : α → β} {e : ε}
    (h : x.map f = .error e) : x = .error e := by
  cases x with
  | error e' =>
    cases h
    rfl
  | ok a => cases h

/-- What stands at the head of a list is read, and then the rest as it would be alone. -/
theorem readItems_spell_append {item : Item} (h : command.Takes item) (spelling : Spelling)
    (rest : List String) :
    command.readItems (item.spell spelling ++ rest)
      = (command.readItems rest).map (item :: ·) := by
  cases item with
  | flag structured =>
    exact readItems_cons_of_item (command.readArgument_of_mem_flags (flagName_mem_flags structured))
      rest
  | setting name value =>
    cases spelling with
    | attached => exact readItems_cons_of_item (command.readArgument_attached value h) rest
    | separate => exact readItems_cons_of_awaiting (command.readArgument_name h) value rest
  | positional value => exact readItems_cons_of_item (command.readArgument_of_isPositional h) rest

theorem ReadsOn.nil : command.ReadsOn [] :=
  ⟨[], fun _ h => absurd h List.not_mem_nil, rfl⟩

theorem ReadsOn.spell_append {front : List String} (h : command.ReadsOn front) {item : Item}
    (hitem : command.Takes item) (spelling : Spelling) :
    command.ReadsOn (item.spell spelling ++ front) := by
  obtain ⟨line, hline, rfl⟩ := h
  exact ⟨(spelling, item) :: line, List.forall_mem_cons.mpr ⟨hitem, hline⟩, rfl⟩

theorem ReadsOn.exists_items {front : List String} (h : command.ReadsOn front) :
    ∃ items, ∀ rest, command.readItems (front ++ rest)
      = (command.readItems rest).map (items ++ ·) := by
  obtain ⟨line, hline, rfl⟩ := h
  refine ⟨line.map Prod.snd, fun rest => ?_⟩
  induction line with
  | nil =>
    show command.readItems rest = _
    cases command.readItems rest <;> rfl
  | cons entry line ih =>
    obtain ⟨spelling, item⟩ := entry
    obtain ⟨hitem, hline⟩ := List.forall_mem_cons.mp hline
    have hspelled : spelled ((spelling, item) :: line) ++ rest
        = item.spell spelling ++ (spelled line ++ rest) := List.append_assoc _ _ _
    rw [hspelled, readItems_spell_append hitem, ih hline]
    cases command.readItems rest <;> rfl

theorem ReadsOn.readItems_append {front : List String} (h : command.ReadsOn front)
    {rest : List String} {error : UsageError} (hrest : command.readItems rest = .error error) :
    command.readItems (front ++ rest) = .error error := by
  obtain ⟨items, hitems⟩ := h.exists_items
  rw [hitems, hrest]
  rfl

/-- An argument that is read on its own is the spelling of an item that the command takes. -/
theorem exists_spell_of_readArgument {argument : String} {item : Item}
    (h : command.readArgument argument = .item item) :
    command.Takes item ∧ ∃ spelling, item.spell spelling = [argument] := by
  rcases eq_of_readArgument_eq_item h with
    ⟨hpositional, rfl⟩ | ⟨structured, rfl, hflag⟩ | ⟨setting, value, rfl, hmem, rfl⟩
  · exact ⟨hpositional, .separate, rfl⟩
  · refine ⟨trivial, .separate, ?_⟩
    simp only [flags, List.mem_cons, Prod.mk.injEq, List.not_mem_nil, or_false] at hflag
    rcases hflag with ⟨rfl, rfl⟩ | ⟨rfl, rfl⟩ <;> rfl
  · exact ⟨hmem, .attached, rfl⟩

/-! ## Where reading ends early -/

theorem RefusesAt.readItems_eq {arguments : List String} {number : Nat} {error : UsageError}
    (h : command.RefusesAt arguments number error) :
    command.readItems arguments = .error error := by
  obtain ⟨front, argument, rest, hfront, rfl, -, hrefuses⟩ := h
  exact hfront.readItems_append (readItems_cons_of_refused (readArgument_of_refuses hrefuses) rest)

/-- What follows a refused argument makes no difference. -/
theorem RefusesAt.of_take_eq {arguments other : List String} {number : Nat} {error : UsageError}
    (h : command.RefusesAt arguments number error)
    (hother : other.take number = arguments.take number) :
    command.RefusesAt other number error := by
  obtain ⟨front, argument, rest, hfront, rfl, rfl, hrefuses⟩ := h
  have htake : other.take (front.length + 1) = front ++ [argument] := by
    rw [hother, List.take_length_add_append]
    rfl
  refine ⟨front, argument, other.drop (front.length + 1), hfront, ?_, rfl, hrefuses⟩
  have hsplit := (List.take_append_drop (front.length + 1) other).symm
  rw [htake, List.append_assoc, List.singleton_append] at hsplit
  exact hsplit

/-- The last argument is a setting without its value, and all before it are read. -/
def LacksValue (command : Command) (arguments : List String) (setting : Setting) : Prop :=
  setting ∈ command.settings ∧ ∃ front, command.ReadsOn front ∧ arguments = front ++ [setting.name]

theorem LacksValue.readItems_eq {arguments : List String} {setting : Setting}
    (h : command.LacksValue arguments setting) :
    command.readItems arguments = .error (.missingValue setting.name) := by
  obtain ⟨hsetting, front, hfront, rfl⟩ := h
  exact hfront.readItems_append
    (readItems_singleton_of_awaiting (command.readArgument_name hsetting))

/-- Reading ends with this error at the head of the list. -/
inductive EndsAt (command : Command) : List String → UsageError → Prop where
  | refused {argument : String} {rest : List String} {error : UsageError} :
    command.Refuses argument error → EndsAt command (argument :: rest) error
  | lacking {setting : Setting} : setting ∈ command.settings →
    EndsAt command [setting.name] (.missingValue setting.name)

/-- Reading that fails reads what is before some place, and ends there. -/
theorem exists_endsAt_of_readItems {arguments : List String} {error : UsageError}
    (h : command.readItems arguments = .error error) :
    ∃ front rest, command.ReadsOn front ∧ arguments = front ++ rest ∧
      command.EndsAt rest error := by
  fun_induction command.readItems arguments generalizing error with
  | case1 => cases h
  | case2 => cases h
  | case3 argument rest item hread ih =>
    obtain ⟨hitem, spelling, hspell⟩ := exists_spell_of_readArgument hread
    obtain ⟨front, back, hfront, rfl, hends⟩ := ih (eq_error_of_map_eq_error h)
    have hfront' := hfront.spell_append hitem spelling
    rw [hspell] at hfront'
    exact ⟨argument :: front, back, hfront', rfl, hends⟩
  | case4 argument setting hread =>
    cases h
    obtain ⟨hmem, rfl⟩ := eq_of_readArgument_eq_awaiting hread
    exact ⟨[], _, .nil, rfl, .lacking hmem⟩
  | case5 argument setting hread value rest ih =>
    obtain ⟨hmem, rfl⟩ := eq_of_readArgument_eq_awaiting hread
    obtain ⟨front, back, hfront, rfl, hends⟩ := ih (eq_error_of_map_eq_error h)
    have hitem : command.Takes (.setting setting value) := hmem
    exact ⟨setting.name :: value :: front, back, hfront.spell_append hitem .separate, rfl, hends⟩
  | case6 argument rest error' hread =>
    cases h
    exact ⟨[], _, .nil, rfl, .refused (refuses_of_readArgument hread)⟩

/-- Reading fails with an error that some argument is refused with exactly where one is. -/
theorem exists_refusesAt_iff {arguments : List String} {error : UsageError} :
    (∃ number, command.RefusesAt arguments number error) ↔
      command.readItems arguments = .error error ∧
        ∃ name, error = .unknownOption name ∨ error = .unwantedValue name := by
  constructor
  · rintro ⟨number, h⟩
    have hread := h.readItems_eq
    obtain ⟨front, argument, rest, -, -, -, hrefuses⟩ := h
    exact ⟨hread, hrefuses.exists_name⟩
  · rintro ⟨hread, name, hname⟩
    obtain ⟨front, back, hfront, rfl, hends⟩ := exists_endsAt_of_readItems hread
    cases hends with
    | refused hrefuses => exact ⟨_, front, _, _, hfront, rfl, rfl, hrefuses⟩
    | lacking => rcases hname with hname | hname <;> cases hname

theorem readItems_eq_missingValue_iff {arguments : List String} {option : String} :
    command.readItems arguments = .error (.missingValue option) ↔
      ∃ setting, command.LacksValue arguments setting ∧ option = setting.name := by
  constructor
  · intro h
    obtain ⟨front, back, hfront, rfl, hends⟩ := exists_endsAt_of_readItems h
    cases hends with
    | refused hrefuses =>
      obtain ⟨name, hname | hname⟩ := hrefuses.exists_name <;> cases hname
    | lacking hsetting => exact ⟨_, ⟨hsetting, front, hfront, rfl⟩, rfl⟩
  · rintro ⟨setting, h, rfl⟩
    exact h.readItems_eq

/-! ## The number of positional arguments -/

theorem countError_of_lt {values : List String} (h : values.length < command.parameters.length) :
    command.countError values = .missingArgument command.parameters[values.length] := by
  rw [countError, List.drop_eq_getElem_cons h]

theorem countError_of_le {values : List String} (h : command.parameters.length ≤ values.length) :
    command.countError values = .extraArguments (values.drop command.parameters.length) := by
  rw [countError, List.drop_eq_nil_of_le h]

theorem invocation_of_length_ne {items : List Item}
    (h : (positionals items).length ≠ command.parameters.length) :
    command.invocation items = .error (command.countError (positionals items)) := by
  have hrequest : command.request items = .error (command.countError (positionals items)) := by
    unfold request
    generalize positionals items = values at h ⊢
    cases command with
    | detect =>
      rcases values with _ | ⟨model, _ | ⟨extra, rest⟩⟩
      · rfl
      · exact absurd rfl h
      · rfl
    | format =>
      rcases values with _ | ⟨query, _ | ⟨document, _ | ⟨extra, rest⟩⟩⟩
      · rfl
      · rfl
      · exact absurd rfl h
      · rfl
  rw [invocation, hrequest]
  rfl

end Command

/-! ## Command lines -/

theorem select_lead {lead : List String} (h : lead ∈ [[], [terminator]]) (command : Command)
    (arguments : List String) :
    Command.select (lead ++ command.name :: arguments) = .ok (command, arguments) := by
  simp only [List.mem_cons, List.not_mem_nil, or_false] at h
  rcases h with rfl | rfl
  · exact select_name command arguments
  · exact select_terminator_name command arguments

theorem run_of_select {line arguments : List String} {command : Command}
    (h : Command.select line = .ok (command, arguments)) :
    run line = match command.readItems arguments >>= command.invocation with
      | .ok invocation => invocation.run
      | .error error => .failed "" (.usage error) := by
  rw [run, Invocation.ofArguments, h]
  rfl

section Line

variable {line arguments : List String} {command : Command}
  (hselect : Command.select line = .ok (command, arguments))

include hselect

theorem run_of_readItems_eq_error {error : UsageError}
    (h : command.readItems arguments = .error error) : run line = .failed "" (.usage error) := by
  rw [run_of_select hselect, h]
  rfl

theorem run_of_readItems_eq_ok {items : List Item} (h : command.readItems arguments = .ok items) :
    run line = match command.invocation items with
      | .ok invocation => invocation.run
      | .error error => .failed "" (.usage error) := by
  rw [run_of_select hselect, h]
  rfl

theorem uses_of_readItems {items : List Item} (h : command.readItems arguments = .ok items)
    (hcount : (positionals items).length = command.parameters.length) :
    Uses line command items where
  reads := ⟨arguments, select_eq_ok_iff.mp hselect, reads_of_readItems h⟩
  count := (length_positionals items).symm.trans hcount

theorem run_of_length_ne {items : List Item} (h : command.readItems arguments = .ok items)
    (hcount : (positionals items).length ≠ command.parameters.length) :
    run line = .failed "" (.usage (command.countError (positionals items))) := by
  rw [run_of_readItems_eq_ok hselect h, Command.invocation_of_length_ne hcount]

end Line

/-- With a positional argument for each parameter only the level can be wrong. -/
theorem Uses.run_eq_failed_iff {arguments : List String} {command : Command} {items : List Item}
    (h : Uses arguments command items) {printed : String} {failure : Failure} :
    run arguments = .failed printed failure ↔
      printed = "" ∧ ∃ level, IsLastValue items .level level ∧
        level ∉ Log.Level.all.map Log.Level.name ∧ failure = .unknownLevel ⟨level⟩ := by
  constructor
  · intro hrun
    by_cases hknown : ∀ level, IsLastValue items .level level →
        level ∈ Log.Level.all.map Log.Level.name
    · obtain ⟨printed, written, hcompleted⟩ := h.run_of_known hknown
      cases hcompleted.symm.trans hrun
    · obtain ⟨level, hlevel⟩ := Classical.not_forall.mp hknown
      obtain ⟨hlast, hunknown⟩ := Classical.not_imp.mp hlevel
      cases (h.run_of_unknown hlast hunknown).symm.trans hrun
      exact ⟨rfl, level, hlast, hunknown, rfl⟩
  · rintro ⟨rfl, level, hlast, hunknown, rfl⟩
    exact h.run_of_unknown hlast hunknown

/-- A missing value is reported for no other reason than that reading finds one. -/
theorem run_eq_missingValue_iff {line arguments : List String} {command : Command}
    (hselect : Command.select line = .ok (command, arguments)) {printed option : String} :
    run line = .failed printed (.usage (.missingValue option)) ↔
      printed = "" ∧ ∃ setting, command.LacksValue arguments setting ∧ option = setting.name := by
  rw [← Command.readItems_eq_missingValue_iff]
  constructor
  · intro h
    cases hread : command.readItems arguments with
    | error error =>
      cases (run_of_readItems_eq_error hselect hread).symm.trans h
      exact ⟨rfl, rfl⟩
    | ok items =>
      by_cases hcount : (positionals items).length = command.parameters.length
      · obtain ⟨-, level, -, -, hlevel⟩ :=
          (uses_of_readItems hselect hread hcount).run_eq_failed_iff.mp h
        cases hlevel
      · have hreported := (run_of_length_ne hselect hread hcount).symm.trans h
        rcases Nat.lt_or_gt_of_ne hcount with hlt | hgt
        · rw [Command.countError_of_lt hlt] at hreported
          cases hreported
        · rw [Command.countError_of_le (Nat.le_of_lt hgt)] at hreported
          cases hreported
  · rintro ⟨rfl, hread⟩
    exact run_of_readItems_eq_error hselect hread

/-- **Which error is reported.** Once an argument is refused, be it an unknown option or a flag with a
value, the command line fails with that error, whatever comes after. A missing value is reported where
the last argument is a setting and all before it are read. Where all options are read, too few
positional arguments are reported by the first parameter that none of them fills, too many by those
that fill none; with the right number of them only the last level can be wrong. -/
theorem run_reported {lead : List String} (hlead : lead ∈ [[], [terminator]]) (command : Command)
    (arguments : List String) :
    let line (arguments : List String) : List String := lead ++ command.name :: arguments
    (∀ error, (∃ number, command.RefusesAt arguments number error) ↔
      command.readItems arguments = .error error ∧
        ∃ name, error = .unknownOption name ∨ error = .unwantedValue name) ∧
    (∀ number error, command.RefusesAt arguments number error →
      ∀ other : List String, other.take number = arguments.take number →
        run (line other) = .failed "" (.usage error)) ∧
    (∀ printed option, run (line arguments) = .failed printed (.usage (.missingValue option)) ↔
      printed = "" ∧ ∃ setting, command.LacksValue arguments setting ∧ option = setting.name) ∧
    ∀ items, command.readItems arguments = .ok items →
      let values := positionals items
      (∀ h : values.length < command.parameters.length, run (line arguments)
        = .failed "" (.usage (.missingArgument command.parameters[values.length]))) ∧
      (command.parameters.length < values.length → ∃ extra, extra <:+ values ∧
        extra.length = values.length - command.parameters.length ∧
        run (line arguments) = .failed "" (.usage (.extraArguments extra))) ∧
      (values.length = command.parameters.length → ∀ printed failure,
        run (line arguments) = .failed printed failure ↔
          printed = "" ∧ ∃ level, IsLastValue items .level level ∧
            level ∉ Log.Level.all.map Log.Level.name ∧ failure = .unknownLevel ⟨level⟩) := by
  intro line
  have hselect (arguments : List String) := select_lead hlead command arguments
  refine ⟨fun error => Command.exists_refusesAt_iff, ?_,
    fun printed option => run_eq_missingValue_iff (hselect arguments), ?_⟩
  · intro number error hrefuses other hother
    exact run_of_readItems_eq_error (hselect other) (hrefuses.of_take_eq hother).readItems_eq
  · intro items hread values
    refine ⟨fun hlt => ?_, fun hgt => ?_, fun hcount printed failure => ?_⟩
    · rw [← Command.countError_of_lt hlt]
      exact run_of_length_ne (hselect arguments) hread (Nat.ne_of_lt hlt)
    · refine ⟨_, List.drop_suffix command.parameters.length values, List.length_drop, ?_⟩
      rw [← Command.countError_of_le (Nat.le_of_lt hgt)]
      exact run_of_length_ne (hselect arguments) hread (Nat.ne_of_gt hgt)
    · exact (uses_of_readItems (hselect arguments) hread hcount).run_eq_failed_iff

/-- Two arguments that are refused, of which the first settles the error even where a third positional
argument and an unknown level follow, and `--` as a value and as the end of the options. -/
theorem run_reported_first_refusal :
    let line (arguments : List String) : List String := ["--", "format"] ++ arguments
    let refused := ["q", "--model-id", "--", "--json-output=x", "--bogus"]
    let other := refused.take 4 ++ ["--logger-level", "LOUD", "a", "b"]
    let extra := ["--instruction", "--", "q", "--", "--json-output", "d", "e"]
    let missing := ["q", "--logger-level=LOUD"]
    let unknown := ["q", "--logger-level=LOUD", "-"]
    (Command.format.RefusesAt refused 4 (.unwantedValue "--json-output") ∧
      run (line other) = .failed "" (.usage (.unwantedValue "--json-output"))) ∧
    (Command.format.readItems extra = .ok [.setting .instruction "--", .positional "q",
        .positional "--json-output", .positional "d", .positional "e"] ∧
      run (line extra) = .failed "" (.usage (.extraArguments ["d", "e"]))) ∧
    (Command.format.readItems missing = .ok [.positional "q", .setting .level "LOUD"] ∧
      run (line missing) = .failed "" (.usage (.missingArgument "document"))) ∧
    (Command.format.readItems unknown
        = .ok [.positional "q", .setting .level "LOUD", .positional "-"] ∧
      run (line unknown) = .failed "" (.unknownLevel ⟨"LOUD"⟩)) := by
  intro line refused other extra missing unknown
  have hlead : [terminator] ∈ [[], [terminator]] := by decide
  have hrefused : Command.format.RefusesAt refused 4 (.unwantedValue "--json-output") :=
    ⟨["q", "--model-id", "--"], "--json-output=x", ["--bogus"],
      ⟨[(.separate, .positional "q"), (.separate, .setting .model "--")],
        by simp [Command.Takes, Command.Knows, Command.settings, isPositional], rfl⟩, rfl, rfl,
      @Command.Refuses.flag .format "--json-output" true "x" (by decide)⟩
  have hextra : Command.format.readItems extra = .ok [.setting .instruction "--", .positional "q",
      .positional "--json-output", .positional "d", .positional "e"] := rfl
  have hmissing : Command.format.readItems missing
      = .ok [.positional "q", .setting .level "LOUD"] := rfl
  have hunknown : Command.format.readItems unknown
      = .ok [.positional "q", .setting .level "LOUD", .positional "-"] := rfl
  refine ⟨⟨hrefused, ?_⟩, ⟨hextra, ?_⟩, ⟨hmissing, ?_⟩, hunknown, ?_⟩
  · exact (run_reported hlead .format refused).2.1 4 _ hrefused other rfl
  · obtain ⟨values, hsuffix, hlength, hrun⟩ :=
      ((run_reported hlead .format extra).2.2.2 _ hextra).2.1 (by decide)
    have hdrop := List.suffix_iff_eq_drop.mp hsuffix
    rw [hlength] at hdrop
    subst hdrop
    exact hrun
  · exact ((run_reported hlead .format missing).2.2.2 _ hmissing).1 (by decide)
  · apply (((run_reported hlead .format unknown).2.2.2 _ hunknown).2.2 rfl _ _).mpr
    exact ⟨rfl, "LOUD", ⟨[.positional "q"], [.positional "-"], rfl, by simp⟩, by decide, rfl⟩

end RerankPrompt.CommandLine
