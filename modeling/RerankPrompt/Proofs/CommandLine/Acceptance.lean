import RerankPrompt.CommandLine.Run
import RerankPrompt.CommandLine.Spelling

/-!
# Which command lines are accepted

The exit code of a command line is read off its form: it has to name a command, go on with a
well-formed list and bring one positional argument for each parameter (`Uses`), and the last level that
it gives (`IsLastValue`) has to be known. A command line that is wrong in any of this fails before
anything is printed.
-/

namespace RerankPrompt.CommandLine

/-- The arguments name the command, after `--` or at once, and go on with a list that is well formed
for it, is made of these items and has a positional argument for each parameter. -/
structure Uses (arguments : List String) (command : Command) (items : List Item) : Prop where
  reads : ∃ rest, (arguments = command.name :: rest ∨
    arguments = terminator :: command.name :: rest) ∧ Reads command rest items
  count : items.countP (fun item => item matches .positional _) = command.parameters.length

/-- The items give a setting this value, and no other behind it. -/
def IsLastValue (items : List Item) (setting : Setting) (value : String) : Prop :=
  ∃ front back, items = front ++ .setting setting value :: back ∧
    ∀ other, .setting setting other ∉ back

/-! ## What the items hold -/

theorem length_positionals (items : List Item) :
    (positionals items).length = items.countP fun item => item matches .positional _ := by
  rw [positionals, List.length_filterMap_eq_countP]
  congr 1
  funext item
  cases item <;> rfl

theorem Item.value?_eq_some_iff {setting : Setting} {item : Item} {value : String} :
    item.value? setting = some value ↔ item = .setting setting value := by
  cases item with
  | setting other given => grind [Item.value?]
  | _ => simp [Item.value?]

theorem lastValue?_eq_some_iff {setting : Setting} {items : List Item} {value : String} :
    lastValue? setting items = some value ↔ IsLastValue items setting value := by
  have hnone (back : List Item) :
      back.filterMap (Item.value? setting) = [] ↔ ∀ other, .setting setting other ∉ back := by
    simp only [List.filterMap_eq_nil_iff, Option.eq_none_iff_forall_ne_some, ne_eq,
      Item.value?_eq_some_iff]
    constructor
    · intro h other hmem
      exact h _ hmem other rfl
    · rintro h item hmem other rfl
      exact h other hmem
  rw [lastValue?, List.getLast?_eq_some_iff]
  constructor
  · rintro ⟨values, h⟩
    obtain ⟨before, after, rfl, -, hafter⟩ := List.filterMap_eq_append_iff.mp h
    obtain ⟨passed, item, back, rfl, -, hitem, hback⟩ := List.filterMap_eq_cons_iff.mp hafter
    rw [Item.value?_eq_some_iff.mp hitem]
    exact ⟨before ++ passed, back, (List.append_assoc _ _ _).symm, (hnone back).mp hback⟩
  · rintro ⟨front, back, rfl, hback⟩
    have hvalue : (Item.setting setting value).value? setting = some value :=
      Item.value?_eq_some_iff.mpr rfl
    exact ⟨_, by rw [List.filterMap_append, List.filterMap_cons_some hvalue, (hnone back).mpr hback]⟩

/-! ## Naming a command -/

theorem select_terminator_name (command : Command) (rest : List String) :
    Command.select (terminator :: command.name :: rest) = .ok (command, rest) := by
  have hname : Command.ofName? command.name = some command :=
    Command.ofName?_eq_some_iff.mpr rfl
  simp [Command.select, hname]

theorem select_eq_ok_iff {arguments rest : List String} {command : Command} :
    Command.select arguments = .ok (command, rest) ↔
      arguments = command.name :: rest ∨ arguments = terminator :: command.name :: rest := by
  constructor
  · intro h
    unfold Command.select at h
    split at h
    · cases h
    · next name tail hskip =>
      split at h
      · next named hnamed =>
        cases h
        obtain rfl := Command.ofName?_eq_some_iff.mp hnamed
        split at hskip
        · next hhead =>
          obtain ⟨back, rfl⟩ := List.head?_eq_some_iff.mp (eq_of_beq hhead)
          exact Or.inr (congrArg (terminator :: ·) hskip)
        · exact Or.inl hskip
      · split at h <;> cases h
  · rintro (rfl | rfl)
    · exact select_name command rest
    · exact select_terminator_name command rest

/-! ## Making up an invocation -/

theorem exists_request_iff {command : Command} {items : List Item} :
    (∃ request, command.request items = .ok request) ↔
      items.countP (fun item => item matches .positional _) = command.parameters.length := by
  rw [← length_positionals]
  unfold Command.request
  generalize positionals items = values
  cases command with
  | detect => rcases values with _ | ⟨model, _ | ⟨extra, rest⟩⟩ <;> simp [Command.parameters]
  | format =>
    rcases values with _ | ⟨query, _ | ⟨document, _ | ⟨extra, rest⟩⟩⟩ <;> simp [Command.parameters]

theorem exists_invocation_iff {command : Command} {items : List Item} :
    (∃ invocation, command.invocation items = .ok invocation) ↔
      items.countP (fun item => item matches .positional _) = command.parameters.length := by
  rw [← exists_request_iff, Command.invocation]
  cases command.request items with
  | error error => simp [Except.map]
  | ok request => simp [Except.map]

theorem level_of_invocation {command : Command} {items : List Item} {invocation : Invocation}
    (h : command.invocation items = .ok invocation) :
    invocation.level = (lastValue? .level items).getD Log.Level.info.name := by
  obtain ⟨request, -, rfl⟩ := exists_of_map_eq_ok h
  rfl

/-- The arguments that spell some invocation are the uses of a command. -/
theorem exists_uses_of_ofArguments {arguments : List String} {invocation : Invocation}
    (h : Invocation.ofArguments arguments = .ok invocation) :
    ∃ command items, Uses arguments command items ∧
      invocation.level = (lastValue? .level items).getD Log.Level.info.name := by
  obtain ⟨⟨command, rest⟩, hselect, h⟩ := exists_of_bind_eq_ok h
  obtain ⟨items, hitems, h⟩ := exists_of_bind_eq_ok h
  refine ⟨command, items, ⟨⟨rest, ?_, ?_⟩, ?_⟩, level_of_invocation h⟩
  · exact select_eq_ok_iff.mp hselect
  · exact reads_of_readItems hitems
  · exact exists_invocation_iff.mp ⟨invocation, h⟩

theorem Uses.exists_ofArguments {arguments : List String} {command : Command} {items : List Item}
    (h : Uses arguments command items) :
    ∃ invocation, Invocation.ofArguments arguments = .ok invocation ∧
      invocation.level = (lastValue? .level items).getD Log.Level.info.name := by
  obtain ⟨rest, harguments, hreads⟩ := h.reads
  obtain ⟨invocation, hinvocation⟩ := exists_invocation_iff.mpr h.count
  refine ⟨invocation, ?_, level_of_invocation hinvocation⟩
  rw [ofArguments_of_reads (select_eq_ok_iff.mpr harguments) hreads]
  exact hinvocation

/-! ## How a command line ends -/

theorem run_of_forall_not_uses {arguments : List String}
    (h : ¬ ∃ command items, Uses arguments command items) :
    ∃ error, run arguments = .failed "" (.usage error) := by
  rw [run]
  cases hread : Invocation.ofArguments arguments with
  | error error => exact ⟨error, rfl⟩
  | ok invocation =>
    obtain ⟨command, items, huses, -⟩ := exists_uses_of_ofArguments hread
    exact absurd ⟨command, items, huses⟩ h

theorem Uses.run_of_known {arguments : List String} {command : Command} {items : List Item}
    (h : Uses arguments command items)
    (hknown : ∀ level, IsLastValue items .level level →
      level ∈ Log.Level.all.map Log.Level.name) :
    ∃ printed written, run arguments = .completed printed written := by
  obtain ⟨invocation, hread, hlevel⟩ := h.exists_ofArguments
  have hmem : invocation.level ∈ Log.Level.all.map Log.Level.name := by
    rw [hlevel]
    cases hlast : lastValue? .level items with
    | none => exact List.mem_map_of_mem (Log.Level.mem_all .info)
    | some level => exact hknown level (lastValue?_eq_some_iff.mp hlast)
  obtain ⟨threshold, -, hname⟩ := List.mem_map.mp hmem
  exact ⟨_, _, (run_of_ofArguments hread).trans (Invocation.run_of_name hname)⟩

theorem Uses.run_of_unknown {arguments : List String} {command : Command} {items : List Item}
    {level : String} (h : Uses arguments command items)
    (hlast : IsLastValue items .level level)
    (hunknown : level ∉ Log.Level.all.map Log.Level.name) :
    run arguments = .failed "" (.unknownLevel ⟨level⟩) := by
  obtain ⟨invocation, hread, hlevel⟩ := h.exists_ofArguments
  rw [lastValue?_eq_some_iff.mpr hlast, Option.getD_some] at hlevel
  subst hlevel
  exact run_of_unknown_level hread (Log.Level.parse_eq_error_iff.mpr ⟨rfl, hunknown⟩)

/-- How a command line ends: it is no use of the program, or its last level is unknown, or it
completes. -/
inductive Ends (arguments : List String) : Outcome → Prop where
  | refused (error : UsageError) :
    (¬ ∃ command items, Uses arguments command items) → Ends arguments (.failed "" (.usage error))
  | unknownLevel {command : Command} {items : List Item} {level : String} :
    Uses arguments command items → IsLastValue items .level level →
      level ∉ Log.Level.all.map Log.Level.name →
        Ends arguments (.failed "" (.unknownLevel ⟨level⟩))
  | completed {command : Command} {items : List Item} (printed : String) (written : Log.Output) :
    Uses arguments command items →
      (∀ level, IsLastValue items .level level → level ∈ Log.Level.all.map Log.Level.name) →
        Ends arguments (.completed printed written)

theorem ends_run (arguments : List String) : Ends arguments (run arguments) := by
  by_cases huses : ∃ command items, Uses arguments command items
  · obtain ⟨command, items, huses⟩ := huses
    by_cases hknown : ∀ level, IsLastValue items .level level →
        level ∈ Log.Level.all.map Log.Level.name
    · obtain ⟨printed, written, hrun⟩ := huses.run_of_known hknown
      rw [hrun]
      exact .completed printed written huses hknown
    · obtain ⟨level, h⟩ := Classical.not_forall.mp hknown
      obtain ⟨hlast, hunknown⟩ := Classical.not_imp.mp h
      rw [huses.run_of_unknown hlast hunknown]
      exact .unknownLevel huses hlast hunknown
  · obtain ⟨error, hrun⟩ := run_of_forall_not_uses huses
    rw [hrun]
    exact .refused error huses

theorem exitCode_eq_zero_iff {arguments : List String} :
    (run arguments).exitCode = 0 ↔
      ∃ command items, Uses arguments command items ∧
        ∀ level, IsLastValue items .level level →
          level ∈ Log.Level.all.map Log.Level.name := by
  constructor
  · intro h
    have hends := ends_run arguments
    generalize run arguments = outcome at h hends
    cases hends with
    | refused => cases h
    | unknownLevel => cases h
    | completed _ _ huses hknown => exact ⟨_, _, huses, hknown⟩
  · rintro ⟨command, items, huses, hknown⟩
    obtain ⟨printed, written, hrun⟩ := huses.run_of_known hknown
    rw [hrun]
    rfl

theorem run_eq_unknownLevel_iff {arguments : List String} {level : String} :
    run arguments = .failed "" (.unknownLevel ⟨level⟩) ↔
      ∃ command items, Uses arguments command items ∧ IsLastValue items .level level ∧
        level ∉ Log.Level.all.map Log.Level.name := by
  constructor
  · intro h
    have hends := ends_run arguments
    rw [h] at hends
    cases hends with
    | unknownLevel huses hlast hunknown => exact ⟨_, _, huses, hlast, hunknown⟩
  · rintro ⟨command, items, huses, hlast, hunknown⟩
    exact huses.run_of_unknown hlast hunknown

theorem exitCode_eq_one_iff {arguments : List String} :
    (run arguments).exitCode = 1 ↔
      ∃ level, run arguments = .failed "" (.unknownLevel ⟨level⟩) := by
  constructor
  · intro h
    have hends := ends_run arguments
    generalize run arguments = outcome at h hends
    cases hends with
    | refused => cases h
    | unknownLevel => exact ⟨_, rfl⟩
    | completed => cases h
  · rintro ⟨level, hrun⟩
    rw [hrun]
    rfl

theorem exitCode_eq_two_iff {arguments : List String} :
    (run arguments).exitCode = 2 ↔ ¬ ∃ command items, Uses arguments command items := by
  constructor
  · intro h
    have hends := ends_run arguments
    generalize run arguments = outcome at h hends
    cases hends with
    | refused _ hnone => exact hnone
    | unknownLevel => cases h
    | completed => cases h
  · intro hnone
    obtain ⟨error, hrun⟩ := run_of_forall_not_uses hnone
    rw [hrun]
    rfl

/-- A command line that fails has printed nothing by then. -/
theorem exitCode_eq_zero_or_printed_eq (arguments : List String) :
    (run arguments).exitCode = 0 ∨ (run arguments).printed = "" := by
  have hends := ends_run arguments
  generalize run arguments = outcome at hends
  cases hends with
  | refused => exact Or.inr rfl
  | unknownLevel => exact Or.inr rfl
  | completed => exact Or.inl rfl

/-- **The exit code tells the form of the arguments**: 0 for a use of the program whose last level, if
it gives one, is known, 1 for a use whose last level is unknown, with that level as what is wrong, and 2
for all else. Nothing is printed unless the exit code is 0. -/
theorem run_exitCode (arguments : List String) :
    ((run arguments).exitCode = 0 ↔
      ∃ command items, Uses arguments command items ∧
        ∀ level, IsLastValue items .level level →
          level ∈ Log.Level.all.map Log.Level.name) ∧
    ((run arguments).exitCode = 1 ↔
      ∃ level, run arguments = .failed "" (.unknownLevel ⟨level⟩)) ∧
    (∀ level, run arguments = .failed "" (.unknownLevel ⟨level⟩) ↔
      ∃ command items, Uses arguments command items ∧ IsLastValue items .level level ∧
        level ∉ Log.Level.all.map Log.Level.name) ∧
    ((run arguments).exitCode = 2 ↔ ¬ ∃ command items, Uses arguments command items) ∧
    ((run arguments).exitCode = 0 ∨ (run arguments).printed = "") := by
  refine ⟨exitCode_eq_zero_iff, exitCode_eq_one_iff, fun level => ?_, exitCode_eq_two_iff,
    exitCode_eq_zero_or_printed_eq arguments⟩
  exact run_eq_unknownLevel_iff

end RerankPrompt.CommandLine
