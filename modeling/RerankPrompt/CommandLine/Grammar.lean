import RerankPrompt.CommandLine.Arguments.Lemmas

/-!
# The grammar of arguments

Which lists of arguments are well formed for a command, said without regard to how they are read:
a sequence of flags, of settings with their values attached or following, and of positional
arguments, which `--` and any further positional arguments may end. `readItems_eq_ok_iff` says that
exactly these lists are read, and as the items that they are made of.
-/

namespace RerankPrompt.CommandLine

/-- The arguments are well formed for a command, and made of these items. -/
inductive Reads (command : Command) : List String → List Item → Prop where
  | nil : Reads command [] []
  | flag {name : String} {structured : Bool} {rest : List String} {items : List Item} :
    (name, structured) ∈ flags → Reads command rest items →
      Reads command (name :: rest) (.flag structured :: items)
  | separate {setting : Setting} {value : String} {rest : List String} {items : List Item} :
    setting ∈ command.settings → Reads command rest items →
      Reads command (setting.name :: value :: rest) (.setting setting value :: items)
  | attached {setting : Setting} {value : String} {rest : List String} {items : List Item} :
    setting ∈ command.settings → Reads command rest items →
      Reads command ((setting.name ++ "=" ++ value) :: rest) (.setting setting value :: items)
  | positional {argument : String} {rest : List String} {items : List Item} :
    isPositional argument = true → Reads command rest items →
      Reads command (argument :: rest) (.positional argument :: items)
  | terminated (values : List String) :
    Reads command (terminator :: values) (values.map .positional)

/-- An argument is positional unless it starts with a dash and goes on. -/
theorem isPositional_iff {argument : String} :
    isPositional argument = true ↔ argument.toList.head? ≠ some '-' ∨ argument = "-" := by
  have hdash : argument = "-" ↔ argument.toList = ['-'] := String.toList_inj.symm
  rw [hdash, isPositional]
  generalize argument.toList = text
  rcases text with _ | ⟨c, _ | ⟨d, rest⟩⟩
  · simp
  · by_cases hc : c = '-' <;> simp [hc]
  · by_cases hc : c = '-' <;> simp [hc]

theorem readItems_of_reads {command : Command} {arguments : List String} {items : List Item}
    (h : Reads command arguments items) : command.readItems arguments = .ok items := by
  induction h with
  | nil => rfl
  | flag hflag _ ih =>
    rw [Command.readItems_cons_of_item (command.readArgument_of_mem_flags hflag), ih]
    rfl
  | separate hsetting _ ih =>
    rw [Command.readItems_cons_of_awaiting (command.readArgument_name hsetting), ih]
    rfl
  | attached hsetting _ ih =>
    rw [Command.readItems_cons_of_item (command.readArgument_attached _ hsetting), ih]
    rfl
  | positional hpositional _ ih =>
    rw [Command.readItems_cons_of_item (command.readArgument_of_isPositional hpositional), ih]
    rfl
  | terminated values => exact command.readItems_terminator values

theorem exists_of_map_eq_ok {ε α β : Type} {x : Except ε α} {f : α → β} {b : β}
    (h : x.map f = .ok b) : ∃ a, x = .ok a ∧ f a = b := by
  cases x with
  | error e => cases h
  | ok a => exact ⟨a, rfl, by cases h; rfl⟩

theorem exists_of_bind_eq_ok {ε α β : Type} {x : Except ε α} {f : α → Except ε β} {b : β}
    (h : x >>= f = .ok b) : ∃ a, x = .ok a ∧ f a = .ok b := by
  cases x with
  | error e => cases h
  | ok a => exact ⟨a, rfl, h⟩

theorem reads_of_readItems {command : Command} {arguments : List String} {items : List Item}
    (h : command.readItems arguments = .ok items) : Reads command arguments items := by
  fun_induction command.readItems arguments generalizing items with
  | case1 =>
    cases h
    exact .nil
  | case2 argument rest hread =>
    cases h
    rw [Command.eq_terminator_of_readArgument hread]
    exact .terminated rest
  | case3 argument rest item hread ih =>
    obtain ⟨tail, htail, rfl⟩ := exists_of_map_eq_ok h
    rcases Command.eq_of_readArgument_eq_item hread with
      ⟨hp, rfl⟩ | ⟨structured, rfl, hflag⟩ | ⟨setting, value, rfl, hmem, rfl⟩
    · exact .positional hp (ih htail)
    · exact .flag hflag (ih htail)
    · exact .attached hmem (ih htail)
  | case4 => cases h
  | case5 argument setting hread value rest ih =>
    obtain ⟨tail, htail, rfl⟩ := exists_of_map_eq_ok h
    obtain ⟨hmem, rfl⟩ := Command.eq_of_readArgument_eq_awaiting hread
    exact .separate hmem (ih htail)
  | case6 => cases h

/-- A list of arguments is read exactly when it is well formed, as the items it is made of. -/
theorem readItems_eq_ok_iff {command : Command} {arguments : List String} {items : List Item} :
    command.readItems arguments = .ok items ↔ Reads command arguments items :=
  ⟨reads_of_readItems, readItems_of_reads⟩

end RerankPrompt.CommandLine
