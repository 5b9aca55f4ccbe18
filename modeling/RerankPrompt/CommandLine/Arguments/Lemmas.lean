import RerankPrompt.CommandLine.Arguments

/-!
# How single arguments are read

The name of an option reaches to its first `=`. With that, each way of reading an argument is
characterised by the shape of the argument: the end of the options, a flag, a setting with or
without its value, or a positional argument. The last group says how each kind of argument at the
head of a list is read.
-/

namespace RerankPrompt.CommandLine

/-! ## Names and attached values -/

theorem cut?_equals_eq_some_iff {text before after : List Char} :
    Text.cut? ['='] text = some (before, after) ↔ text = before ++ '=' :: after ∧ '=' ∉ before := by
  rw [Text.cut?_eq_some_iff, List.append_assoc, List.singleton_append]
  apply and_congr_right
  rintro rfl
  constructor
  · intro h hmem
    obtain ⟨front, back, rfl⟩ := List.append_of_mem hmem
    exact h front.length (by simp) (by simp)
  · rintro h i hi ⟨tail, ht⟩
    rw [List.drop_append_of_le_length (by omega), List.drop_eq_getElem_cons hi] at ht
    simp only [List.cons_append, List.cons.injEq] at ht
    exact h (ht.1 ▸ List.getElem_mem hi)

theorem splitOption_of_notMem {argument : String} (h : '=' ∉ argument.toList) :
    splitOption argument = (argument, none) := by
  have hcut : Text.cut? ['='] argument.toList = none := by
    rw [Text.cut?_eq_none_iff]
    rintro ⟨front, back, hsplit⟩
    exact h (hsplit ▸ by simp)
  simp only [splitOption, hcut]

theorem splitOption_append {name : String} (value : String) (h : '=' ∉ name.toList) :
    splitOption (name ++ "=" ++ value) = (name, some value) := by
  have hcut : Text.cut? ['='] (name ++ "=" ++ value).toList = some (name.toList, value.toList) := by
    rw [cut?_equals_eq_some_iff]
    exact ⟨by simp, h⟩
  simp only [splitOption, hcut, String.ofList_toList]

/-- Name and value make up the argument again. -/
theorem splitOption_eq_some {argument name value : String}
    (h : splitOption argument = (name, some value)) : argument = name ++ "=" ++ value := by
  unfold splitOption at h
  split at h
  · next before after hcut =>
    simp only [Prod.mk.injEq, Option.some.injEq] at h
    obtain ⟨rfl, rfl⟩ := h
    apply String.toList_inj.mp
    simp [(cut?_equals_eq_some_iff.mp hcut).1]
  · simp at h

theorem splitOption_eq_none {argument name : String} (h : splitOption argument = (name, none)) :
    name = argument := by
  unfold splitOption at h
  split at h
  · simp at h
  · simpa using h.symm

/-! ## Names of options -/

theorem lookup_flags_eq_some_iff {name : String} {structured : Bool} :
    flags.lookup name = some structured ↔ (name, structured) ∈ flags := by
  simp only [flags, List.lookup_cons, List.lookup_nil, List.mem_cons, List.not_mem_nil, or_false,
    Prod.mk.injEq]
  split
  · next h =>
    rw [beq_iff_eq] at h
    subst h
    simp [eq_comm]
  · next h =>
    rw [beq_eq_false_iff_ne] at h
    split
    · next h' =>
      rw [beq_iff_eq] at h'
      subst h'
      simp [eq_comm]
    · next h' =>
      rw [beq_eq_false_iff_ne] at h'
      simp [h, h']

/-- The two dashes at the start of an option's name keep it from being positional, and no value is
attached to the name alone. -/
structure IsOptionName (name : String) : Prop where
  notMem : '=' ∉ name.toList
  dashes : ∃ c rest, name.toList = '-' :: '-' :: c :: rest

theorem isOptionName_of_mem_flags {name : String} {structured : Bool}
    (h : (name, structured) ∈ flags) : IsOptionName name := by
  simp only [flags, List.mem_cons, Prod.mk.injEq, List.not_mem_nil, or_false] at h
  rcases h with ⟨rfl, -⟩ | ⟨rfl, -⟩
  · exact ⟨by decide, _, _, rfl⟩
  · exact ⟨by decide, _, _, rfl⟩

theorem Setting.isOptionName (setting : Setting) : IsOptionName setting.name := by
  cases setting
  · exact ⟨by decide, _, _, rfl⟩
  · exact ⟨by decide, _, _, rfl⟩
  · exact ⟨by decide, _, _, rfl⟩

theorem lookup_flags_setting (setting : Setting) : flags.lookup setting.name = none := by
  cases setting <;> decide

namespace Command

/-! ## Arguments -/

theorem readArgument_terminator (command : Command) :
    command.readArgument terminator = .terminator := by
  simp [readArgument]

theorem readArgument_of_isPositional (command : Command) {argument : String}
    (h : isPositional argument = true) :
    command.readArgument argument = .item (.positional argument) := by
  have hne : argument ≠ terminator := by
    rintro rfl
    exact absurd h (by decide)
  simp [readArgument, h, hne]

theorem readArgument_of_dashes (command : Command) {argument : String} {c : Char}
    {rest : List Char} (h : argument.toList = '-' :: '-' :: c :: rest) :
    command.readArgument argument = command.readOption argument := by
  have hne : argument ≠ terminator := by
    rintro rfl
    exact absurd h (by simp [terminator])
  simp [readArgument, isPositional, h, hne]

theorem readArgument_of_mem_flags (command : Command) {name : String} {structured : Bool}
    (h : (name, structured) ∈ flags) :
    command.readArgument name = .item (.flag structured) := by
  have hname := isOptionName_of_mem_flags h
  obtain ⟨c, rest, hdashes⟩ := hname.dashes
  rw [readArgument_of_dashes command hdashes, readOption, splitOption_of_notMem hname.notMem]
  simp only [lookup_flags_eq_some_iff.mpr h]

theorem readArgument_name (command : Command) {setting : Setting}
    (h : setting ∈ command.settings) :
    command.readArgument setting.name = .awaiting setting := by
  obtain ⟨hnotMem, c, rest, hdashes⟩ := setting.isOptionName
  rw [readArgument_of_dashes command hdashes, readOption, splitOption_of_notMem hnotMem]
  simp only [lookup_flags_setting, setting?_eq_some_iff.mpr ⟨h, rfl⟩]

theorem readArgument_attached (command : Command) {setting : Setting} (value : String)
    (h : setting ∈ command.settings) :
    command.readArgument (setting.name ++ "=" ++ value) = .item (.setting setting value) := by
  obtain ⟨hnotMem, c, rest, hdashes⟩ := setting.isOptionName
  have hdashes' : (setting.name ++ "=" ++ value).toList
      = '-' :: '-' :: c :: (rest ++ '=' :: value.toList) := by
    simp [hdashes]
  rw [readArgument_of_dashes command hdashes', readOption, splitOption_append value hnotMem]
  simp only [lookup_flags_setting, setting?_eq_some_iff.mpr ⟨h, rfl⟩]

/-- What an option looks like that is read in this way. -/
theorem eq_of_readOption_eq_item {command : Command} {argument : String} {item : Item}
    (h : command.readOption argument = .item item) :
    (∃ structured, item = .flag structured ∧ (argument, structured) ∈ flags) ∨
      ∃ setting value, item = .setting setting value ∧ setting ∈ command.settings ∧
        argument = setting.name ++ "=" ++ value := by
  unfold readOption at h
  split at h
  next name value hsplit =>
  split at h
  · next structured hflag =>
    cases h
    rw [splitOption_eq_none hsplit] at hflag
    exact Or.inl ⟨structured, rfl, lookup_flags_eq_some_iff.mp hflag⟩
  · cases h
  · next setting value _ hsetting =>
    cases h
    obtain ⟨hmem, rfl⟩ := setting?_eq_some_iff.mp hsetting
    exact Or.inr ⟨setting, value, rfl, hmem, splitOption_eq_some hsplit⟩
  · cases h
  · cases h

theorem eq_of_readOption_eq_awaiting {command : Command} {argument : String} {setting : Setting}
    (h : command.readOption argument = .awaiting setting) :
    setting ∈ command.settings ∧ argument = setting.name := by
  unfold readOption at h
  split at h
  next name value hsplit =>
  split at h
  · cases h
  · cases h
  · cases h
  · next setting _ hsetting =>
    cases h
    obtain ⟨hmem, rfl⟩ := setting?_eq_some_iff.mp hsetting
    exact ⟨hmem, (splitOption_eq_none hsplit).symm⟩
  · cases h

theorem readOption_ne_terminator (command : Command) (argument : String) :
    command.readOption argument ≠ .terminator := by
  intro h
  unfold readOption at h
  split at h
  split at h <;> cases h

theorem eq_terminator_of_readArgument {command : Command} {argument : String}
    (h : command.readArgument argument = .terminator) : argument = terminator := by
  unfold readArgument at h
  split at h
  · next ht => exact eq_of_beq ht
  · split at h
    · cases h
    · exact absurd h (command.readOption_ne_terminator argument)

/-- An argument that is read on its own is a positional one, a flag, or a setting with its value. -/
theorem eq_of_readArgument_eq_item {command : Command} {argument : String} {item : Item}
    (h : command.readArgument argument = .item item) :
    (isPositional argument = true ∧ item = .positional argument) ∨
    (∃ structured, item = .flag structured ∧ (argument, structured) ∈ flags) ∨
      ∃ setting value, item = .setting setting value ∧ setting ∈ command.settings ∧
        argument = setting.name ++ "=" ++ value := by
  unfold readArgument at h
  split at h
  · cases h
  · split at h
    · next hp =>
      cases h
      exact Or.inl ⟨hp, rfl⟩
    · exact Or.inr (eq_of_readOption_eq_item h)

theorem eq_of_readArgument_eq_awaiting {command : Command} {argument : String} {setting : Setting}
    (h : command.readArgument argument = .awaiting setting) :
    setting ∈ command.settings ∧ argument = setting.name := by
  unfold readArgument at h
  split at h
  · cases h
  · split at h
    · cases h
    · exact eq_of_readOption_eq_awaiting h

/-! ## Lists of arguments -/

theorem readItems_terminator (command : Command) (values : List String) :
    command.readItems (terminator :: values) = .ok (values.map .positional) := by
  rw [readItems, readArgument_terminator]

theorem readItems_cons_of_item {command : Command} {argument : String} {item : Item}
    (h : command.readArgument argument = .item item) (rest : List String) :
    command.readItems (argument :: rest) = (command.readItems rest).map (item :: ·) := by
  rw [readItems, h]

theorem readItems_cons_of_awaiting {command : Command} {argument : String} {setting : Setting}
    (h : command.readArgument argument = .awaiting setting) (value : String)
    (rest : List String) :
    command.readItems (argument :: value :: rest)
      = (command.readItems rest).map (.setting setting value :: ·) := by
  rw [readItems, h]

theorem readItems_singleton_of_awaiting {command : Command} {argument : String}
    {setting : Setting} (h : command.readArgument argument = .awaiting setting) :
    command.readItems [argument] = .error (.missingValue setting.name) := by
  rw [readItems, h]

theorem readItems_cons_of_refused {command : Command} {argument : String} {error : UsageError}
    (h : command.readArgument argument = .refused error) (rest : List String) :
    command.readItems (argument :: rest) = .error error := by
  rw [readItems, h]

end Command

end RerankPrompt.CommandLine
