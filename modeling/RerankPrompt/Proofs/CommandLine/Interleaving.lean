import RerankPrompt.CommandLine.Run
import RerankPrompt.CommandLine.Spelling

/-!
# Options and positional arguments in any order

A command line is what its positional arguments and the last occurrences of its options make it
(`invocation_congr`). So the items of a line may be mixed as one likes, as long as the positional
arguments keep their order among themselves and so do the occurrences of each option, values may be
attached or not, and all occurrences of an option but its last may be left out (`run_interleaved`).
-/

namespace RerankPrompt.CommandLine

/-- What an option sets; the two flags are one option. -/
inductive OptionKind where
  | toggle
  | setting (setting : Setting)
deriving DecidableEq

/-- The option that an item is an occurrence of. -/
def Item.option? : Item → Option OptionKind
  | .flag _ => some .toggle
  | .setting name _ => some (.setting name)
  | .positional _ => none

/-- The occurrences of an option, in their order. -/
def occurrences (option : OptionKind) (items : List Item) : List Item :=
  items.filter fun item => item.option? = some option

/-- The items without those occurrences of options that another one follows. -/
def latest : List Item → List Item
  | [] => []
  | item :: rest =>
    if item.option?.any fun option => !(occurrences option rest).isEmpty then latest rest
    else item :: latest rest

/-- The items are these positional arguments and these options, mixed: the positional arguments are in
order, and the occurrences of each option are. -/
structure Interleaves (values : List String) (options items : List Item) : Prop where
  positionals_eq : positionals items = values
  occurrences_eq : ∀ option, occurrences option items = occurrences option options

/-- An item is an option of the command: one of its settings, or a flag. -/
def Command.Knows (command : Command) : Item → Prop
  | .flag _ => True
  | .setting name _ => name ∈ command.settings
  | .positional _ => False

def flagName (structured : Bool) : String :=
  if structured then "--json-output" else "--no-json-output"

/-- An item as arguments. -/
def Item.spell (spelling : Spelling) : Item → List String
  | .flag structured => [flagName structured]
  | .setting name value => name.spell spelling value
  | .positional value => [value]

/-- The arguments of a line of items, of which each may be spelled in its own way. -/
def spelled (line : List (Spelling × Item)) : List String :=
  line.flatMap fun (spelling, item) => item.spell spelling

/-! ## The last occurrence counts -/

theorem findSome?_eq_bind_find? {α β : Type} {f : α → Option β} {p : α → Bool}
    (h : ∀ x, (f x).isSome = p x) (xs : List α) : xs.findSome? f = (xs.find? p).bind f := by
  induction xs with
  | nil => rfl
  | cons x xs ih =>
    rw [List.findSome?_cons, List.find?_cons, ← h]
    cases hx : f x with
    | none => exact ih
    | some b => exact hx.symm

theorem lastValue?_eq (name : Setting) (items : List Item) :
    lastValue? name items
      = (occurrences (.setting name) items).getLast?.bind (Item.value? name) := by
  unfold lastValue? occurrences
  rw [List.getLast?_filterMap, List.getLast?_filter]
  apply findSome?_eq_bind_find?
  intro item
  cases item with
  | setting other value => by_cases h : other = name <;> simp [Item.value?, Item.option?, h]
  | _ => simp [Item.value?, Item.option?]

theorem lastFlag?_eq (items : List Item) :
    lastFlag? items = (occurrences .toggle items).getLast?.bind Item.flag? := by
  unfold lastFlag? occurrences
  rw [List.getLast?_filterMap, List.getLast?_filter]
  apply findSome?_eq_bind_find?
  intro item
  cases item <;> simp [Item.flag?, Item.option?]

/-- An invocation depends on the positional arguments and on the last occurrence of each option. -/
theorem invocation_congr (command : Command) {items items' : List Item}
    (hpositionals : positionals items = positionals items')
    (hlast : ∀ option, (occurrences option items).getLast? = (occurrences option items').getLast?) :
    command.invocation items = command.invocation items' := by
  have hvalue (name : Setting) : lastValue? name items = lastValue? name items' := by
    rw [lastValue?_eq, lastValue?_eq, hlast]
  have hflag : lastFlag? items = lastFlag? items' := by
    rw [lastFlag?_eq, lastFlag?_eq, hlast]
  unfold Command.invocation Command.request
  rw [hpositionals, hflag, hvalue, hvalue, hvalue]

theorem run_congr_of_reads {command : Command} {arguments arguments' : List String}
    {items items' : List Item} (h : Reads command arguments items)
    (h' : Reads command arguments' items')
    (hinvocation : command.invocation items = command.invocation items') :
    run (command.name :: arguments) = run (command.name :: arguments') := by
  rw [run, run, ofArguments_of_reads (select_name command arguments) h,
    ofArguments_of_reads (select_name command arguments') h', hinvocation]

/-! ## Leaving out the earlier occurrences -/

theorem occurrences_cons (option : OptionKind) (item : Item) (rest : List Item) :
    occurrences option (item :: rest)
      = if item.option? = some option then item :: occurrences option rest
        else occurrences option rest := by
  simp [occurrences, List.filter_cons]

/-- Of each option the last occurrence is left, and no other. -/
theorem occurrences_latest (option : OptionKind) (items : List Item) :
    occurrences option (latest items) = (occurrences option items).getLast?.toList := by
  induction items with
  | nil => rfl
  | cons item rest ih =>
    rw [latest, occurrences_cons]
    by_cases hitem : item.option? = some option
    · rw [if_pos hitem, hitem, List.getLast?_cons]
      -- The item stays exactly when no other occurrence of its option follows.
      cases hrest : occurrences option rest with
      | nil => simp [hrest, occurrences_cons, hitem, ih]
      | cons next others => simp [hrest, ih, List.getLast?_cons]
    · rw [if_neg hitem, ← ih]
      split
      · rfl
      · rw [occurrences_cons, if_neg hitem]

theorem mem_occurrences {option : OptionKind} {item : Item} {items : List Item} :
    item ∈ occurrences option items ↔ item ∈ items ∧ item.option? = some option := by
  simp [occurrences]

theorem latest_subset (items : List Item) : latest items ⊆ items := by
  fun_induction latest items with
  | case1 => exact List.Subset.refl _
  | case2 item rest _ ih => exact List.subset_cons_of_subset item ih
  | case3 item rest _ ih => exact List.cons_subset_cons item ih

/-! ## Reading a line -/

theorem flagName_mem_flags (structured : Bool) : (flagName structured, structured) ∈ flags := by
  cases structured <;> decide

/-- An item that stands where a command takes it: an option of the command, or what is positional by
its looks. -/
def Command.Takes (command : Command) : Item → Prop
  | .positional value => isPositional value = true
  | item => command.Knows item

theorem reads_spelled {command : Command} {line : List (Spelling × Item)}
    (h : ∀ item ∈ line.map Prod.snd, command.Takes item) :
    Reads command (spelled line) (line.map Prod.snd) := by
  induction line with
  | nil => exact .nil
  | cons entry rest ih =>
    obtain ⟨spelling, item⟩ := entry
    obtain ⟨hitem, hrest⟩ := List.forall_mem_cons.mp h
    have hreads := ih hrest
    cases item with
    | flag structured => exact .flag (flagName_mem_flags structured) hreads
    | setting name value =>
      cases spelling with
      | attached => exact .attached hitem hreads
      | separate => exact .separate hitem hreads
    | positional value => exact .positional hitem hreads

theorem Interleaves.takes {command : Command} {values : List String} {options items : List Item}
    (h : Interleaves values options items)
    (hvalues : ∀ value ∈ values, isPositional value = true)
    (hoptions : ∀ item ∈ options, command.Knows item) {item : Item} (hitem : item ∈ items) :
    command.Takes item := by
  have hknows {option : OptionKind} (hoption : item.option? = some option) :
      command.Knows item := by
    have hmem : item ∈ occurrences option items := mem_occurrences.mpr ⟨hitem, hoption⟩
    rw [h.occurrences_eq] at hmem
    exact hoptions item (mem_occurrences.mp hmem).1
  cases item with
  | flag structured => exact hknows rfl
  | setting name value => exact hknows rfl
  | positional value =>
    apply hvalues
    rw [← h.positionals_eq]
    exact List.mem_filterMap.mpr ⟨_, hitem, rfl⟩

/-- Options and positional arguments may be mixed, values attached or not, and the earlier occurrences
of options left out: the command line ends in the same way. -/
theorem run_interleaved {command : Command} {values : List String} {options : List Item}
    (hvalues : ∀ value ∈ values, isPositional value = true)
    (hoptions : ∀ item ∈ options, command.Knows item) {line line' : List (Spelling × Item)}
    (h : Interleaves values options (line.map Prod.snd))
    (h' : Interleaves values options (line'.map Prod.snd)
      ∨ Interleaves values (latest options) (line'.map Prod.snd)) :
    run (command.name :: spelled line) = run (command.name :: spelled line') := by
  have hlast : ∀ option, (occurrences option (line'.map Prod.snd)).getLast?
      = (occurrences option options).getLast? := by
    intro option
    rcases h' with h' | h'
    · rw [h'.occurrences_eq]
    · rw [h'.occurrences_eq, occurrences_latest]
      cases (occurrences option options).getLast? <;> rfl
  have hpositionals : positionals (line'.map Prod.snd) = values :=
    h'.elim Interleaves.positionals_eq Interleaves.positionals_eq
  have htakes : ∀ item ∈ line'.map Prod.snd, command.Takes item := by
    intro item hitem
    rcases h' with h' | h'
    · exact h'.takes hvalues hoptions hitem
    · exact h'.takes hvalues (fun _ hmem => hoptions _ (latest_subset options hmem)) hitem
  have hreads := reads_spelled fun item hitem => h.takes hvalues hoptions hitem
  apply run_congr_of_reads hreads (reads_spelled htakes)
  apply invocation_congr
  · rw [h.positionals_eq, hpositionals]
  · intro option
    rw [h.occurrences_eq, hlast]

/-- A flag and an unknown level that are superseded may be left out, the other options put in front, and
their values spelled the other way. -/
theorem run_interleaved_superseded_level :
    run ["format", "--logger-level", "LOUD", "q", "--json-output", "--instruction=--", "-",
        "--logger-level=DEBUG", "--no-json-output"]
      = run ["format", "--no-json-output", "--instruction", "--", "--logger-level", "DEBUG", "q",
        "-"] :=
  @run_interleaved .format ["q", "-"]
    [.setting .level "LOUD", .setting .level "DEBUG", .flag true, .flag false,
      .setting .instruction "--"]
    (by decide) (by simp [Command.Knows, Command.settings])
    [(.separate, .setting .level "LOUD"), (.separate, .positional "q"), (.separate, .flag true),
      (.attached, .setting .instruction "--"), (.separate, .positional "-"),
      (.attached, .setting .level "DEBUG"), (.separate, .flag false)]
    [(.separate, .flag false), (.separate, .setting .instruction "--"),
      (.separate, .setting .level "DEBUG"), (.separate, .positional "q"),
      (.separate, .positional "-")]
    ⟨rfl, fun option => by rcases option with _ | _ | _ | _ <;> rfl⟩
    (.inr ⟨rfl, fun option => by rcases option with _ | _ | _ | _ <;> rfl⟩)

end RerankPrompt.CommandLine
