import RerankPrompt.Proofs.CommandLine.Precedence

/-!
# Options that set the log up

An option that sets the log up is read by itself, and of what the command line asks for it changes the
set-up alone. Put in front of all other arguments, with a level that is known, it decides neither how
the command line ends nor what it prints, and nothing at all where the same option comes again
(`run_insert`).
-/

namespace RerankPrompt.CommandLine

/-- The item sets the log up: a flag, or a level that is known. -/
inductive Item.SetsLog : Item → Prop where
  | flag (structured : Bool) : SetsLog (.flag structured)
  | level (level : Log.Level) : SetsLog (.setting .level level.name)

namespace Outcome

def failure? : Outcome → Option Failure
  | .completed _ _ => none
  | .failed _ failure => some failure

/-- An outcome without what went to the log: the exit code, what was printed and what failed. -/
def unlogged (outcome : Outcome) : Nat × String × Option Failure :=
  (outcome.exitCode, outcome.printed, outcome.failure?)

end Outcome

/-! ## The set-up has no part in the rest -/

/-- Of the level it matters only that it is known. -/
theorem Invocation.unlogged_run_congr {first second : Invocation}
    (hrequest : first.request = second.request)
    (hlevel : first.level = second.level ∨
      ∃ level level' : Log.Level, level.name = first.level ∧ level'.name = second.level) :
    first.run.unlogged = second.run.unlogged := by
  rcases hlevel with hlevel | ⟨level, level', hfirst, hsecond⟩
  · cases hparse : Log.Level.parse second.level with
    | ok threshold =>
      have hname := Log.Level.parse_eq_ok_iff.mp hparse
      rw [run_of_name (hname.trans hlevel.symm), run_of_name hname, hrequest]
      rfl
    | error unknown =>
      rw [← hlevel] at hparse
      rw [run_of_unknown hparse, run_of_unknown (hlevel ▸ hparse)]
  · rw [run_of_name hfirst, run_of_name hsecond, hrequest]
    rfl

namespace Item.SetsLog

variable {item : Item} (h : item.SetsLog)

include h

theorem takes (command : Command) : command.Takes item := by
  cases h with
  | flag structured => trivial
  | level level =>
    cases command with
    | detect => exact List.mem_singleton_self _
    | format => exact List.mem_of_getLast? rfl

theorem positionals_cons (items : List Item) : positionals (item :: items) = positionals items := by
  cases h <;> rfl

theorem lastValue?_cons {name : Setting} (hname : name ≠ .level) (items : List Item) :
    lastValue? name (item :: items) = lastValue? name items := by
  unfold lastValue?
  have hvalue : item.value? name = none := by
    cases h with
    | flag structured => rfl
    | level level => exact if_neg hname.symm
  rw [List.filterMap_cons_none hvalue]

theorem request_cons (command : Command) (items : List Item) :
    command.request (item :: items) = command.request items := by
  unfold Command.request
  rw [h.positionals_cons, h.lastValue?_cons (by decide), h.lastValue?_cons (by decide)]

/-- The level is what it was, or it was not given and is known before and after. -/
theorem level_cons (items : List Item) :
    let level (items : List Item) : String :=
      (lastValue? .level items).getD Log.Level.info.name
    level (item :: items) = level items ∨ ∃ known known' : Log.Level,
      known.name = level (item :: items) ∧ known'.name = level items := by
  intro level
  cases h with
  | flag structured => exact Or.inl rfl
  | level known =>
    have hcons : lastValue? .level (.setting .level known.name :: items)
        = some ((lastValue? .level items).getD known.name) := List.getLast?_cons
    simp only [level, hcons]
    cases lastValue? .level items with
    | some given => exact Or.inl rfl
    | none => exact Or.inr ⟨known, .info, rfl, rfl⟩

/-- Another occurrence of the option after it leaves nothing for the item to say. -/
theorem invocation_cons_of_mem (command : Command) {items : List Item} {other : Item}
    (hother : other ∈ items) (hoption : other.option? = item.option?) :
    command.invocation (item :: items) = command.invocation items := by
  apply invocation_congr command (h.positionals_cons items)
  intro option
  rw [occurrences_cons]
  split
  · next hitem =>
    have hmem : other ∈ occurrences option items :=
      mem_occurrences.mpr ⟨hother, hoption.trans hitem⟩
    exact List.getLast?_cons_of_ne_nil (List.ne_nil_of_mem hmem)
  · rfl

end Item.SetsLog

/-! ## Command lines -/

section Insert

variable {lead : List String} (hlead : lead ∈ [[], [terminator]]) (command : Command)
  (spelling : Spelling) {item : Item} (hitem : item.SetsLog) {rest : List String}

include hlead hitem

theorem run_insert_of_error {error : UsageError} (hread : command.readItems rest = .error error) :
    run (lead ++ command.name :: (item.spell spelling ++ rest))
      = run (lead ++ command.name :: rest) := by
  have hinsert := Command.readItems_spell_append (hitem.takes command) spelling rest
  rw [hread] at hinsert
  rw [run_of_readItems_eq_error (select_lead hlead command _) hinsert,
    run_of_readItems_eq_error (select_lead hlead command rest) hread]

theorem run_insert_of_ok {items : List Item} (hread : command.readItems rest = .ok items) :
    run (lead ++ command.name :: (item.spell spelling ++ rest))
      = match command.invocation (item :: items) with
        | .ok invocation => invocation.run
        | .error error => .failed "" (.usage error) := by
  have hinsert := Command.readItems_spell_append (hitem.takes command) spelling rest
  rw [hread] at hinsert
  exact run_of_readItems_eq_ok (select_lead hlead command _) hinsert

theorem unlogged_run_insert :
    (run (lead ++ command.name :: (item.spell spelling ++ rest))).unlogged
      = (run (lead ++ command.name :: rest)).unlogged := by
  cases hread : command.readItems rest with
  | error error => rw [run_insert_of_error hlead command spelling hitem hread]
  | ok items =>
    rw [run_insert_of_ok hlead command spelling hitem hread,
      run_of_readItems_eq_ok (select_lead hlead command rest) hread, Command.invocation,
      Command.invocation, hitem.request_cons]
    cases command.request items with
    | error error => rfl
    | ok request => exact Invocation.unlogged_run_congr rfl (hitem.level_cons items)

end Insert

/-- **Options that set the log up change nothing else**: one of them, with a known level, may be put
behind the name of the command without a change of the exit code, of what is printed and of what
failed. Where the rest sets the same option, and where the rest cannot be read, nothing changes at
all. -/
theorem run_insert {lead : List String} (hlead : lead ∈ [[], [terminator]]) (command : Command)
    (spelling : Spelling) {item : Item} (hitem : item.SetsLog) (rest : List String) :
    let original := run (lead ++ command.name :: rest)
    let extended := run (lead ++ command.name :: (item.spell spelling ++ rest))
    extended.exitCode = original.exitCode ∧ extended.printed = original.printed ∧
    extended.failure? = original.failure? ∧
    ((∀ items, command.readItems rest = .ok items →
      ∃ other ∈ items, other.option? = item.option?) → extended = original) := by
  intro original extended
  have hunlogged : extended.unlogged = original.unlogged :=
    unlogged_run_insert hlead command spelling hitem
  obtain ⟨hexitCode, hprinted, hfailure⟩ : _ ∧ _ ∧ _ := by
    simpa only [Outcome.unlogged, Prod.mk.injEq] using hunlogged
  refine ⟨hexitCode, hprinted, hfailure, fun hset => ?_⟩
  cases hread : command.readItems rest with
  | error error => exact run_insert_of_error hlead command spelling hitem hread
  | ok items =>
    obtain ⟨other, hother, hoption⟩ := hset items hread
    have hextended := run_insert_of_ok hlead command spelling hitem hread
    rw [hitem.invocation_cons_of_mem command hother hoption] at hextended
    exact hextended.trans (run_of_readItems_eq_ok (select_lead hlead command rest) hread).symm

/-- A level that lets a remark through, a flag that a later one undoes, and a level before an unknown
one. -/
theorem run_insert_undone_flag :
    let rest := ["q", "--no-json-output", "d", "--model-id=plain", "--instruction", "--"]
    let original := run (["--", "format"] ++ rest)
    let louder := run (["--", "format", "--logger-level", "DEBUG"] ++ rest)
    let unknown := rest ++ ["--logger-level=LOUD"]
    (original = .completed "q\nd\n" (.text
        "No prompt template for plain, using raw query/text pairs\n") ∧
      louder ≠ original ∧ louder.exitCode = original.exitCode ∧
      louder.printed = original.printed ∧ louder.failure? = original.failure?) ∧
    run (["--", "format", "--json-output"] ++ rest) = original ∧
    run (["--", "format", "--logger-level=DEBUG"] ++ unknown) = run (["--", "format"] ++ unknown) := by
  intro rest original louder unknown
  have hlead : [terminator] ∈ [[], [terminator]] := by decide
  have hlevel : Item.SetsLog (.setting .level "DEBUG") := .level .debug
  obtain ⟨hexitCode, hprinted, hfailure, -⟩ := run_insert hlead .format .separate hlevel rest
  have hrest : Command.format.readItems rest = .ok [.positional "q", .flag false, .positional "d",
      .setting .model "plain", .setting .instruction "--"] := rfl
  have hunknown : Command.format.readItems unknown = .ok [.positional "q", .flag false,
      .positional "d", .setting .model "plain", .setting .instruction "--",
      .setting .level "LOUD"] := rfl
  refine ⟨⟨by decide +kernel, by decide +kernel, hexitCode, hprinted, hfailure⟩, ?_, ?_⟩
  · apply (run_insert hlead .format .separate (.flag true) rest).2.2.2
    intro items hitems
    cases hrest.symm.trans hitems
    exact ⟨.flag false, by decide, rfl⟩
  · apply (run_insert hlead .format .attached hlevel unknown).2.2.2
    intro items hitems
    cases hunknown.symm.trans hitems
    exact ⟨.setting .level "LOUD", by decide, rfl⟩

end RerankPrompt.CommandLine
