import RerankPrompt.CommandLine.Grammar
import RerankPrompt.CommandLine.Invocation

/-!
# Spelling an invocation

Every invocation can be written as arguments: its options first, then `--`, which shields the
positional arguments from being taken for options. A value may be attached to its setting or follow
it. `ofArguments_arguments` says that what is written is read back, whatever the values look like.
-/

namespace RerankPrompt.CommandLine

/-- Where the value of a setting is written. -/
inductive Spelling where
  | attached
  | separate
deriving DecidableEq

/-- A setting and its value as arguments. -/
def Setting.spell (spelling : Spelling) (setting : Setting) (value : String) : List String :=
  match spelling with
  | .attached => [setting.name ++ "=" ++ value]
  | .separate => [setting.name, value]

namespace Request

def command : Request → Command
  | .detect _ => .detect
  | .format _ _ _ _ => .format

/-- The positional arguments of a request. -/
def positionals : Request → List String
  | .detect model => [model]
  | .format query document _ _ => [query, document]

/-- The settings of a request, with their values. -/
def settings : Request → List (Setting × String)
  | .detect _ => []
  | .format _ _ model instruction =>
    (.model, model) :: instruction.toList.map fun value => (.instruction, value)

end Request

namespace Invocation

/-- All settings of an invocation, with their values. -/
def settings (invocation : Invocation) : List (Setting × String) :=
  invocation.request.settings ++ [(.level, invocation.level)]

/-- The flags of an invocation: none, unless log output is structured. -/
def flagNames (invocation : Invocation) : List String :=
  if invocation.structured then ["--json-output"] else []

/-- An invocation as arguments. -/
def arguments (spelling : Spelling) (invocation : Invocation) : List String :=
  invocation.request.command.name ::
    (invocation.settings.flatMap (fun (setting, value) => setting.spell spelling value)
      ++ invocation.flagNames ++ terminator :: invocation.request.positionals)

/-- The items that an invocation is made of. -/
def items (invocation : Invocation) : List Item :=
  invocation.settings.map (fun (setting, value) => .setting setting value)
    ++ (if invocation.structured then [.flag true] else [])
    ++ invocation.request.positionals.map .positional

end Invocation

theorem reads_settings {command : Command} {rest : List String} {items : List Item}
    (spelling : Spelling) {settings : List (Setting × String)}
    (hsettings : ∀ entry ∈ settings, entry.1 ∈ command.settings) (h : Reads command rest items) :
    Reads command (settings.flatMap (fun (setting, value) => setting.spell spelling value) ++ rest)
      (settings.map (fun (setting, value) => .setting setting value) ++ items) := by
  induction settings with
  | nil => exact h
  | cons entry settings ih =>
    have hentry := hsettings entry (by simp)
    have hrest := ih fun other hother => hsettings other (by simp [hother])
    cases spelling with
    | attached => exact .attached hentry hrest
    | separate => exact .separate hentry hrest

theorem reads_arguments (spelling : Spelling) (invocation : Invocation) :
    Reads invocation.request.command (invocation.arguments spelling).tail invocation.items := by
  obtain ⟨request, level, structured⟩ := invocation
  have hsettings : ∀ entry ∈ Invocation.settings ⟨request, level, structured⟩,
      entry.1 ∈ request.command.settings := by
    cases request with
    | detect model => simp [Invocation.settings, Request.settings, Request.command, Command.settings]
    | format query document model instruction =>
      cases instruction <;>
        simp [Invocation.settings, Request.settings, Request.command, Command.settings]
  simp only [Invocation.arguments, Invocation.items, List.tail_cons, List.append_assoc]
  apply reads_settings spelling hsettings
  cases structured with
  | false => exact .terminated request.positionals
  | true => exact .flag (by decide) (.terminated request.positionals)

theorem select_name (command : Command) (rest : List String) :
    Command.select (command.name :: rest) = .ok (command, rest) := by
  have hterminator : command.name ≠ terminator := by
    cases command <;> decide
  have hname : Command.ofName? command.name = some command :=
    Command.ofName?_eq_some_iff.mpr rfl
  simp [Command.select, hterminator, hname]

theorem invocation_items (invocation : Invocation) :
    invocation.request.command.invocation invocation.items = .ok invocation := by
  obtain ⟨request, level, structured⟩ := invocation
  cases request with
  | detect model => cases structured <;> rfl
  | format query document model instruction => cases instruction <;> cases structured <;> rfl

theorem ofArguments_of_reads {arguments rest : List String} {command : Command}
    {items : List Item} (hselect : Command.select arguments = .ok (command, rest))
    (hreads : Reads command rest items) :
    Invocation.ofArguments arguments = command.invocation items := by
  rw [Invocation.ofArguments, hselect]
  show (command.readItems rest >>= _) = _
  rw [readItems_of_reads hreads]
  rfl

/-- An invocation is read back from its arguments. -/
theorem ofArguments_arguments (spelling : Spelling) (invocation : Invocation) :
    Invocation.ofArguments (invocation.arguments spelling) = .ok invocation := by
  have hselect := select_name invocation.request.command (invocation.arguments spelling).tail
  have hreads := reads_arguments spelling invocation
  exact (ofArguments_of_reads hselect hreads).trans (invocation_items invocation)

end RerankPrompt.CommandLine
