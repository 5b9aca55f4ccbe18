import RerankPrompt.CommandLine.Arguments
import RerankPrompt.Model

/-!
# Invocations

What a command line asks for: the work, and how the log is set up for it. Of an option that is given
more than once the last occurrence counts.
-/

namespace RerankPrompt.CommandLine

/-- The work that a command line asks for. -/
inductive Request where
  | detect (model : String)
  | format (query document model : String) (instruction : Option String)
deriving DecidableEq

structure Invocation where
  request : Request
  /-- The name of the log level, not yet known to be one. -/
  level : String
  structured : Bool
deriving DecidableEq

namespace Item

def positional? : Item → Option String
  | .positional value => some value
  | _ => none

def flag? : Item → Option Bool
  | .flag structured => some structured
  | _ => none

/-- The value that an item gives to a setting. -/
def value? (setting : Setting) : Item → Option String
  | .setting other value => if other = setting then some value else none
  | _ => none

end Item

/-- The positional arguments among the items. -/
def positionals (items : List Item) : List String :=
  items.filterMap Item.positional?

/-- The value of the last occurrence of a setting. -/
def lastValue? (setting : Setting) (items : List Item) : Option String :=
  (items.filterMap (Item.value? setting)).getLast?

/-- What the last flag says. -/
def lastFlag? (items : List Item) : Option Bool :=
  (items.filterMap Item.flag?).getLast?

namespace Command

/-- What is wrong with these positional arguments: the first parameter that none of them fills, or
else those that fill none. -/
def countError (command : Command) (values : List String) : UsageError :=
  match command.parameters.drop values.length with
  | parameter :: _ => .missingArgument parameter
  | [] => .extraArguments (values.drop command.parameters.length)

/-- The work that the items ask for. -/
def request (command : Command) (items : List Item) : Except UsageError Request :=
  match command, positionals items with
  | .detect, [model] => .ok (.detect model)
  | .format, [query, document] =>
    .ok (.format query document ((lastValue? .model items).getD Model.defaultId)
      (lastValue? .instruction items))
  | command, values => .error (command.countError values)

/-- The invocation that the items make up. -/
def invocation (command : Command) (items : List Item) : Except UsageError Invocation :=
  (command.request items).map fun request =>
    { request
      level := (lastValue? .level items).getD Log.Level.info.name
      structured := (lastFlag? items).getD false }

end Command

/-- The invocation that a list of arguments spells. -/
def Invocation.ofArguments (arguments : List String) : Except UsageError Invocation := do
  let (command, rest) ← Command.select arguments
  let items ← command.readItems rest
  command.invocation items

end RerankPrompt.CommandLine
