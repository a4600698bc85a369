/-
Events on the way to an outline, and computations that record them.
-/
import CodeOutline.Pattern

namespace CodeOutline

/-- How much an event matters. -/
inductive Severity where
  | trace
  | debug
  | warn
deriving DecidableEq, Repr

def Severity.name : Severity → String
  | .trace => "trace"
  | .debug => "debug"
  | .warn => "warn"

/-- Something that is worth telling about a run. -/
inductive Event where
  /-- A node is dropped because it lies too deep. -/
  | tooDeep (kind : String) (maxDepth : UInt64)
  /-- The statements of a group of specs are dropped because they lie too deep. -/
  | specsTooDeep (maxDepth : UInt64)
  /-- A node is skipped because it has no usable location. -/
  | noLocation (kind : String)
  /-- A node is skipped because it is of no interest. -/
  | noRule (kind : String)
  /-- A class property is skipped because of its key. -/
  | propertyKey (kind : String)
  /-- A method is skipped because of its key. -/
  | methodKey (kind : String)
  /-- A syntax tree has come from the checker. -/
  | received (bytes : Nat)
deriving DecidableEq, Repr

namespace Event

def severity : Event → Severity
  | .tooDeep .. => .warn
  | .specsTooDeep .. => .warn
  | .noLocation .. => .trace
  | .noRule .. => .trace
  | .propertyKey .. => .trace
  | .methodKey .. => .trace
  | .received .. => .debug

/-- The words for an event. -/
def message : Event → String
  | .tooDeep .. => "outline nesting too deep, dropping subtree"
  | .specsTooDeep .. => "spec nesting too deep, dropping children"
  | .noLocation .. => "node has no location, skipping"
  | .noRule .. => "no outline rule"
  | .propertyKey .. => "class property key is not an identifier"
  | .methodKey .. => "method key is not an identifier"
  | .received .. => "received AST"

/-- The data of an event, as the members of a JSON object. -/
def fields : Event → List (String × Json)
  | .tooDeep kind maxDepth => [("kind", .string kind), ("max_depth", .nat maxDepth.toNat)]
  | .specsTooDeep maxDepth => [("max_depth", .nat maxDepth.toNat)]
  | .noLocation kind => [("kind", .string kind)]
  | .noRule kind => [("kind", .string kind)]
  | .propertyKey kind => [("kind", .string kind)]
  | .methodKey kind => [("kind", .string kind)]
  | .received bytes => [("bytes", .nat bytes)]

end Event

/-- A value with the events on the way to it, in order. -/
structure Logged (α : Type) where
  events : List Event
  value : α

namespace Logged

instance : Monad Logged where
  pure a := ⟨[], a⟩
  bind x f := ⟨x.events ++ (f x.value).events, (f x.value).value⟩

/-- The computation that only records an event. -/
def log (e : Event) : Logged Unit := ⟨[e], ()⟩

/-- The results of a function on a list, without those that are `none`. -/
def filterMap {α β : Type} (f : α → Logged (Option β)) : List α → Logged (List β)
  | [] => pure []
  | a :: as => do
    let b ← f a
    let bs ← filterMap f as
    return b.toList ++ bs

end Logged

/-- A computation that records events and may meet an unexpected pattern.  What follows the failure
is not run. -/
structure Run (α : Type) where
  events : List Event
  result : Except UnexpectedPattern α

namespace Run

instance : Monad Run where
  pure a := ⟨[], .ok a⟩
  bind x f :=
    match x.result with
    | .ok a => ⟨x.events ++ (f a).events, (f a).result⟩
    | .error e => ⟨x.events, .error e⟩

/-- The computation that only records an event. -/
def log (e : Event) : Run Unit := ⟨[e], .ok ()⟩

/-- A computation that cannot fail. -/
def ofLogged {α : Type} (x : Logged α) : Run α := ⟨x.events, .ok x.value⟩

/-- A computation that records nothing. -/
def ofExcept {α : Type} (x : Except UnexpectedPattern α) : Run α := ⟨[], x⟩

/-- The results of a function on a list, without those that are `none`.  The first failure ends the
run. -/
def filterMap {α β : Type} (f : α → Run (Option β)) : List α → Run (List β)
  | [] => pure []
  | a :: as => do
    let b ← f a
    let bs ← filterMap f as
    return b.toList ++ bs

end Run

end CodeOutline
