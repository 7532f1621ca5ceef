import Homescreen.Config.Basic

/-!
# Bootstrap

Starting the bootstrap first validates its configuration; a configuration that breaks its
rules stops the start before anything of the browser is touched, and the start reports that
fault. What follows validation needs a browser and lies outside this library.

The bootstrap keeps the listeners it installed in a **registry**, so that stopping removes
them again. A registry names the events it listens to.
-/

namespace Homescreen

/-- How a start ends before the browser is touched: the configuration's fault, or nothing when
the configuration is valid and the browser takes over. -/
def Bootstrap.startCheck (c : Config) : Except Fault Unit :=
  c.validate

/-- The listeners installed by a bootstrap, by the events they listen to. -/
structure ListenerRegistry where
  events : List String
  deriving DecidableEq, Repr

namespace ListenerRegistry

/-- A registry with no listener. -/
def empty : ListenerRegistry :=
  ⟨[]⟩

/-- How many listeners are installed. -/
def size (r : ListenerRegistry) : Nat :=
  r.events.length

/-- No listener is installed. -/
def isEmpty (r : ListenerRegistry) : Bool :=
  r.events.isEmpty

@[simp] theorem size_empty : empty.size = 0 := rfl

@[simp] theorem isEmpty_empty : empty.isEmpty = true := rfl

end ListenerRegistry

end Homescreen
