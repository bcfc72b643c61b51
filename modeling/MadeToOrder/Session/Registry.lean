import MadeToOrder.Session

/-!
# Sessions by id

The sessions in progress. Those that nobody used for some time can be removed.
-/

set_option autoImplicit false

namespace MadeToOrder

abbrev Registry := Keyed Session

namespace Registry

def second : Moment := 1000000

def standardAge : Moment := 7200 * second

def isStale (limit : Moment) (s : Session) : Bool := decide (s.lastActivity < limit)

def cleanup (registry : Registry) (age now : Moment) : Registry :=
  registry.filter (fun entry => !isStale (now - age) entry.2)

end Registry

end MadeToOrder
