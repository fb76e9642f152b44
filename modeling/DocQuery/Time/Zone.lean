import DocQuery.Time.Instant
import DocQuery.Time.Zone.Names

/-!
# Time zones

A zone is known by its name in the time zone database, exactly as written there. Dates are shown
on the clock of a zone, or on the local one. The clocks come from the surroundings of a session.
-/

namespace DocQuery

structure Zone where
  name : String
  known : Zone.isKnown name = true

def Zone.ofName? (name : String) : Option Zone :=
  if h : Zone.isKnown name = true then some ⟨name, h⟩ else none

/-- How many seconds clocks are ahead of universal time at a moment: the clock of each zone, and the
local one. -/
structure Clocks where
  zone : Zone → Int → Int
  here : Int → Int

def Clocks.universal : Clocks := ⟨fun _ _ => 0, fun _ => 0⟩

def Clocks.ahead (clocks : Clocks) : Option Zone → Int → Int
  | some zone => clocks.zone zone
  | none => clocks.here

def Instant.shortTextIn (t : Instant) (clocks : Clocks) (zone : Option Zone) : String :=
  t.shortText (clocks.ahead zone t.seconds)

end DocQuery
