/-!
# Destinations

Where a returned item can be sent. At most one destination of a shop should be its default, the
one for returns that no rule claims; `Destination.default?` takes the first one flagged
(`find_default_destination`).
-/

namespace Disposition

/-- A place that accepts returned items. -/
structure Destination where
  /-- The identifier. -/
  id : String
  /-- The name. -/
  name : String
  /-- The first line of the address. -/
  addressLine1 : String := ""
  /-- The second line of the address, if it has one. -/
  addressLine2 : Option String := none
  /-- The city. -/
  city : String := ""
  /-- The state. -/
  state : String := ""
  /-- The postal code. -/
  postalCode : String := ""
  /-- The country, two letters. -/
  country : String := "US"
  /-- The telephone number, if there is one. -/
  phone : Option String := none
  /-- The shop sends here what no rule claims. -/
  isDefault : Bool := false
  deriving DecidableEq, Repr, Inhabited

/-- The first destination that is flagged as the default. -/
def Destination.default? (destinations : List Destination) : Option Destination :=
  destinations.find? (·.isDefault)

end Disposition
