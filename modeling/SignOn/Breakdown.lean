/-
This file lists the settings with which a part of the gateway breaks down instead of starting.
-/

namespace SignOn

/-- A part breaks down when it is set up in a way that it does not check for. -/
inductive Breakdown
  | retentionTooLong
  | emptyInterval
  | routeWithoutSlash
  | routeWithoutName
  | routeWithMisplacedMark
  | routeWithManyNames
  | routeTaken
  deriving DecidableEq, Repr

end SignOn
