/-!
This module contains what the machine under a run has room for. How deep its stack is and how wide
its terminal is are told by the surroundings of a run; here is what is usual.
-/

namespace QueryLinker

/--
How many calls may be inside one another before the stack ends. The calls that a run makes around
them are not counted.
-/
def usualNesting : Nat := 950

/-- How many cells a line of a terminal has. -/
def usualWidth : Nat := 1000

end QueryLinker
