import FunctionSearch.Duration

/-!
# Libraries

What is passed on from libraries as they say it: texts that stand in an answer and decide nothing,
and whether there is a client for requests at all.

* `Libraries`: what they say;
* `Libraries.silent`: libraries that say nothing of their own, taken where no others are at hand.
-/

namespace FunctionSearch

/-- What libraries say. -/
class Libraries where
  /-- The help on a command, or on the program. -/
  help (command : Option String) : String
  /-- What is said of a command line that asks for nothing. -/
  usage (words : List String) : String
  /-- What is wrong with a text that is no completion document. -/
  complaint (text : String) : Option String
  /-- Why there is no client for requests with this limit. -/
  clientFault (limit : Option Duration) : Option String

/-- Libraries that say nothing of their own, and have a client. -/
instance (priority := low) Libraries.silent : Libraries where
  help _ := ""
  usage _ := ""
  complaint _ := none
  clientFault _ := none

end FunctionSearch
