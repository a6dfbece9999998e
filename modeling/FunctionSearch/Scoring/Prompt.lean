import FunctionSearch.Text.Blank

/-!
# Prompts

The one message that a model gets for a function: the description, the scale of scores, the form of
the answer, and at the end the code without the white space around it.
-/

namespace FunctionSearch.Scoring

/-- What a prompt says before the description. -/
def promptStart : String :=
  "You have been asked to review C decompiled code from Ghidra and identify the following '"

/-- What a prompt says between the description and the code. -/
def promptMiddle : String :=
  "'. Return a score between 0 and 10, where 0 means there is no indication, 1 to 2 means there is " ++
    "something related, 3 to 4 means there is a degree of evidence, 5 to 6 means that there is more " ++
    "evidence, and 7 to 10 means there is significant evidence. You should be certain that the code " ++
    "meets these scores. Format your response as a single number score, followed by a new line, " ++
    "followed by your explanation. \n Code: \n "

/-- The message that asks how well code fits a description. -/
def prompt (description code : String) : String :=
  String.ofList (promptStart.toList ++ description.toList ++ promptMiddle.toList ++
    Text.trim code.toList)

end FunctionSearch.Scoring
