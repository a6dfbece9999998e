/-!
# Blank characters

White space as Unicode has it, and the three operations that ask for it:

* `isBlank`: the property itself;
* `trim`: a text less the blank characters at its two ends;
* `words`: the maximal runs of characters that are not blank.

`splitWhere` is the splitting that `words` and the lines of a text share.
-/

namespace FunctionSearch.Text

/-- The characters with the Unicode property `White_Space`. -/
def isBlank (c : Char) : Bool :=
  let n := c.toNat
  (0x09 ≤ n && n ≤ 0x0D) || n == 0x20 || n == 0x85 || n == 0xA0 || n == 0x1680 ||
    (0x2000 ≤ n && n ≤ 0x200A) || n == 0x2028 || n == 0x2029 || n == 0x202F || n == 0x205F ||
    n == 0x3000

/-- A text less the blank characters it starts with. -/
def trimStart (s : List Char) : List Char :=
  s.dropWhile isBlank

/-- A text less the blank characters it ends with. -/
def trimEnd (s : List Char) : List Char :=
  (s.reverse.dropWhile isBlank).reverse

/-- A text less the blank characters at its two ends. -/
def trim (s : List Char) : List Char :=
  trimEnd (trimStart s)

/-- Put one more element in front of the first piece of a splitting. -/
def extendFirst {α : Type} (a : α) : List (List α) → List (List α)
  | [] => [[a]]
  | piece :: pieces => (a :: piece) :: pieces

/-- The pieces between the elements that satisfy `p`, which are dropped: one piece more than
there are such elements, empty pieces included. -/
def splitWhere {α : Type} (p : α → Bool) (s : List α) : List (List α) :=
  s.foldr (fun a pieces => if p a then [] :: pieces else extendFirst a pieces) [[]]

@[simp] theorem splitWhere_nil {α : Type} (p : α → Bool) : splitWhere p [] = [[]] := rfl

@[simp] theorem splitWhere_cons {α : Type} (p : α → Bool) (a : α) (s : List α) :
    splitWhere p (a :: s) =
      if p a then [] :: splitWhere p s else extendFirst a (splitWhere p s) := rfl

/-- The maximal runs of characters that are not blank. -/
def words (s : List Char) : List (List Char) :=
  (splitWhere isBlank s).filter (!·.isEmpty)

/-- Whether a text has a character that is not blank. -/
def hasContent (s : List Char) : Bool :=
  s.any (!isBlank ·)

end FunctionSearch.Text
