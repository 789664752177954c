import CoursePlan.Text.Blank
import CoursePlan.Text.WordChar

/-!
# Keywords in any letter case

A keyword is spelled in lower case letters `a` to `z`.  It is found in a text whatever the case of
the text's letters, in the sense of Unicode's simple case folding: besides the capital letters, the
long s folds to `s` and the Kelvin sign to `k`, and no other character folds to an ASCII letter.
-/

namespace CoursePlan.Text

/-- The lower case ASCII letter that a character folds to; other characters stay. -/
def foldCase (c : Char) : Char :=
  if c = '\u017f' then 's' else if c = '\u212a' then 'k' else c.toLower

/-- What follows `word` at the start of a text, letter case aside. -/
def dropWord? : List Char → List Char → Option (List Char)
  | [], cs => some cs
  | _ :: _, [] => none
  | w :: ws, c :: cs => if foldCase c = w then dropWord? ws cs else none

/-- What follows the blanks at the start of a text, of which there is at least one. -/
def dropBlanks? : List Char → Option (List Char)
  | [] => none
  | c :: cs => if isBlank c then some (trimStart cs) else none

/-- The first success of `read` at a place of the text where a word can start: not right after a
word character.  `inWord` tells whether the text itself comes right after one. -/
def findAtWordStart {α : Type} (read : List Char → Option α) (inWord : Bool) :
    List Char → Option α
  | [] => none
  | c :: cs =>
    match if inWord then none else read (c :: cs) with
    | some a => some a
    | none => findAtWordStart read (isWordChar c) cs

end CoursePlan.Text
