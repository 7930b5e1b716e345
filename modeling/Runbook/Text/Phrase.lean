import Runbook.Text.Word

/-!
# Fixed phrases in any letter case

The engine's own words may be written in any case. Ignoring case, an `s` also stands for the long s
and a `k` for the Kelvin sign, which have these as their small letters.

* `sameLetter l c` : `c` stands for the small letter `l`;
* `dropPhrase? p s` : what follows the phrase `p` at the start of `s`;
* `findFrom` : whether some position of a text, with the character before it, satisfies a test.
-/

namespace Runbook.Text

/-- Whether `c` stands for the phrase character `l`; letters of a phrase are small. -/
def sameLetter (l c : Char) : Bool :=
  c == l || (l.isLower && c.isUpper && c.toLower == l) || (l == 's' && c == 'ſ')
    || (l == 'k' && c == '\u212a')

/-- What follows a phrase at the start of a text, if the text starts with it in some case. -/
def dropPhrase? : (phrase s : List Char) → Option (List Char)
  | [], s => some s
  | _ :: _, [] => none
  | l :: phrase, c :: s => if sameLetter l c then dropPhrase? phrase s else none

/-- Whether a text is a phrase in some case. -/
def isPhrase (phrase : String) (s : List Char) : Bool := dropPhrase? phrase.toList s == some []

/-- The first phrase of a list that starts a text: its last character as written in the text, and
what follows it. -/
def dropOneOf? (phrases : List String) (s : List Char) : Option (Option Char × List Char) :=
  phrases.findSome? fun p =>
    (dropPhrase? p.toList s).map fun rest => ((s.take p.length).getLast?, rest)

/-- Whether some position satisfies a test of the character before it and the text from it on. -/
def findFrom (test : Option Char → List Char → Bool) (before : Option Char) : List Char → Bool
  | [] => test before []
  | c :: s => test before (c :: s) || findFrom test (some c) s

/-- Whether one of the phrases starts at a word boundary somewhere in a text. -/
def hasWordStart (phrases : List String) (s : List Char) : Bool :=
  findFrom (fun before here =>
    atBoundary before here.head? && (dropOneOf? phrases here).isSome) none s

end Runbook.Text
