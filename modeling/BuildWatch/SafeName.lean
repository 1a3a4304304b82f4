/-!
Names that are safe to use as file names: runs of ASCII letters and digits, joined by single
dashes, dots or underscores. A script source is a safe name that ends in `.js` and does not end in
`.test.js`.
-/

namespace BuildWatch.SafeName

def isWord (char : Char) : Bool :=
  char.isAlphanum

def isSeparator (char : Char) : Bool :=
  char = '-' || char = '.' || char = '_'

/-- Runs of word characters joined by single separators; `opening` says that a run has to start
here. -/
def isJoined : Bool → List Char → Bool
  | opening, [] => !opening
  | opening, char :: rest =>
    if isWord char then isJoined false rest
    else isSeparator char && !opening && isJoined true rest

def isSafe (text : String) : Bool :=
  isJoined true text.toList

def scriptEnding : List Char := ['.', 'j', 's']
def testEnding : List Char := ['.', 't', 'e', 's', 't', '.', 'j', 's']

def stem? (chars : List Char) : Option (List Char) :=
  if scriptEnding.isSuffixOf chars then some (chars.take (chars.length - scriptEnding.length))
  else none

def isSource (text : String) : Bool :=
  match stem? text.toList with
  | some stem => isJoined true stem && !testEnding.isSuffixOf text.toList
  | none => false

end BuildWatch.SafeName
