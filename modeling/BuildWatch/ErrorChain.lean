/-!
The text of an error together with its causes.
-/

namespace BuildWatch

def standsIn (needle : List Char) : List Char → Bool
  | [] => needle.isEmpty
  | char :: rest => needle.isPrefixOf (char :: rest) || standsIn needle rest

def occursIn (needle text : String) : Bool :=
  standsIn needle.toList text.toList

/-- A message and the causes behind it, the nearest first; a cause whose text is already there is
not repeated. -/
def errorChain (message : String) (causes : List String) : String :=
  causes.foldl
    (fun text cause => if occursIn cause text then text else text ++ ": " ++ cause) message

end BuildWatch
