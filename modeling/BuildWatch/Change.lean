/-!
What a change in the project affects. Changes carry nothing but their kind; whoever receives one
reads again what it needs.
-/

namespace BuildWatch

/-- Kinds of changes, in the order in which they are passed on. -/
inductive Change where
  | config
  | source
  | music
  deriving DecidableEq, Repr

namespace Change

def label : Change → String
  | config => "config"
  | source => "source"
  | music => "music"

def all : List Change := [config, source, music]

def ofLabel? (label : String) : Option Change :=
  all.find? fun change => change.label = label

def rank : Change → Nat
  | config => 0
  | source => 1
  | music => 2

def sorted (changes : List Change) : List Change :=
  changes.mergeSort fun left right => left.rank ≤ right.rank

end Change

end BuildWatch
