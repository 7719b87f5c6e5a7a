import CloudCanvas.Reading.Basic

/-!
Labels: the names under which a caller has a payload built. A value that counts as absent leaves
the default; any other value has to be a text.
-/

namespace CloudCanvas.Payload

def readLabel (key : String) (v : Json) : Reading (Option String) :=
  if v.truthy then ((Reading.text v).under (.key key)).map some else .ok none

structure Labels where
  project : Option String
  env : Option String
deriving DecidableEq

def readLabels (project env : Json) : Reading Labels :=
  .andThen (.map Labels.mk (readLabel "project" project)) (readLabel "env" env)

end CloudCanvas.Payload
