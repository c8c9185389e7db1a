import DocumentTemplates.Format
import DocumentTemplates.Value

/-!
# Result caches

A cache keeps built results under keys that name everything a result depends on. Reading and
writing may fail, and a failed call may still change the cache's state.
-/

namespace DocumentTemplates

/-- What identifies a result: the content of the object, the root it is wrapped under, the format
and the digest of the template with its filter. -/
structure CacheKey where
  space : Option String
  object : String
  root : Option String
  format : Format
  digest : String
  deriving DecidableEq

/-- The written form of a key: its parts between slashes. -/
def CacheKey.text (key : CacheKey) : String :=
  (match key.space with
    | some space => space ++ "/"
    | none => "")
    ++ key.object ++ "/" ++ key.root.getD "-" ++ "/" ++ key.format.name ++ "/" ++ key.digest

/-- A call on a cache with state `σ`. A failure comes with its reason. -/
abbrev CacheCall (σ α : Type) := ExceptT String (StateM σ) α

class ResultCache (σ : Type) where
  get : CacheKey → CacheCall σ (Option Value)
  /-- The values stored under several keys; keys without one are left out. -/
  getMany : List CacheKey → CacheCall σ (List (CacheKey × Value))
  /-- Stores a value, which expires after the given number of seconds. -/
  set : CacheKey → Value → Option Nat → CacheCall σ Unit

namespace ResultCache

def getEach {σ : Type} (get : CacheKey → CacheCall σ (Option Value)) :
    List CacheKey → CacheCall σ (List (CacheKey × Value))
  | [] => return []
  | key :: rest => do
    let found ← get key
    let others ← getEach get rest
    return match found with
      | some value => (key, value) :: others.filter (·.1 ≠ key)
      | none => others

end ResultCache

end DocumentTemplates
