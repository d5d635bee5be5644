import ResilientHttp.Network.Limiter
import ResilientHttp.Site.Script

/-!
The state of everything that requests can be sent to: the scripts by name, and the gates of the
built-in executor. `Site.script` and `Site.gates` are its parts.
-/

namespace ResilientHttp

/-- The answer of a site that was told nothing. -/
def Step.unprepared : Step where
  cancels := none
  delay := .zero
  result := .ok { status := ⟨500⟩, headers := .empty, chunks := [], tellsUrl := true }

/-- A script that was told nothing. -/
def Script.unprepared : Script := ⟨[], .unprepared⟩

/-- Scripts by name, and gates. -/
structure Site where
  scripts : List (String × Script)
  limiter : Limiter

namespace Site

/-- A list of scripts with one replaced. -/
def replace (name : String) (script : Script) : List (String × Script) → List (String × Script)
  | [] => [(name, script)]
  | (other, old) :: later =>
    if name = other then (name, script) :: later else (other, old) :: replace name script later

/-- The script of a name. -/
def script (name : String) : Part Site Script where
  get site := (Json.lookupField? name site.scripts).getD .unprepared
  set script site := { site with scripts := replace name script site.scripts }

/-- The gates. -/
def gates : Part Site Limiter where
  get := Site.limiter
  set limiter site := { site with limiter }

/-- A world at the start of an exact clock with nothing in it but a site. -/
def world (site : Site) : World Site where
  now := 0
  longestTimer := none
  tokens := .empty
  defaults := .empty
  site

/-- A site without scripts and gates. -/
def bare : Site := ⟨[], .ofLimit 0⟩

end Site
end ResilientHttp
