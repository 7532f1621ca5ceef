import Homescreen.Config.Basic

/-!
# Page controls

The two buttons the bootstrap wires: a refresh button and an install button, in one container,
each with a configured id. The markup is fixed but for the ids, which stand in it exactly as
given: no character of an id is escaped.
-/

namespace Homescreen

/-- The markup of the controls with the given button ids. -/
def controlsMarkup (refreshId installId : String) : String :=
  "<div class=\"pwa-controls\"><button id=\"" ++ refreshId ++
    "\" type=\"button\" class=\"pwa-refresh\">🔄 Refresh</button><button id=\"" ++ installId ++
    "\" type=\"button\" class=\"pwa-install\">📲 Install app</button></div>"

/-- The controls of the default configuration's button ids, when an id is not given. -/
def controlsMarkupOr (refreshId installId : Option String) : String :=
  controlsMarkup (refreshId.getD Config.default.refreshButtonId)
    (installId.getD Config.default.installButtonId)

/-- The page shell: the controls with a configuration's button ids. -/
def Config.shellMarkup (c : Config) : String :=
  controlsMarkup c.refreshButtonId c.installButtonId

end Homescreen
