import MiniGrc.ForStd.PathPatterns
import MiniGrc.App.MutatingRoutes

/-!
# From a path to a route

What the router does with the method and the path of a request: it asks the routes in the order
in which `create_app` includes them, and the first whose method and pattern match answers. The
`GET` routes only decide between 404 and 405 for the requests here, and are left out.
-/

namespace MiniGrc.Routes

open PathPatterns (bindings parts pattern)

variable {τ : Type}

/-- The parameters of a path that the route matches. -/
def Route.match? (route : Route τ) (method : Method) (path : String) :
    Option (List (String × String)) :=
  if route.method = method then bindings (pattern route.path) (parts path) else none

/-- The route that answers, with the parameters of the path. -/
def dispatch (routes : List (Route τ)) (method : Method) (path : String) :
    Option (Route τ × List (String × String)) :=
  routes.findSome? fun route => (route.match? method path).map (route, ·)

end MiniGrc.Routes
