import Workbench.Tool.PullRequest
import Workbench.Tool.Search
import Workbench.Tool.Variables
import Workbench.Tool.Web
namespace Workbench

/-!
The standard catalog: every tool of this library, in the order of its
documentation.
-/

namespace Standard

def tools (settings : Settings) : List (Tool Action) :=
  Viewer.tools settings.window ++ Search.tools settings.search ++ Variables.tools ++
    Web.tools settings.web ++ PullRequest.tools settings.pullRequest

/-- The standard catalog, or the first defect in it. -/
def catalog (settings : Settings) : Except Failure (Catalog Action) :=
  Catalog.empty.registerAll (tools settings)

end Standard

end Workbench
