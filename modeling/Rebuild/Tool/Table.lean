import Rebuild.Tool.Changing
import Rebuild.Tool.Columns
import Rebuild.Tool.Comparing
import Rebuild.Tool.Copying
import Rebuild.Tool.Counting
import Rebuild.Tool.Cutting
import Rebuild.Tool.Date
import Rebuild.Tool.Differing
import Rebuild.Tool.Directories
import Rebuild.Tool.Expr
import Rebuild.Tool.Extent
import Rebuild.Tool.Files
import Rebuild.Tool.Find
import Rebuild.Tool.Identity
import Rebuild.Tool.Installing
import Rebuild.Tool.Lines
import Rebuild.Tool.Linking
import Rebuild.Tool.Listing
import Rebuild.Tool.Moving
import Rebuild.Tool.Numbering
import Rebuild.Tool.Pairing
import Rebuild.Tool.Pasting
import Rebuild.Tool.Paths
import Rebuild.Tool.Permitting
import Rebuild.Tool.Printing
import Rebuild.Tool.Progression
import Rebuild.Tool.Removing
import Rebuild.Tool.Repeating
import Rebuild.Tool.Searching
import Rebuild.Tool.Sed
import Rebuild.Tool.Sorting
import Rebuild.Tool.Splitting
import Rebuild.Tool.Starting
import Rebuild.Tool.Stat
import Rebuild.Tool.Test
import Rebuild.Tool.Xargs

/-!
# All programs

The programs of the system by their names, apart from the shell.
-/

namespace Rebuild.Tool

/-- The programs by name. How other programs are started is a parameter. -/
def tools (launch : Launcher) : List (String × Tool) :=
  [("[", bracketTest), ("arch", arch), ("basename", basename), ("cat", cat), ("chmod", chmod), ("cmp", cmp),
   ("comm", comm), ("cp", cp), ("cut", cut), ("date", date), ("diff", diff), ("dirname", dirname), ("echo", echo),
   ("egrep", grepWith (some .extended)), ("env", env launch), ("expand", expand), ("expr", expr),
   ("false", fun _ _ => pure 1), ("fgrep", grepWith (some .fixed)), ("find", find launch), ("fold", fold),
   ("grep", grepWith none),
   ("groups", userGroups), ("head", head), ("id", identity), ("install", install), ("join", join), ("link", link),
   ("ln", ln), ("logname", logname), ("ls", ls), ("mkdir", mkdir), ("mktemp", mktemp), ("mv", mv),
   ("nice", nice launch), ("nl", nl), ("nohup", nohup launch), ("paste", paste), ("printenv", printenv),
   ("printf", printf), ("pwd", pwd), ("readlink", readlink), ("realpath", realpath), ("rev", rev), ("rm", rm),
   ("rmdir", rmdir), ("sed", sed), ("seq", seq), ("sleep", sleep), ("sort", sort), ("split", split launch),
   ("stat", stat),
   ("sync", sync), ("tac", tac), ("tail", tail), ("tee", tee), ("test", test), ("timeout", timeout launch),
   ("touch", touch), ("tr", tr), ("true", fun _ _ => pure 0), ("truncate", truncate), ("tty", tty), ("uname", uname),
   ("unexpand", unexpand), ("uniq", uniq), ("unlink", unlink), ("wc", wc), ("which", which), ("whoami", whoami),
   ("xargs", xargs launch),
   ("yes", yes)]

end Rebuild.Tool
